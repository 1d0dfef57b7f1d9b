import CallSchema.Hint.Expression
import CallSchema.Text.Lines
import CallSchema.Text.Trim

/-!
The words, constants and marks of expressions in text.
-/

namespace CallSchema.HintExpr

open Text

inductive Token
  | word (w : String)
  | constant (v : Value)
  | mark (c : Char)
  | dots
  deriving Repr, Inhabited

/-- Words that are not names. -/
def reserved : List String :=
  ["and", "as", "assert", "async", "await", "break", "class", "continue", "def", "del", "elif",
    "else", "except", "finally", "for", "from", "global", "if", "import", "in", "is", "lambda",
    "nonlocal", "not", "or", "pass", "raise", "return", "try", "while", "with", "yield"]

/-- Words that are constants or not names. -/
def isKeyword (w : String) : Bool :=
  reserved.contains w || w = "None" || w = "True" || w = "False"

def hexDigit? (c : Char) : Option Nat :=
  if c.isDigit then some (c.toNat - '0'.toNat)
  else if 'a' ≤ c && c ≤ 'f' then some (c.toNat - 'a'.toNat + 10)
  else if 'A' ≤ c && c ≤ 'F' then some (c.toNat - 'A'.toNat + 10)
  else none

/-- The character with a number of so many hexadecimal digits, and what follows it. -/
def takeHex : (count value : Nat) → List Char → Option (Char × List Char)
  | 0, value, cs => some (Char.ofNat value, cs)
  | count + 1, value, c :: cs => do
    let d ← hexDigit? c
    takeHex count (16 * value + d) cs
  | _, _, [] => none

/-- Up to `count` more octal digits. -/
def takeOctal : (count value : Nat) → List Char → Char × List Char
  | count + 1, value, c :: cs =>
    if '0' ≤ c && c ≤ '7' then takeOctal count (8 * value + (c.toNat - '0'.toNat)) cs
    else (Char.ofNat value, c :: cs)
  | _, value, cs => (Char.ofNat value, cs)

/-- What stands for one character after a backslash. -/
def simpleEscapes : List (Char × Char) :=
  [('\\', '\\'), ('\'', '\''), ('"', '"'), ('n', '\n'), ('t', '\t'), ('r', '\r'),
    ('a', Char.ofNat 7), ('b', Char.ofNat 8), ('v', Char.ofNat 11), ('f', Char.ofNat 12)]

/-- What stands after a backslash, and what follows it. -/
def unescape (isBytes : Bool) : List Char → Option (List Char × List Char)
  | [] => none
  | '\n' :: cs => some ([], cs)
  | 'x' :: cs => (takeHex 2 0 cs).map fun (c, cs) => ([c], cs)
  | c :: cs =>
    if c = 'u' && !isBytes then (takeHex 4 0 cs).map fun (c, cs) => ([c], cs)
    else if c = 'U' && !isBytes then (takeHex 8 0 cs).map fun (c, cs) => ([c], cs)
    else if '0' ≤ c && c ≤ '7' then
      let (c, cs) := takeOctal 2 (c.toNat - '0'.toNat) cs
      some ([c], cs)
    else match simpleEscapes.lookup c with
      | some d => some ([d], cs)
      | none => some (['\\', c], cs)

/-- How a quoted text is written. -/
structure Quote where
  mark : Char
  /-- Whether three marks stand at each end, and lines may end inside. -/
  isLong : Bool
  isRaw : Bool
  isBytes : Bool

/-- The marks at each end. -/
def Quote.marks (q : Quote) : List Char := List.replicate (if q.isLong then 3 else 1) q.mark

/-- The text up to the closing marks, and what follows them; `fuel` bounds its length. -/
def takeQuoted (q : Quote) : (fuel : Nat) → List Char → Option (List Char × List Char)
  | 0, _ => none
  | _, [] => none
  | fuel + 1, c :: cs =>
    match dropStart? q.marks (c :: cs) with
    | some rest => some ([], rest)
    | none =>
      if c = '\\' then
        if q.isRaw then
          match cs with
          | d :: cs => (takeQuoted q fuel cs).map fun (s, rest) => ('\\' :: d :: s, rest)
          | [] => none
        else do
          let (shown, cs) ← unescape q.isBytes cs
          let (s, rest) ← takeQuoted q fuel cs
          some (shown ++ s, rest)
      else if c = '\n' && !q.isLong then none
      else if q.isBytes && 128 ≤ c.toNat then none
      else (takeQuoted q fuel cs).map fun (s, rest) => (c :: s, rest)

/-- The quote that a text starts with, and what follows its opening marks. -/
def quote? (cs : List Char) : Option (Quote × List Char) :=
  let letters := (cs.takeWhile Char.isAlpha).map Char.toLower
  let isPlain := ["", "r", "u", "b", "br", "rb"].contains (String.ofList letters)
  match isPlain, cs.drop letters.length with
  | true, c :: rest =>
    if c = '\'' || c = '"' then
      let q (isLong : Bool) : Quote := ⟨c, isLong, letters.contains 'r', letters.contains 'b'⟩
      match dropStart? [c, c] rest with
      | some rest => some (q true, rest)
      | none => some (q false, rest)
    else none
  | _, _ => none

/-- The constant that a quote stands for. -/
def quotedToken (q : Quote) (s : List Char) : Token :=
  if q.isBytes then .constant (.bytes (s.map fun c => c.toNat.toUInt8))
  else .constant (.text (String.ofList s))

/-- Whether a whole number is written with zeros before its digits. -/
def hasLeadingZero : List Char → Bool
  | '0' :: cs => cs.all Char.isDigit && cs.any (· != '0')
  | _ => false

def startsWord (c : Char) : Bool := isWord c && !isDigit c

def marks : List Char := "|[](),.+-*/%:&^@\x7b\x7d".toList

def isSpace (c : Char) : Bool := c = ' ' || c = '\t' || c.toNat = 12

def dropComment (cs : List Char) : List Char := cs.dropWhile (· != '\n')

/-- Whether only blank lines and comments are left. -/
def isLineRest : (fuel : Nat) → List Char → Bool
  | 0, _ => false
  | _, [] => true
  | fuel + 1, c :: cs =>
    if isSpace c || c = '\n' then isLineRest fuel cs
    else c = '#' && isLineRest fuel (dropComment cs)

/-- The words, constants and marks of a text; `fuel` bounds their number. Lines may end inside
brackets, of which `depth` are open. -/
def tokensWithin : (fuel depth : Nat) → List Char → Option (List Token)
  | 0, _, _ => none
  | _, _, [] => some []
  | fuel + 1, depth, c :: cs =>
    if isSpace c then tokensWithin fuel depth cs
    else if c = '#' then tokensWithin fuel depth (dropComment cs)
    else if c = '\n' then
      if depth = 0 then if isLineRest (cs.length + 1) cs then some [] else none
      else tokensWithin fuel depth cs
    else if c = '\\' then
      match cs with
      | '\n' :: cs => tokensWithin fuel depth cs
      | _ => none
    else if let some (q, rest) := quote? (c :: cs) then do
      let (s, rest) ← takeQuoted q (rest.length + 1) rest
      some (quotedToken q s :: (← tokensWithin fuel depth rest))
    else if c.isDigit || (c = '.' && (cs.head?.map Char.isDigit).getD false) then
      let inNumber (d : Char) := d.isAlphanum || d = '.' || d = '_'
      let digits := (c :: cs).takeWhile inNumber
      match Number.parse? digits with
      | .ok (some n) => do
        if hasLeadingZero digits then none
        some (.constant (.number n) :: (← tokensWithin fuel depth ((c :: cs).dropWhile inNumber)))
      | _ => none
    else if startsWord c then do
      let w := String.ofList ((c :: cs).takeWhile isWord)
      if reserved.contains w then none
      else some (.word w :: (← tokensWithin fuel depth ((c :: cs).dropWhile isWord)))
    else if c = '.' && startsWith ['.', '.'] cs then do
      some (.dots :: (← tokensWithin fuel depth (cs.drop 2)))
    else if marks.contains c then do
      let depth := if "[(\x7b".toList.contains c then depth + 1
        else if "])\x7d".toList.contains c then depth - 1 else depth
      some (.mark c :: (← tokensWithin fuel depth cs))
    else none

/-- Leaves out the blank lines at the start. The first line with something on it must not be
indented. -/
def startLine? : (fuel : Nat) → List Char → Option (List Char)
  | 0, _ => none
  | fuel + 1, cs =>
    let rest := cs.dropWhile isSpace
    match if rest.head? = some '#' then dropComment rest else rest with
    | '\n' :: cs => startLine? fuel cs
    | rest => if (cs.takeWhile isSpace).any (·.toNat != 12) then none else some rest

/-- The words, constants and marks of a text. -/
def tokens? (source : String) : Option (List Token) := do
  let cs := unifyNewlines source.toList
  tokensWithin (cs.length + 1) 0 (← startLine? (cs.length + 1) cs)

end CallSchema.HintExpr
