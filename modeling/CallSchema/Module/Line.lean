import CallSchema.Module.Reader
import CallSchema.Text.Lines
import CallSchema.Text.Trim

/-!
Lines of a program's text, as its statements see them: joined inside brackets and long texts, and
without comments.
-/

namespace CallSchema

/-- Why a text is not a program. -/
inductive SyntaxFault
  | invalid
  | unexpectedIndent
  /-- A definition, on the line given, without statements below it. -/
  | missingBlock (definition : Nat)
  | neverClosed (bracket : Char)
  | neverOpened (bracket : Char)
  | mismatched (closing opening : Char) (openedBefore : Option Nat)
  /-- A text that is still open at the end of the line given. -/
  | openText (last : Nat)
  | openLongText (last : Nat)
  | character (c : Char)
  deriving Repr, Inhabited

namespace SyntaxFault

def message : SyntaxFault → String
  | invalid => "invalid syntax"
  | unexpectedIndent => "unexpected indent"
  | missingBlock n => "expected an indented block after function definition on line " ++ toString n
  | neverClosed c => "'" ++ String.singleton c ++ "' was never closed"
  | neverOpened c => "unmatched '" ++ String.singleton c ++ "'"
  | mismatched c d before =>
    "closing parenthesis '" ++ String.singleton c ++ "' does not match opening parenthesis '"
      ++ String.singleton d ++ "'"
      ++ (match before with
        | some n => " on line " ++ toString n
        | none => "")
  | openText last =>
    "unterminated string literal (detected at line " ++ toString last ++ ")"
  | openLongText last =>
    "unterminated triple-quoted string literal (detected at line " ++ toString last ++ ")"
  | character c =>
    let code := "U+" ++ String.ofList ((Text.hex 4 c.toNat).map Char.toUpper)
    if Text.isPrintable c then
      "invalid character '" ++ String.singleton c ++ "' (" ++ code ++ ")"
    else "invalid non-printable character " ++ code

/-- The class of the exception. -/
def kind : SyntaxFault → String
  | unexpectedIndent | missingBlock _ => "IndentationError"
  | _ => "SyntaxError"

end SyntaxFault

/-- A fault on a line of a program. -/
structure LineFault where
  fault : SyntaxFault
  line : Nat
  deriving Repr, Inhabited

def LineFault.error (e : LineFault) : SyntaxError :=
  { kind := e.fault.kind, message := e.fault.message, line := e.line }

/-- A line with the number of the line on which it starts. -/
structure ProgramLine where
  number : Nat
  text : List Char
  deriving Repr, Inhabited

namespace ProgramLine

/-- The columns before the first character that is no blank. -/
def indent (l : ProgramLine) : Nat :=
  (l.text.takeWhile fun c => c = ' ' || c = '\t').foldl
    (fun n c => if c = '\t' then n + (8 - n % 8) else n + 1) 0

/-- Where in a line reading stands. -/
inductive Inside
  | code
  | comment
  | text (mark : Char)
  /-- A text over several lines, which starts on the line given. -/
  | longText (mark : Char) (start : Nat)
  deriving DecidableEq, Repr, Inhabited

/-- What has been read. -/
structure Reader where
  /-- The number of the line that is being read. -/
  number : Nat := 1
  /-- The number of the line on which the text so far starts. -/
  start : Nat := 1
  /-- The text so far, the last character first. -/
  text : List Char := []
  /-- The open brackets with their lines, the innermost first. -/
  brackets : List (Char × Nat) := []
  deriving Repr, Inhabited

namespace Reader

def put (r : Reader) (c : Char) : Reader :=
  { r with text := c :: r.text, number := if c = '\n' then r.number + 1 else r.number }

/-- The number of the last line of which something has been read. -/
def last (r : Reader) : Nat := if r.text.head? = some '\n' then r.number - 1 else r.number

/-- The line read so far, unless it is blank. -/
def line (r : Reader) : List ProgramLine :=
  let text := r.text.reverse
  if text.all Text.isBlank then [] else [⟨r.start, text⟩]

/-- Reading goes on with the next line. -/
def next (r : Reader) : Reader := { number := r.number + 1, start := r.number + 1 }

def partner : Char → Char
  | ')' => '('
  | ']' => '['
  | _ => '\x7b'

/-- Takes an opening or closing bracket, or any other character. -/
def bracket (r : Reader) (c : Char) : Except SyntaxFault Reader :=
  if "([\x7b".toList.contains c then .ok { r.put c with brackets := (c, r.number) :: r.brackets }
  else if ")]\x7d".toList.contains c then
    match r.brackets with
    | [] => .error (.neverOpened c)
    | (d, n) :: rest =>
      if partner c = d then .ok { r.put c with brackets := rest }
      else .error (.mismatched c d (if n = r.number then none else some n))
  else .ok (r.put c)

end Reader

/-- Whether a character can stand outside of texts and comments. -/
def isCode (c : Char) : Bool := c.toNat < 128 || Text.isWord c

/-- The lines of a text, up to the first fault. A bracket that is never closed counts as a fault at
the end; `fuel` bounds the number of characters. -/
def readFrom : (fuel : Nat) → Reader → Inside → List Char →
    List ProgramLine × Option LineFault
  | 0, _, _, _ => ([], none)
  | _, r, inside, [] =>
    match inside, r.brackets with
    | .text _, _ => (r.line, some ⟨.openText r.last, r.last⟩)
    | .longText _ start, _ => (r.line, some ⟨.openLongText r.last, start⟩)
    | _, (c, n) :: _ => (r.line, some ⟨.neverClosed c, n⟩)
    | _, [] => (r.line, none)
  | fuel + 1, r, inside, c :: cs =>
    match inside with
    | .code | .comment =>
      if c = '\n' then
        if r.brackets.isEmpty then
          let (lines, e) := readFrom fuel r.next .code cs
          (r.line ++ lines, e)
        else readFrom fuel (r.put c) .code cs
      else if inside = .comment then readFrom fuel r .comment cs
      else if c = '#' then readFrom fuel r .comment cs
      else if c = '\\' && cs.head? = some '\n' then
        readFrom fuel { r.put ' ' with number := r.number + 1 } .code cs.tail
      else if c = '\'' || c = '"' then
        if cs.take 2 = [c, c] then
          readFrom fuel (((r.put c).put c).put c) (.longText c r.number) (cs.drop 2)
        else readFrom fuel (r.put c) (.text c) cs
      else if !isCode c then ([], some ⟨.character c, r.number⟩)
      else match r.bracket c with
        | .ok r => readFrom fuel r .code cs
        | .error fault => ([], some ⟨fault, r.number⟩)
    | .text mark =>
      if c = '\\' then
        match cs with
        | d :: cs => readFrom fuel ((r.put c).put d) inside cs
        | [] => readFrom fuel (r.put c) inside []
      else if c = '\n' then ([], some ⟨.openText r.number, r.number⟩)
      else readFrom fuel (r.put c) (if c = mark then .code else inside) cs
    | .longText mark _ =>
      if c = '\\' then
        match cs with
        | d :: cs => readFrom fuel ((r.put c).put d) inside cs
        | [] => readFrom fuel (r.put c) inside []
      else if c = mark && cs.take 2 = [c, c] then
        readFrom fuel (((r.put c).put c).put c) .code (cs.drop 2)
      else readFrom fuel (r.put c) inside cs

def read (cs : List Char) : List ProgramLine × Option LineFault :=
  readFrom (cs.length + 1) {} .code cs

end ProgramLine

end CallSchema
