import CallSchema.Text.Lines
import CallSchema.Text.Trim

/-!
The name of the function that follows a comment. Lines are tried one after another; on a line the
shapes of declarations are tried in order, each at its leftmost place.
-/

namespace CallSchema.Jsdoc

open Text

/-- What may follow the equals sign of a binding whose value is a function. -/
inductive ArrowForm
  | asyncBraces
  | asyncList
  | asyncSingle
  | braces
  | list
  | single
  /-- Parameters that go on in the next line. -/
  | unfinished
  deriving DecidableEq, Repr

/-- How a function can be declared. -/
inductive Shape
  /-- A variable bound to an arrow function. -/
  | binding (form : ArrowForm)
  /-- The word `function`, with the given words before it. -/
  | named (words : List String)
  deriving DecidableEq, Repr

/-- The shapes, the first to be tried first. -/
def shapes : List Shape :=
  [.binding .asyncBraces, .binding .asyncList, .binding .asyncSingle, .binding .braces,
    .binding .list, .binding .single, .binding .unfinished,
    .named ["export", "default", "async"], .named ["export", "default"],
    .named ["export", "async"], .named ["export"], .named ["async"], .named []]

def isIdentStart (c : Char) : Bool := c.isAlpha || c == '_' || c == '$'

def isIdentChar (c : Char) : Bool := isWord c || c == '$'

/-- An identifier and what follows it. -/
def takeIdent? : List Char → Option (List Char × List Char)
  | c :: cs =>
    if isIdentStart c then some (c :: cs.takeWhile isIdentChar, cs.dropWhile isIdentChar) else none
  | [] => none

/-- A word with at least one blank after it. -/
def dropWord? (word : String) (cs : List Char) : Option (List Char) :=
  match dropStart? word.toList cs with
  | some (c :: rest) => if isBlank c then some (trimLeft rest) else none
  | _ => none

def dropChar? (c : Char) : List Char → Option (List Char)
  | d :: cs => if d = c then some cs else none
  | [] => none

/-- The arrow after a parameter list, with blanks before it. -/
def isArrow (cs : List Char) : Bool := startsWith ['=', '>'] (trimLeft cs)

/-- Parameters in braces inside parentheses, and an arrow. -/
def isBraces (cs : List Char) : Bool :=
  (do
    let inner ← dropChar? '(' cs
    let inner ← dropChar? '\x7b' (trimLeft inner)
    let (_, rest) ← cutAt? ['\x7d'] inner
    let rest ← dropChar? ')' (trimLeft rest)
    some (isArrow rest)).getD false

/-- Parameters in parentheses, and an arrow. -/
def isList (cs : List Char) : Bool :=
  (do
    let inner ← dropChar? '(' cs
    let (_, rest) ← cutAt? [')'] inner
    some (isArrow rest)).getD false

/-- One bare parameter, and an arrow. -/
def isSingle (cs : List Char) : Bool :=
  match takeIdent? cs with
  | some (_, rest) => isArrow rest
  | none => false

/-- An opening parenthesis, and perhaps an opening brace whose fields go on to the end. -/
def isUnfinished (cs : List Char) : Bool :=
  match dropChar? '(' cs with
  | none => false
  | some inner =>
    match trimLeft inner with
    | [] => true
    | '\x7b' :: fields => !fields.contains '\x7d'
    | _ => false

def ArrowForm.accepts (cs : List Char) : ArrowForm → Bool
  | asyncBraces => ((dropStart? "async".toList cs).map (isBraces <| trimLeft ·)).getD false
  | asyncList => ((dropStart? "async".toList cs).map (isList <| trimLeft ·)).getD false
  | asyncSingle => ((dropWord? "async" cs).map isSingle).getD false
  | braces => isBraces cs
  | list => isList cs
  | single => isSingle cs
  | unfinished =>
    match dropStart? "async".toList cs with
    | some rest => isUnfinished (trimLeft rest)
    | none => isUnfinished cs

/-- A binding at the front of a text: its name and what follows the name. -/
def takeBinding? (form : ArrowForm) (cs : List Char) : Option (List Char × List Char) := do
  let cs := (dropWord? "export" cs).getD cs
  let afterWord ← (dropWord? "const" cs).or ((dropWord? "let" cs).or (dropWord? "var" cs))
  let (name, rest) ← takeIdent? afterWord
  let value ← dropChar? '=' (trimLeft rest)
  if form.accepts (trimLeft value) then some (name, rest) else none

/-- A named function at the front of a text: its name and what follows the name. -/
def takeNamed? : List String → List Char → Option (List Char × List Char)
  | [], cs => do
    let cs ← dropStart? "function".toList cs
    let cs := trimLeft cs
    let cs := (dropChar? '*' cs).getD cs
    let (name, rest) ← takeIdent? (trimLeft cs)
    let _ ← dropChar? '(' (trimLeft rest)
    some (name, rest)
  | word :: words, cs => do takeNamed? words (← dropWord? word cs)

def Shape.take? (cs : List Char) : Shape → Option (List Char × List Char)
  | binding form => takeBinding? form cs
  | named words => takeNamed? words cs

/-- The leftmost place in a line where a shape stands and no word runs into it: the name and what
follows it. `wordBefore` tells whether a word ends where the text begins. -/
def Shape.search? (shape : Shape) (wordBefore : Bool) : List Char → Option (List Char × List Char)
  | [] => none
  | c :: cs =>
    match if wordBefore then none else shape.take? (c :: cs) with
    | some found => some found
    | none => shape.search? (isWord c) cs

/-- The name of the first shape that stands in a line. -/
def nameInLine? (line : List Char) : Option (List Char) :=
  shapes.findSome? fun shape => (shape.search? false line).map (·.1)

/-- Blank lines and line comments are passed over; a new documentation comment ends the search. -/
def nameInLines? : List (List Char) → Option (List Char)
  | [] => none
  | line :: rest =>
    let shown := trim line
    if shown.isEmpty || startsWith ['/', '/'] shown then nameInLines? rest
    else if startsWith ['/', '*', '*'] shown then none
    else match nameInLine? line with
      | some name => some name
      | none => nameInLines? rest

/-- The name of the first function declared in a text. -/
def functionName? (cs : List Char) : Option String :=
  (nameInLines? (lines cs)).map String.ofList

end CallSchema.Jsdoc
