import CallSchema.Docstring

/-!
Underlined sections: a title with as many dashes below it as it has letters, and items whose first
lines are not indented.
-/

namespace CallSchema.Docstring.Numpy

open Text

inductive SectionKind
  | params
  /-- Items with a line of their own each. -/
  | keyed
  /-- One item, whatever the text is. -/
  | one
  /-- An item for each group of examples. -/
  | examples
  deriving DecidableEq, Repr

def sections : List (String × SectionKind) :=
  [("Parameters", .params), ("Params", .params), ("Arguments", .params), ("Args", .params),
    ("Other Parameters", .params), ("Other Params", .params), ("Other Arguments", .params),
    ("Other Args", .params), ("Receives", .params), ("Receive", .params), ("Raises", .keyed),
    ("Raise", .keyed), ("Warns", .keyed), ("Warn", .keyed), ("Attributes", .params),
    ("Attribute", .params), ("Returns", .keyed), ("Return", .keyed), ("Yields", .keyed),
    ("Yield", .keyed), ("Examples", .examples), ("Example", .examples), ("Warnings", .one),
    ("Warning", .one), ("See Also", .one), ("Related", .one), ("Notes", .one), ("Note", .one),
    ("References", .one), ("Reference", .one)]

/-- What follows the blanks after a mark, up to the last place among them where a line ends. -/
def toLineEnd? (cs : List Char) : Option (List Char) :=
  let blanks := cs.takeWhile isBlank
  let rest := cs.dropWhile isBlank
  if rest.isEmpty then some []
  else
    match blanks.reverse.dropWhile (· != '\n') with
    | [] => none
    | _ :: before => some (cs.drop before.length)

/-- The underline of a title: after blanks that end a line, dashes that end one. -/
def underline? (dashes : List Char) : List Char → Option (List Char)
  | [] => none
  | c :: cs =>
    match if c = '\n' then (dropStart? dashes cs).bind toLineEnd? else none with
    | some rest => some rest
    | none => if isBlank c then underline? dashes cs else none

/-- A section's title and its underline at the front of a text. -/
def titleAt? (cs : List Char) : Option (SectionKind × List Char) :=
  sections.findSome? fun (t, kind) => do
    let rest ← dropStart? t.toList cs
    some (kind, ← underline? (List.replicate t.length '-') rest)

/-- The mark of a deprecation at the front of a text. -/
def deprecationAt? (cs : List Char) : Option (SectionKind × List Char) := do
  let rest ← dropStart? ['.', '.'] cs
  let rest ← dropStart? "deprecated".toList (trimLeft rest)
  some (.one, ← dropStart? [':', ':'] (trimLeft rest))

/-- The text before the first section, and the sections with their texts. -/
def sectionsOf : (fuel : Nat) → (lineStart : Bool) → List Char →
    List Char × List (SectionKind × List Char)
  | 0, _, _ => ([], [])
  | _, _, [] => ([], [])
  | fuel + 1, lineStart, c :: cs =>
    match if lineStart then (titleAt? (c :: cs)).or (deprecationAt? (c :: cs)) else none with
    | some (kind, rest) =>
      let (text, others) := sectionsOf fuel false rest
      ([], (kind, text) :: others)
    | none =>
      let (text, others) := sectionsOf fuel (c == '\n') cs
      (c :: text, others)

/-- The items of a section: each unindented line with the lines below it. -/
def keyedItems (lines : List (List Char)) : List (List Char × List (List Char)) :=
  (lines.foldr (fun line (below, items) =>
    match line with
    | c :: _ => if isBlank c then (line :: below, items) else ([], (line, below) :: items)
    | [] => (line :: below, items)) ([], [])).2

/-- The name of a parameter: what precedes a colon and the blanks before it. -/
def nameOf (key : List Char) : List Char :=
  match cutAt? [':'] key with
  | some (before, _) => trimRight before
  | none => key

/-- The lines below a parameter as its description, if they hold any text. The line end after the
name counts as the start of the first of them. -/
def descriptionOf (below : List (List Char)) : Option String :=
  let shown := trim (if below.isEmpty then [] else clean (joinLines ([] :: below)))
  if shown.isEmpty then none else some (String.ofList shown)

def startsExample (line : List Char) : Bool := startsWith ['>', '>', '>'] line

/-- The number of groups of lines: each is a run of prompts and the lines up to the next prompt. -/
def exampleGroups : (afterText : Bool) → List (List Char) → Nat
  | _, [] => 0
  | afterText, line :: rest =>
    if startsExample line then (if afterText then 1 else 0) + exampleGroups false rest
    else exampleGroups true rest

def exampleItems (text : List Char) : List DocItem :=
  let shown := lines (trim (joinLines (dedentLines (newlineLines text))))
  match shown with
  | [] => []
  | _ => .other :: List.replicate (exampleGroups false shown) .other

def itemsOf (kind : SectionKind) (text : List Char) : List DocItem :=
  match kind with
  | .one => [.other]
  | .examples => exampleItems text
  | .keyed => (keyedItems (newlineLines text)).map fun _ => .other
  | .params =>
    (keyedItems (newlineLines text)).map fun (key, below) =>
      .param (String.ofList (nameOf key)) (descriptionOf below)

def parse (text : List Char) : Docstring :=
  let shown := clean text
  let (before, found) := sectionsOf (shown.length + 1) true shown
  { description := describe (newlineLines before)
    items := found.flatMap fun (kind, text) => itemsOf kind text }

end CallSchema.Docstring.Numpy
