import CallSchema.Docstring

/-!
Titled sections: a title with a colon on a line of its own, and indented items below it.
-/

namespace CallSchema.Docstring.Google

open Text

/-- What stands in a section. -/
inductive SectionKind
  | params
  /-- Items with a colon that are no parameters. -/
  | listed
  /-- One item, whatever the text is. -/
  | one
  deriving DecidableEq, Repr

def sections : List (String × SectionKind) :=
  [("Arguments", .params), ("Args", .params), ("Parameters", .params), ("Params", .params),
    ("Raises", .listed), ("Exceptions", .listed), ("Except", .listed), ("Attributes", .params),
    ("Example", .one), ("Examples", .one), ("Returns", .one), ("Yields", .one)]

def isLineBlank (c : Char) : Bool :=
  c = ' ' || c = '\t' || c = '\r' || c.toNat = 11 || c.toNat = 12

/-- The title that a line is. -/
def title? (line : List Char) : Option String :=
  (sections.find? fun s =>
    match dropStart? (s.1.toList ++ [':']) line with
    | some rest => rest.all isLineBlank
    | none => false).map (·.1)

/-- The lines before the first title, and the titles with the lines below each. -/
def titled (lines : List (List Char)) : List (List Char) × List (String × List (List Char)) :=
  lines.foldr (fun line (before, found) =>
    match title? line with
    | some t => ([], (t, before) :: found)
    | none => (line :: before, found)) ([], [])

/-- Whether a line starts with a character that is no blank. -/
def isOutside (line : List Char) : Bool :=
  match line with
  | c :: _ => !isBlank c
  | [] => false

def trimNewlines (cs : List Char) : List Char :=
  dropTailWhile (· == '\n') (cs.dropWhile (· == '\n'))

/-- The text of a section: its lines up to the first that is not indented. -/
def sectionText (lines : List (List Char)) : List Char :=
  trimNewlines (joinLines (lines.takeWhile (!isOutside ·)))

/-- The places at line starts where `indent` stands before a character that is no blank: the text
before each, less what the place before took, and the text from the last one on. -/
def splitAtIndent (indent : List Char) :
    (fuel : Nat) → (lineStart : Bool) → (taken : List Char) → List Char →
    List Char × List (List Char)
  | 0, _, taken, _ => (taken.reverse, [])
  | _, _, taken, [] => (taken.reverse, [])
  | fuel + 1, lineStart, taken, c :: cs =>
    match if lineStart then dropStart? indent (c :: cs) else none with
    | some (d :: ds) =>
      if isBlank d then splitAtIndent indent fuel (c == '\n') (c :: taken) cs
      else
        let (first, others) := splitAtIndent indent fuel (d == '\n') [d] ds
        (taken.reverse, first :: others)
    | _ => splitAtIndent indent fuel (c == '\n') (c :: taken) cs

/-- Whether some closing parenthesis has text on one line before it. -/
def hasTypeBeforeClose (inside : List Char) : List Char → Bool
  | [] => false
  | c :: cs =>
    (c == ')' && (let shown := trim inside.reverse; !shown.isEmpty && !shown.contains '\n'))
      || hasTypeBeforeClose (c :: inside) cs

/-- Whether a type in parentheses follows. -/
def typeFollows (cs : List Char) : Bool :=
  match trimLeft cs with
  | '(' :: rest => hasTypeBeforeClose [] rest
  | _ => false

/-- The shortest text on one line before a type in parentheses. -/
def nameBeforeType? (taken : List Char) : List Char → Option (List Char)
  | [] => none
  | c :: cs =>
    if c = '\n' then none
    else if typeFollows cs then some (c :: taken).reverse
    else nameBeforeType? (c :: taken) cs

/-- Tries to leave out all blanks before the name, then fewer and fewer. -/
def typedName? (blanks : Nat) (cs : List Char) : Option (List Char) :=
  match nameBeforeType? [] (cs.drop blanks) with
  | some name => some name
  | none => match blanks with
    | 0 => none
    | n + 1 => typedName? n cs

/-- The name of a parameter, without a type in parentheses after it. -/
def nameOf (spec : List Char) : List Char :=
  (typedName? (spec.length - (trimLeft spec).length) spec).getD spec

/-- The description after a colon. One space before it is left out. -/
def descriptionOf (cs : List Char) : List Char :=
  trimNewlines (cleanRest (match cs with
    | ' ' :: rest => rest
    | cs => cs))

/-- What stands before a colon. Lines after the first are put to it without their common indentation
and the empty lines around them. -/
def specOf (cs : List Char) : List Char :=
  match cutAt? ['\n'] cs with
  | some (first, rest) => first ++ clean rest
  | none => cs

/-- One item of a section, if it has a colon. -/
def item? (kind : SectionKind) (part : List Char) : Option DocItem :=
  (cutAt? [':'] part).map fun (spec, rest) =>
    match kind with
    | .params =>
      .param (String.ofList (nameOf (specOf spec))) (some (String.ofList (descriptionOf rest)))
    | _ => .other

/-- The items of a section. There must be some, all at the indentation of the first line. -/
def items? (kind : SectionKind) (text : List Char) : Option (List DocItem) :=
  if kind = .one then some [.other]
  else
    let indent := text.takeWhile isBlank
    match (splitAtIndent indent (text.length + 1) true [] text).2 with
    | [] => none
    | parts => (parts.map trimNewlines).mapM (item? kind)

/-- Sections with their texts; a title that comes again takes its last text in its first place. -/
def texts (found : List (String × List (List Char))) : List (String × List Char) :=
  found.foldl (fun done (t, lines) =>
    if done.any (·.1 == t) then done.map fun d => if d.1 == t then (t, sectionText lines) else d
    else done ++ [(t, sectionText lines)]) []

def parse? (text : List Char) : Option Docstring := do
  let (before, found) := titled (newlineLines (clean text))
  let items ← (texts found).mapM fun (t, text) =>
    items? ((sections.lookup t).getD .one) text
  some { description := describeBefore before !found.isEmpty, items := items.flatten }

end CallSchema.Docstring.Google
