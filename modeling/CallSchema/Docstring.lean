import CallSchema.Failure
import CallSchema.Text.Indent

/-!
Documentation texts of functions: a description, and marked items of which some describe parameters.
-/

namespace CallSchema

inductive DocItem
  | param (name : String) (description : Option String)
  /-- An item about anything else. -/
  | other
  deriving DecidableEq, Repr, Inhabited

structure Docstring where
  description : Option String
  items : List DocItem
  deriving DecidableEq, Repr, Inhabited

namespace Docstring

open Text

/-- The parameters that are described. -/
def params (d : Docstring) : List (String × Option String) :=
  d.items.filterMap fun
    | .param name description => some (name, description)
    | .other => none

/-- The description before the items: its first line, and after it the rest without the blanks
around it. An empty second line is kept. -/
def describe (lines : List (List Char)) : Option String :=
  match lines with
  | [] => none
  | first :: rest =>
    let long := trim (joinLines rest)
    let short := if first.isEmpty then [] else
      match rest with
      | [] :: _ :: _ => [first, []]
      | _ => [first]
    match short ++ (if long.isEmpty then [] else [long]) with
    | [] => none
    | parts => some (String.ofList (joinLines parts))

/-- The description that stands in the lines before the items. The last line end before the first
item counts as the start of one more line. -/
def describeBefore (lines : List (List Char)) (hasItems : Bool) : Option String :=
  describe (if hasItems then lines ++ [[]] else lines)

/-- A text of several lines: the first as it is, the others without their common indentation. -/
def cleanRest (cs : List Char) : List Char :=
  match newlineLines cs with
  | first :: second :: rest => first ++ '\n' :: clean (joinLines (second :: rest))
  | _ => cs

/-- A description without the blanks around it. -/
def cleanDescription (cs : List Char) : List Char := cleanRest (trim cs)

/-- The lines before the first one that starts with `mark`, and the items from there on: each starts
with such a line. -/
def markedChunks (mark : Char) (lines : List (List Char)) :
    List (List Char) × List (List Char) :=
  lines.foldr (fun line (before, chunks) =>
    if line.head? = some mark then ([], joinLines (line :: before) :: chunks)
    else (line :: before, chunks)) ([], [])

end Docstring

end CallSchema
