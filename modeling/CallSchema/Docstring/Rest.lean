import CallSchema.Docstring

/-!
Field lists: items start with a colon at the start of a line, and a second colon ends the words that
say what the item is about.
-/

namespace CallSchema.Docstring.Rest

open Text

def paramWords : List String :=
  ["param", "parameter", "arg", "argument", "attribute", "key", "keyword"]

def returnWords : List String := ["return", "returns", "yield", "yields"]

def raiseWords : List String := ["raises", "raise", "except", "exception"]

/-- What a field says. -/
inductive Field
  | item (i : DocItem)
  | returns
  /-- The type of a parameter. -/
  | type
  /-- The type of a returned value of the given name. -/
  | returnType (name : Option String)

/-- The field with the given words; nothing if there are too few or too many of them, and an error
if there are none. -/
def field? (words : List String) (description : String) : Except Failure (Option Field) :=
  match words with
  | [] => .error (raised "IndexError" "list index out of range")
  | ["type", _] => .ok (some .type)
  | ["rtype"] => .ok (some (.returnType none))
  | ["rtype", name] => .ok (some (.returnType (some name)))
  | word :: args =>
    if paramWords.contains word then
      .ok (match args with
        | [name] | [_, name] => some (.item (.param name (some description)))
        | _ => none)
    else if returnWords.contains word then .ok (if args.length ≤ 1 then some .returns else none)
    else if raiseWords.contains word then
      .ok (if args.length ≤ 1 then some (.item .other) else none)
    else .ok (some (.item .other))

/-- Reads the items one after another, up to the first that is not one. -/
def fields? : List (List Char) → Except Failure (Option (List Field))
  | [] => .ok (some [])
  | chunk :: chunks =>
    match cutAt? [':'] (chunk.dropWhile (· == ':')) with
    | none => .ok none
    | some (head, rest) => do
      match ← field? ((words head).map String.ofList)
          (String.ofList (cleanDescription rest)) with
      | none => pure none
      | some f => do pure ((← fields? chunks).map (f :: ·))

def isReturns : Field → Bool
  | .returns => true
  | _ => false

/-- The items of the fields. If a type is given for what is returned but no item about it, there is
one for each name. -/
def itemsOf (fields : List Field) : List DocItem :=
  let items := fields.filterMap fun
    | .item i => some i
    | .returns => some .other
    | _ => none
  let named := (fields.filterMap fun
    | .returnType name => some name
    | _ => none).eraseDups
  if fields.any isReturns then items else items ++ named.map fun _ => .other

def parse? (text : List Char) : Except Failure (Option Docstring) := do
  let (before, chunks) := markedChunks ':' (newlineLines (clean text))
  match ← fields? chunks with
  | none => pure none
  | some fields =>
    pure (some { description := describeBefore before !chunks.isEmpty, items := itemsOf fields })

end CallSchema.Docstring.Rest
