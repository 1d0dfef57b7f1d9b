import CallSchema.DocumentedFunction

/-!
Reading fragments and documented functions from documents. Fields that are not known are passed
over, a missing field takes its default if it has one, and numbers keep their form.
-/

namespace CallSchema

namespace Document

def asText : Document → Except Failure String
  | .text s => .ok s
  | _ => .error .invalidData

/-- A text or nothing. -/
def asTextOrNull : Document → Except Failure (Option String)
  | .null => .ok none
  | .text s => .ok (some s)
  | _ => .error .invalidData

def asList : Document → Except Failure (List Document)
  | .list items => .ok items
  | _ => .error .invalidData

def asFields : Document → Except Failure (List (String × Document))
  | .object fields => .ok fields
  | _ => .error .invalidData

/-- The words, in any letter case, that stand for a truth value. -/
def truthOfWord? (word : String) : Option Bool :=
  let word := word.toLower
  if ["1", "on", "t", "true", "y", "yes"].contains word then some true
  else if ["0", "off", "f", "false", "n", "no"].contains word then some false
  else none

/-- A truth value, or a number or a word that stands for one. -/
def asBool : Document → Except Failure Bool
  | .bool b => .ok b
  | .number n =>
    if n.eqv (.int 1) then .ok true else if n.eqv (.int 0) then .ok false
    else .error .invalidData
  | .text s =>
    match truthOfWord? s with
    | some b => .ok b
    | none => .error .invalidData
  | _ => .error .invalidData

/-- A field that must be there. -/
def need (fields : List (String × Document)) (key : String) : Except Failure Document :=
  match fields.lookup key with
  | some d => .ok d
  | none => .error .invalidData

/-- A field read with `read`, or its default. -/
def get {α : Type} (fields : List (String × Document)) (key : String)
    (read : Document → Except Failure α) (default : α) : Except Failure α :=
  match fields.lookup key with
  | some d => read d
  | none => .ok default

end Document

open Document

/-- A truth value among enumeration values counts as zero or one. -/
def EnumValue.read : Document → Except Failure EnumValue
  | .text s => .ok (.text s)
  | .number n => .ok (.number n)
  | .bool b => .ok (.number (.int (if b then 1 else 0)))
  | _ => .error .invalidData

def EnumValue.readAll (d : Document) : Except Failure (List EnumValue) := do
  (← d.asList).mapM EnumValue.read

def EnumBase.read (d : Document) : Except Failure EnumBase := do
  match ← d.asText with
  | "string" => .ok .string
  | "number" => .ok .number
  | _ => .error .invalidData

def readTexts (d : Document) : Except Failure (List String) := do
  (← d.asList).mapM asText

namespace Fragment

/-- Fragments are read up to this depth. -/
def maxDepth : Nat := 254

/-- Reads fragments nested at most `depth` deep. Where `given?` has a fragment ready for a document,
that one is taken as it stands. -/
def readWithin (given? : Document → Option Fragment) :
    (depth : Nat) → Document → Except Failure Fragment
  | 0, _ => .error .invalidData
  | depth + 1, d => do
    match given? d with
    | some f => return f
    | none => pure ()
    let fields ← d.asFields
    let kind ← (← need fields "kind").asText
    let description ← get fields "description" asTextOrNull none
    match kind with
    | "primitive" => .ok (primitive description (← (← need fields "type").asText))
    | "enum" =>
      .ok (enum description (← EnumBase.read (← need fields "base_type"))
        (← EnumValue.readAll (← need fields "values")))
    | "object" =>
      let properties ← get fields "properties" asFields []
      let properties ← properties.mapM fun (name, p) => do pure (name, ← readWithin given? depth p)
      .ok (object description properties (← get fields "required" readTexts []))
    | "array" => .ok (array description (← readWithin given? depth (← need fields "items")))
    | "oneOf" => .ok (oneOf description (← variants depth fields))
    | "allOf" => .ok (allOf description (← variants depth fields))
    | "unknown" => .ok (unknown description)
    | _ => .error .invalidData
where
  variants (depth : Nat) (fields : List (String × Document)) :
      Except Failure (List Fragment) := do
    let variants ← (← (← need fields "variants").asList).mapM (readWithin given? depth)
    if variants.isEmpty then .error .invalidData else .ok variants

def readWith (given? : Document → Option Fragment) (d : Document) : Except Failure Fragment :=
  readWithin given? maxDepth d

def read (d : Document) : Except Failure Fragment := readWith (fun _ => none) d

end Fragment

def Param.read (d : Document) : Except Failure Param := do
  let fields ← d.asFields
  let name ← (← need fields "name").asText
  let description ← get fields "description" asText ""
  let fragment ← get fields "fragment" Fragment.read (.unknown none)
  let enumValues ← get fields "enum_values"
    (fun | .null => .ok none | d => some <$> EnumValue.readAll d) none
  let isOptional ← get fields "is_optional" asBool false
  .ok { name, description, fragment, enumValues, isOptional }

/-- The parameters of a function, which must have different names. -/
def Param.readAll (d : Document) : Except Failure (List Param) := do
  let params ← (← d.asList).mapM Param.read
  match DocumentedFunction.repeated? [] (params.map (·.name)) with
  | some name => .error (.duplicateParameter name)
  | none => .ok params

/-- Reads a function. That two parameters have one name is told even if other fields are bad too. -/
def DocumentedFunction.read (d : Document) : Except Failure DocumentedFunction := do
  let fields ← d.asFields
  let params ← get fields "params" Param.readAll []
  let notice ← get fields "notice" asText ""
  let functionName ← (← need fields "function_name").asText
  DocumentedFunction.make notice functionName params

end CallSchema
