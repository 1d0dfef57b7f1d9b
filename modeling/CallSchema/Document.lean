import CallSchema.Number

/-!
Documents: the values of a data format with numbers, texts, lists and objects with named fields.
-/

namespace CallSchema

/-- An object's fields stand in the order in which they were put. -/
inductive Document
  | null
  | bool (value : Bool)
  | number (value : Number)
  | text (value : String)
  | list (items : List Document)
  | object (fields : List (String × Document))
  deriving Repr, Inhabited

namespace Document

/-- A list of texts. -/
def texts (values : List String) : Document := .list (values.map .text)

/-- The field of an object. -/
def field? (key : String) : Document → Option Document
  | .object fields => fields.lookup key
  | _ => none

end Document

end CallSchema
