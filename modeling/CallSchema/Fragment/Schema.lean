import CallSchema.Document
import CallSchema.Fragment

/-!
The document of a fragment: its fields by kind, and its description after them.
-/

namespace CallSchema

def EnumValue.toDocument : EnumValue → Document
  | .text s => .text s
  | .number n => .number n

namespace Fragment

/-- Puts a description, if there is one, after the other fields. -/
def withDescription (description : Option String) (fields : List (String × Document)) :
    Document :=
  .object (match description with
    | none => fields
    | some d => fields ++ [("description", .text d)])

mutual

def toSchema : Fragment → Document
  | primitive d type => withDescription d [("type", .text type)]
  | enum d base values =>
    withDescription d
      [("type", .text base.name), ("enum", .list (values.map EnumValue.toDocument))]
  | object d properties required =>
    withDescription d
      [("type", .text "object"), ("properties", .object (propertySchemas properties)),
        ("required", .texts required)]
  | array d items => withDescription d [("type", .text "array"), ("items", toSchema items)]
  | oneOf d variants => withDescription d [("oneOf", .list (variantSchemas variants))]
  | allOf d variants => withDescription d [("allOf", .list (variantSchemas variants))]
  | unknown d => withDescription d []

def propertySchemas : List (String × Fragment) → List (String × Document)
  | [] => []
  | (name, f) :: rest => (name, toSchema f) :: propertySchemas rest

def variantSchemas : List Fragment → List Document
  | [] => []
  | f :: fs => toSchema f :: variantSchemas fs

end

theorem propertySchemas_eq_map (properties : List (String × Fragment)) :
    propertySchemas properties = properties.map fun x => (x.1, x.2.toSchema) := by
  induction properties with
  | nil => rfl
  | cons x rest ih => simp [propertySchemas, ih]

end Fragment

end CallSchema
