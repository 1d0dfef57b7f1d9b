import CallSchema.Fragment.Reading
import CallSchema.Jsdoc.Declaration

/-!
Reading declarations from documents.
-/

namespace CallSchema.Jsdoc

open Document

/-- A list, or nothing. -/
def orNull {α : Type} (read : Document → Except Failure α) (d : Document) :
    Except Failure (Option α) :=
  match d with
  | .null => .ok none
  | d => some <$> read d

def Declaration.read (d : Document) : Except Failure Declaration := do
  let fields ← d.asFields
  .ok
    { isProperty := ← (← need fields "is_property").asBool
      typeToken := ← (← need fields "type_token").asText
      isEnum := ← get fields "is_enum" asBool false
      enumValues := ← get fields "enum_values" (orNull EnumValue.readAll) none
      unionTypes := ← get fields "union_sub_types" (orNull readTexts) none
      name := ← (← need fields "name").asText
      description := ← get fields "description" asText ""
      isOptional := ← get fields "is_optional" asBool false }

end CallSchema.Jsdoc
