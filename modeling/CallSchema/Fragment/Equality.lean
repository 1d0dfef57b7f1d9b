import CallSchema.Fragment
import CallSchema.Keyed

/-!
Equality of fragments: the same kind and equal parts. Numbers are equal by value, whatever their
form, and the order of properties does not count.
-/

namespace CallSchema

def EnumValue.eqv : EnumValue → EnumValue → Bool
  | .text a, .text b => a == b
  | .number a, .number b => a.eqv b
  | _, _ => false

/-- Equality of lists of values, place by place. -/
def EnumValue.eqvAll : List EnumValue → List EnumValue → Bool
  | [], [] => true
  | a :: as, b :: bs => a.eqv b && eqvAll as bs
  | _, _ => false

namespace Fragment

mutual

def eqv : Fragment → Fragment → Bool
  | primitive d type, primitive d' type' => d == d' && type == type'
  | enum d base values, enum d' base' values' =>
    d == d' && base == base' && EnumValue.eqvAll values values'
  | object d properties required, object d' properties' required' =>
    d == d' && required == required' && properties.length == properties'.length
      && eqvProperties properties properties'
  | array d items, array d' items' => d == d' && eqv items items'
  | oneOf d variants, oneOf d' variants' => d == d' && eqvVariants variants variants'
  | allOf d variants, allOf d' variants' => d == d' && eqvVariants variants variants'
  | unknown d, unknown d' => d == d'
  | _, _ => false

/-- Whether each property on the left has an equal one of its name on the right. -/
def eqvProperties : List (String × Fragment) → List (String × Fragment) → Bool
  | [], _ => true
  | (name, f) :: rest, others =>
    (match Keyed.get? others name with
      | some g => eqv f g
      | none => false) && eqvProperties rest others

def eqvVariants : List Fragment → List Fragment → Bool
  | [], [] => true
  | f :: fs, g :: gs => eqv f g && eqvVariants fs gs
  | _, _ => false

end

end Fragment

end CallSchema
