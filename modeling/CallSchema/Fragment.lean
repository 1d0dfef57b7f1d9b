import CallSchema.Number

/-!
Fragments: the schemas of single types, before they are written as documents.
-/

namespace CallSchema

/-- A value that an enumeration lists. -/
inductive EnumValue
  | text (value : String)
  | number (value : Number)
  deriving DecidableEq, Repr, Inhabited

/-- What the values of an enumeration are. -/
inductive EnumBase
  | string
  | number
  deriving DecidableEq, Repr, Inhabited

def EnumBase.name : EnumBase → String
  | string => "string"
  | number => "number"

/-- The schema of a type. Each fragment may carry a description of its own. -/
inductive Fragment
  | primitive (description : Option String) (type : String)
  | enum (description : Option String) (base : EnumBase) (values : List EnumValue)
  /-- An object with named properties, and the names of those that must be given. -/
  | object (description : Option String) (properties : List (String × Fragment))
      (required : List String)
  | array (description : Option String) (items : Fragment)
  | oneOf (description : Option String) (variants : List Fragment)
  | allOf (description : Option String) (variants : List Fragment)
  /-- A type that could not be classified. -/
  | unknown (description : Option String)
  deriving Repr, Inhabited

namespace Fragment

def description : Fragment → Option String
  | primitive d _ | enum d _ _ | object d _ _ | array d _ | oneOf d _ | allOf d _ | unknown d => d

/-- The same fragment with another description. -/
def describe (description : Option String) : Fragment → Fragment
  | primitive _ type => primitive description type
  | enum _ base values => enum description base values
  | object _ properties required => object description properties required
  | array _ items => array description items
  | oneOf _ variants => oneOf description variants
  | allOf _ variants => allOf description variants
  | unknown _ => unknown description

def isUnknown : Fragment → Bool
  | unknown _ => true
  | _ => false

@[simp] theorem description_describe (d : Option String) (f : Fragment) :
    (f.describe d).description = d := by
  cases f <;> rfl

@[simp] theorem describe_describe (d e : Option String) (f : Fragment) :
    (f.describe d).describe e = f.describe e := by
  cases f <;> rfl

@[simp] theorem describe_description (f : Fragment) : f.describe f.description = f := by
  cases f <;> rfl

end Fragment

end CallSchema
