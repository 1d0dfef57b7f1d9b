import CallSchema.Hint
import CallSchema.Keyed

/-!
Objects that can be called, and what the names of a module are bound to.
-/

namespace CallSchema

inductive ParamKind
  | positional
  | positionalOnly
  | keywordOnly
  /-- Takes all further positional arguments. -/
  | rest
  /-- Takes all further named arguments. -/
  | keywords
  deriving DecidableEq, Repr, Inhabited

structure SignatureParam where
  name : String
  kind : ParamKind
  hasDefault : Bool
  deriving DecidableEq, Repr, Inhabited

/-- An object that can be called. -/
structure Callable where
  /-- The name of the object itself, if it has one. -/
  name : Option String
  /-- The module that it comes from. -/
  home : String
  doc : Option String
  /-- The parameters, unless they cannot be told. -/
  params : Option (List SignatureParam)
  /-- The hints of the parameters and of the result, as they stand. -/
  annotations : List (String × Hint)
  /-- The class that the object is, if it is one. -/
  ofClass : Option ClassRef := none
  deriving Repr, Inhabited

/-- The name of functions without one. -/
def lambdaName : String := "<lambda>"

/-- What is said of a class's field in place of its default. -/
structure FieldSpec where
  default : Option Hint := none
  /-- Whether there is something that makes a default. -/
  isMade : Bool := false
  description : Option String := none
  deriving Repr, Inhabited

/-- Whether there is a default, or something that makes one. -/
def FieldSpec.hasDefault (spec : FieldSpec) : Bool := spec.default.isSome || spec.isMade

/-- What a name is bound to. -/
inductive Binding
  | hint (h : Hint)
  | callable (f : Callable)
  | field (spec : FieldSpec)
  deriving Repr, Inhabited

namespace Binding

/-- The object as it stands in a hint. -/
def toHint : Binding → Hint
  | hint h => h
  | callable f => .object "function" (f.name.getD "")
  | field _ => .object "Field" "Field"

end Binding

/-- The names of a module. -/
abbrev Names := List (String × Binding)

end CallSchema
