import CallSchema.Fragment
import CallSchema.Warning

/-!
Type graphs: the questions that a type system answers about its types, and the shape of a type that
the answers give.
-/

namespace CallSchema

/-- A constant of a type system, as far as schemas can tell constants apart. -/
inductive Constant
  | listed (value : EnumValue)
  /-- A truth value, or anything else that an enumeration cannot list. -/
  | other
  deriving DecidableEq, Repr, Inhabited

/-- A named member of a structured type. -/
structure Member (τ : Type) where
  name : String
  type : τ
  /-- Whether the member's own declaration lets it be absent. -/
  isOptional : Bool
  description : Option String

/-- A type system with types `τ`. Types of equal identity are the same type. -/
structure TypeGraph (τ ι : Type) where
  identity : τ → ι
  describe : τ → String
  /-- Whether there is no type at all. -/
  isNone : τ → Bool
  /-- Whether a type is unconstrained on purpose. -/
  isAny : τ → Bool
  /-- The constant of a type with one value. -/
  literal? : τ → Option Constant
  /-- The values of an enumeration. -/
  enumValues? : τ → Option (List Constant)
  primitive? : τ → Option String
  isArrayLike : τ → Bool
  elementType? : τ → Except Failure (Option τ)
  /-- The members of a structured type, in declaration order. -/
  members : τ → Outcome (List (Member τ))
  isUnion : τ → Bool
  unionMembers : τ → List τ
  isIntersection : τ → Bool
  intersectionMembers : τ → List τ
  /-- Whether a type marks absence. -/
  isAbsent : τ → Bool

/-- What a type is, once the first rule that fits has been found. -/
inductive TypeShape (τ : Type)
  | unconstrained
  | enumeration (base : EnumBase) (values : List EnumValue)
  | primitive (type : String)
  | array (element : Option τ)
  | object (members : List (Member τ))
  | union (members : List τ)
  | intersection (members : List τ)
  | unsupported

/-- The base and the value of a literal that can be listed. -/
def Constant.enum? : Constant → Option (EnumBase × EnumValue)
  | listed (.text s) => some (.string, .text s)
  | listed (.number n) => some (.number, .number n)
  | other => none

/-- The base of values that are not empty and all of one base. -/
def Constant.enumAll? (values : List Constant) : Option (EnumBase × List EnumValue) :=
  match values.mapM Constant.enum? with
  | some ((base, value) :: rest) =>
    if rest.all (·.1 == base) then some (base, value :: rest.map (·.2)) else none
  | _ => none

namespace TypeGraph

variable {τ ι : Type} (g : TypeGraph τ ι)

/-- The enumeration that a type is by the first two rules. -/
def enumeration? (t : τ) : Option (EnumBase × List EnumValue) :=
  match (g.literal? t).bind Constant.enum? with
  | some (base, value) => some (base, [value])
  | none => (g.enumValues? t).bind Constant.enumAll?

/-- The union members that do not mark absence. -/
def presentMembers (t : τ) : List τ := (g.unionMembers t).filter (!g.isAbsent ·)

/-- The shape of a type, given how the members of types are told. The rules are tried in the order
of the shapes. -/
def shapeWith {m : Type → Type} [Monad m] [MonadLiftT Outcome m] (members : τ → m (List (Member τ)))
    (t : τ) : m (TypeShape τ) := do
  if g.isNone t || g.isAny t then return .unconstrained
  match g.enumeration? t with
  | some (base, values) => return .enumeration base values
  | none => pure ()
  match g.primitive? t with
  | some type => return .primitive type
  | none => pure ()
  if g.isArrayLike t then return .array (← liftM (Outcome.ofExcept (g.elementType? t)))
  let members ← members t
  if !members.isEmpty then return .object members
  if g.isUnion t then return .union (g.presentMembers t)
  if g.isIntersection t then return .intersection (g.intersectionMembers t)
  return .unsupported

/-- The shape of a type. -/
def shape (t : τ) : Outcome (TypeShape τ) := g.shapeWith g.members t

end TypeGraph

end CallSchema
