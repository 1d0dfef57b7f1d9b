import CallSchema.Class
import CallSchema.TypeGraph.Resolver

/-!
The type graph of hints: what each hint is, and what its parts are. All questions look through the
layers around a hint.
-/

namespace CallSchema

/-- Which hints are the same object, where one is met twice. The same object is the same hint. -/
structure Objects where
  same : Hint → Hint → Bool
  eq_of_same {a b : Hint} : same a b = true → a = b

/-- No object is met twice. -/
def Objects.apart : Objects := ⟨fun _ _ => false, nofun⟩

/-- A hint without the layers around it, as the key under which it is in progress. One that cannot
be a member of a set is only equal to itself as an object. -/
structure HintKey (objects : Objects) where
  hint : Hint

instance {objects : Objects} : BEq (HintKey objects) where
  beq a b :=
    if a.hint.isHashable && b.hint.isHashable then a.hint.eqv b.hint
    else objects.same a.hint b.hint

namespace Hint

/-- The class that a hint with or without arguments stands for. -/
def origin? : Hint → Option ClassRef
  | generic origin _ => some origin
  | form "typing" name | applied name _ => genericOrigin? name
  | _ => none

/-- The arguments of a hint in brackets. -/
def args : Hint → List Hint
  | generic _ args | applied _ args => args
  | _ => []

/-- Whether a hint is one of the classes, alone or with arguments. -/
def standsFor (classes : List ClassRef) (h : Hint) : Bool :=
  match h with
  | cls c => classes.contains c
  | h => (h.origin?.map classes.contains).getD false

def objectClasses : List ClassRef :=
  [.builtin "dict", .abstract "Mapping", .abstract "MutableMapping"]

def arrayClasses : List ClassRef :=
  [.builtin "list", .builtin "set", .builtin "frozenset", .builtin "tuple", .abstract "Sequence",
    .abstract "MutableSequence", .abstract "Set", .abstract "MutableSet", .abstract "Iterable",
    .abstract "Collection"]

def primitiveClass? : ClassRef → Option String
  | .known "builtins" "str" => some "string"
  | .known "builtins" "int" => some "integer"
  | .known "builtins" "float" => some "number"
  | .known "builtins" "bool" => some "boolean"
  | .known "builtins" "NoneType" => some "null"
  | _ => none

/-- The constants of a literal. -/
def constants? : Hint → Option (List Value)
  | literal values => some (Value.distinct values)
  | _ => none

def isNullLiteral (h : Hint) : Bool :=
  match h.constants? with
  | some [.null] => true
  | _ => false

def isTruth : Value → Bool
  | .bool _ => true
  | _ => false

/-- The primitive type of a hint without layers. -/
def primitiveOf? (h : Hint) : Option String :=
  if !h.isHashable then none
  else if standsFor objectClasses h then some "object"
  else match h with
    | cls c => primitiveClass? c
    | h => match h.constants? with
      | some [.null] => some "null"
      | some (v :: vs) => if (v :: vs).all isTruth then some "boolean" else none
      | _ => none

/-- A hint, but for the constant `None`, which is no type. -/
def present? : Hint → Option Hint
  | null => none
  | h => some h

/-- Whether the arguments of a tuple are the types of different elements. -/
def areSeveral : List Hint → Bool
  | [] | [_] | [_, ellipsis] => false
  | _ => true

/-- Whether the only argument is an empty pair of parentheses, as in the older form of a tuple
without elements. -/
def areParentheses : List Hint → Bool
  | [tuple []] => true
  | _ => false

/-- The element type of a hint without layers: the first argument, or for a tuple of several
types their union. -/
def elementOf? (h : Hint) : Except Failure (Option Hint) :=
  match h.args with
  | [] => .ok none
  | first :: rest =>
    if h.origin? = some (.builtin "tuple") && areSeveral (first :: rest) then do
      .ok (present? (← unionOf (first :: rest)))
    else if h.origin? = some (.builtin "tuple") && areParentheses (first :: rest) then .ok none
    else .ok (present? first)

def literalOf? (h : Hint) : Option Value :=
  match h.constants? with
  | some [v] => some v
  | _ => none

def isUnionHint : Hint → Bool
  | union _ | alternatives _ => true
  | h => match h.constants? with
    | some (_ :: _ :: _) => true
    | _ => false

/-- The members of a union; a literal of several constants is the union of the single ones. -/
def membersOfUnion : Hint → List Hint
  | union args | alternatives args => args
  | h => (h.constants?.getD []).map fun v => literal [v]

def isIntersectionHint : Hint → Bool
  | intersection _ => true
  | _ => false

def membersOfIntersection : Hint → List Hint
  | intersection args => args
  | _ => []

/-- Whether a hint without layers marks absence. -/
def isAbsence : Hint → Bool
  | null => true
  | h => isNoneType h || isNullLiteral h

def isUnconstrained : Hint → Bool
  | cls c => c = .known "typing" "Any" || c = .builtin "object"
  | _ => false

def anyHint : Hint := cls (.known "typing" "Any")

end Hint

/-- A value as schemas tell it apart. -/
def Value.toConstant (v : Value) : Constant :=
  match v.listed? with
  | some x => .listed x
  | none => .other

namespace Context

variable (ctx : Context)

/-- The values of an enumeration. -/
def enumValues? (h : Hint) : Option (List Value) :=
  match h with
  | .cls c =>
    match ctx.info? c with
    | some c => c.enumeration.map (·.values)
    | none => if c.metaclass = .enumeration then some [] else none
  | _ => none

/-- The description of a member by its hint. -/
def noteOf (h : Hint) : Option String := h.note?.filter (!·.isEmpty)

/-- Whether a member of a class that is no model may be left out. -/
def isOptionalMember (c : ClassInfo) (name : String) (h : Hint) : Bool :=
  match c.keys, ctx.dataFields? c, ctx.tupleDefaults? c with
  | some keys, _, _ => keys.optional.contains name || h.isNotRequired
  | none, some fields, _ => (fields.get? name).any fun f => f.isMember && f.hasDefault
  | none, none, some defaults => defaults.contains name
  | none, none, none => false

/-- The members of a class, in declaration order. -/
def members (c : ClassInfo) : Outcome (List (Member Hint)) :=
  let member (x : String × Hint) : Member Hint :=
    { name := x.1, type := x.2, isOptional := ctx.isOptionalMember c x.1 x.2,
      description := noteOf x.2 }
  match c.model, ctx.dataFields? c with
  | some m, _ =>
    pure (m.fields.pairs.map fun (name, f) =>
      { name, type := f.type, isOptional := f.hasDefault, description := f.description })
  | none, some fields => do
    let names := (fields.pairs.filter (·.2.isMember)).map (·.1)
    if names.isEmpty then pure []
    else
      let hints ← ctx.fieldHints c
      pure (names.map fun n => member (n, (hints.get? n).getD Hint.anyHint))
  | none, none =>
    if c.keys.isSome || ctx.isNamedTuple c then do
      pure ((← ctx.fieldHints c).pairs.map member)
    else pure []

/-- The type graph of hints, given which of them are the same object. -/
def graphWith (objects : Objects) : TypeGraph Hint (HintKey objects) where
  identity h := ⟨h.strip⟩
  describe h := h.describe
  isNone h := match h with
    | .null => true
    | _ => false
  isAny h := h.strip.isUnconstrained
  literal? h := h.strip.literalOf?.map Value.toConstant
  enumValues? h := (ctx.enumValues? h.strip).map (·.map Value.toConstant)
  primitive? h := h.strip.primitiveOf?
  isArrayLike h := Hint.standsFor Hint.arrayClasses h.strip
  elementType? h := h.strip.elementOf?
  members h := match ctx.classOf? h.strip with
    | some c => ctx.members c
    | none => pure []
  isUnion h := h.strip.isUnionHint
  unionMembers h := h.strip.membersOfUnion
  isIntersection h := h.strip.isIntersectionHint
  intersectionMembers h := h.strip.membersOfIntersection
  isAbsent h := h.strip.isAbsence

/-- The type graph of hints. -/
def graph : TypeGraph Hint (HintKey .apart) := ctx.graphWith .apart

/-- The types of a class's members. -/
def memberTypes (c : ClassInfo) : List Hint :=
  match (ctx.members c).value with
  | .ok ms => ms.map (·.type)
  | .error _ => []

/-- Deep enough for any run from a hint: inside a class's member or the hint itself, each step goes
to a part, or to the union or the single literals that a part stands for, and no class is in
progress twice. -/
def depth (h : Hint) : Nat :=
  ctx.classes.foldl (fun n c => n + 2 * Hint.sizeAll (ctx.memberTypes c) + 1) (2 * h.size + 2)

def resolve (h : Hint) : Outcome Fragment := ctx.graph.resolve (ctx.depth h) h

def resolveOptional (h : Hint) : Outcome (Fragment × Bool) :=
  ctx.graph.resolveOptional (ctx.depth h) h

end Context

end CallSchema
