import CallSchema.Callable
import CallSchema.Hint.Ancestry
import CallSchema.Hint.Evaluate
import CallSchema.Warning

/-!
Classes of Python programs: what a class holds once it is made, how its names are looked up through
its ancestors, and the hints of its fields.
-/

namespace CallSchema

/-- A field of a data class. -/
structure DataField where
  hasDefault : Bool
  /-- Whether it is a field of the instances, and not a variable of the class. -/
  isMember : Bool
  deriving Repr, Inhabited

/-- A field of a validated model. -/
structure ModelField where
  type : Hint
  hasDefault : Bool
  description : Option String
  /-- The hint as it stands, if a name in it is not known yet. -/
  pending : Option Hint := none
  deriving Repr, Inhabited

/-- The keys of a typed dictionary: those that must be given, and those that may be left out. -/
structure KeySets where
  required : List String := []
  optional : List String := []
  deriving Repr, Inhabited

/-- The fields of a validated model, and the names that are variables of the class. -/
structure ModelInfo where
  fields : Dict ModelField := .empty
  classVariables : List String := []
  deriving Repr, Inhabited

/-- The values of an enumeration's members, and the class whose values they are, if any. -/
structure EnumInfo where
  dataType : Option ClassRef
  values : List Value := []
  deriving Repr, Inhabited

structure ClassInfo where
  identity : Nat
  /-- The name, with those of the classes around. -/
  qualifiedName : String
  home : String
  metaclass : Metaclass
  /-- The ancestors, in the order in which names are looked up. -/
  ancestors : List ClassRef
  /-- The hints of the class's own fields as they stand in its definition. -/
  annotations : Dict Hint
  /-- The class's own names. -/
  attributes : Names
  keys : Option KeySets := none
  dataFields : Option (Dict DataField) := none
  /-- The names of the fields of a tuple, if the class itself gives them. -/
  tupleFields : Option (List String) := none
  /-- Those of them that have a default. -/
  tupleDefaults : List String := []
  model : Option ModelInfo := none
  enumeration : Option EnumInfo := none
  doc : Option String := none
  deriving Repr, Inhabited

/-- All classes, and the names of the modules that they come from. -/
structure Context where
  classes : List ClassInfo := []
  modules : List (String × Names) := []
  deriving Inhabited

namespace ClassInfo

def ref (c : ClassInfo) : ClassRef := .described c.identity c.metaclass c.home c.qualifiedName

def hint (c : ClassInfo) : Hint := .cls c.ref

def name (c : ClassInfo) : String := c.ref.name

/-- The class and its ancestors. -/
def lineage (c : ClassInfo) : List ClassRef := c.ref :: c.ancestors

end ClassInfo

/-- The names with the hints that they stand for. -/
def Names.toHints (names : Names) : List (String × Hint) := names.map fun x => (x.1, x.2.toHint)

namespace Context

def namesOf (ctx : Context) (home : String) : Names := (ctx.modules.lookup home).getD []

/-- Binds a name in a module. -/
def bind (ctx : Context) (home name : String) (b : Binding) : Context :=
  { ctx with modules := Keyed.put ctx.modules home (Keyed.put (ctx.namesOf home) name b) }

/-- Takes a name out of a module. -/
def unbind (ctx : Context) (home name : String) : Context :=
  { ctx with modules := Keyed.put ctx.modules home (Keyed.erase (ctx.namesOf home) name) }

/-- What is told of a class, if it is a described one. -/
def info? (ctx : Context) (c : ClassRef) : Option ClassInfo := ctx.classes.find? (·.ref == c)

/-- The described class that a hint is. -/
def classOf? (ctx : Context) : Hint → Option ClassInfo
  | .cls c => ctx.info? c
  | _ => none

/-- The described ancestors of a class, in the order in which names are looked up. -/
def describedAncestors (ctx : Context) (c : ClassInfo) : List ClassInfo :=
  c.ancestors.filterMap ctx.info?

/-- A class and its described ancestors, in the order in which names are looked up. -/
def described (ctx : Context) (c : ClassInfo) : List ClassInfo := c :: ctx.describedAncestors c

/-- A class with its ancestors, in the order in which names are looked up. -/
def lineage (ctx : Context) (c : ClassRef) : List ClassRef :=
  match ctx.info? c with
  | some c => c.lineage
  | none => c.knownLineage

/-- What a name of a class is bound to, in the class itself, in the first ancestor that has it, or
in what makes the class. -/
def attribute? (ctx : Context) (c : ClassInfo) (name : String) : Option Binding :=
  let own (a : ClassRef) : Option Binding :=
    match ctx.info? a with
    | some a => Keyed.get? a.attributes name
    | none => (a.ownName? c.ref name).map .hint
  (((Keyed.get? c.attributes name).or (c.ancestors.findSome? own))).or
    ((c.ref.metaclassName? name).map .hint)

/-- What a class has under a name. -/
def attributeOf? (ctx : Context) (c : ClassRef) (name : String) : Option Binding :=
  match ctx.info? c with
  | some c => ctx.attribute? c name
  | none =>
    ((c.knownLineage.findSome? fun a => a.ownName? c name).or (c.metaclassName? name)).map .hint

/-- The scope of a module. -/
def scopeOf (ctx : Context) (home : String) : Scope :=
  { home
    names := (ctx.namesOf home).toHints
    attribute? := fun c name => (ctx.attributeOf? c name).map (·.toHint) }

/-- The fields of a data class, its own or those of the first ancestor that has some. -/
def dataFields? (ctx : Context) (c : ClassInfo) : Option (Dict DataField) :=
  (ctx.described c).findSome? (·.dataFields)

/-- The fields with defaults of a tuple with named fields. -/
def tupleDefaults? (ctx : Context) (c : ClassInfo) : Option (List String) :=
  (ctx.described c).findSome? fun a => a.tupleFields.map fun _ => a.tupleDefaults

/-- Whether a class is a tuple with named fields. -/
def isNamedTuple (ctx : Context) (c : ClassInfo) : Bool :=
  (ctx.tupleDefaults? c).isSome && c.lineage.contains (.builtin "tuple")

/-- The scope in which a class's hints are evaluated after it has been made. -/
def classScope (ctx : Context) (c : ClassInfo) : Scope :=
  { ctx.scopeOf c.home with own := c.attributes.toHints }

/-- The evaluated hints of a class's fields: those of its furthest ancestor first. -/
def evaluatedHints (ctx : Context) (c : ClassInfo) : Except Failure (Dict Hint) :=
  (ctx.described c).reverse.foldlM (fun hints a =>
    a.annotations.pairs.foldlM (fun hints x => do
      pure (hints.put x.1 (← Hint.evaluate (ctx.classScope a) .field x.2))) hints) .empty

/-- The hints of a class's fields. If one cannot be evaluated, all stay as they stand in the class,
and a warning is given. -/
def fieldHints (ctx : Context) (c : ClassInfo) : Outcome (Dict Hint) :=
  match ctx.evaluatedHints c with
  | .ok hints => .ok hints
  | .error e => do
    Outcome.warn (.classHints c.identity c.name e.message)
    pure c.annotations

end Context

end CallSchema
