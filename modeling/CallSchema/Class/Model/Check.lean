import CallSchema.Class.Model.Field

/-!
Which types the fields of validated models may have: those that values can be checked against. A
class with fields of its own is looked into, once.
-/

namespace CallSchema

/-- A note about where an error of validated models is explained. -/
def errorNote (code : String) : String :=
  "\n\nFor further information visit https:" ++ "//errors.pydantic.dev/2.14/u/" ++ code

/-- An error in how a model is written. -/
def modelError {α : Type} (message code : String) : Except Failure α :=
  .error (raised "PydanticUserError" (message ++ errorNote code))

/-- Why values cannot be checked against a type. -/
inductive Unchecked
  /-- A name in it is not known yet. -/
  | unknownName
  | failed (e : Failure)

/-- A check of a type. -/
abbrev TypeCheck := Except Unchecked Unit

namespace TypeCheck

def ofExcept {α : Type} (x : Except Failure α) : Except Unchecked α :=
  match x with
  | .ok a => .ok a
  | .error e => .error (.failed e)

def fail (e : Failure) : TypeCheck := .error (.failed e)

/-- No values can be checked against a type. -/
def unknownType (h : Hint) : TypeCheck :=
  fail (raised "PydanticSchemaGenerationError"
    ("Unable to generate pydantic-core schema for " ++ Hint.objectText h
      ++ ". Set `arbitrary_types_allowed=True` in the model_config to ignore this error or "
      ++ "implement `__get_pydantic_core_schema__` on your type to fully support it.\n\n"
      ++ "If you got this error by calling handler(<some type>) within "
      ++ "`__get_pydantic_core_schema__` then you likely need to call "
      ++ "`handler.generate_schema(<some type>)` since we do not call "
      ++ "`__get_pydantic_core_schema__` on `<some type>` otherwise to avoid infinite recursion."
      ++ errorNote "schema-for-unknown-type"))

/-- How the arguments of a class that takes some are checked. -/
inductive Arguments
  /-- The first one is the type of the items. -/
  | first
  /-- The first two are the types of the keys and the values. -/
  | two
  /-- Each is the type of one item. -/
  | each
  /-- The first one is the class of the classes that are meant. -/
  | ofClass
  /-- They are not looked at. -/
  | any

/-- The classes that take arguments. -/
def argumentsOf? : ClassRef → Option Arguments
  | .known "builtins" n =>
    match n with
    | "list" | "set" | "frozenset" => some .first
    | "dict" => some .two
    | "tuple" => some .each
    | "type" => some .ofClass
    | _ => none
  | .known "collections" n =>
    match n with
    | "deque" | "Counter" => some .first
    | "OrderedDict" | "defaultdict" => some .two
    | _ => none
  | .known "collections.abc" n =>
    match n with
    | "MutableSequence" | "MutableSet" | "Set" | "Sequence" | "Iterable" | "Generator" =>
      some .first
    | "Mapping" | "MutableMapping" => some .two
    | "Callable" => some .any
    | _ => none
  | .known "re" "Pattern" => some .any
  | _ => none

/-- Classes of the language and its libraries whose values can be checked. -/
def isKnownType (c : ClassRef) : Bool :=
  (argumentsOf? c).isSome || c.metaclass = .enumeration || c = .baseModel
    || c = .known "typing" "Any" || c = .abstract "Hashable"
    || (c.home = "builtins" &&
      ["str", "bytes", "int", "float", "bool", "complex", "object", "NoneType"].contains c.name)

/-- The name of what a hint gives arguments to. -/
def subscriptedName : Hint → String
  | .generic origin _ => origin.qualifiedName
  | .applied n _ => ((Hint.genericOrigin? n).map (·.qualifiedName)).getD n
  | .literal _ => "Literal"
  | .callable .. => "Callable"
  | .required _ => "Required"
  | .notRequired _ => "NotRequired"
  | .unpack _ | .starred _ => "Unpack"
  | h => Hint.inner h

/-- A type whose subclasses are the values. -/
def checkClass (h : Hint) : TypeCheck :=
  match h with
  | .null | .cls _ | .typeVar .. => .ok ()
  | .generic .. | .applied .. | .literal _ | .callable .. | .required _ | .notRequired _
  | .unpack _ | .starred _ =>
    fail (raised "PydanticUserError" ("Subscripting `type[]` with an already parametrized type is "
      ++ "not supported. Instead of using type[" ++ Hint.inner h ++ "], use type["
      ++ subscriptedName h ++ "]."))
  | h => fail (raised "TypeError" ("Expected a class, got " ++ Hint.objectText h))

mutual

/-- A type whose subclasses are the values, or several of them. -/
def checkClasses : Hint → TypeCheck
  | .annotated h _ => checkClass h
  | .union args | .alternatives args => checkAllClasses args
  | h => checkClass h

def checkAllClasses : List Hint → TypeCheck
  | [] => .ok ()
  | h :: hs => do
    checkClasses h
    checkAllClasses hs

end

/-- The first check that fails, if one does. -/
def all : List TypeCheck → TypeCheck
  | [] => .ok ()
  | c :: cs => do
    c
    all cs

/-- Checks the arguments that a hint gives a class, by the checks of the single ones. -/
def ofArguments (whole : Hint) (origin : ClassRef) (args : List Hint)
    (checks : List TypeCheck) : TypeCheck :=
  match argumentsOf? origin with
  | none => unknownType whole
  | some .any => .ok ()
  | some .first => all (checks.take 1)
  | some .two =>
    if args.length = 1 then
      fail (raised "TypeError" ("Expected two type arguments for " ++ origin.shown ++ ", got 1"))
    else all (checks.take 2)
  | some .each =>
    match args.getLast? with
    | some .ellipsis =>
      if args.length = 2 then all (checks.take 1)
      else fail (raised "ValueError" "Variable tuples can only have one type")
    | _ => all checks
  | some .ofClass => all ((args.take 1).map checkClasses)

mutual

/-- Checks a type, with `onClass` for the described classes in it. -/
def check (onClass : ClassRef → TypeCheck) : Hint → TypeCheck
  | .null | .callable .. | .literal _ | .typeVar .. => .ok ()
  | .text _ | .forward .. => .error .unknownName
  | .annotated h _ => check onClass h
  | .newType _ _ _ h => check onClass h
  | .union args | .alternatives args => all (checkEach onClass args)
  | .cls c =>
    if c.identity?.isSome then onClass c
    else if isKnownType c then .ok () else unknownType (.cls c)
  | .form home n =>
    let isClass := ((Hint.genericOrigin? n).map isKnownType).getD false
    if isClass || n = "Self" || n = "Final" then .ok () else unknownType (.form home n)
  | .generic origin args =>
    ofArguments (.generic origin args) origin args (checkEach onClass args)
  | .applied n args =>
    match Hint.genericOrigin? n with
    | some origin => ofArguments (.applied n args) origin args (checkEach onClass args)
    | none =>
      if n = "Final" then all (checkEach onClass args) else unknownType (.applied n args)
  | h => unknownType h

def checkEach (onClass : ClassRef → TypeCheck) : List Hint → List TypeCheck
  | [] => []
  | h :: hs => check onClass h :: checkEach onClass hs

end

end TypeCheck

namespace Context

variable (ctx : Context)

/-- The hints that a class and its ancestors give their fields, with the classes that give them. -/
def givenHints (c : ClassInfo) : List (ClassInfo × String × Hint) :=
  (ctx.described c).reverse.flatMap fun a => a.annotations.pairs.map (a, ·)

/-- The hints of the fields of a data class, with the classes that give them. -/
def dataHints (c : ClassInfo) (fields : Dict DataField) : List (ClassInfo × String × Hint) :=
  (ctx.givenHints c).filter fun (a, n, _) =>
    (ctx.dataFields? a).isSome && (fields.get? n).any (·.isMember)

def typedDictVersion : TypeCheck :=
  TypeCheck.ofExcept (modelError ("Please use `typing_extensions.TypedDict` instead of "
    ++ "`typing.TypedDict` on Python < 3.12.") "typed-dict-version")

/-- Checks a described class by its fields, for a model that is being made. `entered` holds the
classes on the way to it, and `fuel` bounds the number of those that can still be met. -/
def checkClass (model : ClassInfo) : (fuel : Nat) → (entered : List Nat) → ClassRef → TypeCheck
  | 0, _, _ => .ok ()
  | fuel + 1, entered, ref =>
    match if ref = model.ref then some model else ctx.info? ref with
    | none => .ok ()
    | some c =>
      if entered.contains c.identity then .ok ()
      else
        let onClass := checkClass model fuel (c.identity :: entered)
        let field (inDictionary : Bool) (x : ClassInfo × String × Hint) : TypeCheck := do
          match ← TypeCheck.ofExcept ((ctx.modelScope model x.1).known? x.2.2) with
          | none => .error .unknownName
          | some h =>
            let t ← TypeCheck.ofExcept (Hint.fieldType inDictionary h h)
            TypeCheck.check onClass t.type
        match c.model, c.keys, ctx.dataFields? c with
        | some m, _, _ =>
          TypeCheck.all (m.fields.pairs.map fun (name, f) => match f.pending with
            | none => TypeCheck.check onClass f.type
            | some h => field false (c, name, h))
        | none, some _, _ =>
          if c.metaclass = .typedDict "typing" then typedDictVersion
          else TypeCheck.all (c.annotations.pairs.map fun x => field true (c, x))
        | none, none, dataFields? =>
          if ctx.isNamedTuple c then TypeCheck.all ((ctx.givenHints c).map (field false))
          else if c.enumeration.isSome then .ok ()
          else match dataFields? with
            | some fields => TypeCheck.all ((ctx.dataHints c fields).map (field false))
            | none => TypeCheck.unknownType c.hint

/-- Checks the types of a model's fields. A name that is not known yet counts as no fault. -/
def checkModel (model : ClassInfo) : Except Failure Unit :=
  match ctx.checkClass model (ctx.classes.length + 2) [] model.ref with
  | .ok _ | .error .unknownName => .ok ()
  | .error (.failed e) => .error e

end Context

end CallSchema
