import CallSchema.Class

/-!
The bases of a class as they are written: the classes that they stand for, and how they name the
type variables of a generic class.
-/

namespace CallSchema

namespace ClassRef

/-- The base of classes that take type variables. -/
def generic : ClassRef := known "typing" "Generic"

/-- Whether a name that is no class stands for what makes classes of a kind. -/
def isMaker (c : ClassRef) : Bool :=
  c = known "typing" "NamedTuple" || c = known "typing" "TypedDict"
    || c = known "typing_extensions" "TypedDict"

end ClassRef

namespace Hint

/-- Why an object that is no class cannot be a base of the class with the name given. -/
def baseFault (className : String) (h : Hint) : Failure :=
  let plain (message : String) : Failure := raised "TypeError" message
  match h with
  | null => plain "NoneType takes no arguments"
  | ellipsis => plain "EllipsisType takes no arguments"
  | text _ => plain "str() argument 'encoding' must be str, not tuple"
  | constant (.bytes _) => plain "bytes() argument 'encoding' must be str, not tuple"
  | constant (.number (.int _)) => plain "int() takes at most 2 arguments (3 given)"
  | package _ => plain "module() takes at most 2 arguments (3 given)"
  | object "function" _ => plain "function() argument 'code' must be code, not str"
  | typeVar _ shown =>
    plain ("TypeVar(name, constraint, ...): constraints must be types. Got (" ++ shown ++ ",).")
  | newType _ _ n _ =>
    plain ("Cannot subclass an instance of NewType. Perhaps you were looking for: `" ++ className
      ++ " = NewType(" ++ Text.quoted className ++ ", " ++ n ++ ")`")
  | annotated .. => plain "_GenericAlias.__init__() takes 3 positional arguments but 4 were given"
  | form .. | applied .. | union _ | literal _ | required _ | notRequired _ | unpack _
  | starred _ => plain ("Cannot subclass " ++ inner h)
  | h =>
    match kindName h with
    | "list" | "dict" | "bool" | "float" | "tuple" =>
      plain (kindName h ++ " expected at most 1 argument, got 3")
    | "UnionType" => plain "cannot create 'types.UnionType' instances"
    | kind => plain ("cannot create '" ++ kind ++ "' instances")

/-- Whether an object is a special name that takes arguments, alone or with some. -/
def isSpecial : Hint → Bool
  | form _ n => (genericOrigin? n).isSome
  | applied .. | union _ | literal _ | annotated .. | required _ | notRequired _ | unpack _
  | starred _ | callable .. => true
  | _ => false

/-- Whether a base is the class itself. -/
def isClass (c : ClassRef) : Hint → Bool
  | cls c' => c == c'
  | _ => false

/-- The class that a special name stands for. -/
def specialOrigin? : Hint → Option ClassRef
  | form _ n | applied n _ => genericOrigin? n
  | callable .. => genericOrigin? "Callable"
  | _ => none

mutual

/-- The type variables in a hint. -/
def typeVariables : Hint → List Hint
  | typeVar identity shown => [typeVar identity shown]
  | generic _ args | applied _ args | union args | alternatives args => typeVariablesOfAll args
  | annotated h _ | required h | notRequired h | unpack h | starred h => typeVariables h
  | callable none result => typeVariables result
  | callable (some params) result => typeVariablesOfAll params ++ typeVariables result
  | _ => []

def typeVariablesOfAll : List Hint → List Hint
  | [] => []
  | h :: hs => typeVariables h ++ typeVariablesOfAll hs

end

end Hint

namespace Context

/-- Whether one of the bases that follow brings `Generic` along. -/
def bringsGeneric (ctx : Context) : List Hint → Except Failure Bool
  | [] => .ok false
  | h :: hs =>
    if h.isSpecial then .ok true
    else match h with
      | .cls c =>
        if c.isMaker then Hint.typeError "issubclass() arg 1 must be a class"
        else if (ctx.lineage c).contains .generic then .ok true
        else bringsGeneric ctx hs
      | .generic origin _ =>
        if (ctx.lineage origin).contains .generic then .ok true else bringsGeneric ctx hs
      | _ => Hint.typeError "issubclass() arg 1 must be a class"

/-- The classes that one of the bases stands for. `later` are the bases after it. -/
def classesOf (ctx : Context) (className : String) (bases later : List Hint) (h : Hint) :
    Except Failure (List ClassRef) :=
  match h with
  | .cls c | .annotated (.cls c) _ => .ok [c]
  | .generic origin _ => .ok [origin]
  | .applied "Generic" _ =>
    if bases.any (Hint.isClass (.known "typing" "Protocol"))
        || later.any (fun b => b.isSpecial && !b.eqv h) then .ok []
    else .ok [.generic]
  | h =>
    match h.specialOrigin?, h with
    | some origin, _ => do
      let own := if bases.any (Hint.isClass origin) then [] else [origin]
      if ← ctx.bringsGeneric later then .ok own else .ok (own ++ [.generic])
    | none, .applied n _ =>
      if Hint.typingClasses.contains n then .ok [.known "typing" n]
      else .error (Hint.baseFault className h)
    | none, _ => .error (Hint.baseFault className h)

/-- The classes that bases stand for. -/
def baseClasses (ctx : Context) (className : String) (bases : List Hint) :
    (left : List Hint) → Except Failure (List ClassRef)
  | [] => .ok []
  | h :: later => do
    let here ← ctx.classesOf className bases later h
    .ok (here ++ (← baseClasses ctx className bases later))

/-- Checks how the bases of a class whose ancestors are given name type variables. -/
def checkVariables (bases : List Hint) (ancestors : List ClassRef) (isTypedDict : Bool) :
    Except Failure Unit := do
  let isPlain (h : Hint) : Bool := match h with
    | .cls c => !c.isMaker
    | _ => false
  let arePlain := bases.all isPlain
  let listed := bases.filterMap fun
    | .applied "Generic" args => some args
    | _ => none
  if ancestors.contains .generic then
    if bases.any (Hint.isClass .generic) && !(arePlain && isTypedDict) then
      Hint.typeError "Cannot inherit from plain Generic"
    match listed with
    | [] => pure ()
    | [args] =>
      match (Hint.dedup (Hint.typeVariablesOfAll bases)).filter fun v => !args.any v.eqv with
      | [] => pure ()
      | missing =>
        let shown (vs : List Hint) : String := ", ".intercalate (vs.map Hint.inner)
        Hint.typeError ("Some type variables (" ++ shown missing ++ ") are not listed in Generic["
          ++ shown args ++ "]")
    | _ => Hint.typeError "Cannot inherit from Generic[...] multiple times."

end Context

end CallSchema
