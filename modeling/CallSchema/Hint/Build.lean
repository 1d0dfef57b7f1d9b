import CallSchema.Hint.Describe
import CallSchema.Hint.Equality
import CallSchema.Hint.Known
import CallSchema.Hint.Parser

/-!
Building hints from their parts: what stands as an argument is checked, unions are flattened, and
equal members and repeated literals are dropped.
-/

namespace CallSchema.Hint

def typeError {α : Type} (message : String) : Except Failure α :=
  .error (raised "TypeError" message)

/-- A text as a reference to be evaluated later. The text must be an expression. -/
def forwardOf (source : String) (home : Option String) : Except Failure Hint :=
  if source.isEmpty then .error (raised "IndexError" "string index out of range")
  else match HintExpr.parse? source with
    | some _ => .ok (forward source home)
    | none =>
      .error (raised "SyntaxError"
        ("Forward reference must be an expression -- got " ++ Text.quoted source))

/-- A text becomes a reference, and `None` its class. -/
def converted (home : Option String) : Hint → Except Failure Hint
  | null => .ok noneType
  | text s => forwardOf s home
  | h => .ok h

/-- Where a hint stands. A field of a class takes more than an argument does. -/
inductive Standing
  | argument
  | field
  deriving DecidableEq, Repr

/-- Whether a special name says how a name may be used, and not what it holds. -/
def isQualifierName (n : String) : Bool := n = "ClassVar" || n = "Final"

/-- Special names whose uses with arguments are no types. -/
def isOutermost (standing : Standing) (n : String) : Bool :=
  n = "Generic" || n = "Protocol" || (standing = .argument && isQualifierName n)

def notArgument {α : Type} (h : Hint) : Except Failure α :=
  typeError (inner h ++ " is not valid as type argument")

/-- A hint that may stand where it does. -/
def checkedAs (standing : Standing) (home : Option String) (h : Hint) : Except Failure Hint := do
  match ← converted home h with
  | applied name args =>
    if isOutermost standing name then notArgument (applied name args) else .ok (applied name args)
  | annotated (form where' name) metadata =>
    if isOutermost standing name then notArgument (annotated (form where' name) metadata)
    else .ok (annotated (form where' name) metadata)
  | form where' name =>
    if completeForms.contains name || (standing = .field && isQualifierName name)
        || !specialForms.contains name then
      .ok (form where' name)
    else typeError ("Plain " ++ inner (form where' name) ++ " is not valid as type argument")
  | cls c =>
    if c = .known "typing" "Generic" || c = .known "typing" "Protocol" then
      typeError ("Plain " ++ objectText (cls c) ++ " is not valid as type argument")
    else .ok (cls c)
  | h => .ok h

/-- A hint that may stand as an argument of another one. -/
def checked (home : Option String) (h : Hint) : Except Failure Hint := checkedAs .argument home h

/-- Refuses several hints where one is asked for; `message` says so. -/
def refuseTuple (message : String) : Hint → Except Failure Hint
  | tuple items =>
    let shown := String.ofList ((objectText (tuple items)).toList.take 100)
    typeError (message ++ " Got " ++ shown ++ ".")
  | h => .ok h

/-- An argument that is a single hint. -/
def checkedArg (message : String) (h : Hint) : Except Failure Hint := do
  refuseTuple message (← checked none h)

/-- A hint that notes may stand around. -/
def checkedForNotes : Hint → Except Failure Hint
  | applied name args =>
    if isQualifierName name then .ok (applied name args)
    else checkedAs .field none (applied name args)
  | h => do refuseTuple "Annotated[t, ...]: t must be a type." (← checkedAs .field none h)

def checkedAll (message : String) (hs : List Hint) : Except Failure (List Hint) :=
  hs.mapM (checkedArg message)

/-- The members of a union, or the hint itself. -/
def flattened : Hint → List Hint
  | union args | alternatives args => args
  | h => [h]

/-- What the arguments of a union must be. -/
def unionArgument : String := "Union[arg, ...]: each arg must be a type."

/-- The union of hints; one of a single member is that member. -/
def unionOf (hs : List Hint) : Except Failure Hint := do
  if hs.isEmpty then typeError "Cannot take a Union of no types."
  match ← dedupChecked ((← checkedAll unionArgument hs).flatMap flattened) with
  | [h] => .ok h
  | members => .ok (union members)

/-- Whether a hint can be joined by a bar to others of its like: classes and `None`. -/
def isClassLike : Hint → Bool
  | null | cls _ | generic .. | alternatives _ => true
  | _ => false

/-- Whether a bar beside a hint makes a union of it. -/
def joinsAnything : Hint → Bool
  | form home _ => !home.isEmpty
  | applied .. | union _ | literal _ | annotated .. | required _ | notRequired _ | unpack _
  | starred _ | callable .. | typeVar .. | newType .. | forward .. => true
  | _ => false

/-- The word for the kind of an operand. -/
def operandName : Hint → String
  | form "" _ => "type"
  | generic .. => "types.GenericAlias"
  | alternatives _ => "types.UnionType"
  | h => kindName h

def operandError {α : Type} (operator : Char) (a b : Hint) : Except Failure α :=
  typeError ("unsupported operand type(s) for " ++ String.singleton operator ++ ": '"
    ++ operandName a ++ "' and '" ++ operandName b ++ "'")

/-- Two hints with a bar between them. -/
def either (a b : Hint) : Except Failure Hint :=
  if joinsAnything a || joinsAnything b then unionOf [a, b]
  else if isClassLike a && isClassLike b then
    match a, b with
    | null, null => operandError '|' a b
    | _, _ => do
      let asClass (h : Hint) : List Hint := match h with
        | null => [noneType]
        | alternatives args => args
        | h => [h]
      match ← dedupChecked (asClass a ++ asClass b) with
      | [h] => .ok h
      | members => .ok (alternatives members)
  else match a, b with
    | constant (.number (.int (.ofNat m))), constant (.number (.int (.ofNat n))) =>
      .ok (constant (.number (.int (.ofNat (m ||| n)))))
    | a, b => operandError '|' a b

def attributeError {α : Type} (owner n : String) : Except Failure α :=
  .error (raised "AttributeError" (owner ++ " has no attribute '" ++ n ++ "'"))

/-- Notes around a hint that has notes already are put after them. What comes from no module takes
no notes. -/
def annotate (h : Hint) (metadata : List Value) : Except Failure Hint :=
  match h with
  | annotated h' earlier => .ok (annotated h' (earlier ++ metadata))
  | ellipsis | constant _ | listing _ =>
    attributeError ("'" ++ kindName h ++ "' object") "__module__"
  | package path => attributeError ("module '" ++ path ++ "'") "__module__"
  | h => .ok (annotated h metadata)

/-- The literal of constants, without repeats. -/
def literalOf (values : List Value) : Hint := literal (Value.distinct values)

/-- One argument, and no others. -/
def single (message : String) : List Hint → Except Failure Hint
  | [h] => checkedArg message h
  | hs =>
    let shown := "(" ++ ", ".intercalate (hs.map objectText) ++ ")"
    typeError (message ++ " Got " ++ String.ofList (shown.toList.take 100) ++ ".")

def notSubscriptable {α : Type} (name : String) : Except Failure α :=
  typeError ("type '" ++ name ++ "' is not subscriptable")

/-- Checks the number of arguments of what is shown by a text. -/
def checkCount (shown : String) (count : Nat) (args : List Hint) : Except Failure Unit :=
  if count = 0 then typeError (shown ++ " is not a generic class")
  else if args.length = count then .ok ()
  else
    typeError ("Too " ++ (if count < args.length then "many" else "few") ++ " arguments for "
      ++ shown ++ "; actual " ++ toString args.length ++ ", expected " ++ toString count)

/-- Arguments of a special name with a fixed number of them. -/
def generalArgs (name : String) (count : Nat) (args : List Hint) :
    Except Failure (List Hint) := do
  let args ← checkedAll "Parameters to generic types must be types." args
  checkCount ("typing." ++ name) count args
  .ok args

/-- A function type of special names. -/
def callableOf : List Hint → Except Failure Hint
  | [params, result] => do
    let result ← checkedArg "Callable[args, result]: result must be a type." result
    match params with
    | listing [ellipsis] | ellipsis => .ok (callable none result)
    | listing hs => .ok (callable (some (← hs.mapM (converted none))) result)
    | h => .ok (callable (some [← converted none h]) result)
  | _ => typeError "Callable must be used as Callable[[arg, ...], result]."

/-- A function type made of the class of functions. -/
def abstractCallableOf (origin : ClassRef) : List Hint → Except Failure Hint
  | [params, result] =>
    match params with
    | listing hs | tuple hs => .ok (generic origin (hs ++ [result]))
    | ellipsis | applied "Concatenate" _ => .ok (generic origin [params, result])
    | h =>
      typeError ("Expected a list of types, an ellipsis, ParamSpec, or Concatenate. Got "
        ++ objectText h)
  | _ => typeError "Callable must be used as Callable[[arg, ...], result]."

/-- The parameters that some arguments come before. -/
def concatenateOf (args : List Hint) : Except Failure Hint := do
  match args.getLast? with
  | none => typeError "Cannot take a Concatenate of no types."
  | some ellipsis => do
    let args ← checkedAll "Concatenate[arg, ...]: each arg must be a type." args.dropLast
    .ok (applied "Concatenate" (args ++ [ellipsis]))
  | some _ =>
    typeError "The last parameter to Concatenate should be a ParamSpec variable or ellipsis."

/-- A special name with arguments. -/
def subscriptForm (home name : String) (args : List Hint) : Except Failure Hint :=
  match name with
  | "Union" => unionOf args
  | "Optional" => do
    unionOf [← single "typing.Optional requires a single type." args, noneType]
  | "Literal" => .ok (literalOf (args.flatMap toLiterals))
  | "Required" => required <$> single "Required accepts only a single type." args
  | "NotRequired" => notRequired <$> single "NotRequired accepts only a single type." args
  | "Unpack" =>
    if home = "typing" then
      starred <$> single "typing.Unpack accepts only single type." args
    else unpack <$> single "Unpack accepts only a single type." args
  | "ClassVar" | "Final" | "TypeGuard" => do
    .ok (applied name [← single ("typing." ++ name ++ " accepts only single type.") args])
  | "Concatenate" => concatenateOf args
  | "Intersection" =>
    if args.isEmpty then typeError "Intersection needs at least one type"
    else .ok (intersection args)
  | "Tuple" =>
    let several := "Tuple[t0, t1, ...]: each t must be a type."
    match args with
    | _ :: _ :: _ => do
      match args.getLast? with
      | some ellipsis =>
        let args ← checkedAll "Tuple[t, ...]: t must be a type." args.dropLast
        .ok (applied name (args ++ [ellipsis]))
      | _ => .ok (applied name (← checkedAll several args))
    | args => do .ok (applied name (← checkedAll several args))
  | "Callable" => callableOf args
  | _ =>
    match genericForms.lookup name with
    | some (_, some count) => do .ok (applied name (← generalArgs name count args))
    | _ => typeError (inner (form home name) ++ " is not subscriptable")

def isTypeVar : Hint → Bool
  | typeVar .. => true
  | _ => false

/-- The bases of generic classes take type variables only, and each once. -/
def genericBaseOf (name : String) (args : List Hint) : Except Failure Hint := do
  let args ← args.mapM (converted none)
  if args.isEmpty then typeError ("Parameter list to " ++ name ++ "[...] cannot be empty")
  else if !args.all isTypeVar then
    typeError ("Parameters to " ++ name
      ++ "[...] must all be type variables or parameter specification variables.")
  else if (dedup args).length != args.length then
    typeError ("Parameters to " ++ name ++ "[...] must all be unique")
  else .ok (applied name args)

/-- A class among the special names, with arguments. -/
def subscriptTypingClass (name : String) (args : List Hint) : Except Failure Hint :=
  match name with
  | "Annotated" =>
    match args with
    | h :: note :: notes => do annotate (← checkedForNotes h) ((note :: notes).map toNote)
    | _ =>
      typeError ("Annotated[...] should be used with at least two arguments (a type and an "
        ++ "annotation).")
  | "Generic" | "Protocol" => genericBaseOf name args
  | _ =>
    match parametrizedClasses.lookup name with
    | some count => do
      let args ← args.mapM (converted none)
      checkCount (objectText (cls (.known "typing" name))) count args
      .ok (applied name args)
    | none => notSubscriptable name

/-- A hint with arguments in brackets. Arguments in a pair of parentheses are the same ones. -/
def subscript (h : Hint) (args : List Hint) : Except Failure Hint :=
  let args := match args with
    | [tuple hs] => hs
    | hs => hs
  match h with
  | cls (.known "typing" name) => subscriptTypingClass name args
  | cls (.known "collections.abc" "Callable") => abstractCallableOf (.abstract "Callable") args
  | cls c =>
    let takesArgs := match c with
      | .known "builtins" name => builtinGenerics.contains name
      | .known "collections.abc" name => !(["Hashable", "Sized"].contains name)
      | .known "collections" _ => true
      | _ => false
    if takesArgs then .ok (generic c args) else notSubscriptable c.name
  | form home name => subscriptForm home name args
  | applied .. | generic .. | union _ | alternatives _ | literal _ | annotated .. | required _
  | notRequired _ | unpack _ | starred _ | callable .. =>
    typeError (inner h ++ " is not a generic class")
  | h => typeError ("'" ++ kindName h ++ "' object is not subscriptable")

/-- An intersection cannot be called, although other hints can. -/
def checkCall : Hint → Except Failure Unit
  | intersection _ => typeError "Cannot instantiate an intersection type"
  | _ => .ok ()

end CallSchema.Hint
