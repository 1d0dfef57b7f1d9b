import CallSchema.DocumentedFunction
import CallSchema.Docstring.Reading
import CallSchema.Function
import CallSchema.Hint.Shared

/-!
Documented functions from callable objects: the parameters with the fragments of their hints, and
the descriptions of the documentation text.
-/

namespace CallSchema

/-- The name of functions whose own cannot be told. -/
def anonymousName : String := "anonymous"

def collapsed (s : String) : String := String.ofList (Text.collapse s.toList)

namespace Callable

/-- The name under which a callable object is registered. -/
def registeredName (f : Callable) (given : Option String) : String :=
  let name := match given with
    | some "" | none => f.name.getD ""
    | some n => n
  if name.isEmpty || name == lambdaName then anonymousName else name

/-- The evaluated hints: those of a class's fields, or those of the object itself. -/
def evaluatedHints (f : Callable) (ctx : Context) : Except Failure (List (String × Hint)) :=
  match f.ofClass.bind ctx.info? with
  | some c => do pure (← ctx.evaluatedHints c).pairs
  | none => f.annotations.mapM fun (name, h) => do
    pure (name, ← Hint.evaluate (ctx.scopeOf f.home) .argument h)

/-- The evaluated hints, or all of them as they stand and a warning if one cannot be evaluated. -/
def hints (f : Callable) (ctx : Context) : Outcome (List (String × Hint)) :=
  match f.evaluatedHints ctx with
  | .ok hs => .ok hs
  | .error e => do
    Outcome.warn (.functionHints (f.name.getD "") e.message)
    pure f.annotations

end Callable

/-- How questions about the classes and the types of a program are answered while a function is
documented. -/
structure Asking (m : Type → Type) where
  members : ClassInfo → m (List (Member Hint))
  resolveOptional : Hint → m (Fragment × Bool)

namespace Context

variable (ctx : Context)

/-- The typed dictionary whose fields stand for named arguments. -/
def unpackedFields? (h : Hint) : Option ClassInfo :=
  match h with
  | .unpack of | .starred of =>
    (ctx.classOf? of).filter fun c => c.keys.isSome
  | _ => none

/-- Descriptions by parameter. The last one of a name counts, and empty ones do not. -/
def paramTexts (d : Docstring) : List (String × String) :=
  Keyed.ofPairs (d.params.filterMap fun (name, text) =>
    match text with
    | some "" | none => none
    | some s => some (name, collapsed s))

/-- The first text that is there and not empty. -/
def firstText (texts : List (Option String)) : String :=
  (texts.findSome? fun t => t.filter (!·.isEmpty)).getD ""

/-- Keeps the first parameter of each name, and warns of the others. -/
def uniqueParams (function : String) : (seen : List String) → List Param → Outcome (List Param)
  | _, [] => pure []
  | seen, p :: ps =>
    if seen.contains p.name then do
      Outcome.warn (.repeatedParameter p.name function)
      uniqueParams function seen ps
    else do pure (p :: (← uniqueParams function (p.name :: seen) ps))

section Asking

variable {m : Type → Type} [Monad m] [MonadLiftT Outcome m] (asking : Asking m)

/-- One parameter for each field of a typed dictionary. -/
def fieldParamsWith (docs : List (String × String)) (c : ClassInfo) : m (List Param) := do
  let members ← asking.members c
  mapInOrder (fun (member : Member Hint) => do
    let (fragment, optional) ← asking.resolveOptional member.type
    pure
      { name := member.name, description := firstText [docs.lookup member.name, member.description],
        fragment, isOptional := member.isOptional || optional }) members

/-- The parameters that one parameter of a signature stands for. -/
def signatureParamsWith (docs : List (String × String)) (hints : List (String × Hint))
    (p : SignatureParam) : m (List Param) :=
  let hint := hints.lookup p.name
  if p.name == "self" || p.name == "cls" || p.kind == .rest then pure []
  else if p.kind == .keywords then
    match hint.bind ctx.unpackedFields? with
    | some c => fieldParamsWith asking docs c
    | none => pure []
  else do
    let (fragment, optional) ← match hint with
      | some h => asking.resolveOptional h
      | none => pure (Fragment.unknown none, false)
    pure
      [{ name := p.name, description := firstText [docs.lookup p.name, hint.bind Hint.note?],
         fragment, isOptional := p.hasDefault || optional }]

/-- A callable object as a documented function, under the name given or its own. -/
def documentWith (f : Callable) (given : Option String) : m DocumentedFunction := do
  let name := f.registeredName given
  let doc ← liftM (Outcome.ofExcept (Docstring.parse (Text.clean (f.doc.getD "").toList)))
  let notice := collapsed (doc.description.getD "")
  match f.params with
  | none => liftM (Outcome.ofExcept (DocumentedFunction.make notice name []))
  | some params => do
    let hints ← liftM (f.hints ctx)
    let found ← mapInOrder (ctx.signatureParamsWith asking (paramTexts doc) hints) params
    let unique ← liftM (uniqueParams name [] found.flatten)
    liftM (Outcome.ofExcept (DocumentedFunction.make notice name unique))

end Asking

/-- The questions answered with nothing kept. -/
def asking : Asking Outcome where
  members := ctx.members
  resolveOptional := ctx.resolveOptional

/-- The questions answered with what is kept of the classes. -/
def askingShared : Asking Sharing where
  members := ctx.sharedMembers
  resolveOptional := ctx.sharedResolveOptional

def fieldParams (docs : List (String × String)) (c : ClassInfo) : Outcome (List Param) :=
  fieldParamsWith ctx.asking docs c

def signatureParams (docs : List (String × String)) (hints : List (String × Hint))
    (p : SignatureParam) : Outcome (List Param) :=
  ctx.signatureParamsWith ctx.asking docs hints p

def document (f : Callable) (given : Option String) : Outcome DocumentedFunction :=
  ctx.documentWith ctx.asking f given

/-- A callable object as a documented function, with the hints of classes shared with others. -/
def documentShared (f : Callable) (given : Option String) : Sharing DocumentedFunction :=
  ctx.documentWith ctx.askingShared f given

/-- Documents callable objects one after another, each under the name given or its own. What is kept
after one, also after a failure, is kept for the next. -/
def session : List (Callable × Option String) → HintCache → List (Outcome DocumentedFunction)
  | [], _ => []
  | (f, given) :: calls, known =>
    let run := ctx.documentShared f given known
    run.1 :: session calls run.2

end Context

end CallSchema
