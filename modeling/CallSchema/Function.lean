import CallSchema.Class

/-!
Functions of Python programs: definitions, and the objects that they and their decorators make.
-/

namespace CallSchema

structure ParamDef where
  name : String
  kind : ParamKind := .positional
  hint : Option HintExpr := none
  default : Option HintExpr := none
  deriving Repr, Inhabited

namespace ParamDef

/-- The parameter as a signature tells of it. -/
def shown (p : ParamDef) : SignatureParam := ⟨p.name, p.kind, p.default.isSome⟩

/-- The parameters of a signature. Their defaults are built, one after another. -/
def signature (ps : List ParamDef) (scope : Scope) : Except Failure (List SignatureParam) := do
  let _ ← (ps.filterMap (·.default)).mapM (Hint.build scope)
  pure (ps.map shown)

end ParamDef

inductive Decorator
  /-- A wrapper that points to what it wraps. -/
  | traced
  /-- A wrapper that does not. -/
  | bare
  /-- An object that can be called but has no signature and no name. -/
  | toObject
  deriving DecidableEq, Repr, Inhabited

structure FunctionDef where
  name : String
  params : List ParamDef := []
  doc : Option String := none
  returns : Option HintExpr := none
  /-- The decorators, the outermost first. -/
  decorators : List Decorator := []
  deriving Repr, Inhabited

namespace FunctionDef

/-- The parameters with hints in the order in which their hints are kept. -/
def hinted (ps : List ParamDef) : List ParamDef :=
  [ParamKind.positional, .positionalOnly, .rest, .keywordOnly, .keywords].flatMap fun k =>
    ps.filter fun p => p.kind == k && p.hint.isSome

/-- The hints of a definition: built, or left as texts. -/
def annotations (d : FunctionDef) (scope : Scope) (asText : Bool) :
    Except Failure (List (String × Hint)) :=
  let exprs := (hinted d.params).filterMap (fun p => p.hint.map (p.name, ·))
    ++ (d.returns.map ("return", ·)).toList
  exprs.mapM fun (name, e) => do
    pure (name, ← if asText then pure (Hint.text e.source) else Hint.build scope e)

/-- What a decorator makes of a callable object. Wrappers that point to what they wrap are looked
through wherever a callable is read, so they leave it as it is. -/
def decorate (f : Callable) : Decorator → Callable
  | .traced => f
  | .bare =>
    { name := some "wrapper", home := f.home, doc := none,
      params := some [⟨"args", .rest, false⟩, ⟨"kwargs", .keywords, false⟩], annotations := [] }
  | .toObject => { f with name := none, params := none, annotations := [] }

/-- The callable object that a definition makes. -/
def define (d : FunctionDef) (scope : Scope) (asText : Bool) : Except Failure Callable := do
  let params ← ParamDef.signature d.params scope
  let f : Callable :=
    { name := some d.name, home := scope.home, doc := d.doc, params := some params,
      annotations := ← d.annotations scope asText }
  pure (d.decorators.foldr (fun decorator f => decorate f decorator) f)

end FunctionDef

/-- A function without a name of its own, and without hints. -/
def Callable.ofLambda (scope : Scope) (ps : List ParamDef) : Except Failure Callable := do
  pure
    { name := some lambdaName, home := scope.home, doc := none,
      params := some (← ParamDef.signature ps scope), annotations := [] }

end CallSchema
