import CallSchema.Module
import CallSchema.Warning

/-!
Running a module: its statements one after another, with what they bind, define and warn of. What
was done before an exception stays done.
-/

namespace CallSchema

/-- Everything that statements change. -/
structure RunState where
  ctx : Context := {}
  warnings : List Warning := []
  /-- The bodies of the classes that are being made, the innermost first. -/
  bodies : List ClassBody := []
  deriving Inhabited

/-- A run that may end in a failure, and keeps its state then. -/
abbrev Run (α : Type) := ExceptT Failure (StateM RunState) α

namespace Run

def ofExcept {α : Type} (x : Except Failure α) : Run α :=
  match x with
  | .ok a => pure a
  | .error e => throw e

/-- Runs, and tells how it ended. -/
def attempt {α : Type} (x : Run α) : Run (Except Failure α) := fun s =>
  let (r, s) := x s
  (.ok r, s)

def warn (w : Warning) : Run Unit := modify fun s => { s with warnings := s.warnings ++ [w] }

def ofOutcome {α : Type} (o : Outcome α) : Run α := do
  o.warnings.forM warn
  ofExcept o.value

def bind (home name : String) (b : Binding) : Run Unit :=
  modify fun s => { s with ctx := s.ctx.bind home name b }

/-- The body of the class that is being made, if one is. -/
def body? : Run (Option ClassBody) := do pure (← get).bodies.head?

/-- Changes the body of the class that is being made. -/
def setBody (b : ClassBody) : Run Unit :=
  modify fun s => { s with bodies := b :: s.bodies.tail }

/-- Runs statements with other bodies around them, and puts the ones from before back. The innermost
body that is left is returned. -/
def withBodies (bodies : List ClassBody) (x : Run Unit) : Run (Option ClassBody) := do
  let before := (← get).bodies
  modify fun s => { s with bodies }
  let r ← attempt x
  let left ← body?
  modify fun s => { s with bodies := before }
  ofExcept r
  pure left

end Run

/-- Exceptions that are made with more than a text, with what is said of a text alone. -/
def argumentFaults : List (String × String) :=
  [("UnicodeDecodeError", "function takes exactly 5 arguments (1 given)"),
    ("UnicodeEncodeError", "function takes exactly 5 arguments (1 given)"),
    ("UnicodeTranslateError", "function takes exactly 4 arguments (1 given)"),
    ("BaseExceptionGroup", "BaseExceptionGroup.__new__() takes exactly 2 arguments (1 given)")]

/-- What comes up when the exception of a class is raised with a text. One about a key shows it in
quotes, and one that is no `Exception` asks the whole program to end. -/
def Context.exception (ctx : Context) (c : ClassRef) (text : String) : Fault :=
  let isKindOf (n : String) : Bool := (ctx.lineage c).contains (.builtin n)
  if !isKindOf "BaseException" then
    { kind := "TypeError", message := "exceptions must derive from BaseException" }
  else match argumentFaults.find? fun x => isKindOf x.1 with
    | some x => { kind := "TypeError", message := x.2 }
    | none =>
      { kind := c.name
        message := if isKindOf "KeyError" then Text.quoted text else text
        endsProgram := !isKindOf "Exception" }

/-- What comes up when an object is raised with a text. -/
def Context.raising (ctx : Context) (b : Binding) (text : String) : Failure :=
  match b with
  | .hint (.cls c) => .fault (ctx.exception c text)
  | _ => raised "TypeError" "exceptions must derive from BaseException"

/-- Where statements run: in which module, with which kind of hints, and how other modules are
loaded. -/
structure Place where
  home : String
  lateHints : Bool
  load : String → Run Unit

namespace Place

variable (place : Place)

/-- What a name is bound to: in the body of the class that is being made, in the module, or in the
language. -/
def lookup (name : String) : Run Binding := do
  let (name, own) ← match ← Run.body? with
    | some b => pure (b.mangled name, Keyed.get? b.names (b.mangled name))
    | none => pure (name, none)
  match own.or (Keyed.get? ((← get).ctx.namesOf place.home) name) with
  | some b => pure b
  | none => match Hint.builtinName? name with
    | some h => pure (.hint h)
    | none => throw (Hint.nameError name)

/-- The names that expressions can use. -/
def scope : Run Scope := do
  let scope := (← get).ctx.scopeOf place.home
  match ← Run.body? with
  | some b => pure { scope with names := b.names.toHints ++ scope.names }
  | none => pure scope

/-- Binds a name: in the body of the class that is being made, or in the module. -/
def bind (name : String) (b : Binding) : Run Unit := do
  match ← Run.body? with
  | some body => do Run.setBody (← Run.ofOutcome (body.set name b))
  | none => Run.bind place.home name b

def delete (name : String) : Run Unit := do
  match ← Run.body? with
  | some b => do
    let name := b.mangled name
    if !Keyed.has b.names name then throw (Hint.nameError name)
    Run.setBody { b with names := Keyed.erase b.names name }
  | none => do
    if !Keyed.has ((← get).ctx.namesOf place.home) name then throw (Hint.nameError name)
    modify fun s => { s with ctx := s.ctx.unbind place.home name }

/-- The hint that an expression is, kept as a text if hints are built late. -/
def hintOf (e : HintExpr) : Run Hint := do
  if place.lateHints then pure (.text e.source)
  else Run.ofExcept (Hint.build (← place.scope) e)

/-- What a field is bound to. -/
def defaultOf : FieldDefault → Run Binding
  | .value e => do pure (.hint (← Run.ofExcept (Hint.build (← place.scope) e)))
  | .spec default isMade description => do
    let scope ← place.scope
    let default ← Run.ofExcept (default.mapM (Hint.build scope))
    pure (.field { default, isMade, description })

/-- A field of the class that is being made: its default is bound before its hint is built. -/
def field (name : String) (hint : HintExpr) (default : Option FieldDefault) : Run Unit := do
  if let some d := default then place.bind name (← place.defaultOf d)
  let h ← place.hintOf hint
  if let some b := ← Run.body? then Run.setBody (b.annotate name h)

/-- Makes a module available. -/
def require (path : String) : Run Unit :=
  if Hint.packages.contains path then pure () else place.load path

def importNames (path : String) (names : List String) : Run Unit := do
  place.require path
  names.forM fun n => do
    match Keyed.get? ((← get).ctx.namesOf path) n, Hint.packageName? path n with
    | some b, _ => place.bind n b
    | none, some h => place.bind n (.hint h)
    | none, none =>
      throw (raised "ImportError"
        ("cannot import name " ++ Text.quoted n ++ " from " ++ Text.quoted path))

/-- Defines a class: its bases are looked up, the statements of its body run, and it is made of
both. -/
def defineClass (c : ClassDef) (body : Run Unit) : Run Unit := do
  let around := (← Run.body?).map (·.qualifiedName)
  let head ← Run.ofExcept (c.head (← get).ctx (← place.scope))
  let left ← Run.withBodies (c.body head around :: (← get).bodies) body
  let made ← Run.ofOutcome (c.make (← get).ctx place.home head (left.getD default))
  modify fun s => { s with ctx := s.ctx.addClass made }
  place.bind c.name (.hint made.hint)

/-- Defines a tuple with named fields. -/
def defineTuple (name : String) (fields : List String) : Run Unit := do
  let made ← Run.ofExcept (ClassInfo.bareTuple (← get).ctx place.home name fields)
  modify fun s => { s with ctx := s.ctx.addClass made }
  place.bind name (.hint made.hint)

mutual

def step : Statement → Run Unit
  | .define _ f => do
    let callable ← Run.ofExcept (f.define (← place.scope) place.lateHints)
    place.bind f.name (.callable callable)
  | .classDef c body => place.defineClass c (steps body)
  | .field name hint default => place.field name hint default
  | .bareTuple name fields => place.defineTuple name fields
  | .lambda _ names ps => do
    let f ← Run.ofExcept (Callable.ofLambda (← place.scope) ps)
    names.forM fun n => place.bind n (.callable f)
  | .assign name e => do
    place.bind name (.hint (← Run.ofExcept (Hint.build (← place.scope) e)))
  | .rebind name of => do place.bind name (← place.lookup of)
  | .delete name => place.delete name
  | .raise kind text => do
    let b ← place.lookup kind
    throw ((← get).ctx.raising b text)
  | .warn text => Run.warn (.notice text)
  | .importModule path => do
    place.require path
    place.bind path (.hint (.package path))
  | .importNames path names => place.importNames path names
  | .branch test body orelse => if test then steps body else steps orelse
  | .attempt body handler orelse final => do
    let r ← Run.attempt do
      match handler with
      | none => do
        steps body
        steps orelse
      | some handler => do
        match ← Run.attempt (steps body) with
        | .ok _ => steps orelse
        | .error _ => steps handler
    steps final
    Run.ofExcept r
  | .within body => steps body
  | .loop count body => (List.replicate count ()).forM fun _ => steps body

def steps : List Statement → Run Unit
  | [] => pure ()
  | s :: ss => do
    step s
    steps ss

end

end Place

end CallSchema
