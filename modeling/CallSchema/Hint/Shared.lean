import CallSchema.Hint.Graph

/-!
Questions about hints that share what they find. The hints of a class are evaluated when they are
first asked for, and kept for all questions that follow.
-/

namespace CallSchema

/-- The hints of the classes that have been asked about. -/
abbrev HintCache := List (ClassRef × Dict Hint)

/-- A computation that shares the hints of classes with others. What it has kept stays kept when it
fails. -/
def Sharing (α : Type) := HintCache → Outcome α × HintCache

namespace Sharing

variable {α β : Type}

/-- A computation that asks for the hints of no class. -/
def answer (o : Outcome α) : Sharing α := fun known => (o, known)

def bind (x : Sharing α) (f : α → Sharing β) : Sharing β := fun known =>
  let (first, known) := x known
  match first.value with
  | .ok a =>
    let (next, known) := f a known
    (⟨first.warnings ++ next.warnings, next.value⟩, known)
  | .error e => (⟨first.warnings, .error e⟩, known)

instance : Monad Sharing where
  pure a := answer (pure a)
  bind := bind

instance : MonadLift Outcome Sharing where
  monadLift := answer

/-- What comes of a computation if nothing is kept before it. -/
def alone (x : Sharing α) : Outcome α := (x []).1

end Sharing

/-- A field of a model by its name. -/
def ModelInfo.field (m : ModelInfo) (name : String) : Outcome ModelField :=
  match m.fields.get? name with
  | some f => pure f
  | none => .fail (raised "KeyError" (Text.quoted name))

namespace Context

variable (ctx : Context)

/-- The hints of a class's fields: those that are kept, or else the evaluated ones, which are kept
from then on. Hints that cannot be evaluated are kept as they stand. -/
def sharedHints (c : ClassInfo) : Sharing (Dict Hint) := fun known =>
  match known.lookup c.ref with
  | some hints => (.ok hints, known)
  | none =>
    let found := ctx.fieldHints c
    match found.value with
    | .ok hints => (found, (c.ref, hints) :: known)
    | .error _ => (found, known)

/-- The names of the members of a class, in declaration order. -/
def sharedMemberNames (c : ClassInfo) : Sharing (List String) :=
  match c.model, ctx.dataFields? c with
  | some m, _ => pure (m.fields.pairs.map (·.1))
  | none, some fields => pure ((fields.pairs.filter (·.2.isMember)).map (·.1))
  | none, none =>
    if c.keys.isSome || ctx.isNamedTuple c then do
      pure ((← ctx.sharedHints c).pairs.map (·.1))
    else pure []

/-- The type of a member; one without a hint can be anything. -/
def sharedMemberType (c : ClassInfo) (name : String) : Sharing Hint :=
  match c.model with
  | some m => do pure (← m.field name).type
  | none => do pure (((← ctx.sharedHints c).get? name).getD Hint.anyHint)

/-- Whether a member may be left out. -/
def sharedIsOptional (c : ClassInfo) (name : String) : Sharing Bool :=
  match c.model, c.keys with
  | some m, _ => do pure (← m.field name).hasDefault
  | none, some keys =>
    if keys.optional.contains name then pure true
    else do pure ((((← ctx.sharedHints c).get? name).map Hint.isNotRequired).getD false)
  | none, none => pure (ctx.isOptionalMember c name Hint.anyHint)

/-- The description of a member. -/
def sharedDescription (c : ClassInfo) (name : String) : Sharing (Option String) :=
  match c.model with
  | some m => do pure (← m.field name).description
  | none => do pure (((← ctx.sharedHints c).get? name).bind noteOf)

/-- A member of a class, each part of it asked for by itself. -/
def sharedMember (c : ClassInfo) (name : String) : Sharing (Member Hint) := do
  let type ← ctx.sharedMemberType c name
  let isOptional ← ctx.sharedIsOptional c name
  let description ← ctx.sharedDescription c name
  pure { name, type, isOptional, description }

/-- The members of a class, in declaration order. -/
def sharedMembers (c : ClassInfo) : Sharing (List (Member Hint)) := do
  mapInOrder (ctx.sharedMember c) (← ctx.sharedMemberNames c)

/-- The members of the class that a hint is. -/
def sharedMembersOf (h : Hint) : Sharing (List (Member Hint)) :=
  match ctx.classOf? h.strip with
  | some c => ctx.sharedMembers c
  | none => pure []

/-- Resolves a hint and tells whether it allows absence. -/
def sharedResolveOptional (h : Hint) : Sharing (Fragment × Bool) :=
  ctx.graph.resolveOptionalWith (ctx.graph.resolvingWith ctx.sharedMembersOf (ctx.depth h) []) h

end Context

end CallSchema
