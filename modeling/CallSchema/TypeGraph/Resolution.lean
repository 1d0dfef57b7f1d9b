import CallSchema.Warning

/-!
Runs of a resolver. A resolver keeps the identities of the types that it is resolving, and each step
of its work finds them as the step before left them, whether that one failed or not.
-/

namespace CallSchema

/-- A call to resolve a type. -/
structure Call (τ ι : Type) where
  /-- How many calls of the run it is made inside of. -/
  level : Nat
  /-- The identities in progress when it is made, the last one first. -/
  inProgress : List ι
  type : τ

/-- The same call, with `n` more calls around it. -/
def Call.inside {τ ι : Type} (n : Nat) (c : Call τ ι) : Call τ ι := { c with level := n + c.level }

/-- What comes of a step. The calls are kept to tell what the step did; no answer depends on
them. -/
structure Resolution (τ ι α : Type) where
  outcome : Outcome α
  /-- The identities in progress afterwards. -/
  inProgress : List ι
  calls : List (Call τ ι)

/-- A step of a resolver, from the identities in progress before it. -/
def Resolving (τ ι α : Type) := List ι → Resolution τ ι α

namespace Resolving

variable {τ ι α β : Type}

/-- A step that only gives an answer. -/
def answer (o : Outcome α) : Resolving τ ι α := fun s => ⟨o, s, []⟩

def bind (x : Resolving τ ι α) (f : α → Resolving τ ι β) : Resolving τ ι β := fun s =>
  let first := x s
  match first.outcome.value with
  | .ok a =>
    let next := f a first.inProgress
    ⟨⟨first.outcome.warnings ++ next.outcome.warnings, next.outcome.value⟩, next.inProgress,
      first.calls ++ next.calls⟩
  | .error e => ⟨⟨first.outcome.warnings, .error e⟩, first.inProgress, first.calls⟩

instance : Monad (Resolving τ ι) where
  pure a := answer (pure a)
  bind := bind

instance : MonadLift Outcome (Resolving τ ι) where
  monadLift := answer

/-- The identities in progress. -/
def inProgress : Resolving τ ι (List ι) := fun s => ⟨.ok s, s, []⟩

/-- Takes a step with an identity put in progress, and drops the last one put there when the step
has ended, also if it failed. -/
def during (key : ι) (x : Resolving τ ι α) : Resolving τ ι α := fun s =>
  let run := x (key :: s)
  { run with inProgress := run.inProgress.tail }

/-- Takes a step as a call to resolve a type. -/
def called (t : τ) (x : Resolving τ ι α) : Resolving τ ι α := fun s =>
  let run := x s
  { run with calls := ⟨0, s, t⟩ :: run.calls.map (Call.inside 1) }

section Lemmas

variable {x : Resolving τ ι α} {f : α → Resolving τ ι β} {s : List ι}

theorem outcome_bind :
    ((x >>= f) s).outcome = (x s).outcome >>= fun a => (f a (x s).inProgress).outcome := by
  change (bind x f s).outcome = Outcome.bind _ _
  cases h : (x s).outcome.value <;> simp [bind, Outcome.bind, h]

theorem mem_calls_bind {c : Call τ ι} :
    c ∈ ((x >>= f) s).calls ↔ c ∈ (x s).calls ∨
      ∃ a, (x s).outcome.value = .ok a ∧ c ∈ (f a (x s).inProgress).calls := by
  change c ∈ (bind x f s).calls ↔ _
  cases h : (x s).outcome.value <;> simp [bind, h]

/-- Steps that leave in progress what they find do so one after another, even if one fails. -/
theorem inProgress_bind (hx : (x s).inProgress = s)
    (hf : ∀ a, (x s).outcome.value = .ok a → (f a s).inProgress = s) :
    ((x >>= f) s).inProgress = s := by
  change (bind x f s).inProgress = s
  cases h : (x s).outcome.value with
  | error e => simpa [bind, h] using hx
  | ok a => simpa [bind, h, hx] using hf a h

/-- Two sequences of steps run alike if their steps do. -/
theorem bind_congr {y : Resolving τ ι α} {k : α → Resolving τ ι β} (hx : x s = y s)
    (hf : ∀ a, (x s).outcome.value = .ok a → f a (x s).inProgress = k a (x s).inProgress) :
    (x >>= f) s = (y >>= k) s := by
  change bind x f s = bind y k s
  cases h : (x s).outcome.value with
  | error e => simp [bind, ← hx, h]
  | ok a => simp [bind, ← hx, h, hf a h]

end Lemmas

end Resolving

end CallSchema
