import CallSchema.Failure

/-!
Answers with warnings. A warning that was given stays given when the answer then fails.
-/

namespace CallSchema

/-- What is reported without stopping. -/
inductive Warning
  /-- A type that is reached again while it is being resolved. -/
  | recursiveType (description : String)
  /-- A type that no rule resolves. -/
  | unsupportedType (description : String)
  /-- A class, told by its identity, whose field hints cannot be evaluated. -/
  | classHints (identity : Nat) (name reason : String)
  /-- A function whose parameter hints cannot be evaluated. -/
  | functionHints (name reason : String)
  /-- A second parameter of one name. -/
  | repeatedParameter (name function : String)
  /-- A warning of a program that is being read. -/
  | notice (text : String)
  deriving DecidableEq, Repr, Inhabited

def Warning.message : Warning → String
  | recursiveType description => "Recursive type: " ++ description ++ ". Treating as unknown."
  | unsupportedType description => "Unsupported type: " ++ description ++ ". Treating as unknown."
  | classHints _ name reason | functionHints name reason =>
    "Could not evaluate type hints of " ++ name ++ ": " ++ reason
  | repeatedParameter name function =>
    "Parameter " ++ Text.quoted name ++ " of " ++ function
      ++ " is declared twice; keeping the first."
  | notice text => text

/-- A value or a failure, with the warnings given on the way to it. -/
structure Outcome (α : Type) where
  warnings : List Warning
  value : Except Failure α

namespace Outcome

def ok {α : Type} (a : α) : Outcome α := ⟨[], .ok a⟩

def fail {α : Type} (e : Failure) : Outcome α := ⟨[], .error e⟩

def warn (w : Warning) : Outcome Unit := ⟨[w], .ok ()⟩

def ofExcept {α : Type} (value : Except Failure α) : Outcome α := ⟨[], value⟩

def bind {α β : Type} (x : Outcome α) (f : α → Outcome β) : Outcome β :=
  match x.value with
  | .ok a =>
    let next := f a
    ⟨x.warnings ++ next.warnings, next.value⟩
  | .error e => ⟨x.warnings, .error e⟩

instance : Monad Outcome where
  pure := ok
  bind := bind

instance : MonadExcept Failure Outcome where
  throw := fail
  tryCatch x handler :=
    match x.value with
    | .ok _ => x
    | .error e =>
      let next := handler e
      ⟨x.warnings ++ next.warnings, next.value⟩

variable {α β : Type}

theorem value_bind_eq_ok {x : Outcome α} {f : α → Outcome β} {b : β} :
    (x >>= f).value = .ok b ↔ ∃ a, x.value = .ok a ∧ (f a).value = .ok b := by
  change (bind x f).value = _ ↔ _
  cases h : x.value <;> simp [bind, h]

theorem mem_warnings_bind {x : Outcome α} {f : α → Outcome β} {w : Warning} :
    w ∈ (x >>= f).warnings ↔ w ∈ x.warnings ∨ ∃ a, x.value = .ok a ∧ w ∈ (f a).warnings := by
  change w ∈ (bind x f).warnings ↔ _
  cases h : x.value <;> simp [bind, h]

theorem value_pure_eq_ok {a b : α} : (pure a : Outcome α).value = .ok b ↔ a = b := by
  change Except.ok a = .ok b ↔ _
  simp

theorem bind_congr {x : Outcome α} {f k : α → Outcome β} (h : ∀ a, x.value = .ok a → f a = k a) :
    x >>= f = x >>= k := by
  change bind x f = bind x k
  cases hx : x.value with
  | error e => simp [bind, hx]
  | ok a => simp [bind, hx, h a hx]

theorem warnings_pure (a : α) : (pure a : Outcome α).warnings = [] := rfl

end Outcome

/-- The results of steps for the items of a list, one after another, up to the first failure. -/
def mapInOrder {m : Type → Type} [Monad m] {α β : Type} (f : α → m β) : List α → m (List β)
  | [] => pure []
  | a :: as => do
    let b ← f a
    let bs ← mapInOrder f as
    pure (b :: bs)

namespace Warning

/-- Leaves out what was said before about the hints of a class: they are evaluated once. `seen`
holds the classes that were reported; it is returned with those of the list. -/
def dropRepeated : (seen : List Nat) → List Warning → List Nat × List Warning
  | seen, [] => (seen, [])
  | seen, .classHints identity name reason :: ws =>
    if seen.contains identity then dropRepeated seen ws
    else
      let (seen, ws) := dropRepeated (identity :: seen) ws
      (seen, .classHints identity name reason :: ws)
  | seen, w :: ws =>
    let (seen, ws) := dropRepeated seen ws
    (seen, w :: ws)

/-- Keeps the first warning about the hints of each class. -/
def oncePerClass (ws : List Warning) : List Warning := (dropRepeated [] ws).2

end Warning

end CallSchema
