import Mathlib.Data.List.Forall2
import Mathlib.Tactic.Lemma

/-!
# Lists of steps that can fail

A list of steps succeeds if and only if each step does, with the results of the steps in order. It
fails as the first step that fails.
-/

namespace CallSchema

variable {ε α β γ : Type} {f : α → Except ε β} {a : α} {as : List α} {b : β} {bs : List β}

lemma exists_of_forall₂ {R : α → β → Prop} (h : List.Forall₂ R as bs) (ha : a ∈ as) :
    ∃ b ∈ bs, R a b := by
  induction h with
  | nil => cases ha
  | @cons x y as bs hxy _ ih =>
    rcases List.mem_cons.mp ha with rfl | ha
    · exact ⟨y, List.mem_cons_self, hxy⟩
    · obtain ⟨b, hb, hab⟩ := ih ha
      exact ⟨b, List.mem_cons_of_mem y hb, hab⟩

lemma map_eq_map_of_forall₂ {R : α → β → Prop} {g : β → γ} {k : α → γ} (h : List.Forall₂ R as bs)
    (hR : ∀ a b, R a b → g b = k a) : bs.map g = as.map k := by
  induction h with
  | nil => rfl
  | @cons a b as bs hab _ ih => rw [List.map_cons, List.map_cons, hR a b hab, ih]

lemma bind_eq_ok_iff {x : Except ε α} {f : α → Except ε β} :
    (x >>= f) = .ok b ↔ ∃ a, x = .ok a ∧ f a = .ok b := by
  cases x <;> simp [bind, Except.bind]

lemma bind_eq_error_iff {x : Except ε α} {f : α → Except ε β} {e : ε} :
    (x >>= f) = .error e ↔ x = .error e ∨ ∃ a, x = .ok a ∧ f a = .error e := by
  cases x <;> simp [bind, Except.bind]

lemma bind_pure_eq_ok_iff {x : Except ε α} {g : α → β} :
    (x >>= fun a => pure (g a)) = .ok b ↔ ∃ a, x = .ok a ∧ b = g a := by
  cases x <;> simp [bind, Except.bind, pure, Except.pure, eq_comm]

lemma bind_pure_eq_error_iff {x : Except ε α} {g : α → β} {e : ε} :
    (x >>= fun a => pure (g a)) = .error e ↔ x = .error e := by
  cases x <;> simp [bind, Except.bind, pure, Except.pure]

lemma mapM_cons_eq_ok_iff :
    (a :: as).mapM f = .ok (b :: bs) ↔ f a = .ok b ∧ as.mapM f = .ok bs := by
  rw [List.mapM_cons]
  cases f a with
  | error e => simp [bind, Except.bind]
  | ok b' =>
    cases as.mapM f with
    | error e => simp [bind, Except.bind]
    | ok bs' => simp [bind, Except.bind, pure, Except.pure]

lemma mapM_cons_ne_ok_nil : (a :: as).mapM f ≠ .ok [] := by
  rw [List.mapM_cons]
  cases f a with
  | error e => simp [bind, Except.bind]
  | ok b' => cases as.mapM f <;> simp [bind, Except.bind, pure, Except.pure]

theorem mapM_eq_ok_iff : as.mapM f = .ok bs ↔ List.Forall₂ (fun a b => f a = .ok b) as bs := by
  induction as generalizing bs with
  | nil => cases bs <;> simp [pure, Except.pure]
  | cons a as ih =>
    cases bs with
    | nil => exact ⟨fun h => absurd h mapM_cons_ne_ok_nil, fun h => nomatch h⟩
    | cons b bs => rw [mapM_cons_eq_ok_iff, ih, List.forall₂_cons]

lemma exists_of_mem_mapM (h : as.mapM f = .ok bs) (hb : b ∈ bs) : ∃ a ∈ as, f a = .ok b := by
  exact exists_of_forall₂ (mapM_eq_ok_iff.mp h).flip hb

lemma map_eq_map_of_mapM {g : β → γ} {k : α → γ} (h : as.mapM f = .ok bs)
    (hgk : ∀ a ∈ as, ∀ b, f a = .ok b → g b = k a) : bs.map g = as.map k := by
  induction mapM_eq_ok_iff.mp h with
  | nil => rfl
  | @cons a c as bs hac hrest ih =>
    rw [List.map_cons, List.map_cons, hgk a List.mem_cons_self c hac,
      ih (mapM_eq_ok_iff.mpr hrest) fun a' ha' => hgk a' (List.mem_cons_of_mem a ha')]

lemma mapM_of_forall₂ {γ δ : Type} {g : γ → Except ε δ} {k : β → δ} {cs : List γ}
    (h : List.Forall₂ (fun a c => g c = k <$> f a) as cs) :
    cs.mapM g = List.map k <$> as.mapM f := by
  induction h with
  | nil => rfl
  | @cons a c as cs hac _ ih =>
    rw [List.mapM_cons, List.mapM_cons, hac, ih]
    cases f a with
    | error e => rfl
    | ok b => cases as.mapM f <;> rfl

lemma mapM_congr_left {g : α → Except ε β} (h : ∀ a ∈ as, g a = f a) : as.mapM g = as.mapM f := by
  have hsteps : List.Forall₂ (fun a c => g c = id <$> f a) as as :=
    List.forall₂_same.mpr fun a ha => by rw [id_map, h a ha]
  rw [mapM_of_forall₂ hsteps, List.map_id_fun, id_map]

lemma mapM_attach : (as.attach.mapM fun a => f a.1) = as.mapM f := by
  conv_rhs => rw [← List.attach_map_subtype_val as, List.mapM_map]
  rfl

lemma mapM_eq_some_iff {f : α → Option β} :
    as.mapM f = some bs ↔ List.Forall₂ (fun a b => f a = some b) as bs := by
  induction as generalizing bs with
  | nil => cases bs <;> simp
  | cons a as ih =>
    rw [List.mapM_cons]
    cases bs <;> simp [Option.bind_eq_some_iff, ih]

theorem exists_mapM_eq_ok (h : ∀ a ∈ as, ∃ b, f a = .ok b) : ∃ bs, as.mapM f = .ok bs := by
  induction as with
  | nil => exact ⟨[], rfl⟩
  | cons a as ih =>
    obtain ⟨b, hb⟩ := h a List.mem_cons_self
    obtain ⟨bs, hbs⟩ := ih fun c hc => h c (List.mem_cons_of_mem a hc)
    exact ⟨b :: bs, mapM_cons_eq_ok_iff.mpr ⟨hb, hbs⟩⟩

/-- The failure of a step, if it fails. -/
def failure? : Except ε α → Option ε
  | .error e => some e
  | .ok _ => none

lemma failure?_eq_some_iff {x : Except ε α} {e : ε} : failure? x = some e ↔ x = .error e := by
  cases x <;> simp [failure?]

lemma failure?_bind_pure (x : Except ε α) (g : α → β) :
    failure? (x >>= fun a => pure (g a)) = failure? x := by
  cases x <;> rfl

/-- A list of steps fails as its first failing step does. -/
theorem failure?_mapM (f : α → Except ε β) (as : List α) :
    failure? (as.mapM f) = as.findSome? fun a => failure? (f a) := by
  induction as with
  | nil => rfl
  | cons a as ih =>
    rw [List.mapM_cons, List.findSome?_cons]
    cases f a with
    | error e => rfl
    | ok b =>
      have hok : failure? (Except.ok b : Except ε β) = none := rfl
      rw [hok, ← ih]
      cases as.mapM f <;> rfl

end CallSchema
