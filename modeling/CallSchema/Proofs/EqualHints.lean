import CallSchema.Hint.Equality
import Mathlib.Data.List.Forall2
import Mathlib.Tactic.Lemma

/-!
# What equal hints have in common

Equal hints are built alike: their arguments are equal one by one, those of unions in any order.
What is the same for hints that are built alike from parts for which it is the same, is the same for
equal hints.
-/

namespace CallSchema.Hint

variable {a b h : Hint} {hs ks : List Hint} {P : Hint → Hint → Prop}

/-- The members of a union in either form. -/
def unionArgs? : Hint → Option (List Hint)
  | union args | alternatives args => some args
  | _ => none

/-- Whether no hint inside a hint is looked at by itself. -/
def isClosed : Hint → Bool
  | unpack _ | starred _ | callable .. | typeVar .. | newType .. => true
  | constant _ | listing _ | tuple _ => true
  | _ => false

/-- Two hints are built alike, from parts that `P` relates. -/
inductive Matching (P : Hint → Hint → Prop) : Hint → Hint → Prop
  | same (a : Hint) : Matching P a a
  | closed {a b : Hint} (ha : a.isClosed = true) (hb : b.isClosed = true) : Matching P a b
  | generic (origin : ClassRef) {hs ks : List Hint} (h : List.Forall₂ P hs ks) :
    Matching P (generic origin hs) (generic origin ks)
  | applied (name : String) {hs ks : List Hint} (h : List.Forall₂ P hs ks) :
    Matching P (applied name hs) (applied name ks)
  | union {a b : Hint} {hs ks : List Hint} (ha : a.unionArgs? = some hs)
    (hb : b.unionArgs? = some ks) (left : ∀ h ∈ hs, ∃ k ∈ ks, P h k)
    (right : ∀ k ∈ ks, ∃ h ∈ hs, P h k) : Matching P a b
  | literal {xs ys : List Value} (h : sameValues xs ys = true) :
    Matching P (literal xs) (literal ys)
  | annotated {a b : Hint} (xs ys : List Value) (h : P a b) :
    Matching P (annotated a xs) (annotated b ys)
  | required {a b : Hint} (h : P a b) : Matching P (required a) (required b)
  | notRequired {a b : Hint} (h : P a b) : Matching P (notRequired a) (notRequired b)
  | intersection {hs ks : List Hint} (h : List.Forall₂ P hs ks) :
    Matching P (intersection hs) (intersection ks)

lemma size_lt_sizeAll (h : a ∈ hs) : a.size ≤ sizeAll hs := by
  induction hs with
  | nil => cases h
  | cons x xs ih =>
    rw [sizeAll]
    rcases List.mem_cons.mp h with rfl | h
    · omega
    · have := ih h
      omega

lemma forall₂_of_eqvAll (hP : ∀ x ∈ hs, ∀ y, eqv x y = true → P x y) (h : eqvAll hs ks = true) :
    List.Forall₂ P hs ks := by
  induction hs generalizing ks with
  | nil =>
    cases ks with
    | nil => exact .nil
    | cons k ks => simp [eqvAll] at h
  | cons x xs ih =>
    cases ks with
    | nil => simp [eqvAll] at h
    | cons k ks =>
      rw [eqvAll, Bool.and_eq_true] at h
      exact .cons (hP x List.mem_cons_self k h.1)
        (ih (fun y hy => hP y (List.mem_cons_of_mem x hy)) h.2)

lemma exists_of_subset (h : subset hs ks = true) : ∀ x ∈ hs, ∃ k ∈ ks, eqv x k = true := by
  induction hs with
  | nil => exact nofun
  | cons x xs ih =>
    rw [subset, Bool.and_eq_true, List.any_eq_true] at h
    exact List.forall_mem_cons.mpr ⟨h.1, ih h.2⟩

lemma exists_of_meets {k : Hint} (h : meets hs k = true) : ∃ x ∈ hs, eqv x k = true := by
  induction hs with
  | nil => simp [meets] at h
  | cons x xs ih =>
    rw [meets, Bool.or_eq_true] at h
    rcases h with h | h
    · exact ⟨x, List.mem_cons_self, h⟩
    · obtain ⟨y, hy, hyk⟩ := ih h
      exact ⟨y, List.mem_cons_of_mem x hy, hyk⟩

lemma matching_union (ha : a.unionArgs? = some hs) (hb : b.unionArgs? = some ks)
    (hP : ∀ x ∈ hs, ∀ y, eqv x y = true → P x y)
    (h : (subset hs ks && ks.all fun k => meets hs k) = true) : Matching P a b := by
  rw [Bool.and_eq_true, List.all_eq_true] at h
  refine .union ha hb (fun x hx => ?_) fun k hk => ?_
  · obtain ⟨k, hk, hxk⟩ := exists_of_subset h.1 x hx
    exact ⟨k, hk, hP x hx k hxk⟩
  · obtain ⟨x, hx, hxk⟩ := exists_of_meets (h.2 k hk)
    exact ⟨x, hx, hP x hx k hxk⟩

/-- Equal hints are built alike from equal parts. -/
lemma matching_of_eqv (hP : ∀ x y, x.size < a.size → eqv x y = true → P x y)
    (h : eqv a b = true) : Matching P a b := by
  have hargs : ∀ {hs : List Hint}, a.size = sizeAll hs + 1 →
      ∀ x ∈ hs, ∀ y, eqv x y = true → P x y := fun hsize x hx y =>
    hP x y (by have := size_lt_sizeAll hx; omega)
  unfold eqv at h
  split at h
  case h_4 | h_6 =>
    obtain ⟨hname, hall⟩ := Bool.and_eq_true_iff.mp h
    obtain rfl := eq_of_beq hname
    first
      | exact .generic _ (forall₂_of_eqvAll (hargs (by rw [size])) hall)
      | exact .applied _ (forall₂_of_eqvAll (hargs (by rw [size])) hall)
  case h_7 | h_8 | h_9 | h_10 => exact matching_union rfl rfl (hargs (by rw [size])) h
  case h_11 => exact .literal h
  case h_12 => exact .annotated _ _ (hP _ _ (by simp [size]) (Bool.and_eq_true_iff.mp h).1)
  case h_13 => exact .required (hP _ _ (by simp [size]) h)
  case h_14 => exact .notRequired (hP _ _ (by simp [size]) h)
  case h_17 => exact .intersection (forall₂_of_eqvAll (hargs (by rw [size])) h)
  case h_15 | h_16 | h_18 | h_19 | h_20 | h_21 | h_24 | h_25 | h_26 => exact .closed rfl rfl
  case h_1 | h_2 => exact .same _
  case h_3 | h_22 | h_27 =>
    obtain rfl := eq_of_beq h
    exact .same _
  case h_5 | h_23 | h_28 =>
    obtain ⟨hfirst, hsecond⟩ := Bool.and_eq_true_iff.mp h
    obtain rfl := eq_of_beq hfirst
    obtain rfl := eq_of_beq hsecond
    exact .same _
  case h_29 => cases h

/-- What holds of hints that are built alike from hints of which it holds, holds of equal hints. -/
theorem eqv_induction {P : Hint → Hint → Prop} (hP : ∀ a b, Matching P a b → P a b) (a b : Hint)
    (h : eqv a b = true) : P a b :=
  hP a b (matching_of_eqv (fun x y _ hxy => eqv_induction hP x y hxy) h)
termination_by a.size

end CallSchema.Hint
