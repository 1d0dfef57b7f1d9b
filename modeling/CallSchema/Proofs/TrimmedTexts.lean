import CallSchema.Proofs.TextPieces
import Mathlib.Data.List.DropRight

/-!
# Trimmed texts

A text is blanks, the trimmed text, and blanks, and a text whose first and last characters are no
blanks is trimmed already. So trimming takes blanks around such a text away and nothing else.
-/

namespace CallSchema.Text

variable {cs left right : List Char} {c : Char} {p : Char → Bool}

lemma mem_takeWhile (h : c ∈ cs.takeWhile p) : p c = true :=
  List.all_eq_true.mp List.all_takeWhile c h

lemma head?_dropWhile (h : c ∈ (cs.dropWhile p).head?) : p c = false := by
  have hnot := List.head?_dropWhile_not p cs
  rw [Option.mem_def] at h
  rw [h] at hnot
  simpa using hnot

lemma trimLeft_of_head? (h : ∀ c ∈ cs.head?, isBlank c = false) : trimLeft cs = cs := by
  cases cs with
  | nil => rfl
  | cons c cs => exact trimLeft_cons (h c rfl) cs

lemma exists_eq_blanks_trimLeft (cs : List Char) :
    ∃ blanks, cs = blanks ++ trimLeft cs ∧ ∀ c ∈ blanks, isBlank c = true :=
  ⟨cs.takeWhile isBlank, List.takeWhile_append_dropWhile.symm, fun _ hc => mem_takeWhile hc⟩

lemma trimRight_eq_rdropWhile (cs : List Char) : trimRight cs = cs.rdropWhile isBlank := rfl

lemma trimRight_append (h : ∀ c ∈ right, isBlank c = true) (cs : List Char) :
    trimRight (cs ++ right) = trimRight cs := by
  have hreverse : ∀ c ∈ right.reverse, isBlank c = true := fun c hc => h c (List.mem_reverse.mp hc)
  rw [trimRight, dropTailWhile, List.reverse_append, List.dropWhile_append_of_pos hreverse]
  rfl

lemma trimRight_of_getLast? (h : ∀ c ∈ cs.getLast?, isBlank c = false) : trimRight cs = cs := by
  rw [trimRight_eq_rdropWhile, List.rdropWhile_eq_self_iff]
  intro hne
  have hlast := h _ (List.getLast?_eq_getLast_of_ne_nil hne)
  simp [hlast]

/-- Neither the first character nor the last is a blank. -/
def IsTrimmed (cs : List Char) : Prop :=
  (∀ c ∈ cs.head?, isBlank c = false) ∧ ∀ c ∈ cs.getLast?, isBlank c = false

instance (cs : List Char) : Decidable (IsTrimmed cs) :=
  decidable_of_iff (cs.head?.all (!isBlank ·) = true ∧ cs.getLast?.all (!isBlank ·) = true)
    (by simp only [IsTrimmed, Option.all_eq_true, Bool.not_eq_true', Option.mem_def])

lemma IsTrimmed.trim_eq (h : IsTrimmed cs) : trim cs = cs := by
  rw [trim, trimLeft_of_head? h.1, trimRight_of_getLast? h.2]

lemma isTrimmed_trim (cs : List Char) : IsTrimmed (trim cs) := by
  constructor
  · intro c hc
    obtain ⟨right, hright⟩ : trim cs <+: trimLeft cs := List.rdropWhile_prefix isBlank _
    have hhead : c ∈ (trimLeft cs).head? := by
      rw [← hright, List.head?_append, hc]
      rfl
    exact head?_dropWhile hhead
  · intro c hc
    rw [trim, trimRight, dropTailWhile, List.getLast?_reverse] at hc
    exact head?_dropWhile hc

lemma trim_trimLeft (cs : List Char) : trim (trimLeft cs) = trim cs := by
  have htwice : trimLeft (trimLeft cs) = trimLeft cs := List.dropWhile_idempotent isBlank cs
  rw [trim, htwice, ← trim]

lemma trim_blanks (hleft : ∀ c ∈ left, isBlank c = true) (hright : ∀ c ∈ right, isBlank c = true)
    (cs : List Char) : trim (left ++ (cs ++ right)) = trim cs := by
  rw [trim, trimLeft_append hleft, trim]
  by_cases hblank : ∀ c ∈ cs, isBlank c = true
  · have hall : trimLeft (cs ++ right) = [] :=
      List.dropWhile_eq_nil_iff.mpr fun c hc => (List.mem_append.mp hc).elim (hblank c) (hright c)
    have hcs : trimLeft cs = [] := List.dropWhile_eq_nil_iff.mpr hblank
    rw [hall, hcs]
  · have happend : trimLeft (cs ++ right) = trimLeft cs ++ right := by
      rw [trimLeft, List.dropWhile_append]
      have hne : cs.dropWhile isBlank ≠ [] := fun hnil => hblank (List.dropWhile_eq_nil_iff.mp hnil)
      rw [if_neg (by simpa using hne)]
      rfl
    rw [happend, trimRight_append hright]

lemma exists_eq_blanks_trim (cs : List Char) :
    ∃ left right, cs = left ++ (trim cs ++ right) ∧ (∀ c ∈ left, isBlank c = true) ∧
      ∀ c ∈ right, isBlank c = true := by
  obtain ⟨left, hcs, hleft⟩ := exists_eq_blanks_trimLeft cs
  refine ⟨left, (trimLeft cs).rtakeWhile isBlank, ?_, hleft, fun c hc => ?_⟩
  · rw [trim, trimRight_eq_rdropWhile, List.rdropWhile_append_rtakeWhile]
    exact hcs
  · exact List.mem_rtakeWhile_imp hc

lemma trim_eq_nil_iff : trim cs = [] ↔ ∀ c ∈ cs, isBlank c = true := by
  constructor
  · intro h
    obtain ⟨left, right, hcs, hleft, hright⟩ := exists_eq_blanks_trim cs
    rw [h, List.nil_append] at hcs
    intro c hc
    rw [hcs] at hc
    exact (List.mem_append.mp hc).elim (hleft c) (hright c)
  · intro h
    have hleft : trimLeft cs = [] := List.dropWhile_eq_nil_iff.mpr h
    rw [trim, hleft]
    rfl

lemma mem_trim (h : c ∈ cs) (hc : isBlank c = false) : c ∈ trim cs := by
  obtain ⟨left, right, hcs, hleft, hright⟩ := exists_eq_blanks_trim cs
  rw [hcs, List.mem_append, List.mem_append] at h
  rcases h with hl | ht | hr
  · exact absurd (hleft c hl) (by simp [hc])
  · exact ht
  · exact absurd (hright c hr) (by simp [hc])

end CallSchema.Text
