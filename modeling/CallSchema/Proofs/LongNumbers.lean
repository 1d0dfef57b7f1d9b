import CallSchema.Failure
import CallSchema.Proofs.WrittenNumbers

/-!
# Numbers with too many digits

A text that is read as a number is refused if and only if it is a sign, or none, with more digits
after it than are read. Every other text is a number or none.
-/

namespace CallSchema.Number

variable {cs : List Char} {ds : List Nat} {l : Literal} {e : Failure}

/-- A sign with digits after it that are too many. -/
def IsTooLong (cs : List Char) : Prop :=
  (∀ c ∈ (takeSign cs).2, Text.isDigit c = true) ∧ maxDigits < (takeSign cs).2.length

lemma takeSign_suffix (cs : List Char) : (takeSign cs).2 <:+ cs := by
  obtain ⟨sign, -, hcs⟩ := exists_sign cs
  exact ⟨sign, hcs.symm⟩

lemma not_isTooLong (h : cs.countP Text.isDigit ≤ maxDigits) : ¬IsTooLong cs := by
  rintro ⟨hdigits, hlong⟩
  have hcount : (takeSign cs).2.countP Text.isDigit = (takeSign cs).2.length :=
    List.countP_eq_length.mpr hdigits
  have hle : (takeSign cs).2.countP Text.isDigit ≤ cs.countP Text.isDigit :=
    (takeSign_suffix cs).sublist.countP_le
  omega

lemma getLast?_ne_newline (h : IsTooLong cs) : cs.getLast? ≠ some '\n' := by
  obtain ⟨hdigits, hlong⟩ := h
  obtain ⟨signs, hsigns⟩ := takeSign_suffix cs
  have hne : (takeSign cs).2 ≠ [] := List.ne_nil_of_length_pos (by omega)
  intro hlast
  rw [← hsigns, List.getLast?_append_of_ne_nil _ hne] at hlast
  exact absurd (hdigits _ (List.mem_of_getLast? hlast)) (by decide)

lemma IsDigits.isDigit (h : IsDigits cs ds) : ∀ c ∈ cs, Text.isDigit c = true := by
  intro c hc
  induction h with
  | nil => cases hc
  | @cons a d cs ds ha _ ih =>
    rcases List.mem_cons.mp hc with rfl | hc
    · rw [Text.isDigit, ha]
      rfl
    · exact ih hc

lemma isDigits_takeDigits (h : ∀ c ∈ cs, Text.isDigit c = true) :
    IsDigits cs (takeDigits cs).1 := by
  obtain ⟨text, htext, hcs, hends⟩ := exists_digits cs
  cases hrest : (takeDigits cs).2 with
  | nil =>
    rw [hrest, List.append_nil] at hcs
    exact hcs ▸ htext
  | cons c rest =>
    rw [hrest] at hcs hends
    have hc := h c (by rw [hcs]; simp)
    rw [Text.isDigit, hends c rfl] at hc
    cases hc

lemma writes_of_isDigit (hdigits : ∀ c ∈ (takeSign cs).2, Text.isDigit c = true)
    (hne : (takeSign cs).2 ≠ []) : Writes cs
      { negative := (takeSign cs).1, whole := (takeDigits (takeSign cs).2).1, point := false,
        part := [], exponent := none } := by
  obtain ⟨sign, hsign, hcs⟩ := exists_sign cs
  have htext := isDigits_takeDigits hdigits
  have hwrites := Writes.mk hsign (.whole htext (htext.eq_nil_iff.not.mp hne)) .none
  rw [List.append_nil, ← hcs] at hwrites
  exact hwrites

lemma isDigits_of_writes (h : Writes cs l) (hpoint : l.point = false)
    (hexponent : l.exponent = none) : IsDigits (takeSign cs).2 l.whole := by
  cases h with
  | mk hsign hmantissa htail =>
    dsimp only at hpoint hexponent
    subst hpoint hexponent
    cases htail with
    | none =>
      cases hmantissa with
      | whole htext hne =>
        rw [takeSign_append hsign (htext.endsSign hne [])]
        simpa using htext

lemma parse?_of_isTooLong (h : IsTooLong cs) :
    parse? cs = .error (.tooManyDigits (takeSign cs).2.length) := by
  have hlast := getLast?_ne_newline h
  obtain ⟨hdigits, hlong⟩ := h
  have hne : (takeSign cs).2 ≠ [] := List.ne_nil_of_length_pos (by omega)
  have hliteral := literal?_eq_some_iff.mpr (writes_of_isDigit hdigits hne)
  have hlength := (isDigits_takeDigits hdigits).length_eq
  rw [parse?, if_neg hlast]
  simp [hliteral, ← hlength, hlong]

/-- A number is refused only if it has too many digits. -/
theorem parse?_eq_error_iff : parse? cs = .error e ↔
    IsTooLong cs ∧ e = .tooManyDigits (takeSign cs).2.length := by
  refine ⟨fun h => ?_, fun ⟨hlong, he⟩ => he ▸ parse?_of_isTooLong hlong⟩
  have hlast : cs.getLast? ≠ some '\n' := by
    intro hlast
    rw [parse?, if_pos hlast] at h
    dsimp only at h
    split at h <;> cases h
  rw [parse?, if_neg hlast] at h
  dsimp only at h
  split at h
  · cases h
  · rename_i l hl
    split at h
    · rename_i hplain
      simp only [Bool.not_false, Bool.true_and, Bool.and_eq_true, Bool.not_eq_true',
        Option.isNone_iff_eq_none] at hplain
      have hdigits := isDigits_of_writes (literal?_eq_some_iff.mp hl) hplain.1 hplain.2
      rw [← hdigits.length_eq] at h
      split at h
      · rename_i hlong
        exact ⟨⟨hdigits.isDigit, hlong⟩, (Except.error.inj h).symm⟩
      · cases h
    · cases h

end CallSchema.Number
