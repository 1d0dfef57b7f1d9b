import CallSchema.Proofs.ShapePriority

/-!
# Whole names

The name that is found after a comment stands behind the keyword of its declaration, and what
follows it is no part of it. Blanks, or a star, keep the name and the keyword apart, with one
exception: no blank has to follow the word `function`, so the rest of a longer word is taken for a
name.
-/

namespace CallSchema.Jsdoc

open Text

variable {cs name behind line : List Char} {shape : Shape} {p : NamePlace}

namespace NamePlace

/-- Only characters that are not part of an identifier stand next to the name before it. -/
def BeginsWhole (p : NamePlace) : Prop := ∀ c ∈ p.before.getLast?, isIdentChar c = false

/-- Only characters that are not part of an identifier stand next to the name behind it. -/
def EndsWhole (p : NamePlace) : Prop := ∀ c ∈ p.after.head?, isIdentChar c = false

/-- The name is the rest of a word that begins with `function`. -/
def RunsOn (p : NamePlace) : Prop :=
  ∃ front, endsInWord front = false ∧ p.before = front ++ "function".toList

/-- The name is declared where it stands: behind a keyword that no word runs into, and before the
mark that a declaration with this keyword goes on with. -/
inductive IsDeclared (p : NamePlace) : Prop
  | binding {front gap spacing value : List Char} {keyword : String}
      (apart : endsInWord front = false) (keyword_mem : keyword ∈ bindingWords)
      (before : p.before = front ++ (keyword.toList ++ gap)) (isGap : IsGap gap)
      (after : p.after = spacing ++ '=' :: value) (isSpacing : IsSpacing spacing)
  | function {front separator spacing parameters : List Char}
      (apart : endsInWord front = false)
      (before : p.before = front ++ ("function".toList ++ separator))
      (isSeparator : IsSeparator separator)
      (after : p.after = spacing ++ '(' :: parameters) (isSpacing : IsSpacing spacing)

lemma IsDeclared.endsWhole (h : p.IsDeclared) : p.EndsWhole := by
  intro c hc
  cases h with
  | binding _ _ _ _ hafter hspacing =>
    rw [hafter] at hc
    exact hspacing.isIdentChar_head? (by decide) c hc
  | function _ _ _ hafter hspacing =>
    rw [hafter] at hc
    exact hspacing.isIdentChar_head? (by decide) c hc

lemma IsDeclared.beginsWhole_iff (h : p.IsDeclared) : p.BeginsWhole ↔ ¬p.RunsOn := by
  constructor
  · rintro hwhole ⟨front, -, hbefore⟩
    have hlast : p.before.getLast? = some 'n' := by
      rw [hbefore, List.getLast?_append_of_ne_nil _ (by decide)]
      decide
    exact absurd (hwhole 'n' hlast) (by decide)
  · intro hnot c hc
    cases h with
    | @binding front gap _ _ keyword _ _ hbefore hgap =>
      rw [hbefore, ← List.append_assoc] at hc
      exact hgap.isIdentChar_getLast? _ c hc
    | @function front separator _ _ hword hbefore hseparator =>
      have hne : separator ≠ [] := by
        rintro rfl
        exact hnot ⟨front, hword, by rw [hbefore, List.append_nil]⟩
      rw [hbefore, ← List.append_assoc] at hc
      exact hseparator.isIdentChar_getLast? hne _ c hc

end NamePlace

section Declarations

variable {skipped rest : List Char}

lemma Binding.Proper.endsInWord_lead {b : Binding} (hb : b.Proper)
    (hword : endsInWord skipped = false) : endsInWord (skipped ++ b.lead) = false := by
  cases hexported : b.exported with
  | none =>
    have hlead : b.lead = [] := by simp [Binding.lead, hexported]
    rw [hlead, List.append_nil, hword]
  | some gap =>
    have hlead : b.lead = "export".toList ++ gap := by simp [Binding.lead, hexported]
    rw [hlead, ← List.append_assoc]
    exact (hb.exported gap hexported).endsInWord_append _

lemma NamedFunction.Proper.endsInWord_lead {f : NamedFunction} (hf : f.Proper)
    (hword : endsInWord skipped = false) : endsInWord (skipped ++ f.lead) = false := by
  rcases List.eq_nil_or_concat f.words with hnil | ⟨words, w, hwords⟩
  · have hlead : f.lead = [] := by simp [NamedFunction.lead, hnil]
    rw [hlead, List.append_nil, hword]
  · rw [List.concat_eq_append] at hwords
    rw [NamedFunction.lead, hwords, spacedWords_concat, ← List.append_assoc, ← List.append_assoc]
    exact (hf.words w (by simp [hwords])).endsInWord_append _

lemma isDeclared_of_take? (htext : p.text = skipped ++ rest) (hword : endsInWord skipped = false)
    (htake : shape.take? rest = some (p.name, p.after)) : IsIdentifier p.name ∧ p.IsDeclared := by
  rw [NamePlace.text, List.append_assoc] at htext
  cases shape with
  | binding form =>
    obtain ⟨b, hb, -, rfl, hname, hafter⟩ := exists_of_takeBinding? htake
    have hbefore : p.before = skipped ++ b.lead ++ (b.keyword.toList ++ b.gap) := by
      rw [Binding.text, hname, hafter, ← List.append_assoc skipped, Binding.before,
        ← List.append_assoc skipped] at htext
      exact List.append_cancel_right htext
    exact ⟨hname ▸ hb.name, .binding (hb.endsInWord_lead hword) hb.keyword hbefore hb.gap
      hafter.symm hb.beforeEquals⟩
  | named words =>
    obtain ⟨f, hf, -, rfl, hname, hafter⟩ := exists_of_takeNamed? htake
    have hbefore : p.before = skipped ++ f.lead ++ ("function".toList ++ f.separator) := by
      rw [NamedFunction.text, hname, hafter, ← List.append_assoc skipped, NamedFunction.before,
        ← List.append_assoc skipped] at htext
      exact List.append_cancel_right htext
    exact ⟨hname ▸ hf.name, .function (hf.endsInWord_lead hword) hbefore hf.separator hafter.symm
      hf.beforeParameters⟩

end Declarations

/-- The name that is found in a text is declared where it stands, on the first line in which a
function is declared. No character of an identifier follows it, and one stands directly before it if
and only if it is the rest of a word that begins with `function`. -/
theorem functionName?_whole {cs : List Char} {name : String} (h : functionName? cs = some name) :
    ∃ before line behind p, lines cs = before ++ line :: behind ∧
      (∀ l ∈ before, isPassedOver l = true ∨ opensComment l = false ∧ nameInLine? l = none) ∧
      placeInLine? line = some p ∧ p.text = line ∧ p.name = name.toList ∧
      IsIdentifier p.name ∧ p.IsDeclared ∧ p.EndsWhole ∧ (p.BeginsWhole ↔ ¬p.RunsOn) := by
  obtain ⟨found, hfound, rfl⟩ := Option.map_eq_some_iff.mp h
  obtain ⟨before, line, behind, hlines, hbefore, -, -, hname⟩ := nameInLines?_eq_some_iff.mp hfound
  rw [nameInLine?_eq_place] at hname
  obtain ⟨p, hp, rfl⟩ := Option.map_eq_some_iff.mp hname
  obtain ⟨htext, shape, -, skipped, rest, rfl, hword, htake⟩ := exists_of_placeInLine? hp
  obtain ⟨hident, hdeclared⟩ := isDeclared_of_take? htext hword htake
  exact ⟨before, skipped ++ rest, behind, p, hlines, hbefore, hp, htext, String.toList_ofList.symm,
    hident, hdeclared, hdeclared.endsWhole, hdeclared.beginsWhole_iff⟩

/-- A call on the first line, and the declaration of a generator on the second. -/
def loadText : List Char := "register(load);\nexport async function* load(id) \x7b\x7d\n".toList

theorem functionName?_whole_load :
    functionName? loadText = some "load" ∧
      ∃ line ∈ lines loadText, ∃ p, placeInLine? line = some p ∧ p.name = "load".toList ∧
        p.IsDeclared ∧ p.EndsWhole ∧ (p.BeginsWhole ↔ ¬p.RunsOn) := by
  have hname : functionName? loadText = some "load" := by decide +kernel
  obtain ⟨before, line, behind, p, hlines, -, hp, -, hload, -, hdeclared, hends, hbegins⟩ :=
    functionName?_whole hname
  refine ⟨hname, line, ?_, p, hp, hload, hdeclared, hends, hbegins⟩
  rw [hlines]
  exact List.mem_append_right before List.mem_cons_self

/-- A call of a function whose name begins with the word `function` is taken for a declaration, and
the rest of that name for the name declared. -/
theorem functionName?_of_call :
    functionName? "functionName();".toList = some "Name" ∧
      placeInLine? "functionName();".toList =
        some ⟨"function".toList, "Name".toList, "();".toList⟩ ∧
      "function".toList.getLast? = some 'n' ∧ isIdentChar 'n' = true :=
  ⟨by decide +kernel, by decide +kernel, by decide, by decide⟩

end CallSchema.Jsdoc
