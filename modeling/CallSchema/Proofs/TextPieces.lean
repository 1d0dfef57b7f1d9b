import CallSchema.Text.Lines
import CallSchema.Text.Trim
import Mathlib.Data.List.Infix
import Mathlib.Tactic.Lemma

/-!
# Marks and lines in longer texts

What is found in a text is found in the same place when more text follows. A mark without newlines
does not reach across a newline, and the lines of a text stay lines when a newline follows it. A
text that is written line by line is read line by line.
-/

namespace CallSchema.Text

variable {mark start cs rest before after tail line blanks : List Char} {c : Char}
  {ls : List (List Char)} {p : Char → Bool}

section Marks

lemma dropStart?_eq_some_iff : dropStart? start cs = some rest ↔ cs = start ++ rest :=
  ⟨dropStart?_eq_some, fun h => h ▸ dropStart?_append start rest⟩

lemma dropStart?_cons_of_head? (h : cs.head? ≠ some c) (start : List Char) :
    dropStart? (c :: start) cs = none := by
  cases cs with
  | nil => rfl
  | cons d cs => rw [dropStart?, if_neg fun hd : c = d => h (congrArg some hd.symm)]

lemma startsWith_iff : startsWith start cs = true ↔ start <+: cs := by
  rw [startsWith, Option.isSome_iff_exists]
  simp only [dropStart?_eq_some_iff]
  exact ⟨fun ⟨rest, h⟩ => ⟨rest, h.symm⟩, fun ⟨rest, h⟩ => ⟨rest, h.symm⟩⟩

lemma cutAt?_eq_some (h : cutAt? mark cs = some (before, after)) :
    cs = before ++ mark ++ after := by
  induction cs generalizing before with
  | nil =>
    rw [cutAt?] at h
    split at h
    · rename_i hmark
      obtain ⟨rfl, rfl⟩ := Prod.mk.inj (Option.some.inj h)
      simp [List.isEmpty_iff.mp hmark]
    · cases h
  | cons c cs ih =>
    rw [cutAt?] at h
    split at h
    · rename_i rest hrest
      obtain ⟨rfl, rfl⟩ := Prod.mk.inj (Option.some.inj h)
      simpa using dropStart?_eq_some hrest
    · obtain ⟨⟨x, y⟩, hxy, hpair⟩ := Option.map_eq_some_iff.mp h
      obtain ⟨rfl, rfl⟩ := Prod.mk.inj hpair
      simpa using ih hxy

lemma dropStart?_append_right (h : dropStart? start cs = some rest) (tail : List Char) :
    dropStart? start (cs ++ tail) = some (rest ++ tail) := by
  rw [dropStart?_eq_some h, List.append_assoc]
  exact dropStart?_append start (rest ++ tail)

lemma dropStart?_append_eq_none (h : dropStart? start cs = none)
    (hlength : start.length ≤ cs.length) (tail : List Char) :
    dropStart? start (cs ++ tail) = none := by
  refine Option.eq_none_iff_forall_ne_some.mpr fun rest hrest => ?_
  have hprefix : start <+: cs :=
    List.prefix_of_prefix_length_le ⟨rest, (dropStart?_eq_some hrest).symm⟩
      (List.prefix_append cs tail) hlength
  rw [← startsWith_iff, startsWith, h] at hprefix
  cases hprefix

lemma cutAt?_append_right (h : cutAt? mark cs = some (before, after)) (tail : List Char) :
    cutAt? mark (cs ++ tail) = some (before, after ++ tail) := by
  induction cs generalizing before with
  | nil =>
    rw [cutAt?] at h
    split at h
    · rename_i hmark
      obtain ⟨rfl, rfl⟩ := Prod.mk.inj (Option.some.inj h)
      rw [List.isEmpty_iff.mp hmark]
      cases tail <;> rfl
    · cases h
  | cons c cs ih =>
    rw [cutAt?] at h
    rw [List.cons_append, cutAt?]
    split at h
    · rename_i rest hrest
      obtain ⟨rfl, rfl⟩ := Prod.mk.inj (Option.some.inj h)
      rw [← List.cons_append, dropStart?_append_right hrest]
    · rename_i hnone
      obtain ⟨⟨x, y⟩, hxy, hpair⟩ := Option.map_eq_some_iff.mp h
      obtain ⟨rfl, rfl⟩ := Prod.mk.inj hpair
      have hlength : mark.length ≤ (c :: cs).length := by
        have := congrArg List.length (cutAt?_eq_some hxy)
        simp only [List.length_append, List.length_cons] at this ⊢
        omega
      rw [← List.cons_append, dropStart?_append_eq_none hnone hlength, ih hxy]
      rfl

lemma dropStart?_append_cons (hc : c ∉ mark) (h : dropStart? mark cs = none)
    (tail : List Char) : dropStart? mark (cs ++ c :: tail) = none := by
  refine Option.eq_none_iff_forall_ne_some.mpr fun rest hrest => ?_
  have hmark : mark <+: cs ++ c :: tail := ⟨rest, (dropStart?_eq_some hrest).symm⟩
  rcases List.prefix_or_prefix_of_prefix hmark (List.prefix_append cs _) with hcs | ⟨ending, rfl⟩
  · rw [← startsWith_iff, startsWith, h] at hcs
    cases hcs
  · cases ending with
    | nil => simp [dropStart?_eq_some_iff.mpr (List.append_nil cs).symm] at h
    | cons d ending =>
      obtain rfl := (List.cons_prefix_cons.mp ((List.prefix_append_right_inj cs).mp hmark)).1
      exact hc (by simp)

lemma cutAt?_append_cons (hmark : mark ≠ []) (hc : c ∉ mark)
    (h : contains mark cs = false) (tail : List Char) :
    cutAt? mark (cs ++ c :: tail) =
      (cutAt? mark tail).map fun (before, after) => (cs ++ c :: before, after) := by
  induction cs with
  | nil =>
    have hnil : dropStart? mark [] = none := by
      cases mark with
      | nil => exact absurd rfl hmark
      | cons c mark => rfl
    rw [List.nil_append, cutAt?, ← List.nil_append (c :: tail), dropStart?_append_cons hc hnil]
    rfl
  | cons d cs ih =>
    have hcut : cutAt? mark (d :: cs) = none := by simpa [contains] using h
    rw [cutAt?] at hcut
    split at hcut
    · cases hcut
    · rename_i hnone
      have hrest : contains mark cs = false := by
        simpa [contains] using Option.map_eq_none_iff.mp hcut
      rw [List.cons_append, cutAt?, ← List.cons_append, dropStart?_append_cons hc hnone,
        ih hrest, Option.map_map]
      rfl

lemma contains_cons (c : Char) (cs : List Char) :
    contains mark (c :: cs) = (startsWith mark (c :: cs) || contains mark cs) := by
  rw [contains, cutAt?, startsWith]
  cases dropStart? mark (c :: cs) with
  | some rest => rfl
  | none => rw [Option.isSome_map, Option.isSome_none, Bool.false_or, contains]

lemma cutAt?_append_of_last (hmark : mark ≠ []) (hlast : ∀ e ∈ cs.getLast?, e ∉ mark)
    (h : contains mark cs = false) (tail : List Char) :
    cutAt? mark (cs ++ tail) =
      (cutAt? mark tail).map fun (before, after) => (cs ++ before, after) := by
  rcases List.eq_nil_or_concat cs with rfl | ⟨front, e, hcs⟩
  · simp
  · rw [List.concat_eq_append] at hcs
    subst hcs
    have hfront : contains mark front = false := by
      refine Bool.eq_false_iff.mpr fun hfront => ?_
      obtain ⟨found, hfound⟩ := Option.isSome_iff_exists.mp hfront
      rw [contains, cutAt?_append_right hfound] at h
      cases h
    rw [List.append_assoc, List.singleton_append,
      cutAt?_append_cons hmark (hlast e (by simp)) hfront]
    simp

lemma contains_append_of_last (hmark : mark ≠ []) (hlast : ∀ e ∈ cs.getLast?, e ∉ mark)
    (tail : List Char) : contains mark (cs ++ tail) = (contains mark cs || contains mark tail) := by
  cases hcs : contains mark cs with
  | true =>
    obtain ⟨found, hfound⟩ := Option.isSome_iff_exists.mp hcs
    rw [contains, cutAt?_append_right hfound]
    rfl
  | false =>
    rw [contains, cutAt?_append_of_last hmark hlast hcs, Option.isSome_map, ← contains,
      Bool.false_or]

lemma contains_iff : contains mark cs = true ↔ mark <:+: cs := by
  constructor
  · intro h
    obtain ⟨⟨before, after⟩, hcut⟩ := Option.isSome_iff_exists.mp h
    exact ⟨before, after, (cutAt?_eq_some hcut).symm⟩
  · rintro ⟨before, after, rfl⟩
    induction before with
    | nil =>
      rw [List.nil_append]
      cases hcs : mark ++ after with
      | nil =>
        rw [(List.append_eq_nil_iff.mp hcs).1]
        rfl
      | cons c cs =>
        have hdrop := dropStart?_append mark after
        rw [hcs] at hdrop
        rw [contains, cutAt?, hdrop]
        rfl
    | cons c before ih =>
      rw [List.cons_append, List.cons_append, contains_cons, ih, Bool.or_true]

lemma contains_append_cons (hmark : mark ≠ []) (hc : c ∉ mark) (cs tail : List Char) :
    contains mark (cs ++ c :: tail) = (contains mark cs || contains mark tail) := by
  cases hcs : contains mark cs with
  | true =>
    rw [Bool.true_or, contains_iff]
    exact (contains_iff.mp hcs).trans (List.prefix_append cs _).isInfix
  | false =>
    rw [contains, cutAt?_append_cons hmark hc hcs, Option.isSome_map, ← contains, Bool.false_or]

lemma cutAt?_cons_append {xs : List Char} (h : c ∉ xs) (mark cs : List Char) :
    cutAt? (c :: mark) (xs ++ cs) =
      (cutAt? (c :: mark) cs).map fun (before, after) => (xs ++ before, after) := by
  induction xs with
  | nil => simp
  | cons x xs ih =>
    have hx : c ≠ x := fun hx => h (hx ▸ List.mem_cons_self)
    rw [List.cons_append, cutAt?, dropStart?, if_neg hx, ih fun hc => h (List.mem_cons_of_mem x hc),
      Option.map_map]
    rfl

lemma contains_cons_append {xs : List Char} (h : c ∉ xs) (mark cs : List Char) :
    contains (c :: mark) (xs ++ cs) = contains (c :: mark) cs := by
  rw [contains, cutAt?_cons_append h, Option.isSome_map, contains]

lemma contains_of_not_mem (hc : c ∈ mark) (h : c ∉ cs) : contains mark cs = false := by
  refine Bool.eq_false_iff.mpr fun hcontains => h ?_
  obtain ⟨⟨before, after⟩, hcut⟩ := Option.isSome_iff_exists.mp hcontains
  rw [cutAt?_eq_some hcut]
  simp [hc]

lemma cutAt?_singleton (h : c ∉ cs) (tail : List Char) :
    cutAt? [c] (cs ++ c :: tail) = some (cs, tail) := by
  induction cs with
  | nil => simp [cutAt?, dropStart?]
  | cons d cs ih =>
    have hd : c ≠ d := fun hd => h (hd ▸ List.mem_cons_self)
    rw [List.cons_append, cutAt?, dropStart?, if_neg hd, ih fun hc => h (List.mem_cons_of_mem d hc)]
    rfl

lemma not_mem_of_cutAt?_singleton (h : cutAt? [c] cs = some (before, after)) : c ∉ before := by
  induction cs generalizing before with
  | nil => cases h
  | cons d cs ih =>
    rw [cutAt?, dropStart?] at h
    by_cases hd : c = d
    · rw [if_pos hd] at h
      obtain ⟨rfl, -⟩ := Prod.mk.inj (Option.some.inj h)
      exact List.not_mem_nil
    · rw [if_neg hd] at h
      obtain ⟨⟨front, rest⟩, hcut, hpair⟩ := Option.map_eq_some_iff.mp h
      obtain ⟨rfl, rfl⟩ := Prod.mk.inj hpair
      exact List.not_mem_cons_of_ne_of_not_mem hd (ih hcut)

lemma cutAt?_singleton_eq_some_iff :
    cutAt? [c] cs = some (before, after) ↔ cs = before ++ c :: after ∧ c ∉ before := by
  constructor
  · intro h
    exact ⟨by simpa using cutAt?_eq_some h, not_mem_of_cutAt?_singleton h⟩
  · rintro ⟨rfl, hbefore⟩
    exact cutAt?_singleton hbefore after

lemma takeWhile_append_of_head {xs ys : List Char} (hxs : ∀ c ∈ xs, p c = true)
    (hys : ∀ c ∈ ys.head?, p c = false) :
    (xs ++ ys).takeWhile p = xs ∧ (xs ++ ys).dropWhile p = ys := by
  rw [List.takeWhile_append_of_pos hxs, List.dropWhile_append_of_pos hxs]
  cases ys with
  | nil => simp
  | cons c ys => simp [hys c rfl]

/-- Two texts that a character cuts into one text: the first cut is at the first place where it
stands. -/
lemma append_cons_cases {front front' rest' : List Char} (hc : c ∉ front)
    (h : front ++ c :: rest = front' ++ c :: rest') :
    front' = front ∧ rest' = rest ∨ ∃ inner, rest = inner ++ c :: rest' := by
  rcases List.append_eq_append_iff.mp h with ⟨inner, hfront, hrest⟩ | ⟨inner, hfront, hrest⟩
  · cases inner with
    | nil => exact .inl ⟨by simpa using hfront, by simpa using hrest.symm⟩
    | cons d inner =>
      obtain ⟨rfl, hinner⟩ := List.cons.inj hrest
      exact .inr ⟨inner, hinner⟩
  · cases inner with
    | nil => exact .inl ⟨by simpa using hfront.symm, by simpa using hrest⟩
    | cons d inner =>
      obtain ⟨rfl, -⟩ := List.cons.inj hrest
      exact absurd (by simp [hfront]) hc

lemma append_inj_of_getLast? {xs ys left right : List Char} (hleft : ∀ c ∈ left, p c = true)
    (hright : ∀ c ∈ right, p c = true) (hxs : ∀ c ∈ xs.getLast?, p c = false)
    (hys : ∀ c ∈ ys.getLast?, p c = false) (h : xs ++ left = ys ++ right) :
    xs = ys ∧ left = right := by
  have hcut := takeWhile_append_of_head (fun c hc => hleft c (List.mem_reverse.mp hc))
    (List.head?_reverse ▸ hxs)
  have hcut' := takeWhile_append_of_head (fun c hc => hright c (List.mem_reverse.mp hc))
    (List.head?_reverse ▸ hys)
  rw [← List.reverse_append, h, List.reverse_append] at hcut
  exact ⟨List.reverse_injective (hcut.2.symm.trans hcut'.2),
    List.reverse_injective (hcut.1.symm.trans hcut'.1)⟩

lemma splitWhere_of_forall (h : ∀ c ∈ cs, p c = false) : splitWhere p cs = [cs] := by
  induction cs with
  | nil => rfl
  | cons c cs ih =>
    rw [splitWhere, h c List.mem_cons_self, ih fun d hd => h d (List.mem_cons_of_mem c hd)]
    rfl

lemma splitWhere_ne_nil (p : Char → Bool) (cs : List Char) : splitWhere p cs ≠ [] := by
  cases cs with
  | nil => simp [splitWhere]
  | cons c cs =>
    rw [splitWhere]
    split
    · simp
    · split <;> simp

lemma splitWhere_append (hc : p c = true) (cs tail : List Char) :
    splitWhere p (cs ++ c :: tail) = splitWhere p cs ++ splitWhere p tail := by
  induction cs with
  | nil => simp [splitWhere, hc]
  | cons d cs ih =>
    rw [List.cons_append, splitWhere, splitWhere, ih]
    split
    · rfl
    · cases hpieces : splitWhere p cs with
      | nil => exact absurd hpieces (splitWhere_ne_nil p cs)
      | cons piece pieces => rfl

lemma mem_joinWith {mark : List Char} (h : c ∈ joinWith mark pieces) :
    c ∈ mark ∨ ∃ piece ∈ pieces, c ∈ piece := by
  induction pieces with
  | nil => cases h
  | cons piece pieces ih =>
    cases pieces with
    | nil =>
      rw [joinWith, List.intercalate_singleton] at h
      exact .inr ⟨piece, List.mem_cons_self, h⟩
    | cons next pieces =>
      rw [joinWith, List.intercalate_cons_cons, List.mem_append, List.mem_append] at h
      rcases h with (hpiece | hmark) | hrest
      · exact .inr ⟨piece, List.mem_cons_self, hpiece⟩
      · exact .inl hmark
      · obtain hmark | ⟨other, hother, hc⟩ := ih hrest
        · exact .inl hmark
        · exact .inr ⟨other, List.mem_cons_of_mem piece hother, hc⟩

end Marks

section Trim

/-- The code points of the blanks. -/
def blankCodes : List Nat :=
  List.range' 9 5 ++ List.range' 28 5 ++ [0x85, 0xA0, 0x1680] ++ List.range' 0x2000 11 ++
    [0x2028, 0x2029, 0x202F, 0x205F, 0x3000]

lemma mem_blankCodes (h : isBlank c = true) : c.toNat ∈ blankCodes := by
  simp only [isBlank, Bool.or_eq_true, Bool.and_eq_true, decide_eq_true_eq, beq_iff_eq] at h
  simp only [blankCodes, List.mem_append, List.mem_range'_1, List.mem_cons, List.not_mem_nil,
    or_false]
  omega

lemma isBlank_of_codes {p : Char → Bool} (hcodes : ∀ n ∈ blankCodes, p (Char.ofNat n) = false)
    (h : p c = true) : isBlank c = false := by
  refine Bool.eq_false_iff.mpr fun hblank => ?_
  have hcode := hcodes c.toNat (mem_blankCodes hblank)
  rw [Char.ofNat_toNat, h] at hcode
  cases hcode

lemma code_of_isAlpha (h : c.isAlpha = true) :
    65 ≤ c.toNat ∧ c.toNat ≤ 90 ∨ 97 ≤ c.toNat ∧ c.toNat ≤ 122 := by
  rcases Bool.or_eq_true_iff.mp h with hupper | hlower
  · exact .inl (of_decide_eq_true hupper)
  · obtain ⟨hfirst, hlast⟩ := Bool.and_eq_true_iff.mp hlower
    exact .inr ⟨of_decide_eq_true hfirst, of_decide_eq_true hlast⟩

lemma isBlank_of_isAlpha (h : c.isAlpha = true) : isBlank c = false := by
  have hcode := code_of_isAlpha h
  simp only [isBlank, Bool.or_eq_false_iff, Bool.and_eq_false_iff, decide_eq_false_iff_not,
    beq_eq_false_iff_ne]
  omega

lemma isBlank_of_isDigit (h : isDigit c = true) : isBlank c = false :=
  isBlank_of_codes (by decide +kernel) h

lemma trimLeft_append (h : ∀ c ∈ blanks, isBlank c = true) (cs : List Char) :
    trimLeft (blanks ++ cs) = trimLeft cs :=
  List.dropWhile_append_of_pos h

lemma trimLeft_cons (h : isBlank c = false) (cs : List Char) : trimLeft (c :: cs) = c :: cs :=
  List.dropWhile_cons_of_neg (by simp [h])

lemma trim_cons (h : isBlank c = true) (cs : List Char) : trim (c :: cs) = trim cs := by
  rw [trim, trimLeft, List.dropWhile_cons_of_pos h, ← trimLeft, ← trim]

lemma trimRight_concat (h : isBlank c = false) (cs : List Char) :
    trimRight (cs ++ [c]) = cs ++ [c] := by
  rw [trimRight, dropTailWhile, List.reverse_concat, List.dropWhile_cons_of_neg (by simp [h]),
    List.reverse_cons, List.reverse_reverse]

lemma trimLeft_of_forall (h : ∀ c ∈ cs, isBlank c = false) : trimLeft cs = cs := by
  cases cs with
  | nil => rfl
  | cons c cs => rw [trimLeft, List.dropWhile_cons_of_neg (by simp [h c List.mem_cons_self])]

lemma trim_of_forall (h : ∀ c ∈ cs, isBlank c = false) : trim cs = cs := by
  have hreverse : cs.reverse.dropWhile isBlank = cs.reverse :=
    trimLeft_of_forall fun c hc => h c (List.mem_reverse.mp hc)
  rw [trim, trimLeft_of_forall h, trimRight, dropTailWhile, hreverse, List.reverse_reverse]

end Trim

section Lines

lemma isLineEnd_newline : isLineEnd '\n' = true := by decide

lemma isLineEnd_of_not_isBlank (h : isBlank c = false) : isLineEnd c = false := by
  refine Bool.eq_false_iff.mpr fun hend => ?_
  rw [isBlank_of_isLineEnd hend] at h
  cases h

lemma forall_of_any (h : cs.any p = false) : ∀ c ∈ cs, p c = false := by
  simpa using h

lemma cutLine_cons (h : isLineEnd c = false) (cs : List Char) :
    cutLine (c :: cs) = (c :: (cutLine cs).1, (cutLine cs).2.1, (cutLine cs).2.2) := by
  rw [cutLine]
  · simp [h]
  · rintro _ rfl
    exact absurd h (by decide)

lemma cutLine_end (h : isLineEnd c = true)
    (hpair : ∀ rest, c = '\r' → cs = '\n' :: rest → False) : cutLine (c :: cs) = ([], [c], cs) := by
  rw [cutLine]
  · simp [h]
  · exact hpair

lemma cutLine_line (h : ∀ c ∈ line, isLineEnd c = false) (tail : List Char) :
    cutLine (line ++ '\n' :: tail) = (line, ['\n'], tail) := by
  induction line with
  | nil => simp [cutLine, isLineEnd_newline]
  | cons c line ih =>
    rw [List.cons_append, cutLine_cons (h c List.mem_cons_self),
      ih fun d hd => h d (List.mem_cons_of_mem c hd)]

lemma cutLine_last (h : ∀ c ∈ line, isLineEnd c = false) : cutLine line = (line, [], []) := by
  induction line with
  | nil => rfl
  | cons c line ih =>
    rw [cutLine_cons (h c List.mem_cons_self), ih fun d hd => h d (List.mem_cons_of_mem c hd)]

lemma lines_of_ne_nil (h : cs ≠ []) : lines cs = (cutLine cs).1 :: lines (cutLine cs).2.2 := by
  cases cs with
  | nil => exact absurd rfl h
  | cons c cs => rw [lines]

lemma lines_line (h : ∀ c ∈ line, isLineEnd c = false) (tail : List Char) :
    lines (line ++ '\n' :: tail) = line :: lines tail := by
  rw [lines_of_ne_nil (by simp), cutLine_line h]

lemma lines_last (h : ∀ c ∈ line, isLineEnd c = false) (hne : line ≠ []) : lines line = [line] := by
  rw [lines_of_ne_nil hne, cutLine_last h, lines]

/-- A newline after a text leaves its first line as it is. A carriage return at the end of the text
and the newline end one line. -/
lemma cutLine_append_newline (cs tail : List Char) :
    (cutLine (cs ++ '\n' :: tail)).1 = (cutLine cs).1 ∧
      ((cutLine (cs ++ '\n' :: tail)).2.2 = (cutLine cs).2.2 ++ '\n' :: tail ∨
        (cutLine cs).2.2 = []) := by
  fun_induction cutLine cs with
  | case1 => simp [cutLine, isLineEnd_newline]
  | case2 cs => simp [cutLine]
  | case3 c cs hpair hend =>
    by_cases hreturn : cs = [] ∧ c = '\r'
    · -- here the newline is taken into the end of the last line
      obtain ⟨rfl, rfl⟩ := hreturn
      exact ⟨rfl, .inr rfl⟩
    · have hpair' : ∀ rest, c = '\r' → cs ++ '\n' :: tail = '\n' :: rest → False := by
        intro rest hc hcs
        cases cs with
        | nil => exact hreturn ⟨rfl, hc⟩
        | cons d cs =>
          obtain ⟨rfl, -⟩ := List.cons.inj hcs
          exact hpair cs hc rfl
      rw [List.cons_append, cutLine_end hend hpair']
      exact ⟨rfl, .inl rfl⟩
  | case4 c cs hpair hend line ending rest hcut ih =>
    rw [List.cons_append, cutLine_cons (by simpa using hend)]
    rw [hcut] at ih
    exact ⟨congrArg (c :: ·) ih.1, ih.2⟩

lemma lines_prefix_append_newline (cs tail : List Char) :
    lines cs <+: lines (cs ++ '\n' :: tail) := by
  by_cases hcs : cs = []
  · rw [hcs, lines]
    exact List.nil_prefix
  · obtain ⟨hline, hrest⟩ := cutLine_append_newline cs tail
    have hne : cs ++ '\n' :: tail ≠ [] := by simp
    rw [lines_of_ne_nil hcs, lines_of_ne_nil hne, hline]
    refine List.cons_prefix_cons.mpr ⟨rfl, ?_⟩
    rcases hrest with hrest | hrest
    · have hshorter : (cutLine cs).2.2.length < cs.length := by
        obtain ⟨c, cs, rfl⟩ := List.exists_cons_of_ne_nil hcs
        exact length_cutLine_rest_lt
      rw [hrest]
      exact lines_prefix_append_newline (cutLine cs).2.2 tail
    · rw [hrest, lines]
      exact List.nil_prefix
termination_by cs.length

end Lines

section WrittenLines

/-- A text of lines, with a newline after each. -/
def ofLines : List (List Char) → List Char
  | [] => []
  | line :: ls => line ++ '\n' :: ofLines ls

lemma ofLines_append (ls ms : List (List Char)) :
    ofLines (ls ++ ms) = ofLines ls ++ ofLines ms := by
  induction ls with
  | nil => rfl
  | cons line ls ih => simp [ofLines, ih]

lemma lines_ofLines (h : ∀ line ∈ ls, ∀ c ∈ line, isLineEnd c = false) (tail : List Char) :
    lines (ofLines ls ++ tail) = ls ++ lines tail := by
  induction ls with
  | nil => rfl
  | cons line ls ih =>
    rw [ofLines, List.append_assoc, List.cons_append, lines_line (h line List.mem_cons_self),
      ih fun l hl => h l (List.mem_cons_of_mem line hl), List.cons_append]

lemma cutAt?_ofLines (hmark : mark ≠ []) (hnewline : '\n' ∉ mark)
    (h : ∀ line ∈ ls, contains mark line = false) (tail : List Char) :
    cutAt? mark (ofLines ls ++ tail) =
      (cutAt? mark tail).map fun (before, after) => (ofLines ls ++ before, after) := by
  induction ls with
  | nil => simp [ofLines]
  | cons line ls ih =>
    rw [ofLines, List.append_assoc, List.cons_append,
      cutAt?_append_cons hmark hnewline (h line List.mem_cons_self),
      ih fun l hl => h l (List.mem_cons_of_mem line hl), Option.map_map]
    simp [Function.comp_def]

end WrittenLines

end CallSchema.Text
