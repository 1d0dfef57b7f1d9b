import CallSchema.Proofs.NearestDoubles
import CallSchema.Proofs.RejectedDeclarations
import Mathlib.Data.Nat.Digits.Defs

/-!
# Numeric values

Digits alone are read as the whole number that they write, and every other written number as the
nearest double, if that is finite. Listed values are numbers if all of them are so read, and else
they all stay texts.
-/

namespace CallSchema

namespace Number

open Text Binary64

variable {cs text : List Char} {l : Literal}

section Values

/-- The whole number that digits write, the first of them standing highest. -/
def valueOf (ds : List Nat) : Nat := Nat.ofDigits 10 ds.reverse

/-- Digits alone, behind a sign or none. -/
def Literal.IsPlain (l : Literal) : Prop := l.point = false ∧ l.exponent = none

/-- The power of ten that an exponent writes. -/
def Literal.power (l : Literal) : Int :=
  match l.exponent with
  | none => 0
  | some (true, ds) => -valueOf ds
  | some (false, ds) => valueOf ds

/-- The number that a literal writes, without its sign. -/
def Literal.size (l : Literal) : ℚ :=
  (valueOf l.whole + valueOf l.part / 10 ^ l.part.length) * 10 ^ l.power

/-- What a text that writes a number is read as: digits alone as the whole number, and any other
number as the nearest double, if it is not too large for one. -/
inductive Reads : List Char → Number → Prop
  | int {text : List Char} {l : Literal} (h : Writes text l) (hplain : l.IsPlain) :
    Reads text (.int (if l.negative then -valueOf l.whole else valueOf l.whole))
  | float {text : List Char} {l : Literal} {m : Nat} {e : Int} (h : Writes text l)
    (hplain : ¬l.IsPlain) (hsize : l.size < overflow) (hnearest : IsNearest l.size m e) :
    Reads text (.float (.finite l.negative m e))

/-- A text writes a number that is whole, or not too large for a double. -/
def IsNumeric (text : List Char) : Prop :=
  ∃ l, Writes text l ∧ (l.IsPlain ∨ l.size < overflow)

lemma Reads.unique {n n' : Number} (h : Reads text n) (h' : Reads text n') : n = n' := by
  cases h with
  | int h hplain =>
    cases h' with
    | int h' _ => rw [h.unique h']
    | float h' hplain' _ _ => exact absurd (h.unique h' ▸ hplain) hplain'
  | float h hplain _ hnearest =>
    cases h' with
    | int h' hplain' => exact absurd (h'.unique h ▸ hplain') hplain
    | float h' _ _ hnearest' =>
      obtain rfl := h.unique h'
      obtain ⟨rfl, rfl⟩ := hnearest.unique hnearest'
      rfl

lemma Reads.isNumeric {n : Number} (h : Reads text n) : IsNumeric text := by
  cases h with
  | int h hplain => exact ⟨_, h, .inl hplain⟩
  | float h _ hsize _ => exact ⟨_, h, .inr hsize⟩

lemma natOfDigits_concat (ds : List Nat) (d : Nat) :
    natOfDigits (ds ++ [d]) = 10 * natOfDigits ds + d := by
  rw [natOfDigits, List.foldl_append]
  rfl

lemma natOfDigits_eq (ds : List Nat) : natOfDigits ds = valueOf ds := by
  induction ds using List.reverseRecOn with
  | nil => rfl
  | append_singleton ds d ih =>
    rw [natOfDigits_concat, ih, valueOf, valueOf, List.reverse_append, List.reverse_singleton,
      List.singleton_append, Nat.ofDigits_cons]
    exact Nat.add_comm _ _

lemma valueOf_append (xs ys : List Nat) :
    valueOf (xs ++ ys) = valueOf xs * 10 ^ ys.length + valueOf ys := by
  rw [valueOf, valueOf, valueOf, List.reverse_append, Nat.ofDigits_append, List.length_reverse]
  ring

lemma rounds_toBinary64 (l : Literal) : Rounds l.size l.negative l.toBinary64 := by
  have hsize : l.size =
      natOfDigits (l.whole ++ l.part) * 10 ^ (l.power - l.part.length) := by
    rw [natOfDigits_eq, valueOf_append, Literal.size, zpow_sub₀ (by norm_num), zpow_natCast]
    push_cast
    field_simp
  have hdouble : l.toBinary64 =
      ofDecimal l.negative (natOfDigits (l.whole ++ l.part)) (l.power - l.part.length) := by
    rw [Literal.toBinary64, Literal.power]
    cases l.exponent with
    | none => rfl
    | some power =>
      obtain ⟨negative, ds⟩ := power
      cases negative <;> simp [natOfDigits_eq]
  rw [hsize, hdouble]
  exact rounds_ofDecimal _ _ _

end Values

section Reading

lemma parse?_of_getLast? (h : cs.getLast? ≠ some '\n') : parse? cs =
    match literal? cs with
    | none => .ok none
    | some l =>
      if !l.point && l.exponent.isNone then
        if maxDigits < l.whole.length then .error (.tooManyDigits l.whole.length)
        else .ok (some (.int (if l.negative then -valueOf l.whole else valueOf l.whole)))
      else .ok (if l.toBinary64.isFinite then some (.float l.toBinary64) else none) := by
  rw [parse?, if_neg h]
  simp only [natOfDigits_eq]
  rfl

lemma isPlain_iff : (!l.point && l.exponent.isNone) = true ↔ l.IsPlain := by
  rw [Bool.and_eq_true, Bool.not_eq_true', Option.isNone_iff_eq_none, Literal.IsPlain]

lemma exists_parse? (h : cs.countP isDigit ≤ maxDigits) : ∃ o, parse? cs = .ok o := by
  cases hparse : parse? cs with
  | ok o => exact ⟨o, rfl⟩
  | error e => exact absurd (parse?_eq_error_iff.mp hparse).1 (not_isTooLong h)

lemma exists_parse?_of_isNumeric (hlast : cs.getLast? ≠ some '\n')
    (hshort : cs.countP isDigit ≤ maxDigits) (h : IsNumeric cs) :
    ∃ n, parse? cs = .ok (some n) ∧ Reads cs n := by
  obtain ⟨l, hl, hsize⟩ := h
  have hparse := parse?_of_getLast? hlast
  rw [literal?_eq_some_iff.mpr hl] at hparse
  dsimp only at hparse
  by_cases hplain : l.IsPlain
  · rw [if_pos (isPlain_iff.mpr hplain)] at hparse
    split at hparse
    · exact absurd (parse?_eq_error_iff.mp hparse).1 (not_isTooLong hshort)
    · exact ⟨_, hparse, .int hl hplain⟩
  · rw [if_neg (isPlain_iff.not.mpr hplain)] at hparse
    have hsmall : l.size < overflow := hsize.resolve_left hplain
    obtain ⟨m, e, hdouble, hnearest⟩ := (rounds_toBinary64 l).finite hsmall
    rw [hdouble] at hparse
    exact ⟨_, hparse, .float hl hplain hsmall hnearest⟩

lemma parse?_of_not_isNumeric (hlast : cs.getLast? ≠ some '\n') (h : ¬IsNumeric cs) :
    parse? cs = .ok none := by
  rw [parse?_of_getLast? hlast]
  split
  · rfl
  · rename_i l hl
    have hwrites := literal?_eq_some_iff.mp hl
    have hplain : ¬l.IsPlain := fun hplain => h ⟨l, hwrites, .inl hplain⟩
    have hsize : overflow ≤ l.size := not_lt.mp fun hlt => h ⟨l, hwrites, .inr hlt⟩
    rw [if_neg (isPlain_iff.not.mpr hplain), (rounds_toBinary64 l).infinite hsize]
    rfl

end Reading

end Number

namespace Jsdoc

open Text

variable {values : List (List Char)}

lemma exists_reads (hlast : ∀ v ∈ values, v.getLast? ≠ some '\n')
    (hshort : ∀ v ∈ values, v.countP isDigit ≤ maxDigits)
    (h : ∀ v ∈ values, Number.IsNumeric v) :
    ∃ ns, values.mapM Number.parse? = .ok (ns.map some) ∧
      List.Forall₂ Number.Reads values ns := by
  induction values with
  | nil => exact ⟨[], rfl, .nil⟩
  | cons v values ih =>
    rw [List.forall_mem_cons] at hlast hshort h
    obtain ⟨n, hn, hread⟩ := Number.exists_parse?_of_isNumeric hlast.1 hshort.1 h.1
    obtain ⟨ns, hns, hreads⟩ := ih hlast.2 hshort.2 h.2
    exact ⟨n :: ns, mapM_cons_eq_ok_iff.mpr ⟨hn, hns⟩, .cons hread hreads⟩

lemma classifyValues_of_isNumeric (hlast : ∀ v ∈ values, v.getLast? ≠ some '\n')
    (hshort : ∀ v ∈ values, v.countP isDigit ≤ maxDigits)
    (h : ∀ v ∈ values, Number.IsNumeric v) :
    ∃ ns, classifyValues values = .ok ("number", ns.map EnumValue.number) ∧
      List.Forall₂ Number.Reads values ns := by
  obtain ⟨ns, hns, hreads⟩ := exists_reads hlast hshort h
  have hall : (ns.map some).mapM id = some ns := by
    rw [mapM_eq_some_iff, List.forall₂_map_left_iff, List.forall₂_same]
    exact fun _ _ => rfl
  refine ⟨ns, ?_, hreads⟩
  rw [classifyValues_eq, hns, bind_pure_eq_ok_iff]
  exact ⟨_, rfl, by rw [classified, hall]⟩

lemma classifyValues_of_not_isNumeric (hlast : ∀ v ∈ values, v.getLast? ≠ some '\n')
    (hshort : ∀ v ∈ values, v.countP isDigit ≤ maxDigits)
    (h : ¬∀ v ∈ values, Number.IsNumeric v) :
    classifyValues values = .ok ("string", values.map fun v => .text (String.ofList v)) := by
  obtain ⟨v, hv, hnone⟩ : ∃ v ∈ values, ¬Number.IsNumeric v := by
    simpa only [not_forall, exists_prop] using h
  obtain ⟨numbers, hnumbers⟩ : ∃ numbers, values.mapM Number.parse? = .ok numbers :=
    exists_mapM_eq_ok fun w hw => Number.exists_parse? (hshort w hw)
  have hparse := Number.parse?_of_not_isNumeric (hlast v hv) hnone
  obtain ⟨o, ho, hvo⟩ := exists_of_forall₂ (mapM_eq_ok_iff.mp hnumbers) hv
  obtain rfl : none = o := Except.ok.inj (hparse.symm.trans hvo)
  have hall : numbers.mapM id = none := by
    cases hsome : numbers.mapM id with
    | none => rfl
    | some ns =>
      obtain ⟨n, -, hn⟩ := exists_of_forall₂ (mapM_eq_some_iff.mp hsome) ho
      cases hn
  rw [classifyValues_eq, hnumbers, bind_pure_eq_ok_iff]
  exact ⟨_, rfl, by rw [classified, hall]⟩

/-- A listed value is the number that a text is read as. -/
def IsNumberOf (text : List Char) (v : EnumValue) : Prop := ∃ n, v = .number n ∧ Number.Reads text n

lemma rightUnique_isNumberOf : Relator.RightUnique IsNumberOf := by
  rintro text v w ⟨n, rfl, hn⟩ ⟨n', rfl, hn'⟩
  rw [hn.unique hn']

lemma isNumeric_of_isNumberOf {vs : List EnumValue} (h : List.Forall₂ IsNumberOf values vs) :
    ∀ v ∈ values, Number.IsNumeric v := by
  intro v hv
  obtain ⟨_, -, n, -, hn⟩ := exists_of_forall₂ h hv
  exact hn.isNumeric

lemma classifyValues_eq_number_iff (hlast : ∀ v ∈ values, v.getLast? ≠ some '\n')
    (hshort : ∀ v ∈ values, v.countP isDigit ≤ maxDigits) {vs : List EnumValue} :
    classifyValues values = .ok ("number", vs) ↔ List.Forall₂ IsNumberOf values vs := by
  by_cases hnumeric : ∀ v ∈ values, Number.IsNumeric v
  · obtain ⟨ns, hclassify, hreads⟩ := classifyValues_of_isNumeric hlast hshort hnumeric
    have hlists : List.Forall₂ IsNumberOf values (ns.map EnumValue.number) := by
      rw [List.forall₂_map_right_iff]
      exact hreads.imp fun text n hread => ⟨n, rfl, hread⟩
    rw [hclassify]
    constructor
    · rintro ⟨⟩
      exact hlists
    · intro h
      rw [List.right_unique_forall₂' rightUnique_isNumberOf h hlists]
  · refine iff_of_false ?_ fun h => hnumeric (isNumeric_of_isNumberOf h)
    rw [classifyValues_of_not_isNumeric hlast hshort hnumeric]
    exact fun h => absurd (Prod.mk.inj (Except.ok.inj h)).1 (by decide)

/-- Listed values, none of them with a newline or with more digits than are read, are numbers if and
only if each of them is written as one that is whole or not too large for a double. Then they are,
in order, the whole numbers that digits alone write, and the doubles nearest to the others. Else
they are the texts as they are listed. -/
theorem classifyValues_of_short (values : List (List Char))
    (hshort : ∀ v ∈ values, v.countP isDigit ≤ maxDigits) (hlines : ∀ v ∈ values, '\n' ∉ v) :
    ((∃ vs, classifyValues values = .ok ("number", vs)) ↔ ∀ v ∈ values, Number.IsNumeric v) ∧
      (∀ vs, classifyValues values = .ok ("number", vs) ↔ List.Forall₂ IsNumberOf values vs) ∧
      ((¬∀ v ∈ values, Number.IsNumeric v) → classifyValues values =
        .ok ("string", values.map fun v => .text (String.ofList v))) := by
  have hlast : ∀ v ∈ values, v.getLast? ≠ some '\n' := fun v hv heq =>
    hlines v hv (List.mem_of_getLast? heq)
  refine ⟨⟨?_, fun h => ?_⟩, fun vs => classifyValues_eq_number_iff hlast hshort,
    classifyValues_of_not_isNumeric hlast hshort⟩
  · rintro ⟨vs, hvs⟩
    exact isNumeric_of_isNumberOf ((classifyValues_eq_number_iff hlast hshort).mp hvs)
  · obtain ⟨ns, hclassify, -⟩ := classifyValues_of_isNumeric hlast hshort h
    exact ⟨_, hclassify⟩

section Examples

/-- Levels in the ways in which numbers are written: with a sign, in other digits, without digits on
one side of the point, and with an exponent. -/
def levels : List (List Char) :=
  ["1".toList, "-٣".toList, "2.5".toList, "+.5e1".toList, "7.".toList, "1e-400".toList]

def levelValues : List EnumValue :=
  [.number (.int 1), .number (.int (-3)), .number (.float (.finite false 5629499534213120 (-51))),
    .number (.float (.finite false 5629499534213120 (-50))),
    .number (.float (.finite false 7881299347898368 (-50))),
    .number (.float (.finite false 0 (-1074)))]

/-- Levels of which one is too large for a double. -/
def unboundedLevels : List (List Char) := ["1".toList, "1e309".toList]

theorem classifyValues_of_short_levels :
    (∀ v ∈ levels, v.countP isDigit ≤ maxDigits) ∧ (∀ v ∈ levels, '\n' ∉ v) ∧
      (∀ v ∈ levels, Number.IsNumeric v) ∧
      List.Forall₂ IsNumberOf levels levelValues ∧
      (¬∀ v ∈ unboundedLevels, Number.IsNumeric v) ∧
      classifyValues unboundedLevels = .ok ("string", [.text "1", .text "1e309"]) := by
  have hshort : ∀ v ∈ levels, v.countP isDigit ≤ maxDigits := by decide +kernel
  have hlines : ∀ v ∈ levels, '\n' ∉ v := by decide +kernel
  have hlevels : classifyValues levels = .ok ("number", levelValues) := by decide +kernel
  have htexts : classifyValues unboundedLevels = .ok ("string", [.text "1", .text "1e309"]) := by
    decide +kernel
  obtain ⟨hiff, hreads, -⟩ := classifyValues_of_short levels hshort hlines
  obtain ⟨hiff', -, -⟩ := classifyValues_of_short unboundedLevels (by decide +kernel)
    (by decide +kernel)
  refine ⟨hshort, hlines, hiff.mp ⟨_, hlevels⟩, (hreads _).mp hlevels, fun hnumeric => ?_, htexts⟩
  obtain ⟨vs, hvs⟩ := hiff'.mpr hnumeric
  rw [htexts] at hvs
  exact absurd (Prod.mk.inj (Except.ok.inj hvs)).1 (by decide)

end Examples

end Jsdoc

end CallSchema
