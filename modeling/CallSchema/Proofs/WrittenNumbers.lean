import CallSchema.Number
import Mathlib.Data.List.Basic
import Mathlib.Data.List.Forall2
import Mathlib.Tactic.Lemma

/-!
# Written numbers

The texts that are taken apart as numbers are those of a grammar: a sign or none, digits with a
point among or after them or before them, and an exponent or none. A text of the grammar is taken
apart in one way.
-/

namespace CallSchema.Number

open Text

variable {cs text rest sign mantissa tail : List Char} {ds whole part : List Nat}
  {negative point : Bool} {exponent : Option (Bool × List Nat)} {l : Literal}

section Grammar

/-- A text of digits, of any script, and their values. -/
def IsDigits (text : List Char) (ds : List Nat) : Prop :=
  List.Forall₂ (fun c d => digit? c = some d) text ds

/-- A sign, or none, and whether it makes a number negative. -/
inductive IsSign : List Char → Bool → Prop
  | none : IsSign [] false
  | plus : IsSign ['+'] false
  | minus : IsSign ['-'] true

/-- Digits, a point after them with more digits or none, or a point before them. -/
inductive IsMantissa : List Char → List Nat → Bool → List Nat → Prop
  | whole {text : List Char} {ds : List Nat} (h : IsDigits text ds) (hne : ds ≠ []) :
    IsMantissa text ds false []
  | point {before after : List Char} {whole part : List Nat} (h : IsDigits before whole)
    (hne : whole ≠ []) (hpart : IsDigits after part) :
    IsMantissa (before ++ '.' :: after) whole true part
  | part {after : List Char} {part : List Nat} (h : IsDigits after part) (hne : part ≠ []) :
    IsMantissa ('.' :: after) [] true part

/-- An exponent with a sign or none, or no exponent. -/
inductive IsExponent : List Char → Option (Bool × List Nat) → Prop
  | none : IsExponent [] none
  | power {mark : Char} {sign text : List Char} {negative : Bool} {ds : List Nat}
    (hmark : mark = 'e' ∨ mark = 'E') (hsign : IsSign sign negative) (h : IsDigits text ds)
    (hne : ds ≠ []) : IsExponent (mark :: (sign ++ text)) (some (negative, ds))

/-- The texts that write a number. -/
inductive Writes : List Char → Literal → Prop
  | mk {sign mantissa tail : List Char} {negative point : Bool} {whole part : List Nat}
    {exponent : Option (Bool × List Nat)} (hsign : IsSign sign negative)
    (hmantissa : IsMantissa mantissa whole point part) (htail : IsExponent tail exponent) :
    Writes (sign ++ (mantissa ++ tail)) { negative, whole, point, part, exponent }

end Grammar

section Readers

/-- No more digits follow. -/
def EndsDigits (rest : List Char) : Prop := ∀ c ∈ rest.head?, digit? c = none

lemma takeDigits_append (h : IsDigits text ds) (hrest : EndsDigits rest) :
    takeDigits (text ++ rest) = (ds, rest) := by
  induction h with
  | nil =>
    cases rest with
    | nil => rfl
    | cons c rest => rw [List.nil_append, takeDigits, hrest c rfl]
  | @cons c d text ds hc _ ih => rw [List.cons_append, takeDigits, hc, ih]

lemma exists_digits (cs : List Char) :
    ∃ text, IsDigits text (takeDigits cs).1 ∧ cs = text ++ (takeDigits cs).2 ∧
      EndsDigits (takeDigits cs).2 := by
  induction cs with
  | nil => exact ⟨[], .nil, rfl, nofun⟩
  | cons c cs ih =>
    rw [takeDigits]
    split
    · rename_i d hd
      obtain ⟨text, htext, hcs, hends⟩ := ih
      exact ⟨c :: text, .cons hd htext, congrArg (c :: ·) hcs, hends⟩
    · rename_i hnone
      refine ⟨[], .nil, rfl, fun d hd => ?_⟩
      obtain rfl := Option.some.inj hd
      exact hnone

/-- A number does not begin with a second sign. -/
def EndsSign (rest : List Char) : Prop := ∀ c ∈ rest.head?, c ≠ '+' ∧ c ≠ '-'

lemma takeSign_append (h : IsSign sign negative) (hrest : EndsSign rest) :
    takeSign (sign ++ rest) = (negative, rest) := by
  cases h with
  | none =>
    cases rest with
    | nil => rfl
    | cons c rest =>
      obtain ⟨hplus, hminus⟩ := hrest c rfl
      rw [List.nil_append]
      unfold takeSign
      split <;> simp_all
  | plus => rfl
  | minus => rfl

lemma exists_sign (cs : List Char) :
    ∃ sign, IsSign sign (takeSign cs).1 ∧ cs = sign ++ (takeSign cs).2 := by
  fun_cases takeSign cs with
  | case1 cs => exact ⟨['-'], .minus, rfl⟩
  | case2 cs => exact ⟨['+'], .plus, rfl⟩
  | case3 => exact ⟨[], .none, rfl⟩

/-- Reads the digits behind a point, if one follows. -/
def takePart : List Char → Bool × List Nat × List Char
  | '.' :: rest => (true, takeDigits rest)
  | rest => (false, [], rest)

/-- Reads an exponent that ends the text, or the end of it. -/
def tail? : List Char → Option (Option (Bool × List Nat))
  | [] => some none
  | cs => (exponentOf? cs).map some

lemma takePart_of_head? (h : cs.head? ≠ some '.') : takePart cs = (false, [], cs) := by
  unfold takePart
  split
  · exact absurd rfl h
  · rfl

lemma literal?_eq (cs : List Char) : literal? cs =
    if (takeDigits (takeSign cs).2).1 = [] ∧ (takePart (takeDigits (takeSign cs).2).2).2.1 = []
    then none
    else (tail? (takePart (takeDigits (takeSign cs).2).2).2.2).map fun exponent =>
      { negative := (takeSign cs).1, whole := (takeDigits (takeSign cs).2).1,
        point := (takePart (takeDigits (takeSign cs).2).2).1,
        part := (takePart (takeDigits (takeSign cs).2).2).2.1, exponent } := by
  rw [literal?]
  generalize takeSign cs = signed
  obtain ⟨negative, afterSign⟩ := signed
  dsimp only
  generalize takeDigits afterSign = counted
  obtain ⟨whole, afterWhole⟩ := counted
  dsimp only
  by_cases hpoint : afterWhole.head? = some '.'
  · obtain ⟨afterPoint, rfl⟩ := List.head?_eq_some_iff.mp hpoint
    simp only [takePart]
    generalize takeDigits afterPoint = divided
    obtain ⟨part, afterPart⟩ := divided
    cases afterPart <;> simp [tail?, Option.map_map, Function.comp_def]
  · rw [takePart_of_head? hpoint]
    cases afterWhole with
    | nil => simp [tail?]
    | cons c afterPart =>
      have hc : c ≠ '.' := fun hc => hpoint (hc ▸ rfl)
      simp [tail?, hc, Option.map_map, Function.comp_def]

lemma IsExponent.head (h : IsExponent tail exponent) :
    EndsDigits tail ∧ tail.head? ≠ some '.' := by
  cases h with
  | none => exact ⟨nofun, nofun⟩
  | power hmark hsign hdigits hne =>
    refine ⟨fun c hc => ?_, fun hpoint => ?_⟩
    · obtain rfl := Option.some.inj hc
      rcases hmark with rfl | rfl <;> decide
    · obtain rfl := Option.some.inj hpoint
      rcases hmark with hmark | hmark <;> cases hmark

lemma IsDigits.endsSign (h : IsDigits text ds) (hne : ds ≠ []) (rest : List Char) :
    EndsSign (text ++ rest) := by
  cases h with
  | nil => exact absurd rfl hne
  | cons hc _ =>
    intro d hd
    obtain rfl := Option.some.inj hd
    constructor
    · rintro rfl
      cases hc
    · rintro rfl
      cases hc

lemma IsDigits.eq_nil_iff (h : IsDigits text ds) : text = [] ↔ ds = [] := by
  cases h <;> simp

lemma IsMantissa.read (h : IsMantissa mantissa whole point part) (hdigits : EndsDigits tail)
    (hpoint : tail.head? ≠ some '.') :
    EndsSign (mantissa ++ tail) ∧ (takeDigits (mantissa ++ tail)).1 = whole ∧
      takePart (takeDigits (mantissa ++ tail)).2 = (point, part, tail) ∧
      ¬(whole = [] ∧ part = []) := by
  have hpointed (rest : List Char) : EndsDigits ('.' :: rest) := by
    intro c hc
    obtain rfl := Option.some.inj hc
    decide
  cases h with
  | whole h hne =>
    rw [takeDigits_append h hdigits]
    exact ⟨h.endsSign hne tail, rfl, takePart_of_head? hpoint, fun hempty => hne hempty.1⟩
  | point h hne hpart =>
    rw [List.append_assoc, List.cons_append, takeDigits_append h (hpointed _)]
    refine ⟨h.endsSign hne _, rfl, ?_, fun hempty => hne hempty.1⟩
    rw [takePart, takeDigits_append hpart hdigits]
  | @part after _ h hne =>
    have hnone : takeDigits ('.' :: after ++ tail) = ([], '.' :: (after ++ tail)) :=
      takeDigits_append .nil (hpointed _)
    rw [hnone]
    refine ⟨fun c hc => ?_, rfl, ?_, fun hempty => hne hempty.2⟩
    · obtain rfl := Option.some.inj hc
      decide
    · rw [takePart, takeDigits_append h hdigits]

lemma takePart_cases (cs : List Char) :
    (∃ after, IsDigits after (takePart cs).2.1 ∧ (takePart cs).1 = true ∧
      cs = '.' :: (after ++ (takePart cs).2.2)) ∨ takePart cs = (false, [], cs) := by
  by_cases hpoint : cs.head? = some '.'
  · obtain ⟨rest, rfl⟩ := List.head?_eq_some_iff.mp hpoint
    obtain ⟨after, hafter, hrest, -⟩ := exists_digits rest
    exact .inl ⟨after, hafter, rfl, congrArg ('.' :: ·) hrest⟩
  · exact .inr (takePart_of_head? hpoint)

lemma exists_mantissa (cs : List Char)
    (h : ¬((takeDigits cs).1 = [] ∧ (takePart (takeDigits cs).2).2.1 = [])) :
    ∃ mantissa, IsMantissa mantissa (takeDigits cs).1 (takePart (takeDigits cs).2).1
        (takePart (takeDigits cs).2).2.1 ∧
      cs = mantissa ++ (takePart (takeDigits cs).2).2.2 := by
  obtain ⟨before, hbefore, hcs, -⟩ := exists_digits cs
  generalize takeDigits cs = counted at h hbefore hcs ⊢
  obtain ⟨whole, afterWhole⟩ := counted
  dsimp only at h hbefore hcs ⊢
  rcases takePart_cases afterWhole with ⟨after, hafter, hpoint, hrest⟩ | hnone
  · generalize takePart afterWhole = divided at h hafter hpoint hrest ⊢
    obtain ⟨point, part, afterPart⟩ := divided
    dsimp only at h hafter hpoint hrest ⊢
    subst hpoint hrest hcs
    cases whole with
    | nil =>
      obtain rfl := hbefore.eq_nil_iff.mpr rfl
      exact ⟨'.' :: after, .part hafter fun hpart => h ⟨rfl, hpart⟩, rfl⟩
    | cons d ds =>
      refine ⟨before ++ '.' :: after, .point hbefore (List.cons_ne_nil d ds) hafter, ?_⟩
      rw [List.append_assoc, List.cons_append]
  · rw [hnone] at h ⊢
    exact ⟨before, .whole hbefore fun hwhole => h ⟨hwhole, rfl⟩, hcs⟩

lemma exponentOf?_eq_some_iff {mark : Char} : exponentOf? (mark :: cs) = some (negative, ds) ↔
    (mark = 'e' ∨ mark = 'E') ∧ (takeSign cs).1 = negative ∧
      takeDigits (takeSign cs).2 = (ds, []) ∧ ds ≠ [] := by
  rw [exponentOf?]
  generalize takeSign cs = signed
  obtain ⟨sign, afterSign⟩ := signed
  dsimp only
  generalize takeDigits afterSign = counted
  obtain ⟨found, afterDigits⟩ := counted
  by_cases hmark : mark = 'e' ∨ mark = 'E'
  · rw [if_pos (by simpa using hmark)]
    cases found with
    | nil =>
      refine iff_of_false nofun ?_
      rintro ⟨-, -, heq, hne⟩
      exact hne (Prod.mk.inj heq).1.symm
    | cons d found =>
      cases afterDigits with
      | nil =>
        simp only [hmark, Option.some.injEq, Prod.mk.injEq, and_true, true_and]
        constructor
        · rintro ⟨hsign, rfl⟩
          exact ⟨hsign, rfl, List.cons_ne_nil d found⟩
        · rintro ⟨hsign, hds, -⟩
          exact ⟨hsign, hds⟩
      | cons c afterDigits =>
        refine iff_of_false nofun ?_
        rintro ⟨-, -, heq, -⟩
        cases (Prod.mk.inj heq).2
  · rw [if_neg (by simpa using hmark)]
    exact iff_of_false nofun fun h => hmark h.1

lemma tail?_eq_some_iff : tail? tail = some exponent ↔ IsExponent tail exponent := by
  constructor
  · intro h
    cases tail with
    | nil =>
      obtain rfl := Option.some.inj h
      exact .none
    | cons mark cs =>
      obtain ⟨⟨negative, ds⟩, hpower, rfl⟩ := Option.map_eq_some_iff.mp h
      obtain ⟨hmark, hnegative, hdigits, hne⟩ := exponentOf?_eq_some_iff.mp hpower
      obtain ⟨sign, hsign, hcs⟩ := exists_sign cs
      obtain ⟨text, htext, hrest, -⟩ := exists_digits (takeSign cs).2
      rw [hdigits, List.append_nil] at hrest
      rw [hdigits] at htext
      rw [hnegative] at hsign
      rw [hcs, hrest]
      exact .power hmark hsign htext hne
  · intro h
    cases h with
    | none => rfl
    | power hmark hsign h hne =>
      have hdigits := takeDigits_append h (nofun : EndsDigits [])
      have hends := h.endsSign hne []
      rw [List.append_nil] at hdigits hends
      have hread := takeSign_append hsign hends
      refine Option.map_eq_some_iff.mpr ⟨_, exponentOf?_eq_some_iff.mpr ?_, rfl⟩
      rw [hread]
      exact ⟨hmark, rfl, hdigits, hne⟩

/-- What is read as a number is what a text of the grammar writes. -/
theorem literal?_eq_some_iff : literal? cs = some l ↔ Writes cs l := by
  rw [literal?_eq]
  constructor
  · intro h
    split at h
    · cases h
    · rename_i hne
      obtain ⟨exponent, htail, rfl⟩ := Option.map_eq_some_iff.mp h
      obtain ⟨sign, hsign, hcs⟩ := exists_sign cs
      obtain ⟨mantissa, hmantissa, hrest⟩ := exists_mantissa (takeSign cs).2 hne
      have hwrites := Writes.mk hsign hmantissa (tail?_eq_some_iff.mp htail)
      rw [← hrest, ← hcs] at hwrites
      exact hwrites
  · rintro ⟨hsign, hmantissa, htail⟩
    obtain ⟨hdigits, hpoint⟩ := htail.head
    obtain ⟨hends, hwhole, hpart, hne⟩ := hmantissa.read hdigits hpoint
    rw [takeSign_append hsign hends]
    dsimp only
    rw [hpart, hwhole, if_neg hne, tail?_eq_some_iff.mpr htail]
    rfl

lemma Writes.unique {l' : Literal} (h : Writes text l) (h' : Writes text l') : l = l' :=
  Option.some.inj ((literal?_eq_some_iff.mpr h).symm.trans (literal?_eq_some_iff.mpr h'))

end Readers

end CallSchema.Number
