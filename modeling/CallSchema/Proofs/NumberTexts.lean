import CallSchema.Document.Writer
import Mathlib.Data.List.Basic
import Mathlib.Data.List.TakeWhile

/-!
# Texts of numbers

The grammar of the numbers of the data format, and that every number that is finite is written by
it: whole numbers of any size, and doubles as the shortest decimals that read back as them.
-/

namespace CallSchema

/-- A number that is not infinite and is a number at all. -/
def Number.isFinite : Number → Bool
  | .int _ => true
  | .float x => x.isFinite

namespace Json

/-- One or more decimal digits. -/
structure Digits (cs : List Char) : Prop where
  ne_nil : cs ≠ []
  isDigit : ∀ c ∈ cs, c.isDigit = true

/-- The whole part of a number, without a needless zero before it. -/
structure Whole (cs : List Char) : Prop extends Digits cs where
  leading : cs.head? = some '0' → cs = ['0']

inductive Fraction : List Char → Prop
  | none : Fraction []
  | point {ds : List Char} (h : Digits ds) : Fraction ('.' :: ds)

inductive Exponent : List Char → Prop
  | none : Exponent []
  | power {e : Char} {sign ds : List Char} (he : e = 'e' ∨ e = 'E')
    (hsign : sign = [] ∨ sign = ['+'] ∨ sign = ['-']) (h : Digits ds) : Exponent (e :: (sign ++ ds))

inductive Unsigned : List Char → Prop
  | mk {whole fraction exponent : List Char} (hwhole : Whole whole) (hfraction : Fraction fraction)
    (hexponent : Exponent exponent) : Unsigned (whole ++ (fraction ++ exponent))

inductive IsNumber : List Char → Prop
  | plain {cs : List Char} (h : Unsigned cs) : IsNumber cs
  | negative {cs : List Char} (h : Unsigned cs) : IsNumber ('-' :: cs)

variable {n digits mantissa : Nat} {cs ds : List Char}

lemma Whole.unsigned (h : Whole cs) : Unsigned cs := by
  simpa using Unsigned.mk h .none .none

lemma Digits.append (h : Digits cs) (hds : ∀ c ∈ ds, c.isDigit = true) : Digits (cs ++ ds) := by
  refine ⟨List.append_ne_nil_of_left_ne_nil h.ne_nil ds, fun c hc => ?_⟩
  exact (List.mem_append.mp hc).elim (h.isDigit c) (hds c)

lemma isDigit_replicate_zero (k : Nat) : ∀ c ∈ List.replicate k '0', c.isDigit = true := by
  intro c hc
  rw [List.eq_of_mem_replicate hc]
  rfl

section Naturals

lemma digits_toDigits (n : Nat) : Digits (Nat.toDigits 10 n) :=
  ⟨Nat.toDigits_ne_nil, fun _ hc => Nat.isDigit_of_mem_toDigits (by decide) (by decide) hc⟩

lemma head?_toDigits_ne_zero (h : 0 < n) : (Nat.toDigits 10 n).head? ≠ some '0' := by
  induction n using Nat.strongRecOn with
  | ind n ih =>
    by_cases hn : n < 10
    · rw [Nat.toDigits_of_lt_base hn]
      have hall : ∀ m < 10, 0 < m → [m.digitChar].head? ≠ some '0' := by decide
      exact hall n hn h
    · have hbase : 10 ≤ n := Nat.le_of_not_lt hn
      have hquotient : 0 < n / 10 := Nat.div_pos hbase (by decide)
      rw [Nat.toDigits_of_base_le (by decide) hbase,
        List.head?_append_of_ne_nil _ Nat.toDigits_ne_nil]
      exact ih (n / 10) (Nat.div_lt_self h (by decide)) hquotient

lemma whole_toDigits (n : Nat) : Whole (Nat.toDigits 10 n) where
  toDigits := digits_toDigits n
  leading h := by
    cases n with
    | zero => rfl
    | succ n => exact absurd h (head?_toDigits_ne_zero n.succ_pos)

lemma isNumber_int (n : Int) : IsNumber (toString n).toList := by
  cases n with
  | ofNat n =>
    change IsNumber (toString n).toList
    rw [Nat.toString_eq_repr, Nat.toList_repr]
    exact .plain (whole_toDigits n).unsigned
  | negSucc n =>
    change IsNumber ("-" ++ toString (n + 1)).toList
    rw [String.toList_append, Nat.toString_eq_repr, Nat.toList_repr]
    exact .negative (whole_toDigits (n + 1)).unsigned

end Naturals

section Decimals

open Binary64

/-- Significant digits: they begin with another digit than zero. -/
structure Significant (ds : List Char) : Prop extends Digits ds where
  head : ds.head? ≠ some '0'

lemma Significant.whole (h : Significant ds) : Whole ds :=
  ⟨h.toDigits, fun hhead => absurd hhead h.head⟩

lemma significant_stripped (h : 0 < n) :
    Significant ((Nat.toDigits 10 n).reverse.dropWhile (· == '0')).reverse := by
  have hprefix :
      ((Nat.toDigits 10 n).reverse.dropWhile (· == '0')).reverse <+: Nat.toDigits 10 n := by
    rw [← List.reverse_suffix, List.reverse_reverse]
    exact List.dropWhile_suffix _
  have hhead := head?_toDigits_ne_zero h
  have hne : ((Nat.toDigits 10 n).reverse.dropWhile (· == '0')).reverse ≠ [] := by
    intro hnil
    rw [List.reverse_eq_nil_iff, List.dropWhile_eq_nil_iff] at hnil
    refine hhead ?_
    cases hdigits : Nat.toDigits 10 n with
    | nil => exact absurd hdigits Nat.toDigits_ne_nil
    | cons c cs =>
      have hc := hnil c (by rw [hdigits]; simp)
      rw [List.head?_cons, eq_of_beq hc]
  obtain ⟨rest, hrest⟩ := hprefix
  refine ⟨⟨hne, fun c hc => ?_⟩, ?_⟩
  · exact (digits_toDigits n).isDigit c (hrest ▸ List.mem_append_left rest hc)
  · rw [← hrest, List.head?_append_of_ne_nil _ hne] at hhead
    exact hhead

lemma Significant.append (h : Significant ds) (hcs : ∀ c ∈ cs, c.isDigit = true) :
    Significant (ds ++ cs) := by
  refine ⟨h.toDigits.append hcs, ?_⟩
  rw [List.head?_append_of_ne_nil _ h.ne_nil]
  exact h.head

lemma Significant.take (h : Significant ds) {k : Nat} (hk : 0 < k) : Significant (ds.take k) := by
  cases ds with
  | nil => exact absurd rfl h.ne_nil
  | cons d ds =>
    cases k with
    | zero => exact absurd hk (Nat.lt_irrefl 0)
    | succ k => exact ⟨⟨nofun, fun c hc => h.isDigit c (List.mem_of_mem_take hc)⟩, h.head⟩

lemma unsigned_point (hwhole : Whole cs) (h : Digits ds) : Unsigned (cs ++ '.' :: ds) := by
  simpa using Unsigned.mk hwhole (.point h) .none

lemma exponent_decimal (point : Int) : Exponent ('e' :: (if point < 0 then '-' else '+') ::
    (if (Nat.toDigits 10 point.natAbs).length < 2 then '0' :: Nat.toDigits 10 point.natAbs
      else Nat.toDigits 10 point.natAbs)) := by
  have hdigits : Digits (if (Nat.toDigits 10 point.natAbs).length < 2
      then '0' :: Nat.toDigits 10 point.natAbs else Nat.toDigits 10 point.natAbs) := by
    have h := digits_toDigits point.natAbs
    split
    · exact ⟨nofun, List.forall_mem_cons.mpr ⟨rfl, h.isDigit⟩⟩
    · exact h
  split
  · exact .power (.inl rfl) (.inr (.inr rfl)) hdigits
  · exact .power (.inl rfl) (.inr (.inl rfl)) hdigits

lemma unsigned_decimalText (h : 0 < digits) (power : Int) :
    Unsigned (decimalText digits power) := by
  have hds := significant_stripped h
  unfold decimalText
  dsimp only
  generalize ((Nat.toDigits 10 digits).reverse.dropWhile (· == '0')).reverse = ds at hds
  generalize Int.ofNat (Nat.toDigits 10 digits).length + power = point
  split
  · split
    · have hpart : Digits (List.replicate (-point).toNat '0' ++ ds) :=
        ⟨List.append_ne_nil_of_right_ne_nil _ hds.ne_nil, fun c hc =>
          (List.mem_append.mp hc).elim (isDigit_replicate_zero _ c) (hds.isDigit c)⟩
      exact unsigned_point (whole_toDigits 0) hpart
    · rename_i hpoint
      have hpositive : 0 < point.toNat := by omega
      have hwhole := (hds.take hpositive).append (isDigit_replicate_zero (point.toNat - ds.length))
      refine unsigned_point hwhole.whole ?_
      split
      · exact digits_toDigits 0
      · rename_i hpart
        exact ⟨by simpa using hpart, fun c hc => hds.isDigit c (List.mem_of_mem_drop hc)⟩
  · have hexponent := exponent_decimal (point - 1)
    match ds, hds with
    | [], hds => exact absurd rfl hds.ne_nil
    | [d], hds => exact Unsigned.mk hds.whole .none hexponent
    | d :: e :: rest, hds =>
      have hrest : Digits (e :: rest) :=
        ⟨nofun, fun c hc => hds.isDigit c (List.mem_cons_of_mem d hc)⟩
      exact Unsigned.mk (hds.take Nat.one_pos).whole (.point hrest) hexponent

lemma of_chosen {p : Nat → Bool} {first second : Nat}
    (h : (if p first then some first else if p second then some second else none) = some digits) :
    p digits = true := by
  split at h
  · rename_i hfirst
    obtain rfl := Option.some.inj h
    exact hfirst
  · split at h
    · rename_i hsecond
      obtain rfl := Option.some.inj h
      exact hsecond
    · cases h

lemma ofDecimal_of_readBack? {exponent power : Int}
    (h : readBack? mantissa exponent power = some digits) :
    ofDecimal false digits power = finite false mantissa exponent :=
  eq_of_beq (of_chosen (p := fun digits =>
    ofDecimal false digits power == finite false mantissa exponent) h)

lemma pos_or_eq_of_shortestFrom (hmantissa : mantissa ≠ 0) (exponent top : Int) (count fuel : Nat) :
    0 < (shortestFrom mantissa exponent top count fuel).1 ∨
      shortestFrom mantissa exponent top count fuel = (0, 0) := by
  induction fuel generalizing count with
  | zero => exact .inr rfl
  | succ fuel ih =>
    rw [shortestFrom]
    split
    · rename_i d hd
      refine .inl (Nat.pos_of_ne_zero ?_)
      rintro rfl
      have hzero := ofDecimal_of_readBack? hd
      rw [ofDecimal, if_pos rfl, zero] at hzero
      exact hmantissa (finite.inj hzero).2.1.symm
    · exact ih (count + 1)

lemma isNumber_finite (negative : Bool) (mantissa : Nat) (exponent : Int)
    (named : Binary64 → String) :
    IsNumber ((finite negative mantissa exponent).textWith named).toList := by
  have hzero : Unsigned ['0', '.', '0'] := unsigned_point (whole_toDigits 0) (digits_toDigits 0)
  have hbody : Unsigned (if mantissa = 0 then ['0', '.', '0'] else
      decimalText (shortest mantissa exponent).1 (shortest mantissa exponent).2) := by
    split
    · exact hzero
    · rename_i hmantissa
      have hdigits : 0 < (shortest mantissa exponent).1 ∨ shortest mantissa exponent = (0, 0) :=
        pos_or_eq_of_shortestFrom hmantissa exponent _ 1 17
      rcases hdigits with hpositive | hnone
      · exact unsigned_decimalText hpositive _
      · rw [hnone]
        exact hzero
  have htext : ((finite negative mantissa exponent).textWith named).toList =
      if negative = true then '-' :: (if mantissa = 0 then ['0', '.', '0'] else
        decimalText (shortest mantissa exponent).1 (shortest mantissa exponent).2)
      else if mantissa = 0 then ['0', '.', '0'] else
        decimalText (shortest mantissa exponent).1 (shortest mantissa exponent).2 :=
    String.toList_ofList
  rw [htext]
  split
  · exact .negative hbody
  · exact .plain hbody

end Decimals

lemma Unsigned.exists_digit (h : Unsigned cs) : ∃ d ds, cs = d :: ds ∧ d.isDigit = true := by
  cases h with
  | mk hwhole hfraction hexponent =>
    obtain ⟨d, ds, rfl⟩ := List.exists_cons_of_ne_nil hwhole.ne_nil
    exact ⟨d, _, rfl, hwhole.isDigit d List.mem_cons_self⟩

lemma not_unsigned {c : Char} (hc : c.isDigit = false) : ¬Unsigned (c :: cs) := by
  intro h
  obtain ⟨d, ds, heq, hd⟩ := h.exists_digit
  rw [(List.cons.inj heq).1, hd] at hc
  cases hc

lemma IsNumber.head (h : IsNumber cs) : Unsigned cs ∨ ∃ ds, cs = '-' :: ds ∧ Unsigned ds := by
  cases h with
  | plain h => exact .inl h
  | negative h => exact .inr ⟨_, rfl, h⟩

lemma not_isNumber {c : Char} (hc : c.isDigit = false) (hsign : c ≠ '-') :
    ¬IsNumber (c :: cs) := by
  intro h
  rcases h.head with h | ⟨ds, heq, -⟩
  · exact not_unsigned hc h
  · exact hsign (List.cons.inj heq).1

lemma not_isNumber_negative {c : Char} (hc : c.isDigit = false) : ¬IsNumber ('-' :: c :: cs) := by
  intro h
  rcases h.head with h | ⟨ds, heq, h⟩
  · exact not_unsigned rfl h
  · rw [← (List.cons.inj heq).2] at h
    exact not_unsigned hc h

/-- Exactly the finite numbers are written as numbers. -/
theorem isNumber_writeNumber_iff {x : Number} :
    IsNumber (Document.writeNumber x).toList ↔ x.isFinite = true := by
  cases x with
  | int n => exact iff_of_true (isNumber_int n) rfl
  | float x =>
    cases x with
    | finite negative mantissa exponent =>
      refine iff_of_true ?_ rfl
      unfold Document.writeNumber
      exact isNumber_finite negative mantissa exponent _
    | infinite negative =>
      refine iff_of_false ?_ nofun
      cases negative with
      | false =>
        change ¬IsNumber ['I', 'n', 'f', 'i', 'n', 'i', 't', 'y']
        exact not_isNumber rfl (by decide)
      | true =>
        change ¬IsNumber ['-', 'I', 'n', 'f', 'i', 'n', 'i', 't', 'y']
        exact not_isNumber_negative rfl
    | nan payload =>
      refine iff_of_false ?_ nofun
      change ¬IsNumber "NaN".toList
      exact not_isNumber rfl (by decide)

end Json

end CallSchema
