import CallSchema.Number.Binary64
import Mathlib.Algebra.Order.Field.Power
import Mathlib.Algebra.Order.Ring.Abs
import Mathlib.Algebra.Ring.Parity
import Mathlib.Data.Rat.Cast.Order
import Mathlib.Tactic.FieldSimp
import Mathlib.Tactic.GCongr
import Mathlib.Tactic.Linarith
import Mathlib.Tactic.NormNum
import Mathlib.Tactic.Positivity
import Mathlib.Tactic.Ring

/-!
# Nearest doubles

A ratio and a decimal are rounded to a double than which none is nearer, and of two that are equally
near to the one with the even mantissa. They are rounded to an infinite one if and only if they are
not below the middle between the greatest double and the next power of two.
-/

namespace CallSchema.Binary64

variable {num den divisor n m k j : Nat} {e f shift : Int} {q x : ℚ}

/-- The number that a mantissa and an exponent stand for. -/
def magnitude (mantissa : Nat) (exponent : Int) : ℚ := mantissa * 2 ^ exponent

/-- A mantissa and an exponent of a double: 53 bits, or fewer at the least exponent. -/
structure IsCanonical (mantissa : Nat) (exponent : Int) : Prop where
  mantissa_lt : mantissa < 2 ^ 53
  least_le : leastExponent ≤ exponent
  le_greatest : exponent ≤ greatestExponent
  full : 2 ^ 52 ≤ mantissa ∨ exponent = leastExponent

/-- No double is nearer to a number. If another one is as near, the mantissa is even. -/
structure IsNearest (q : ℚ) (mantissa : Nat) (exponent : Int) : Prop
    extends IsCanonical mantissa exponent where
  nearest : ∀ n f, IsCanonical n f → |q - magnitude mantissa exponent| ≤ |q - magnitude n f|
  even : ∀ n f, IsCanonical n f → magnitude n f ≠ magnitude mantissa exponent →
    |q - magnitude mantissa exponent| = |q - magnitude n f| → Even mantissa

/-- The middle between the greatest double and the next power of two. -/
def overflow : ℚ := 2 ^ 1024 - 2 ^ 970

section WholeNumbers

/-- The nearest whole number, and of two that are equally near the even one. -/
structure RoundsTo (x : ℚ) (k : Nat) : Prop where
  near : |x - k| ≤ 1 / 2
  even : |x - k| = 1 / 2 → Even k

lemma roundsTo_below (h : 0 ≤ x) (hx : x < 1 / 2) (k : Nat) : RoundsTo (k + x) k := by
  have habs : |(k : ℚ) + x - k| = x := by rw [add_sub_cancel_left, abs_of_nonneg h]
  exact ⟨by linarith, fun heq => by linarith⟩

lemma roundsTo_above (h : 1 / 2 < x) (hx : x < 1) (k : Nat) :
    RoundsTo (k + x) (k + 1 : Nat) := by
  have habs : |(k : ℚ) + x - (k + 1 : Nat)| = 1 - x := by
    push_cast
    rw [add_sub_add_left_eq_sub, abs_sub_comm, abs_of_pos (by linarith)]
  exact ⟨by linarith, fun heq => by linarith⟩

lemma roundsTo_middle (k : Nat) :
    RoundsTo (k + 1 / 2) (if k % 2 = 0 then k else k + 1) := by
  split
  · rename_i heven
    have habs : |(k : ℚ) + 1 / 2 - k| = 1 / 2 := by
      rw [add_sub_cancel_left, abs_of_nonneg (by norm_num)]
    exact ⟨habs.le, fun _ => Nat.even_iff.mpr heven⟩
  · rename_i hodd
    have habs : |(k : ℚ) + 1 / 2 - (k + 1 : Nat)| = 1 / 2 := by
      push_cast
      rw [add_sub_add_left_eq_sub, abs_of_nonpos (by norm_num)]
      norm_num
    exact ⟨habs.le, fun _ => Nat.even_add_one.mpr fun heven => hodd (Nat.even_iff.mp heven)⟩

lemma roundsTo_roundDiv (n : Nat) (h : 0 < divisor) :
    RoundsTo (n / divisor) (roundDiv n divisor) := by
  have hd : (0 : ℚ) < divisor := Nat.cast_pos.mpr h
  have hn : (n : ℚ) / divisor = (n / divisor : Nat) + (n % divisor : Nat) / divisor := by
    have hparts : (divisor : ℚ) * (n / divisor : Nat) + (n % divisor : Nat) = n := by
      exact_mod_cast Nat.div_add_mod n divisor
    rw [← hparts]
    field_simp
  have hpos : (0 : ℚ) ≤ (n % divisor : Nat) / divisor := by positivity
  have hone : ((n % divisor : Nat) : ℚ) / divisor < 1 := by
    rw [div_lt_one hd]
    exact_mod_cast Nat.mod_lt n h
  rw [hn, roundDiv]
  split
  · rename_i hlt
    apply roundsTo_below hpos
    rw [div_lt_div_iff₀ hd two_pos, mul_comm, one_mul]
    exact_mod_cast hlt
  · split
    · rename_i hlt
      refine roundsTo_above ?_ hone _
      rw [div_lt_div_iff₀ two_pos hd, mul_comm _ (2 : ℚ), one_mul]
      exact_mod_cast hlt
    · have hhalf : ((n % divisor : Nat) : ℚ) / divisor = 1 / 2 := by
        rw [div_eq_div_iff hd.ne' two_ne_zero, mul_comm, one_mul]
        exact_mod_cast (by omega : 2 * (n % divisor) = divisor)
      rw [hhalf]
      exact roundsTo_middle _

namespace RoundsTo

/-- Whole numbers other than the nearest are half a unit off or more. -/
lemma half_le (h : RoundsTo x k) (hj : j ≠ k) : 1 / 2 ≤ |x - j| := by
  have hone : (1 : ℚ) ≤ |(j : ℚ) - k| := by
    have hint : (1 : ℤ) ≤ |(j : ℤ) - k| := Int.one_le_abs (sub_ne_zero.mpr (by exact_mod_cast hj))
    exact_mod_cast hint
  have htriangle : |(j : ℚ) - k| ≤ |(j : ℚ) - x| + |x - k| := abs_sub_le _ _ _
  rw [abs_sub_comm (j : ℚ) x] at htriangle
  have := h.near
  linarith

lemma nearest (h : RoundsTo x k) (j : Nat) : |x - k| ≤ |x - j| := by
  by_cases hj : j = k
  · rw [hj]
  · exact h.near.trans (h.half_le hj)

lemma even_of_eq (h : RoundsTo x k) (hj : j ≠ k) (heq : |x - k| = |x - j|) : Even k :=
  h.even (le_antisymm h.near (heq ▸ h.half_le hj))

lemma le_of_lt (h : RoundsTo x k) (hx : x < n) : k ≤ n := by
  have := (abs_le.mp h.near).1
  by_contra hlt
  have : (n + 1 : ℚ) ≤ k := by exact_mod_cast Nat.lt_of_not_le hlt
  linarith

lemma le_of_le (h : RoundsTo x k) (hx : n ≤ x) : n ≤ k := by
  have := (abs_le.mp h.near).2
  by_contra hlt
  have : (k + 1 : ℚ) ≤ n := by exact_mod_cast Nat.lt_of_not_le hlt
  linarith

lemma lt_iff (h : RoundsTo x k) (heven : Even n) : k < n ↔ x < n - 1 / 2 := by
  obtain ⟨hlow, hhigh⟩ := abs_le.mp h.near
  constructor
  · intro hlt
    by_contra hx
    have hk : (k + 1 : ℚ) ≤ n := by exact_mod_cast hlt
    have heq : x - k = 1 / 2 := by linarith
    have hodd : k + 1 = n := by
      have : (k + 1 : ℚ) = n := by linarith
      exact_mod_cast this
    have hevenk := h.even (by rw [heq, abs_of_pos (by norm_num)])
    exact absurd (hodd ▸ heven) (Nat.even_add_one.not.mpr (not_not.mpr hevenk))
  · intro hx
    have : (k : ℚ) < n := by linarith
    exact_mod_cast this

end RoundsTo

end WholeNumbers

section Ratios

lemma magnitude_add (m : Nat) (e : Int) (k : Nat) :
    magnitude m (e + k) = magnitude (m * 2 ^ k) e := by
  rw [magnitude, magnitude, zpow_add₀ two_ne_zero, zpow_natCast]
  push_cast
  ring

lemma scale_snd_pos (num : Nat) (h : 0 < den) (shift : Int) : 0 < (scale num den shift).2 := by
  rw [scale]
  split
  · exact h
  · exact Nat.mul_pos h (Nat.two_pow_pos _)

lemma scale_div (num : Nat) (h : 0 < den) (shift : Int) :
    ((scale num den shift).1 : ℚ) / (scale num den shift).2 = num / den * 2 ^ shift := by
  have hd : (den : ℚ) ≠ 0 := Nat.cast_ne_zero.mpr h.ne'
  rw [scale]
  split
  · rename_i hshift
    obtain ⟨k, rfl⟩ := Int.eq_ofNat_of_zero_le hshift
    simp only [Int.toNat_natCast, Nat.pow_eq, Nat.cast_mul, Nat.cast_pow, Nat.cast_ofNat,
      zpow_natCast]
    ring
  · rename_i hshift
    obtain ⟨k, hk⟩ := Int.eq_ofNat_of_zero_le (a := -shift) (by omega)
    obtain rfl : shift = -k := by omega
    simp only [neg_neg, Int.toNat_natCast, Nat.pow_eq, Nat.cast_mul, Nat.cast_pow, Nat.cast_ofNat,
      zpow_neg, zpow_natCast]
    field_simp

lemma zpow_log2_le (h : 0 < n) : (2 : ℚ) ^ (n.log2 : ℤ) ≤ n := by
  rw [zpow_natCast]
  exact_mod_cast Nat.log2_self_le h.ne'

lemma lt_zpow_log2 (n : Nat) : (n : ℚ) < 2 ^ ((n.log2 : ℤ) + 1) := by
  have hlt : n < 2 ^ (n.log2 + 1) := Nat.lt_log2_self
  have hcast : (2 : ℚ) ^ ((n.log2 : ℤ) + 1) = (2 ^ (n.log2 + 1) : Nat) := by
    push_cast
    exact_mod_cast zpow_natCast (2 : ℚ) (n.log2 + 1)
  rw [hcast]
  exact_mod_cast hlt

/-- The powers of two around a ratio. -/
lemma floorLog2_spec (hnum : 0 < num) (hden : 0 < den) :
    (2 : ℚ) ^ floorLog2 num den ≤ num / den ∧ (num : ℚ) / den < 2 ^ (floorLog2 num den + 1) := by
  have hd : (0 : ℚ) < den := Nat.cast_pos.mpr hden
  -- The numbers of bits give the exponent up to one, and the scaled ratio tells which it is.
  let guess : Int := num.log2 - den.log2
  have hlow : (2 : ℚ) ^ (guess - 1) < num / den := by
    rw [lt_div_iff₀ hd]
    calc (2 : ℚ) ^ (guess - 1) * den
        < 2 ^ (guess - 1) * 2 ^ ((den.log2 : ℤ) + 1) := by
          gcongr
          exact lt_zpow_log2 den
      _ = 2 ^ (num.log2 : ℤ) := by
          rw [← zpow_add₀ two_ne_zero]
          congr 1
          omega
      _ ≤ num := zpow_log2_le hnum
  have hhigh : (num : ℚ) / den < 2 ^ (guess + 1) := by
    rw [div_lt_iff₀ hd]
    calc (num : ℚ) < 2 ^ ((num.log2 : ℤ) + 1) := lt_zpow_log2 num
      _ = 2 ^ (guess + 1) * 2 ^ (den.log2 : ℤ) := by
          rw [← zpow_add₀ two_ne_zero]
          congr 1
          omega
      _ ≤ 2 ^ (guess + 1) * den := by
          gcongr
          exact zpow_log2_le hden
  have hguess : (scale num den (-guess)).2 ≤ (scale num den (-guess)).1 ↔
      (2 : ℚ) ^ guess ≤ num / den := by
    have hscaled : (0 : ℚ) < (scale num den (-guess)).2 :=
      Nat.cast_pos.mpr (scale_snd_pos num hden _)
    rw [← Nat.cast_le (α := ℚ), ← one_le_div hscaled, scale_div num hden, zpow_neg,
      ← div_eq_mul_inv, one_le_div (by positivity)]
  have hfloor : floorLog2 num den =
      if (scale num den (-guess)).2 ≤ (scale num den (-guess)).1 then guess else guess - 1 := rfl
  rw [hfloor]
  split
  · rename_i hle
    exact ⟨hguess.mp hle, hhigh⟩
  · rename_i hlt
    rw [sub_add_cancel]
    exact ⟨hlow.le, lt_of_not_ge fun hge => hlt (hguess.mpr hge)⟩

end Ratios

section Grids

/-- The nearest multiple of a power of two, where the multiple has 53 bits before it is rounded, or
fewer at the least exponent. -/
structure OnGrid (q : ℚ) (mantissa : Nat) (exponent : Int) : Prop where
  rounds : RoundsTo (q / 2 ^ exponent) mantissa
  lt : q < 2 ^ (exponent + 53)
  least_le : leastExponent ≤ exponent
  full : 2 ^ (exponent + 52) ≤ q ∨ exponent = leastExponent

/-- A mantissa that is rounded up to 54 bits is halved. -/
def carried (mantissa : Nat) (exponent : Int) : Nat × Int :=
  if mantissa = 2 ^ 53 then (2 ^ 52, exponent + 1) else (mantissa, exponent)

lemma magnitude_two_pow (k : Nat) (e : Int) : magnitude (2 ^ k) e = 2 ^ (e + k) := by
  rw [magnitude, zpow_add₀ two_ne_zero, zpow_natCast, mul_comm]
  push_cast
  rfl

lemma abs_sub_magnitude (q : ℚ) (n : Nat) (e : Int) :
    |q - magnitude n e| = |q / 2 ^ e - n| * 2 ^ e := by
  have he : (0 : ℚ) < 2 ^ e := by positivity
  rw [← abs_of_pos he, ← abs_mul, abs_of_pos he, sub_mul, div_mul_cancel₀ _ he.ne', magnitude]

lemma magnitude_lt_of_lt (h : IsCanonical n f) (hf : f < e) : magnitude n f < 2 ^ (e + 52) := by
  have hn : (n : ℚ) < 2 ^ 53 := by exact_mod_cast h.mantissa_lt
  calc magnitude n f < 2 ^ 53 * 2 ^ f := by
        rw [magnitude]
        gcongr
    _ = 2 ^ (53 + f) := by
        rw [zpow_add₀ two_ne_zero]
        rfl
    _ ≤ 2 ^ (e + 52) := zpow_le_zpow_right₀ one_le_two (by omega)

lemma overflow_eq : overflow = ((2 ^ 53 : Nat) - 1 / 2) * 2 ^ greatestExponent := by
  have hwhole : (2 : ℚ) ^ 1024 = 2 ^ 53 * 2 ^ 971 := by rw [← pow_add]
  have hhalf : (2 : ℚ) ^ 971 = 2 ^ 970 * 2 := pow_succ 2 970
  have hpower : (2 : ℚ) ^ greatestExponent = 2 ^ 971 := zpow_natCast 2 971
  rw [overflow, hpower, hwhole, hhalf]
  generalize (2 : ℚ) ^ 970 = unit
  push_cast
  ring

lemma two_pow_lt_overflow : 2 ^ (1023 : ℤ) < overflow := by
  have hdouble : (2 : ℚ) ^ 1024 = 2 ^ 1023 * 2 := pow_succ 2 1023
  have hlower : (2 : ℚ) ^ 970 < 2 ^ 1023 := pow_lt_pow_right₀ one_lt_two (by norm_num)
  have hpower : (2 : ℚ) ^ (1023 : ℤ) = 2 ^ 1023 := zpow_natCast 2 1023
  rw [overflow, hpower, hdouble, mul_two, lt_sub_iff_add_lt]
  exact add_lt_add_right hlower _

lemma overflow_lt_two_pow : overflow < 2 ^ (1024 : ℤ) := by
  have hpower : (2 : ℚ) ^ (1024 : ℤ) = 2 ^ 1024 := zpow_natCast 2 1024
  rw [overflow, hpower]
  exact sub_lt_self _ (by positivity)

namespace OnGrid

lemma le (h : OnGrid q m e) : m ≤ 2 ^ 53 := by
  apply h.rounds.le_of_lt
  rw [div_lt_iff₀ (by positivity)]
  calc q < 2 ^ (e + 53) := h.lt
    _ = ((2 ^ 53 : Nat) : ℚ) * 2 ^ e := (magnitude_two_pow 53 e).symm

lemma full_mantissa (h : OnGrid q m e) : 2 ^ 52 ≤ m ∨ e = leastExponent := by
  refine h.full.imp_left fun hfull => h.rounds.le_of_le ?_
  rw [le_div_iff₀ (by positivity)]
  calc ((2 ^ 52 : Nat) : ℚ) * 2 ^ e = 2 ^ (e + 52) := magnitude_two_pow 52 e
    _ ≤ q := hfull

/-- Doubles with the same exponent or a greater one are multiples of the same power of two, and
those with a lower one are below the least number of 53 bits, which is such a multiple too. -/
lemma compare (h : OnGrid q m e) (hn : IsCanonical n f) :
    |q - magnitude m e| ≤ |q - magnitude n f| ∧
      (magnitude n f ≠ magnitude m e → |q - magnitude m e| = |q - magnitude n f| → Even m) := by
  have he : (0 : ℚ) < 2 ^ e := by positivity
  have hmultiple : ∀ j : Nat, |q - magnitude m e| ≤ |q - magnitude j e| := by
    intro j
    rw [abs_sub_magnitude, abs_sub_magnitude]
    exact mul_le_mul_of_nonneg_right (h.rounds.nearest j) he.le
  by_cases hf : e ≤ f
  · obtain ⟨k, hk⟩ := Int.eq_ofNat_of_zero_le (sub_nonneg.mpr hf)
    obtain rfl : f = e + k := by omega
    rw [magnitude_add]
    refine ⟨hmultiple _, fun hne heq => ?_⟩
    rw [abs_sub_magnitude, abs_sub_magnitude] at heq
    refine h.rounds.even_of_eq ?_ (mul_right_cancel₀ he.ne' heq)
    rintro hj
    exact hne (by rw [hj])
  · have hlower : magnitude n f < 2 ^ (e + 52) := magnitude_lt_of_lt hn (not_le.mp hf)
    have hfull : 2 ^ (e + 52) ≤ q := by
      refine h.full.resolve_right ?_
      rintro rfl
      exact hf hn.least_le
    have hlt : |q - magnitude m e| < |q - magnitude n f| := by
      calc |q - magnitude m e| ≤ |q - magnitude (2 ^ 52) e| := hmultiple _
        _ = q - 2 ^ (e + 52) := by
            rw [magnitude_two_pow]
            exact abs_of_nonneg (sub_nonneg.mpr hfull)
        _ < q - magnitude n f := by linarith
        _ ≤ |q - magnitude n f| := le_abs_self _
    exact ⟨hlt.le, fun _ heq => absurd heq hlt.ne⟩

lemma isNearest (h : OnGrid q m e) (he : (carried m e).2 ≤ greatestExponent) :
    IsNearest q (carried m e).1 (carried m e).2 := by
  by_cases hm : m = 2 ^ 53
  · subst hm
    have hcarry : magnitude (2 ^ 52) (e + 1) = magnitude (2 ^ 53) e := magnitude_add (2 ^ 52) e 1
    have hleast := h.least_le
    rw [carried, if_pos rfl] at he ⊢
    refine ⟨⟨by norm_num, by omega, he, .inl le_rfl⟩, fun n f hn => ?_, fun _ _ _ _ _ => ?_⟩
    · rw [hcarry]
      exact (h.compare hn).1
    · exact Nat.even_pow.mpr ⟨even_two, by norm_num⟩
  · rw [carried, if_neg hm] at he ⊢
    exact ⟨⟨lt_of_le_of_ne h.le hm, h.least_le, he, h.full_mantissa⟩,
      fun _ _ hn => (h.compare hn).1, fun _ _ hn => (h.compare hn).2⟩

lemma lt_overflow_iff (h : OnGrid q m e) :
    q < overflow ↔ (carried m e).2 ≤ greatestExponent := by
  have hgreatest : greatestExponent = 971 := rfl
  have hleast : leastExponent = -1074 := rfl
  -- Below the greatest exponent there is room for a carry, and above it for no number at all. At
  -- it the carry decides: the middle itself is carried, since the mantissa above it is even.
  rcases lt_trichotomy e greatestExponent with he | rfl | he
  · refine iff_of_true ?_ (by rw [carried]; split <;> dsimp only <;> omega)
    calc q < 2 ^ (e + 53) := h.lt
      _ ≤ 2 ^ (1023 : ℤ) := zpow_le_zpow_right₀ one_le_two (by omega)
      _ < overflow := two_pow_lt_overflow
  · have heven : Even (2 ^ 53) := Nat.even_pow.mpr ⟨even_two, by norm_num⟩
    rw [overflow_eq, ← div_lt_iff₀ (by positivity), ← h.rounds.lt_iff heven, h.le.lt_iff_ne,
      carried]
    split <;> simp_all
  · refine iff_of_false (not_lt.mpr ?_) (by rw [carried]; split <;> dsimp only <;> omega)
    calc overflow ≤ 2 ^ (1024 : ℤ) := overflow_lt_two_pow.le
      _ ≤ 2 ^ (e + 52) := zpow_le_zpow_right₀ one_le_two (by omega)
      _ ≤ q := h.full.resolve_right (by omega)

end OnGrid

end Grids

/-- What a number is rounded to: the nearest double below the middle above the greatest one, and an
infinite one from there on. -/
structure Rounds (q : ℚ) (negative : Bool) (x : Binary64) : Prop where
  finite : q < overflow → ∃ m e, x = .finite negative m e ∧ IsNearest q m e
  infinite : overflow ≤ q → x = .infinite negative

lemma OnGrid.rounds_carried (h : OnGrid q m e) (negative : Bool) :
    Rounds q negative (if greatestExponent < (carried m e).2 then .infinite negative
      else .finite negative (carried m e).1 (carried m e).2) := by
  constructor
  · intro hq
    have hle := h.lt_overflow_iff.mp hq
    rw [if_neg (not_lt.mpr hle)]
    exact ⟨_, _, rfl, h.isNearest hle⟩
  · intro hq
    rw [if_pos (not_le.mp fun hle => not_lt.mpr hq (h.lt_overflow_iff.mpr hle))]

lemma isNearest_zero (h : 0 ≤ q) (hq : q ≤ 2 ^ (leastExponent - 1)) :
    IsNearest q 0 leastExponent := by
  have hzero : magnitude 0 leastExponent = 0 := by rw [magnitude, Nat.cast_zero, zero_mul]
  refine ⟨⟨by norm_num, le_rfl, by decide, .inr rfl⟩, fun n f hn => ?_, fun _ _ _ _ _ => Even.zero⟩
  rw [hzero, sub_zero, abs_of_nonneg h]
  rcases Nat.eq_zero_or_pos n with rfl | hpos
  · rw [magnitude, Nat.cast_zero, zero_mul, sub_zero]
    exact le_abs_self q
  · have hleast : 2 ^ leastExponent ≤ magnitude n f := by
      calc (2 : ℚ) ^ leastExponent ≤ 1 * 2 ^ f := by
            rw [one_mul]
            exact zpow_le_zpow_right₀ one_le_two hn.least_le
        _ ≤ magnitude n f := by
            rw [magnitude]
            gcongr
            exact_mod_cast hpos
    have hhalves : (2 : ℚ) ^ leastExponent = 2 ^ (leastExponent - 1) * 2 := by
      rw [← zpow_add_one₀ two_ne_zero, sub_add_cancel]
    rw [abs_sub_comm]
    exact le_trans (by linarith) (le_abs_self _)

lemma rounds_infinite (h : overflow ≤ q) (negative : Bool) :
    Rounds q negative (.infinite negative) :=
  ⟨fun hlt => absurd h (not_le.mpr hlt), fun _ => rfl⟩

lemma rounds_zero (h : 0 ≤ q) (hq : q ≤ 2 ^ (leastExponent - 1)) (negative : Bool) :
    Rounds q negative (zero negative) := by
  have hlt : (2 : ℚ) ^ (leastExponent - 1) < overflow :=
    (zpow_le_zpow_right₀ one_le_two (by decide)).trans_lt two_pow_lt_overflow
  exact ⟨fun _ => ⟨0, leastExponent, rfl, isNearest_zero h hq⟩,
    fun hge => absurd hge (not_le.mpr (hq.trans_lt hlt))⟩

lemma onGrid_ratio (hnum : 0 < num) (hden : 0 < den)
    (he : e = max (floorLog2 num den - 52) leastExponent) :
    OnGrid (num / den) (roundDiv (scale num den (-e)).1 (scale num den (-e)).2) e := by
  obtain ⟨hlow, hhigh⟩ := floorLog2_spec hnum hden
  refine ⟨?_, ?_, by omega, ?_⟩
  · have hscaled : (num : ℚ) / den / 2 ^ e =
        (scale num den (-e)).1 / (scale num den (-e)).2 := by
      rw [scale_div num hden, zpow_neg, div_eq_mul_inv]
    rw [hscaled]
    exact roundsTo_roundDiv _ (scale_snd_pos num hden _)
  · exact hhigh.trans_le (zpow_le_zpow_right₀ one_le_two (by omega))
  · rcases le_total (floorLog2 num den - 52) leastExponent with hleast | hleast
    · exact .inr (by omega)
    · refine .inl ?_
      have hexponent : e + 52 = floorLog2 num den := by omega
      rw [hexponent]
      exact hlow

/-- A ratio is rounded to the nearest double. -/
theorem rounds_ofRatio (negative : Bool) (num : Nat) (h : 0 < den) :
    Rounds (num / den) negative (ofRatio negative num den) := by
  rcases Nat.eq_zero_or_pos num with rfl | hnum
  · rw [Nat.cast_zero, zero_div, ofRatio, if_pos rfl]
    exact rounds_zero le_rfl (by positivity) negative
  · rw [ofRatio, if_neg hnum.ne']
    exact (onGrid_ratio hnum h rfl).rounds_carried negative

section Decimals

lemma pow_length_toDigits (h : 0 < n) :
    10 ^ ((Nat.toDigits 10 n).length - 1) ≤ n ∧ n < 10 ^ (Nat.toDigits 10 n).length := by
  have hlength : 0 < (Nat.toDigits 10 n).length := Nat.length_toDigits_pos
  refine ⟨?_, (Nat.length_toDigits_le_iff (by norm_num) hlength).mp le_rfl⟩
  rcases Nat.eq_zero_or_pos ((Nat.toDigits 10 n).length - 1) with hone | hmore
  · rw [hone]
    exact h
  · by_contra hlt
    have hle := (Nat.length_toDigits_le_iff (by norm_num) hmore).mpr (not_le.mp hlt)
    omega

lemma overflow_le_of_lt (h : 10 ^ k ≤ n) (hpower : 310 ≤ k + e) : overflow ≤ n * 10 ^ e := by
  have hten : (2 : ℚ) ^ (1024 : ℤ) ≤ 10 ^ (310 : ℤ) := by
    have hnat : 2 ^ 1024 ≤ 10 ^ 310 := by decide +kernel
    rw [← Nat.cast_le (α := ℚ), Nat.cast_pow, Nat.cast_pow] at hnat
    exact hnat
  calc overflow ≤ 2 ^ (1024 : ℤ) := overflow_lt_two_pow.le
    _ ≤ 10 ^ (310 : ℤ) := hten
    _ ≤ 10 ^ (k + e) := zpow_le_zpow_right₀ (by norm_num) hpower
    _ = (10 ^ k : Nat) * 10 ^ e := by
        rw [zpow_add₀ (by norm_num), zpow_natCast, Nat.cast_pow]
        rfl
    _ ≤ n * 10 ^ e := by gcongr

lemma le_least_of_lt (h : n < 10 ^ k) (hpower : k + e ≤ -331) :
    n * 10 ^ e ≤ (2 : ℚ) ^ (leastExponent - 1) := by
  have hten : (10 : ℚ) ^ (-331 : ℤ) ≤ 2 ^ (-1075 : ℤ) := by
    have hnat : 2 ^ 1075 ≤ 10 ^ 331 := by decide +kernel
    rw [← Nat.cast_le (α := ℚ), Nat.cast_pow, Nat.cast_pow] at hnat
    rw [zpow_neg, zpow_neg]
    exact inv_anti₀ (by positivity) hnat
  calc (n : ℚ) * 10 ^ e ≤ (10 ^ k : Nat) * 10 ^ e := by gcongr
    _ = 10 ^ (k + e) := by
        rw [zpow_add₀ (by norm_num), zpow_natCast, Nat.cast_pow]
        rfl
    _ ≤ 10 ^ (-331 : ℤ) := zpow_le_zpow_right₀ (by norm_num) hpower
    _ ≤ 2 ^ (-1075 : ℤ) := hten

/-- A decimal is rounded to the nearest double, also where it is cut off before it is computed. -/
theorem rounds_ofDecimal (negative : Bool) (digits : Nat) (power : Int) :
    Rounds (digits * 10 ^ power) negative (ofDecimal negative digits power) := by
  rcases Nat.eq_zero_or_pos digits with rfl | hdigits
  · rw [Nat.cast_zero, zero_mul, ofDecimal, if_pos rfl]
    exact rounds_zero le_rfl (by positivity) negative
  obtain ⟨hlow, hhigh⟩ := pow_length_toDigits hdigits
  have hlength : 0 < (Nat.toDigits 10 digits).length := Nat.length_toDigits_pos
  rw [ofDecimal, if_neg hdigits.ne']
  dsimp only
  generalize (Nat.toDigits 10 digits).length = length at hlow hhigh hlength ⊢
  rw [Int.ofNat_eq_natCast]
  split
  · exact rounds_infinite (overflow_le_of_lt hlow (by omega)) negative
  · split
    · exact rounds_zero (by positivity) (le_least_of_lt hhigh (by omega)) negative
    · split
      · rename_i hpower
        obtain ⟨k, rfl⟩ := Int.eq_ofNat_of_zero_le hpower
        have hratio := rounds_ofRatio negative (digits * 10 ^ k) one_pos
        rw [Nat.cast_one, div_one] at hratio
        push_cast at hratio
        exact hratio
      · rename_i hpower
        obtain ⟨k, hk⟩ := Int.eq_ofNat_of_zero_le (a := -power) (by omega)
        obtain rfl : power = -k := by omega
        have hten : 0 < 10 ^ k := by positivity
        have hratio := rounds_ofRatio negative digits hten
        push_cast at hratio
        rw [zpow_neg, ← div_eq_mul_inv, neg_neg]
        exact hratio

end Decimals

section Uniqueness

lemma IsCanonical.eq_of_le (h : IsCanonical m e) (h' : IsCanonical n f) (hle : e ≤ f)
    (heq : magnitude m e = magnitude n f) : m = n ∧ e = f := by
  obtain ⟨k, hk⟩ := Int.eq_ofNat_of_zero_le (sub_nonneg.mpr hle)
  obtain rfl : f = e + k := by omega
  have hmantissa : m = n * 2 ^ k := by
    rw [magnitude_add] at heq
    have hcast : (m : ℚ) = (n * 2 ^ k : Nat) := mul_right_cancel₀ (by positivity) heq
    exact_mod_cast hcast
  rcases Nat.eq_zero_or_pos k with rfl | hpos
  · exact ⟨by simpa using hmantissa, by simp⟩
  · have hleast := h.least_le
    have hn : 2 ^ 52 ≤ n := h'.full.resolve_right (by omega)
    have htwo : 2 ^ 1 ≤ 2 ^ k := Nat.pow_le_pow_right two_pos hpos
    have hm := h.mantissa_lt
    have hprod : 2 ^ 52 * 2 ^ 1 ≤ n * 2 ^ k := Nat.mul_le_mul hn htwo
    omega

lemma IsCanonical.eq (h : IsCanonical m e) (h' : IsCanonical n f)
    (heq : magnitude m e = magnitude n f) : m = n ∧ e = f := by
  rcases le_total e f with hle | hle
  · exact h.eq_of_le h' hle heq
  · obtain ⟨hm, he⟩ := h'.eq_of_le h hle heq.symm
    exact ⟨hm.symm, he.symm⟩

lemma IsCanonical.succ (h : IsCanonical m e) (heven : Even m) : IsCanonical (m + 1) e := by
  have hm := h.mantissa_lt
  obtain ⟨half, rfl⟩ := heven
  exact ⟨by omega, h.least_le, h.le_greatest, h.full.imp_left fun hfull => by omega⟩

lemma IsCanonical.magnitude_succ_le (h : IsCanonical m e) (h' : IsCanonical n f)
    (hlt : magnitude m e < magnitude n f) : magnitude (m + 1) e ≤ magnitude n f := by
  have he : (0 : ℚ) < 2 ^ e := by positivity
  by_cases hle : e ≤ f
  · obtain ⟨k, hk⟩ := Int.eq_ofNat_of_zero_le (sub_nonneg.mpr hle)
    obtain rfl : f = e + k := by omega
    rw [magnitude_add, magnitude, magnitude, mul_lt_mul_iff_of_pos_right he] at hlt
    rw [magnitude_add, magnitude, magnitude, mul_le_mul_iff_of_pos_right he]
    exact_mod_cast Nat.succ_le_of_lt (by exact_mod_cast hlt)
  · have hleast := h'.least_le
    have hfull : 2 ^ 52 ≤ m := h.full.resolve_right (by omega)
    have hlow : (2 : ℚ) ^ (e + 52) ≤ magnitude m e := by
      calc (2 : ℚ) ^ (e + 52) = magnitude (2 ^ 52) e := (magnitude_two_pow 52 e).symm
        _ ≤ magnitude m e := by
          rw [magnitude, magnitude]
          gcongr
    exact absurd (hlow.trans_lt hlt) (not_lt.mpr (magnitude_lt_of_lt h' (not_le.mp hle)).le)

/-- What is between two numbers is nearer than both to their middle. -/
lemma abs_sub_lt_of_between {a b c : ℚ} (hab : a < b) (hbc : b < c) (heq : |q - a| = |q - c|) :
    |q - b| < |q - a| := by
  have hmiddle : q - a = c - q := by
    rcases abs_eq_abs.mp heq with hsame | hopposite
    · linarith
    · linarith
  rw [abs_of_pos (by linarith : 0 < q - a)]
  exact abs_lt.mpr ⟨by linarith, by linarith⟩

/-- Between two doubles with even mantissas there is another one, so they are not both nearest. -/
lemma IsNearest.magnitude_le (h : IsNearest q m e) (h' : IsNearest q n f) :
    magnitude n f ≤ magnitude m e := by
  by_contra hgt
  have hlt : magnitude m e < magnitude n f := not_le.mp hgt
  have heq : |q - magnitude m e| = |q - magnitude n f| :=
    le_antisymm (h.nearest n f h'.toIsCanonical) (h'.nearest m e h.toIsCanonical)
  have heven : Even m := h.even n f h'.toIsCanonical hlt.ne' heq
  have heven' : Even n := h'.even m e h.toIsCanonical hlt.ne heq.symm
  -- The double after the lower one is between the two, and nearer than both.
  have hsucc := h.toIsCanonical.succ heven
  have hbefore : magnitude m e < magnitude (m + 1) e := by
    rw [magnitude, magnitude]
    gcongr
    exact_mod_cast Nat.lt_succ_self m
  have hafter : magnitude (m + 1) e < magnitude n f := by
    refine lt_of_le_of_ne (h.toIsCanonical.magnitude_succ_le h'.toIsCanonical hlt) fun hsame => ?_
    obtain ⟨rfl, -⟩ := hsucc.eq h'.toIsCanonical hsame
    exact Nat.even_add_one.mp heven' heven
  exact absurd (h.nearest _ _ hsucc) (not_le.mpr (abs_sub_lt_of_between hbefore hafter heq))

/-- A number has one nearest double. -/
theorem IsNearest.unique (h : IsNearest q m e) (h' : IsNearest q n f) : m = n ∧ e = f :=
  h.toIsCanonical.eq h'.toIsCanonical (le_antisymm (h'.magnitude_le h) (h.magnitude_le h'))

end Uniqueness

end CallSchema.Binary64
