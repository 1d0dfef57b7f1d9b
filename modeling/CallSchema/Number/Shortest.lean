import CallSchema.Number.Binary64

/-!
The shortest decimal of a double: the fewest digits that read back as the same double, and of
those the nearest to it.
-/

namespace CallSchema.Binary64

/-- The greatest `p` with `10 ^ p ≤ num / den`, for positive arguments. -/
def floorLog10 (num den : Nat) : Int :=
  if den ≤ num then Int.ofNat (Nat.toDigits 10 (num / den)).length - 1
  else
    let count := (Nat.toDigits 10 (den / num)).length
    if den ≤ num * Nat.pow 10 (count - 1) then -(Int.ofNat count - 1) else -(Int.ofNat count)

/-- The neighbour of `mantissa * 2 ^ exponent` on the grid of whole multiples of `10 ^ power` that
reads back as it; of two, the nearer. -/
def readBack? (mantissa : Nat) (exponent power : Int) : Option Nat :=
  let (num, den) := ratio mantissa exponent
  let (n, d) :=
    if 0 ≤ power then (num, den * Nat.pow 10 power.toNat)
    else (num * Nat.pow 10 (-power).toNat, den)
  let below := n / d
  let back (digits : Nat) : Bool := ofDecimal false digits power == .finite false mantissa exponent
  let twice := 2 * (n % d)
  let belowFirst := twice < d || (twice == d && below % 2 == 0)
  let (first, second) := if belowFirst then (below, below + 1) else (below + 1, below)
  if back first then some first else if back second then some second else none

/-- Tries the grids of `digits`, `digits + 1`, … significant digits. -/
def shortestFrom (mantissa : Nat) (exponent top : Int) : (digits fuel : Nat) → Nat × Int
  | _, 0 => (0, 0)
  | digits, fuel + 1 =>
    let power := top - Int.ofNat digits + 1
    match readBack? mantissa exponent power with
    | some d => (d, power)
    | none => shortestFrom mantissa exponent top (digits + 1) fuel

/-- Digits and a power of ten: the shortest decimal of a positive finite double. Seventeen digits
always read back. -/
def shortest (mantissa : Nat) (exponent : Int) : Nat × Int :=
  let (num, den) := ratio mantissa exponent
  shortestFrom mantissa exponent (floorLog10 num den) 1 17

/-- The text of a decimal: positional if its point stands at most 16 places after the first digit
and less than four before it, otherwise with an exponent of at least two digits. -/
def decimalText (digits : Nat) (power : Int) : List Char :=
  let ds := ((Nat.toDigits 10 digits).reverse.dropWhile (· == '0')).reverse
  let point := Int.ofNat (Nat.toDigits 10 digits).length + power
  if -4 < point && point ≤ 16 then
    if point ≤ 0 then '0' :: '.' :: List.replicate (-point).toNat '0' ++ ds
    else
      let whole := ds.take point.toNat ++ List.replicate (point.toNat - ds.length) '0'
      let part := ds.drop point.toNat
      whole ++ '.' :: (if part.isEmpty then ['0'] else part)
  else
    let head := match ds with
      | [] => ['0']
      | [d] => [d]
      | d :: rest => d :: '.' :: rest
    let shown := Nat.toDigits 10 (point - 1).natAbs
    head ++ 'e' :: (if point - 1 < 0 then '-' else '+')
      :: (if shown.length < 2 then '0' :: shown else shown)

/-- The text of a finite double; `named` gives the texts of the others. -/
def textWith (named : Binary64 → String) : Binary64 → String
  | .finite negative mantissa exponent =>
    let body := if mantissa = 0 then ['0', '.', '0'] else
      let (digits, power) := shortest mantissa exponent
      decimalText digits power
    String.ofList (if negative then '-' :: body else body)
  | x => named x

/-- The text of a double, as it is shown. -/
def text : Binary64 → String :=
  textWith fun
    | .infinite false => "inf"
    | .infinite true => "-inf"
    | _ => "nan"

end CallSchema.Binary64
