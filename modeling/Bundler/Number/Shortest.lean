import Bundler.Number.Binary64

/-!
# The shortest decimal of a magnitude

The shortest decimal of a magnitude has the fewest digits among the decimals that read back as it,
and is the nearest to it among those. Positional notation is used from `1e-4` up to below `1e16`,
and an exponent of at least two digits outside that range.

The reals that read back as `m · 2 ^ e` form an interval around it, ends included when `m` is even.
For each number of digits only the two decimals next to the value have to be tried.
-/

set_option autoImplicit false

namespace Bundler.Number

/-- A decimal: the digits of `digits`, with the point `point` places after the first of them
begins, so that the value is `0.digits · 10 ^ point`. -/
structure Decimal where
  /-- The digits, most significant first, without trailing zeros. -/
  digits : List Char
  /-- The position of the decimal point relative to the first digit. -/
  point : Int
deriving Repr

/-- The interval of reals that round to a magnitude, over one denominator. -/
structure RoundingInterval where
  /-- The numerator of the lower end. -/
  low : Nat
  /-- The numerator of the value. -/
  value : Nat
  /-- The numerator of the upper end. -/
  high : Nat
  /-- The common denominator. -/
  denominator : Nat
  /-- Whether the ends belong to the interval. -/
  closed : Bool

namespace RoundingInterval

/-- The interval of the magnitude `m · 2 ^ e`. Below a power of two the neighbours lie twice as
close. -/
def ofMagnitude (m : Nat) (e : Int) : RoundingInterval :=
  let (scale, denominator) := if 0 ≤ e then (Nat.pow 2 e.toNat, 1) else (1, Nat.pow 2 (-e).toNat)
  let below := if m = Binary64.leastNormal ∧ -1074 < e then 1 else 2
  { low := (4 * m - below) * scale
    value := 4 * m * scale
    high := (4 * m + 2) * scale
    denominator := 4 * denominator
    closed := m % 2 = 0 }

/-- Whether the number `n / d` rounds to the magnitude. -/
def covers (r : RoundingInterval) (n d : Nat) : Bool :=
  let x := n * r.denominator
  if r.closed then r.low * d ≤ x && x ≤ r.high * d else r.low * d < x && x < r.high * d

/-- The decimal with `k` digits next to the value that reads back as it, if there is one; of two,
the nearer, and of two equally near, the one with the even last digit. The value is below
`10 ^ point`. -/
def decimalOfSize? (r : RoundingInterval) (point : Int) (k : Nat) : Option Nat :=
  -- one unit in the last place is `10 ^ (point - k)`
  let shift := point - k
  let (unit, d) := if 0 ≤ shift then (Nat.pow 10 shift.toNat, 1) else (1, Nat.pow 10 (-shift).toNat)
  let floor := r.value * d / (r.denominator * unit)
  let remainder := r.value * d % (r.denominator * unit)
  let down := r.covers (floor * unit) d
  let up := r.covers ((floor + 1) * unit) d
  match down, up with
  | false, false => none
  | true, false => some floor
  | false, true => some (floor + 1)
  | true, true =>
    let span := r.denominator * unit
    if 2 * remainder < span then some floor
    else if span < 2 * remainder then some (floor + 1)
    else some (floor + floor % 2)

/-- The least `point` from `start` on for which the value is below `10 ^ point`. -/
def pointFrom (r : RoundingInterval) (start : Int) : (fuel : Nat) → Int
  | 0 => start
  | fuel + 1 =>
    let below :=
      if 0 ≤ start then r.value < r.denominator * Nat.pow 10 start.toNat
      else r.value * Nat.pow 10 (-start).toNat < r.denominator
    if below then start else pointFrom r (start + 1) fuel

/-- The first decimal found with `k` digits or more; seventeen always suffice. -/
def shortestFrom (r : RoundingInterval) (point : Int) : (sizes : List Nat) → Nat × Nat
  | [] => (r.value / r.denominator, 17)
  | k :: ks =>
    match r.decimalOfSize? point k with
    | some n => (n, k)
    | none => shortestFrom r point ks

end RoundingInterval

/-- Drops trailing zeros. -/
def dropTrailingZeros (digits : List Char) : List Char :=
  (digits.reverse.dropWhile (· == '0')).reverse

/-- The shortest decimal of the magnitude `m · 2 ^ e`. -/
def shortestDecimal (m : Nat) (e : Int) : Decimal :=
  if m = 0 then ⟨['0'], 1⟩
  else
    let r := RoundingInterval.ofMagnitude m e
    -- `2 ^ x` is `10 ^ (x · 0.30103)`, so this starts at most two below the answer
    let start : Int := ((Nat.log2 m : Int) + e) * 30103 / 100000 - 1
    let point := r.pointFrom start 5
    let (n, k) := r.shortestFrom point ((List.range 17).map (· + 1))
    let digits := Nat.toDigits 10 n
    ⟨dropTrailingZeros digits, point + digits.length - k⟩

/-- The notation of a decimal, positional for points from `-3` to `16`; with `pointed`, a whole
number in positional notation ends in `.0`. -/
def Decimal.notate (d : Decimal) (pointed : Bool) : String :=
  let size : Int := d.digits.length
  if -4 < d.point ∧ d.point ≤ 16 then
    if d.point ≤ 0 then
      "0." ++ String.ofList (List.replicate (-d.point).toNat '0' ++ d.digits)
    else if size ≤ d.point then
      String.ofList (d.digits ++ List.replicate (d.point - size).toNat '0') ++
        (if pointed then ".0" else "")
    else
      String.ofList (d.digits.take d.point.toNat ++ '.' :: d.digits.drop d.point.toNat)
  else
    let exponent := d.point - 1
    let digits := (Nat.toDigits 10 exponent.natAbs)
    let padded := List.replicate (2 - digits.length) '0' ++ digits
    let mantissa := match d.digits with
      | [c] => [c]
      | c :: cs => c :: '.' :: cs
      | [] => []
    String.ofList (mantissa ++ 'e' :: (if exponent < 0 then '-' else '+') :: padded)

/-- The shortest text of a magnitude; an infinite one is written as a numeral that overflows. -/
def Binary64.notate (x : Binary64) (pointed : Bool) : String :=
  match x with
  | .infinite => "1e309"
  | .finite m e => (shortestDecimal m e).notate pointed

end Bundler.Number
