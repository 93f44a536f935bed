/-!
# Binary64 magnitudes

A magnitude of the 64-bit binary format is `significand · 2 ^ exponent`, or infinite. The exponent
is at least `-1074` and at most `971`, the significand is below `2 ^ 53`, and it is at least
`2 ^ 52` unless the exponent is the least one. Signs are kept by whoever holds a magnitude: a
numeral has none.

Reading rounds a rational number to the nearest magnitude, and a tie to the even significand.
-/

set_option autoImplicit false

namespace Bundler.Number

/-- A magnitude of the 64-bit binary format. -/
inductive Binary64 where
  /-- The value `significand · 2 ^ exponent`. -/
  | finite (significand : Nat) (exponent : Int)
  /-- The overflow value. -/
  | infinite
deriving DecidableEq, Repr

/-- The quotient of two natural numbers, rounded to the nearest integer, ties to even. -/
def roundDiv (numerator denominator : Nat) : Nat :=
  let q := numerator / denominator
  let r := numerator % denominator
  if 2 * r < denominator then q
  else if denominator < 2 * r then q + 1
  else q + q % 2

namespace Binary64

/-- Zero. -/
def zero : Binary64 := .finite 0 (-1074)

/-- The numerator and denominator of `n / d · 2 ^ (-e)`. -/
def scaled (n d : Nat) (e : Int) : Nat × Nat :=
  if 0 ≤ e then (n, d * Nat.pow 2 e.toNat) else (n * Nat.pow 2 (-e).toNat, d)

/-- The least significand of a magnitude whose exponent is not the least one, `2 ^ 52`. -/
def leastNormal : Nat := 4503599627370496

/-- Rounds the quotient at a given exponent and renormalizes if the rounding reaches `2 ^ 53`. -/
def roundAt (n d : Nat) (e : Int) : Binary64 :=
  let (a, b) := scaled n d e
  let m := roundDiv a b
  let (m, e) := if m = 2 * leastNormal then (leastNormal, e + 1) else (m, e)
  if 971 < e then .infinite else .finite m e

/-- The magnitude nearest to `n / d`. The logarithms give the exponent up to one, and the quotient
at that exponent decides. -/
def ofRatio (n d : Nat) : Binary64 :=
  if n = 0 then zero
  else
    let guess : Int := (Nat.log2 n : Int) - Nat.log2 d - 53
    let (a, b) := scaled n d guess
    let e := if 2 * leastNormal * b ≤ a then guess + 1 else guess
    roundAt n d (max e (-1074))

/-- The magnitude nearest to `n · 10 ^ e`. Exponents far outside the range of the format are
answered without computing the power. -/
def ofDecimal (n : Nat) (e : Int) : Binary64 :=
  if n = 0 then zero
  else
    let magnitude : Int := e + (Nat.log2 n : Int) * 30103 / 100000
    if 400 < magnitude then .infinite
    else if magnitude < -400 then zero
    else if 0 ≤ e then ofRatio (n * Nat.pow 10 e.toNat) 1
    else ofRatio n (Nat.pow 10 (-e).toNat)

/-- The integer that a magnitude is equal to, if it is one. -/
def toNat? : Binary64 → Option Nat
  | .infinite => none
  | .finite m e =>
    if 0 ≤ e then some (m * Nat.pow 2 e.toNat)
    else
      let d := Nat.pow 2 (-e).toNat
      if m % d = 0 then some (m / d) else none

end Binary64

end Bundler.Number
