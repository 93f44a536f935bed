/-!
# Sets of code points

A property of characters is a set of code points, and such a set is a union of ranges. A
`RangeTable` keeps the ends of the ranges in increasing order: the points where membership
changes. A code point belongs to the set when an odd number of changes lie at or below it.

Tables are written as text, one hexadecimal number for the distance from each change to the next,
so that a table of several hundred ranges stays a few lines long.
-/

set_option autoImplicit false

namespace Bundler.Text

/-- The value of a hexadecimal digit. -/
def hexDigit? (c : Char) : Option Nat :=
  if '0' ≤ c ∧ c ≤ '9' then some (c.toNat - '0'.toNat)
  else if 'a' ≤ c ∧ c ≤ 'f' then some (c.toNat - 'a'.toNat + 10)
  else if 'A' ≤ c ∧ c ≤ 'F' then some (c.toNat - 'A'.toNat + 10)
  else none

/-- The hexadecimal numbers of a text, in order; any other character separates two numbers. -/
def hexNumbers (text : String) : Array Nat :=
  let step (state : Array Nat × Option Nat) (c : Char) : Array Nat × Option Nat :=
    match hexDigit? c, state with
    | some d, (done, some n) => (done, some (16 * n + d))
    | some d, (done, none) => (done, some d)
    | none, (done, some n) => (done.push n, none)
    | none, (done, none) => (done, none)
  match text.foldl step (#[], none) with
  | (done, some n) => done.push n
  | (done, none) => done

/-- The running sums of a list of distances. -/
def runningSums (distances : Array Nat) : Array Nat :=
  (distances.foldl (fun (sums, last) d => (sums.push (last + d), last + d)) (#[], 0)).1

/-- The number of entries at or below `x` in a sorted array, found by halving the interval from
`lo` to `hi` in which the answer lies. -/
def countBelow (a : Array Nat) (x lo hi : Nat) : Nat :=
  if h : lo < hi then
    let mid := (lo + hi) / 2
    if a.getD mid 0 ≤ x then countBelow a x (mid + 1) hi else countBelow a x lo mid
  else lo
termination_by hi - lo
decreasing_by all_goals omega

/-- A set of code points, held as the increasing points where membership changes. -/
structure RangeTable where
  /-- The first member, the first nonmember after it, and so on. -/
  changes : Array Nat

namespace RangeTable

/-- The table whose changes lie at the given hexadecimal distances from one another. -/
def ofDistances (text : String) : RangeTable :=
  ⟨runningSums (hexNumbers text)⟩

/-- Whether a code point belongs to the set. -/
def contains (t : RangeTable) (point : Nat) : Bool :=
  countBelow t.changes point 0 t.changes.size % 2 == 1

end RangeTable

end Bundler.Text
