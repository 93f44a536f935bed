import Std.Data.HashMap
import Bundler.Text.RangeTable
import Bundler.Text.Normalization.Table

/-!
# Normalization of identifiers

Two spellings of an identifier name the same thing when their normal forms agree. The normal form
is NFKC: every character is replaced by its compatibility decomposition, the marks after each
starter are sorted by combining class, and adjacent pairs are composed again.

A text is a list of code points here. The tables cover the characters of identifiers, which is all
this library normalizes.
-/

set_option autoImplicit false

namespace Bundler.Text.Normalization

open Std

/-- Reads the entries of `decompositionText`: the code point reached so far, then the numbers left.
Each step takes three numbers and as many more as the second of them says. -/
def readDecompositions (table : HashMap Nat (List Nat)) (last : Nat) :
    (fuel : Nat) → List Nat → HashMap Nat (List Nat)
  | fuel + 1, distance :: more :: first :: rest =>
    let point := last + distance
    let decomposition := (first :: rest.take more).map (firstPoint + ·)
    readDecompositions (table.insert point decomposition) point fuel (rest.drop more)
  | _, _ => table

/-- The compatibility decompositions by code point. -/
def decompositions : HashMap Nat (List Nat) :=
  let numbers := (hexNumbers decompositionText).toList
  readDecompositions ∅ 0 numbers.length numbers

/-- Reads triples of numbers. -/
def readTriples : List Nat → List (Nat × Nat × Nat)
  | a :: b :: c :: rest => (a, b, c) :: readTriples rest
  | _ => []

/-- The combining classes other than zero, by code point. -/
def combiningClasses : HashMap Nat Nat :=
  (readTriples (hexNumbers combiningClassText).toList).foldl
    (fun table (first, size, cls) =>
      (List.range size).foldl (fun table i => table.insert (first + i) cls) table) ∅

/-- The composite of each pair of code points that has one. -/
def compositions : HashMap (Nat × Nat) Nat :=
  (readTriples (hexNumbers compositionText).toList).foldl
    (fun table (a, b, c) => table.insert (firstPoint + a, firstPoint + b) (firstPoint + c)) ∅

/-- The combining class of a code point; zero for a starter. -/
def combiningClass (point : Nat) : Nat :=
  combiningClasses.getD point 0

/-- The decomposition of one code point. A Hangul syllable splits into two or three jamo. -/
def decompose (point : Nat) : List Nat :=
  if 0xac00 ≤ point ∧ point ≤ 0xd7a3 then
    let index := point - 0xac00
    let lead := 0x1100 + index / 588
    let vowel := 0x1161 + index % 588 / 28
    if index % 28 = 0 then [lead, vowel] else [lead, vowel, 0x11a7 + index % 28]
  else decompositions.getD point [point]

/-- The composite of two adjacent code points, if there is one. -/
def compose? (a b : Nat) : Option Nat :=
  if 0x1100 ≤ a ∧ a < 0x1113 ∧ 0x1161 ≤ b ∧ b < 0x1176 then
    some (0xac00 + ((a - 0x1100) * 21 + (b - 0x1161)) * 28)
  else if 0xac00 ≤ a ∧ a ≤ 0xd7a3 ∧ (a - 0xac00) % 28 = 0 ∧ 0x11a7 < b ∧ b < 0x11c3 then
    some (a + (b - 0x11a7))
  else compositions[(a, b)]?

/-- Sorts a run of marks by combining class, keeping the order of marks of one class. -/
def sortMarks (marks : List Nat) : List Nat :=
  marks.mergeSort (fun a b => combiningClass a ≤ combiningClass b)

/-- Puts marks into canonical order; `run` holds, reversed, the marks since the last starter. -/
def reorder (run : List Nat) : List Nat → List Nat
  | [] => sortMarks run.reverse
  | c :: cs =>
    if combiningClass c = 0 then sortMarks run.reverse ++ c :: reorder [] cs
    else reorder (c :: run) cs

/-- Composes a text in canonical order: `starter` is the last starter, `marks` holds, reversed, the
marks after it that did not compose. A mark is blocked from the starter by a mark before it whose
class is not lower. -/
def recompose (starter : Option Nat) (marks : List Nat) : List Nat → List Nat
  | [] => starter.toList ++ marks.reverse
  | c :: cs =>
    let cls := combiningClass c
    let blocked := match marks with
      | [] => false
      | last :: _ => cls ≤ combiningClass last
    let composite := if blocked then none else starter.bind (compose? · c)
    match composite with
    | some d => recompose (some d) marks cs
    | none =>
      if cls = 0 then starter.toList ++ marks.reverse ++ recompose (some c) [] cs
      else recompose starter (c :: marks) cs

/-- The normal form of a text. -/
def normalizePoints (points : List Nat) : List Nat :=
  recompose none [] (reorder [] (points.flatMap decompose))

/-- The normal form of an identifier. An ASCII word is its own normal form. -/
def normalizeIdentifier (word : String) : String :=
  if word.toList.all (fun c : Char => c.toNat < 0x80) then word
  else String.ofList ((normalizePoints (word.toList.map Char.toNat)).map Char.ofNat)

end Bundler.Text.Normalization
