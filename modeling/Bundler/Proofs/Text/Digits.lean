import Bundler.Syntax.Literal.Escape
import Bundler.Syntax.Token.Numeral
import Bundler.Text.CodePoints
import Mathlib

/-!
# Digits

The digits that a number is written with have the value of the number when they are read again, be it
as a numeral or as an escape of a fixed size. Decimal digits end where something else follows.
-/

set_option autoImplicit false

namespace Bundler

open Bundler.Text (hexDigit? hexPadded)

/-- A character is a hexadecimal digit. -/
def IsHexDigit (c : Char) : Prop :=
  (hexDigit? c).isSome = true

/-- The character of a digit stands for it. -/
theorem hexDigit?_digitChar {d : Nat} (h : d < 16) : hexDigit? (Nat.digitChar d) = some d := by
  interval_cases d <;> rfl

/-- Hexadecimal digits are decimal digits and the first letters, small and large. -/
theorem IsHexDigit.range {c : Char} (h : IsHexDigit c) :
    ('0' ≤ c ∧ c ≤ '9') ∨ ('a' ≤ c ∧ c ≤ 'f') ∨ ('A' ≤ c ∧ c ≤ 'F') := by
  unfold IsHexDigit hexDigit? at h
  by_contra hnone
  simp only [not_or] at hnone
  rw [if_neg hnone.1, if_neg hnone.2.1, if_neg hnone.2.2] at h
  cases h

/-- A hexadecimal digit is a letter or a digit. -/
theorem IsHexDigit.isAlphanum {c : Char} (h : IsHexDigit c) : c.isAlphanum = true := by
  have hrange := h.range
  simp only [Char.isAlphanum, Char.isAlpha, Char.isUpper, Char.isLower, Char.isDigit,
    Bool.or_eq_true, Bool.and_eq_true, decide_eq_true_eq]
  simp only [Char.le_def] at hrange
  grind

/-- The digits of a number are hexadecimal digits, up to base sixteen. -/
theorem isHexDigit_of_mem_toDigits {base n : Nat} (hbase : 1 < base) (hle : base ≤ 16) {c : Char}
    (h : c ∈ Nat.toDigits base n) : IsHexDigit c := by
  induction n using Nat.strongRecOn with
  | ind n ih =>
    by_cases hn : n < base
    · rw [Nat.toDigits_of_lt_base hn, List.mem_singleton] at h
      rw [h, IsHexDigit, hexDigit?_digitChar (by omega)]
      rfl
    · rw [Nat.toDigits_of_base_le hbase (by omega), List.mem_append, List.mem_singleton] at h
      rcases h with h | h
      · exact ih (n / base) (Nat.div_lt_self (by omega) hbase) h
      · have hlt : n % base < base := Nat.mod_lt n (by omega)
        rw [h, IsHexDigit, hexDigit?_digitChar (by omega)]
        rfl

/-- A number other than zero does not begin with the digit zero. -/
theorem eq_zero_of_head?_toDigits {base n : Nat} (hbase : 1 < base) (hle : base ≤ 16)
    (h : (Nat.toDigits base n).head? = some '0') : n = 0 := by
  induction n using Nat.strongRecOn with
  | ind n ih =>
    by_cases hn : n < base
    · rw [Nat.toDigits_of_lt_base hn, List.head?_cons, Option.some.injEq] at h
      have hvalue := hexDigit?_digitChar (show n < 16 by omega)
      rw [h] at hvalue
      exact (Option.some.inj hvalue).symm
    · rw [Nat.toDigits_of_base_le hbase (by omega), List.head?_append_of_ne_nil _ Nat.toDigits_ne_nil]
        at h
      -- The first digit is that of the quotient, which is not zero here.
      have hzero := ih (n / base) (Nat.div_lt_self (by omega) hbase) h
      have hpos : 0 < n / base := Nat.div_pos (by omega) (by omega)
      omega

/-! ## Decimal numbers -/

section Decimal

variable (n : Nat) {c : Char} {rest : List Char}

/-- A number is written with its decimal digits. -/
theorem toList_toString : (toString n).toList = Nat.toDigits 10 n := by
  rw [Nat.toString_eq_repr, Nat.repr_eq_ofList_toDigits, String.toList_ofList]

/-- A written number consists of digits. -/
theorem isDigit_of_mem_toString {n : Nat} (h : c ∈ (toString n).toList) : c.isDigit = true := by
  rw [toList_toString] at h
  exact Nat.isDigit_of_mem_toDigits (by decide) (by decide) h

/-- A number has a first digit. -/
theorem exists_toList_toString : ∃ c cs, c.isDigit = true ∧ (toString n).toList = c :: cs := by
  obtain ⟨c, cs, heq⟩ := List.exists_cons_of_ne_nil (Nat.toDigits_ne_nil (n := n) (b := 10))
  rw [← toList_toString] at heq
  exact ⟨c, cs, isDigit_of_mem_toString (heq ▸ List.mem_cons_self), heq⟩

/-- The digits of a number end where something else follows. -/
theorem takeWhile_toString (hrest : ∀ c ∈ rest.head?, c.isDigit = false) :
    ((toString n).toList ++ rest).takeWhile Char.isDigit = (toString n).toList := by
  have htake : rest.takeWhile Char.isDigit = [] := by
    cases rest with
    | nil => rfl
    | cons c rest => exact List.takeWhile_cons_of_neg (by simp [hrest c rfl])
  rw [List.takeWhile_append_of_pos fun _ => isDigit_of_mem_toString, htake, List.append_nil]

/-- Behind a written number stands what is no digit. -/
theorem dropWhile_toString (hrest : ∀ c ∈ rest.head?, c.isDigit = false) :
    ((toString n).toList ++ rest).dropWhile Char.isDigit = rest := by
  rw [List.dropWhile_append_of_pos fun _ => isDigit_of_mem_toString]
  cases rest with
  | nil => rfl
  | cons c rest => exact List.dropWhile_cons_of_neg (by simp [hrest c rfl])

/-- Joined texts are on one line if both of them are. -/
theorem newline_not_mem_append {s t : String} :
    '\n' ∉ (s ++ t).toList ↔ '\n' ∉ s.toList ∧ '\n' ∉ t.toList := by
  rw [String.toList_append, List.mem_append, not_or]

/-- A written number is on one line. -/
theorem newline_not_mem_natural : '\n' ∉ (toString n).toList := by
  intro h
  cases isDigit_of_mem_toString h

/-- A written integer is on one line. -/
theorem newline_not_mem_integer (n : Int) : '\n' ∉ (toString n).toList := by
  cases n with
  | ofNat m => exact newline_not_mem_natural m
  | negSucc m => exact newline_not_mem_append.mpr ⟨by decide, newline_not_mem_natural (m + 1)⟩

end Decimal

namespace Syntax

namespace Numeral

/-- A last digit is added to what the others stand for, times the base. -/
theorem digitsIn_concat {base d : Nat} {digits : List Char} {c : Char} (h : hexDigit? c = some d) :
    digitsIn base (digits ++ [c]) = base * digitsIn base digits + d := by
  unfold digitsIn
  rw [List.foldl_append, List.foldl_cons, List.foldl_nil, h]
  rfl

/-- The digits of a number have its value. -/
theorem digitsIn_toDigits {base : Nat} (hbase : 1 < base) (hle : base ≤ 16) (n : Nat) :
    digitsIn base (Nat.toDigits base n) = n := by
  induction n using Nat.strongRecOn with
  | ind n ih =>
    by_cases hn : n < base
    · rw [Nat.toDigits_of_lt_base hn, ← List.nil_append [Nat.digitChar n],
        digitsIn_concat (hexDigit?_digitChar (by omega))]
      exact Nat.zero_add n
    · have hlt : n % base < base := Nat.mod_lt n (by omega)
      rw [Nat.toDigits_of_base_le hbase (by omega),
        digitsIn_concat (hexDigit?_digitChar (by omega)),
        ih (n / base) (Nat.div_lt_self (by omega) hbase)]
      exact Nat.div_add_mod n base

/-- Leading zeros stand for nothing. -/
theorem digitsIn_zeros (base count : Nat) (digits : List Char) :
    digitsIn base (List.replicate count '0' ++ digits) = digitsIn base digits := by
  induction count with
  | zero => rfl
  | succ count ih =>
    rw [List.replicate_succ, List.cons_append, ← ih]
    unfold digitsIn
    rw [List.foldl_cons]
    rfl

end Numeral

/-! ## Numbers of a fixed size -/

section Padded

variable {width n : Nat} (hwidth : 0 < width) (hn : n < 16 ^ width)

/-- A number with leading zeros consists of hexadecimal digits. -/
theorem isHexDigit_of_mem_hexPadded {c : Char} (h : c ∈ (hexPadded width n).toList) :
    IsHexDigit c := by
  unfold hexPadded at h
  rw [String.toList_ofList, List.mem_append] at h
  rcases h with h | h
  · rw [List.eq_of_mem_replicate h]
    rfl
  · exact isHexDigit_of_mem_toDigits (by decide) (by decide) h

/-- A padded number has its value. -/
theorem digitsIn_hexPadded (width n : Nat) :
    Numeral.digitsIn 16 (hexPadded width n).toList = n := by
  unfold hexPadded
  rw [String.toList_ofList, Numeral.digitsIn_zeros,
    Numeral.digitsIn_toDigits (by decide) (by decide)]

include hwidth hn in
/-- A number that fits is padded to the width. -/
theorem length_hexPadded : (hexPadded width n).toList.length = width := by
  have hle := (Nat.length_toDigits_le_iff (b := 16) (by decide) hwidth).mpr hn
  unfold hexPadded
  rw [String.toList_ofList, List.length_append, List.length_replicate]
  omega

end Padded

namespace Escape

/-- Hexadecimal digits are taken with their value. -/
theorem takeHex_append {digits : List Char} (h : ∀ c ∈ digits, IsHexDigit c) (value taken : Nat)
    (rest : List Char) :
    takeHex value taken digits.length (digits ++ rest) =
      .ok (digits.foldl (fun n c => 16 * n + (hexDigit? c).getD 0) value, rest) := by
  induction digits generalizing value taken with
  | nil => rfl
  | cons c digits ih =>
    obtain ⟨d, hd⟩ := Option.isSome_iff_exists.mp (h c List.mem_cons_self)
    rw [List.cons_append, List.length_cons, takeHex, hd, List.foldl_cons, hd]
    exact ih (fun c hc => h c (List.mem_cons_of_mem _ hc)) _ _

/-- The digits of an escape give their value. -/
theorem takeHex_digits {digits : List Char} (h : ∀ c ∈ digits, IsHexDigit c) (rest : List Char) :
    takeHex 0 0 digits.length (digits ++ rest) = .ok (Numeral.digitsIn 16 digits, rest) :=
  takeHex_append h 0 0 rest

end Escape

end Syntax

end Bundler
