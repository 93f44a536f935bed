/-!
# Texts with lone surrogates

A string literal may hold any code point, also one half of a surrogate pair, which no `String` can
hold. The value of such a literal is a list of code points.
-/

set_option autoImplicit false

namespace Bundler.Text

/-- A text as a list of code points, surrogates included. -/
abbrev CodePoints := List Nat

namespace CodePoints

/-- The code points of a string. -/
def ofString (s : String) : CodePoints :=
  s.toList.map Char.toNat

/-- The string with the given code points, or `none` if one of them is a surrogate. -/
def toString? (points : CodePoints) : Option String :=
  if points.all (fun p => p.isValidChar) then some (String.ofList (points.map Char.ofNat)) else none

end CodePoints

/-- The digits of a number in lower-case hexadecimal, at least `width` of them. -/
def hexPadded (width n : Nat) : String :=
  let digits := Nat.toDigits 16 n
  String.ofList (List.replicate (width - digits.length) '0' ++ digits)

/-- The digits of a number in upper-case hexadecimal, at least `width` of them. -/
def upperHexPadded (width n : Nat) : String :=
  (hexPadded width n).map Char.toUpper

end Bundler.Text
