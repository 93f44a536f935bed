import Bundler.Text.CodePoints
import Bundler.Text.Printable

/-!
# Quoted text

The quoted form of a text is a string literal that denotes it. The quotes are single unless the text
holds a single quote and no double quote. The quote in use and the backslash are escaped by a
backslash, line feed, carriage return and tab have their letter escapes, and every other code point
that is not printable is written by its number.
-/

set_option autoImplicit false

namespace Bundler.Text

/-- The escape of a code point by its number, with two, four or eight hexadecimal digits. -/
def numericEscape (point : Nat) : String :=
  if point < 0x100 then "\\x" ++ hexPadded 2 point
  else if point < 0x10000 then "\\u" ++ hexPadded 4 point
  else "\\U" ++ hexPadded 8 point

/-- How one code point is written between quotes of the given kind. -/
def quotedPoint (quote : Char) (point : Nat) : String :=
  if point = quote.toNat then "\\" ++ quote.toString
  else if point = '\\'.toNat then "\\\\"
  else if point = '\n'.toNat then "\\n"
  else if point = '\r'.toNat then "\\r"
  else if point = '\t'.toNat then "\\t"
  else if isPrintable point then (Char.ofNat point).toString
  else numericEscape point

/-- The quote that the quoted form of a text uses. -/
def preferredQuote (points : CodePoints) : Char :=
  if points.contains '\''.toNat && !points.contains '"'.toNat then '"' else '\''

/-- The text between the quotes of the quoted form. -/
def quotedBody (quote : Char) (points : CodePoints) : String :=
  String.join (points.map (quotedPoint quote))

/-- The quoted form of a text that may hold lone surrogates. -/
def quotedPoints (points : CodePoints) : String :=
  let quote := preferredQuote points
  quote.toString ++ quotedBody quote points ++ quote.toString

/-- The quoted form of a string. -/
def quoted (s : String) : String :=
  quotedPoints (CodePoints.ofString s)

/-- How one byte is written in the literal of a byte string. -/
def quotedByte (quote : Char) (byte : UInt8) : String :=
  let point := byte.toNat
  if point = quote.toNat then "\\" ++ quote.toString
  else if point = '\\'.toNat then "\\\\"
  else if point = '\n'.toNat then "\\n"
  else if point = '\r'.toNat then "\\r"
  else if point = '\t'.toNat then "\\t"
  else if 0x20 ≤ point ∧ point < 0x7f then (Char.ofNat point).toString
  else "\\x" ++ hexPadded 2 point

/-- The quoted form of a byte string, marked by a leading `b`. -/
def quotedBytes (bytes : List UInt8) : String :=
  let quote := preferredQuote (bytes.map UInt8.toNat)
  "b" ++ quote.toString ++ String.join (bytes.map (quotedByte quote)) ++ quote.toString

end Bundler.Text
