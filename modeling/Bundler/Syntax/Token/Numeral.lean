import Bundler.Number.Binary64
import Bundler.Text.RangeTable
import Bundler.Syntax.Fault

/-!
# Numerals

A numeral is a decimal, binary, octal or hexadecimal integer, or a decimal with a point, an exponent
or the mark `j` of an imaginary number. Single underscores may stand between digits and after the
mark of a base. This module finds the extent of a numeral at the beginning of a text and, separately,
the value of a whole numeral.
-/

set_option autoImplicit false

namespace Bundler.Syntax

/-- Whether a character may belong to a word, by the rough test that decides where tokens end. -/
def isWordPart (c : Char) : Bool :=
  c.isAlphanum || c == '_' || 0x80 ≤ c.toNat

namespace Numeral

/-- A numeral split from the text after it. -/
structure Extent where
  /-- The characters of the numeral. -/
  taken : List Char
  /-- What follows it. -/
  rest : List Char

/-- The extent with more characters in front. -/
def Extent.after (front : List Char) (e : Extent) : Extent :=
  ⟨front ++ e.taken, e.rest⟩

/-- Takes digits with single underscores between them; the text stands after a digit. Fails with the
text after an underscore that no digit follows. -/
def takeDigits (digit : Char → Bool) : List Char → Except (List Char) Extent
  | '_' :: cs =>
    match cs with
    | c :: cs' =>
      if digit c then (takeDigits digit cs').map (Extent.after ['_', c]) else .error cs
    | [] => .error []
  | c :: cs =>
    if digit c then (takeDigits digit cs).map (Extent.after [c]) else .ok ⟨[], c :: cs⟩
  | [] => .ok ⟨[], []⟩

/-- Whether a text begins with the given characters and the word ends there. -/
def continuesAs (word : List Char) (cs : List Char) : Bool :=
  word.isPrefixOf cs && !(cs.drop word.length).head?.any isWordPart

/-- Whether the text after a numeral begins with a keyword that may follow it directly. -/
def keywordFollows : List Char → Bool
  | 'a' :: cs => continuesAs ['n', 'd'] cs
  | 'e' :: cs => continuesAs ['l', 's', 'e'] cs
  | 'f' :: cs => continuesAs ['o', 'r'] cs
  | 'i' :: c :: _ => c == 'f' || c == 'n' || c == 's'
  | 'o' :: cs => continuesAs ['r'] cs
  | 'n' :: cs => continuesAs ['o', 't'] cs
  | _ => false

/-- Accepts a numeral if no word is glued to its end. -/
def finishAs (kind : String) (e : Extent) : Except LexicalError Extent :=
  if keywordFollows e.rest || !e.rest.head?.any isWordPart then .ok e
  else .error (.invalidNumeral kind)

/-- Whether a digit belongs to a base. -/
def Radix.admits (radix : Radix) (c : Char) : Bool :=
  match radix with
  | .binary => c == '0' || c == '1'
  | .octal => '0' ≤ c && c ≤ '7'
  | .decimal => c.isDigit
  | .hexadecimal => c.isDigit || ('a' ≤ c && c ≤ 'f') || ('A' ≤ c && c ≤ 'F')

/-- The failure of a based numeral at the character that its digits should go on with. -/
def badDigit (radix : Radix) (cs : List Char) : LexicalError :=
  match cs with
  | c :: _ => if c.isDigit then .invalidDigit c radix else .invalidNumeral radix.name
  | [] => .invalidNumeral radix.name

/-- Takes the digits of a numeral after the mark of its base. -/
def takeBased (radix : Radix) (mark : List Char) (cs : List Char) : Except LexicalError Extent :=
  let (underscore, cs) := match cs with
    | '_' :: rest => (['_'], rest)
    | _ => ([], cs)
  match cs with
  | c :: rest =>
    if Radix.admits radix c then
      match takeDigits (Radix.admits radix) rest with
      | .error bad => .error (badDigit radix bad)
      | .ok e =>
        match e.rest with
        | d :: _ =>
          if d.isDigit then .error (.invalidDigit d radix)
          else finishAs radix.name (e.after (mark ++ underscore ++ [c]))
        | [] => .ok (e.after (mark ++ underscore ++ [c]))
    else .error (badDigit radix cs)
  | [] => .error (badDigit radix [])

/-- Takes decimal digits; a misplaced underscore makes the numeral malformed. -/
def takeDecimalDigits (cs : List Char) : Except LexicalError Extent :=
  match takeDigits Char.isDigit cs with
  | .ok e => .ok e
  | .error _ => .error (.invalidNumeral Radix.decimal.name)

/-- Takes the mark of an imaginary number, if it follows. -/
def takeImaginary (e : Extent) : Except LexicalError Extent :=
  match e.rest with
  | c :: rest =>
    if c = 'j' ∨ c = 'J' then finishAs "imaginary" ⟨e.taken ++ [c], rest⟩
    else finishAs Radix.decimal.name e
  | [] => .ok e

/-- Takes an exponent and the mark of an imaginary number, as far as they follow. An `e` without
digits ends the numeral only if it begins a keyword. -/
def takeExponent (e : Extent) : Except LexicalError Extent :=
  match e.rest with
  | c :: rest =>
    if c = 'e' ∨ c = 'E' then
      match rest with
      | s :: d :: rest' =>
        if s.isDigit then do
          let digits ← takeDecimalDigits (d :: rest')
          takeImaginary (digits.after (e.taken ++ [c, s]))
        else if s = '+' ∨ s = '-' then
          if d.isDigit then do
            let digits ← takeDecimalDigits rest'
            takeImaginary (digits.after (e.taken ++ [c, s, d]))
          else .error (.invalidNumeral Radix.decimal.name)
        else finishAs Radix.decimal.name e
      | [s] =>
        if s.isDigit then .ok ⟨e.taken ++ [c, s], []⟩
        else if s = '+' ∨ s = '-' then .error (.invalidNumeral Radix.decimal.name)
        else finishAs Radix.decimal.name e
      | [] => finishAs Radix.decimal.name e
    else takeImaginary e
  | [] => .ok e

/-- Takes the fraction of a decimal after its point, and what may follow it. -/
def takeFraction (front : List Char) (cs : List Char) : Except LexicalError Extent :=
  match cs with
  | c :: rest =>
    if c.isDigit then do
      let digits ← takeDecimalDigits rest
      takeExponent (digits.after (front ++ [c]))
    else takeExponent ⟨front, cs⟩
  | [] => .ok ⟨front, []⟩

/-- Whether the digits of an integer are those of a number other than zero that begins with one. -/
def hasLeadingZero (digits : List Char) : Bool :=
  digits.head? == some '0' && digits.any fun c => c != '0' && c != '_'

/-- Takes a numeral that begins with a decimal digit. -/
def takeDecimal (first : Char) (cs : List Char) : Except LexicalError Extent := do
  let digits ← takeDecimalDigits cs
  let whole := digits.after [first]
  match whole.rest with
  | '.' :: rest => takeFraction (whole.taken ++ ['.']) rest
  | c :: _ =>
    if c = 'e' ∨ c = 'E' then takeExponent whole
    else if c = 'j' ∨ c = 'J' then takeImaginary whole
    else if hasLeadingZero whole.taken then .error .leadingZeros
    else finishAs Radix.decimal.name whole
  | [] => if hasLeadingZero whole.taken then .error .leadingZeros else .ok whole

/-- The base that a letter after a zero marks. -/
def radixOfMark? (c : Char) : Option Radix :=
  if c = 'x' ∨ c = 'X' then some .hexadecimal
  else if c = 'o' ∨ c = 'O' then some .octal
  else if c = 'b' ∨ c = 'B' then some .binary
  else none

/-- Takes a numeral from a text whose first character is a digit. -/
def take (first : Char) (cs : List Char) : Except LexicalError Extent :=
  match cs with
  | c :: rest =>
    match if first = '0' then radixOfMark? c else none with
    | some radix => takeBased radix [first, c] rest
    | none => takeDecimal first cs
  | [] => .ok ⟨[first], []⟩

/-- The value of digits in a base. -/
def digitsIn (base : Nat) (digits : List Char) : Nat :=
  digits.foldl (fun n c => base * n + (Text.hexDigit? c).getD 0) 0

/-- Reads the sign and digits of an exponent. -/
def exponentValue : List Char → Int
  | '-' :: digits => -(digitsIn 10 digits : Int)
  | '+' :: digits => digitsIn 10 digits
  | digits => digitsIn 10 digits

/-- The magnitude of a decimal with an optional fraction and exponent. -/
def decimalMagnitude (cs : List Char) : Number.Binary64 :=
  let isMark := fun c : Char => c == 'e' || c == 'E'
  let mantissa := cs.takeWhile (!isMark ·)
  let exponent := exponentValue ((cs.dropWhile (!isMark ·)).drop 1)
  let whole := mantissa.takeWhile (· != '.')
  let fraction := (mantissa.dropWhile (· != '.')).drop 1
  .ofDecimal (digitsIn 10 (whole ++ fraction)) (exponent - fraction.length)

/-- The value of a numeral. A decimal integer with too many digits has none, and their number is
given instead. -/
def value (text : String) : Except Nat Constant :=
  let cs := text.toList.filter (· != '_')
  match cs with
  | '0' :: 'x' :: digits | '0' :: 'X' :: digits => .ok (.int (digitsIn 16 digits))
  | '0' :: 'o' :: digits | '0' :: 'O' :: digits => .ok (.int (digitsIn 8 digits))
  | '0' :: 'b' :: digits | '0' :: 'B' :: digits => .ok (.int (digitsIn 2 digits))
  | _ =>
    let last := cs.getLast?.getD '0'
    if last = 'j' ∨ last = 'J' then .ok (.imaginary (decimalMagnitude cs.dropLast))
    else if cs.all Char.isDigit then
      if maxIntegerDigits < cs.length ∧ cs.head? ≠ some '0' then .error cs.length
      else .ok (.int (digitsIn 10 cs))
    else .ok (.float (decimalMagnitude cs))

end Numeral

end Bundler.Syntax
