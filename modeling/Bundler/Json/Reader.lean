import Bundler.Entries
import Bundler.Json.Basic
import Bundler.Text.RangeTable

/-!
# Reading data values

A reader of JSON texts. Blanks may stand around every token, a key that occurs again replaces the
value at its first place, and a pair of escaped surrogates denotes one character.

Every step of the reader consumes input, so the length of the text bounds the number of steps.
-/

set_option autoImplicit false

namespace Bundler.Json

/-- Drops leading blanks. -/
def skipBlanks (cs : List Char) : List Char :=
  cs.dropWhile fun c => c == ' ' || c == '\n' || c == '\r' || c == '\t'

/-- The rest of a text after an expected beginning. -/
def dropExpected? : (expected : List Char) → List Char → Option (List Char)
  | [], cs => some cs
  | e :: es, c :: cs => if e = c then dropExpected? es cs else none
  | _ :: _, [] => none

/-- The value of four hexadecimal digits, and the rest. -/
def readHex4? : List Char → Option (Nat × List Char)
  | a :: b :: c :: d :: rest => do
    let a ← Text.hexDigit? a
    let b ← Text.hexDigit? b
    let c ← Text.hexDigit? c
    let d ← Text.hexDigit? d
    some (((a * 16 + b) * 16 + c) * 16 + d, rest)
  | _ => none

/-- The character of a simple escape. -/
def simpleEscape? (c : Char) : Option Char :=
  if c = '"' ∨ c = '\\' ∨ c = '/' then some c
  else if c = 'n' then some '\n'
  else if c = 'r' then some '\r'
  else if c = 't' then some '\t'
  else if c = 'b' then some (Char.ofNat 8)
  else if c = 'f' then some (Char.ofNat 12)
  else none

/-- Reads the rest of a text after its opening quote; `read` holds its characters reversed. -/
def readStringFrom? (read : List Char) : (fuel : Nat) → List Char → Option (String × List Char)
  | 0, _ => none
  | _ + 1, [] => none
  | _ + 1, '"' :: rest => some (String.ofList read.reverse, rest)
  | fuel + 1, '\\' :: 'u' :: rest => do
    let (high, rest) ← readHex4? rest
    if 0xd800 ≤ high ∧ high < 0xdc00 then
      let (low, rest) ← readHex4? (← dropExpected? ['\\', 'u'] rest)
      if 0xdc00 ≤ low ∧ low < 0xe000 then
        let point := 0x10000 + (high - 0xd800) * 0x400 + (low - 0xdc00)
        readStringFrom? (Char.ofNat point :: read) fuel rest
      else none
    else readStringFrom? (Char.ofNat high :: read) fuel rest
  | fuel + 1, '\\' :: c :: rest => do
    readStringFrom? ((← simpleEscape? c) :: read) fuel rest
  | fuel + 1, c :: rest => readStringFrom? (c :: read) fuel rest

/-- Reads the rest of a text after its opening quote. -/
def readString? (cs : List Char) : Option (String × List Char) :=
  readStringFrom? [] (cs.length + 1) cs

/-- The value of a run of decimal digits, continuing from `start`. -/
def digitsValue (start : Nat) (digits : List Char) : Nat :=
  digits.foldl (fun n c => 10 * n + (c.toNat - '0'.toNat)) start

/-- Reads a number. -/
def readNumber? (cs : List Char) : Option (Json × List Char) :=
  let (negative, cs) := match cs with
    | '-' :: rest => (true, rest)
    | _ => (false, cs)
  let whole := cs.takeWhile Char.isDigit
  let cs := cs.dropWhile Char.isDigit
  if whole.isEmpty then none
  else
    let (fraction, cs, pointed) := match cs with
      | '.' :: rest => (rest.takeWhile Char.isDigit, rest.dropWhile Char.isDigit, true)
      | _ => ([], cs, false)
    let exponent? : Option (Int × List Char) := match cs with
      | e :: rest =>
        if e = 'e' ∨ e = 'E' then
          let (down, rest) := match rest with
            | '-' :: rest => (true, rest)
            | '+' :: rest => (false, rest)
            | _ => (false, rest)
          let n : Int := digitsValue 0 (rest.takeWhile Char.isDigit)
          some (if down then -n else n, rest.dropWhile Char.isDigit)
        else none
      | [] => none
    let mantissa := digitsValue 0 (whole ++ fraction)
    match pointed, exponent? with
    | false, none => some (.int (if negative then -mantissa else mantissa), cs)
    | _, some (e, cs) =>
      some (.float negative (.ofDecimal mantissa (e - fraction.length)), cs)
    | true, none => some (.float negative (.ofDecimal mantissa (-fraction.length)), cs)

mutual

/-- Reads a value. -/
def readValue? : (fuel : Nat) → List Char → Option (Json × List Char)
  | 0, _ => none
  | fuel + 1, cs =>
    match skipBlanks cs with
    | '"' :: rest => (readString? rest).map fun (s, rest) => (.string s, rest)
    | '[' :: rest =>
      match skipBlanks rest with
      | ']' :: rest => some (.array [], rest)
      | rest => (readItems? fuel rest).map fun (items, rest) => (.array items, rest)
    | '{' :: rest =>
      match skipBlanks rest with
      | '}' :: rest => some (.object [], rest)
      | rest => (readMembers? [] fuel rest).map fun (members, rest) => (.object members, rest)
    | 'n' :: rest => (dropExpected? "ull".toList rest).map fun rest => (.null, rest)
    | 't' :: rest => (dropExpected? "rue".toList rest).map fun rest => (.bool true, rest)
    | 'f' :: rest => (dropExpected? "alse".toList rest).map fun rest => (.bool false, rest)
    | rest => readNumber? rest

/-- Reads the items of an array up to its closing bracket. -/
def readItems? : (fuel : Nat) → List Char → Option (List Json × List Char)
  | 0, _ => none
  | fuel + 1, cs => do
    let (item, rest) ← readValue? fuel cs
    match skipBlanks rest with
    | ',' :: rest =>
      let (items, rest) ← readItems? fuel rest
      some (item :: items, rest)
    | ']' :: rest => some ([item], rest)
    | _ => none

/-- Reads the members of an object up to its closing bracket, onto those read so far. -/
def readMembers? (members : List (String × Json)) :
    (fuel : Nat) → List Char → Option (List (String × Json) × List Char)
  | 0, _ => none
  | fuel + 1, cs => do
    let rest ← dropExpected? ['"'] (skipBlanks cs)
    let (key, rest) ← readString? rest
    let rest ← dropExpected? [':'] (skipBlanks rest)
    let (value, rest) ← readValue? fuel rest
    let members := setEntry members key value
    match skipBlanks rest with
    | ',' :: rest => readMembers? members fuel rest
    | '}' :: rest => some (members, rest)
    | _ => none

end

/-- The value that a text denotes, if it is one value between blanks. -/
def read? (text : String) : Option Json :=
  let cs := text.toList
  match readValue? (2 * cs.length + 2) cs with
  | some (value, rest) => if (skipBlanks rest).isEmpty then some value else none
  | none => none

end Bundler.Json
