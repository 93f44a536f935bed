import Bundler.Json.Basic
import Bundler.Text.RangeTable
import Bundler.Toml.Fault

/-!
# Texts, numbers and moments

The values in a TOML document that have no parts.
-/

set_option autoImplicit false

namespace Bundler.Toml

/-! ### Blanks and comments -/

/-- Whether a character is a blank within a line. -/
def isBlank (c : Char) : Bool := c == ' ' || c == '\t'

/-- Drops blanks. -/
def skipBlanks (cs : List Char) : List Char := cs.dropWhile isBlank

/-- Drops blanks and line feeds. -/
def skipBlankLines (cs : List Char) : List Char := cs.dropWhile fun c => isBlank c || c == '\n'

/-- Whether a character is a control character other than the tab. -/
def isIllegal (c : Char) : Bool := (c.toNat < 0x20 && c != '\t') || c.toNat == 0x7f

/-- Whether a character is a control character other than the tab and the line feed. -/
def isIllegalInLines (c : Char) : Bool := isIllegal c && c != '\n'

/-- Reads up to an expected text, or to the end if it does not occur. -/
def readUpTo (expected : List Char) : List Char → Option (List Char) × List Char
  | [] => (none, [])
  | c :: cs =>
    if expected.isPrefixOf (c :: cs) then (some [], c :: cs)
    else
      match readUpTo expected cs with
      | (found, rest) => (found.map (c :: ·), rest)

/-- Refuses the first illegal character before the rest of the text. -/
def refuseIllegal (illegal : Char → Bool) (cs rest : List Char) : Except ReadError Unit :=
  let legal := cs.takeWhile (!illegal ·)
  match cs.drop legal.length with
  | c :: _ => if rest.length < cs.length - legal.length then
      .error (.fault (.invalidCharacter c) (cs.length - legal.length)) else .ok ()
  | [] => .ok ()

/-- Drops a comment. -/
def skipComment : List Char → Except ReadError (List Char)
  | '#' :: cs => do
    let rest := cs.dropWhile (· != '\n')
    refuseIllegal isIllegal cs rest
    return rest
  | cs => return cs

/-- Drops blanks, line feeds and comments, at most so many times. -/
def skipGaps : (times : Nat) → List Char → Except ReadError (List Char)
  | 0, cs => return cs
  | times + 1, cs => do
    let rest ← skipComment (skipBlankLines cs)
    if rest.length = cs.length then return rest else skipGaps times rest

/-! ### Texts -/

/-- Reads a literal text after its opening quotes, up to the same quotes. -/
def readLiteral (quotes : List Char) (illegal : Char → Bool) : Reader String := fun cs =>
  match readUpTo quotes cs with
  | (none, _) => fail (.expected (String.ofList quotes)) []
  | (some text, rest) => do
    refuseIllegal illegal cs rest
    return (String.ofList text, rest.drop quotes.length)

/-- Reads the digits of an escape. -/
def readHex (size : Nat) : Reader Char := fun cs =>
  match (cs.take size).mapM Text.hexDigit? with
  | some digits =>
    let n := digits.foldl (fun n d => 16 * n + d) 0
    if digits.length < size then fail .invalidHex cs
    else if n.isValidChar then return (Char.ofNat n, cs.drop size)
    else fail .notScalar (cs.drop size)
  | none => fail .invalidHex cs

/-- The character that a simple escape stands for. -/
def simpleEscape? (c : Char) : Option Char :=
  if c = 'b' then some (Char.ofNat 8)
  else if c = 't' then some '\t'
  else if c = 'n' then some '\n'
  else if c = 'f' then some (Char.ofNat 12)
  else if c = 'r' then some '\r'
  else if c = '"' ∨ c = '\\' then some c
  else none

/-- Reads an escape after its backslash. In a text of several lines a backslash before a line feed
drops all blanks up to the next character. -/
def readEscape (multiline : Bool) : Reader (List Char) := fun cs =>
  match cs with
  | [] => fail .strayBackslash []
  | c :: rest =>
    if multiline && c = '\n' then return ([], skipBlankLines rest)
    else if multiline && isBlank c then
      match skipBlanks rest with
      | [] => return ([], [])
      | '\n' :: rest => return ([], skipBlankLines rest)
      | rest => fail .strayBackslash rest
    else if c = 'u' then do
      let (c, rest) ← readHex 4 rest
      return ([c], rest)
    else if c = 'U' then do
      let (c, rest) ← readHex 8 rest
      return ([c], rest)
    else
      match simpleEscape? c with
      | some c => return ([c], rest)
      | none => fail .strayBackslash rest

/-- Reads a text with escapes after its opening quotes; `read` holds its characters reversed. -/
def readBasicFrom (multiline : Bool) (read : List Char) : (fuel : Nat) → Reader String
  | 0, cs => fail .unterminated cs
  | _ + 1, [] => fail .unterminated []
  | fuel + 1, c :: cs =>
    if c = '"' then
      if !multiline then return (String.ofList read.reverse, cs)
      else
        match cs with
        | '"' :: '"' :: rest => return (String.ofList read.reverse, rest)
        | _ => readBasicFrom multiline (c :: read) fuel cs
    else if c = '\\' then do
      let (escaped, rest) ← readEscape multiline cs
      readBasicFrom multiline (escaped.reverse ++ read) fuel rest
    else if (if multiline then isIllegalInLines c else isIllegal c) then
      fail (.illegalCharacter c) (c :: cs)
    else readBasicFrom multiline (c :: read) fuel cs

/-- Reads a text with escapes after its opening quotes. -/
def readBasic (multiline : Bool) : Reader String := fun cs =>
  readBasicFrom multiline [] (cs.length + 1) cs

/-- Up to two more quotes after the end of a text of several lines belong to it. -/
def moreQuotes (quote : Char) (text : String) (cs : List Char) : String × List Char :=
  let extra := (cs.take 2).takeWhile (· == quote)
  (text ++ String.ofList extra, cs.drop extra.length)

/-- Drops one line feed. -/
def dropLineFeed : List Char → List Char
  | '\n' :: cs => cs
  | cs => cs

/-- Reads a text, if one begins here. -/
def readText? : List Char → Option (Except ReadError (String × List Char))
  | '"' :: '"' :: '"' :: cs => some do
    let (text, rest) ← readBasic true (dropLineFeed cs)
    return moreQuotes '"' text rest
  | '\'' :: '\'' :: '\'' :: cs => some do
    let (text, rest) ← readLiteral ['\'', '\'', '\''] isIllegalInLines (dropLineFeed cs)
    return moreQuotes '\'' text rest
  | '"' :: cs => some (readBasic false cs)
  | '\'' :: cs => some (readLiteral ['\''] isIllegal cs)
  | _ => none

/-! ### Numbers -/

/-- Reads digits that may have single underscores between them. -/
def readDigits? (isDigit : Char → Bool) : List Char → Option (List Char × List Char)
  | [] => none
  | c :: '_' :: cs =>
    if isDigit c then
      match readDigits? isDigit cs with
      | some (digits, rest) => some (c :: digits, rest)
      | none => some ([c], '_' :: cs)
    else none
  | c :: cs =>
    if isDigit c then
      match readDigits? isDigit cs with
      | some (digits, rest) => some (c :: digits, rest)
      | none => some ([c], cs)
    else none

/-- The value of digits in a base. -/
def digitsValue (base : Nat) (digits : List Char) : Nat :=
  digits.foldl (fun n c => base * n + (Text.hexDigit? c).getD 0) 0

/-- Reads an integer with a mark for its base. -/
def readMarked? (cs : List Char) : Option (Nat × List Char) :=
  let inBase := fun (base : Nat) (rest : List Char) =>
    (readDigits? (fun c => match Text.hexDigit? c with
      | some d => decide (d < base)
      | none => false) rest).map fun (digits, rest) => (digitsValue base digits, rest)
  match cs with
  | '0' :: 'x' :: rest => inBase 16 rest
  | '0' :: 'b' :: rest => inBase 2 rest
  | '0' :: 'o' :: rest => inBase 8 rest
  | _ => none

/-- Reads a fraction: a point and digits. -/
def readFraction : List Char → List Char × List Char
  | '.' :: cs => (readDigits? Char.isDigit cs).getD ([], '.' :: cs)
  | cs => ([], cs)

/-- Reads an exponent, if one begins here. -/
def readExponent? : List Char → Option (Int × List Char)
  | e :: cs =>
    if e = 'e' ∨ e = 'E' then
      let (negative, digits) := match cs with
        | '-' :: rest => (true, rest)
        | '+' :: rest => (false, rest)
        | _ => (false, cs)
      (readDigits? Char.isDigit digits).map fun (digits, rest) =>
        let n : Int := digitsValue 10 digits
        (if negative then -n else n, rest)
    else none
  | [] => none

/-- The largest number of digits of a decimal integer. -/
def maxDigits : Nat := 4300

/-- Reads a number, if one begins here. -/
def readNumber? (cs : List Char) : Option (Except ReadError (Json × List Char)) :=
  match readMarked? cs with
  | some (n, rest) => some (.ok (.int n, rest))
  | none =>
    let (negative, unsigned) := match cs with
      | '-' :: rest => (true, rest)
      | '+' :: rest => (false, rest)
      | _ => (false, cs)
    let whole? := match unsigned with
      | '0' :: rest => some (['0'], rest)
      | _ => readDigits? Char.isDigit unsigned
    whole?.map fun (whole, rest) =>
      let (fraction, rest) := readFraction rest
      let exponent? := readExponent? rest
      if fraction.isEmpty && exponent?.isNone then
        if maxDigits < whole.length then .error (.integerDigits whole.length)
        else
          let n : Int := digitsValue 10 whole
          .ok (.int (if negative then -n else n), rest)
      else
        let (exponent, rest) := exponent?.getD (0, rest)
        let n := digitsValue 10 (whole ++ fraction)
        .ok (.float negative (.ofDecimal n (exponent - fraction.length)), rest)

/-- Reads an infinity or what is no number, if one begins here. -/
def readSpecial? (cs : List Char) : Option (Json × List Char) :=
  let (negative, unsigned) := match cs with
    | '-' :: rest => (true, rest)
    | '+' :: rest => (false, rest)
    | _ => (false, cs)
  match unsigned with
  | 'i' :: 'n' :: 'f' :: rest => some (.float negative .infinite, rest)
  | 'n' :: 'a' :: 'n' :: rest => some (.nan, rest)
  | _ => none

/-! ### Moments -/

/-- Reads a number of exactly so many digits between two bounds. -/
def readBounded? (size low high : Nat) (cs : List Char) : Option (Nat × List Char) :=
  let digits := cs.take size
  if digits.length = size && digits.all Char.isDigit then
    let n := digitsValue 10 digits
    if low ≤ n ∧ n ≤ high then some (n, cs.drop size) else none
  else none

/-- Drops one expected character. -/
def dropChar? (expected : Char) : List Char → Option (List Char)
  | c :: cs => if c = expected then some cs else none
  | [] => none

/-- The rest of a text after a time of day. -/
def afterTime? (cs : List Char) : Option (List Char) := do
  let (_, cs) ← readBounded? 2 0 23 cs
  let (_, cs) ← readBounded? 2 0 59 (← dropChar? ':' cs)
  let (_, cs) ← readBounded? 2 0 59 (← dropChar? ':' cs)
  match cs with
  | '.' :: rest =>
    return if (rest.takeWhile Char.isDigit).isEmpty then cs else rest.dropWhile Char.isDigit
  | _ => return cs

/-- The rest of a text after an offset from universal time; without one it is the whole text. -/
def afterOffset (cs : List Char) : List Char :=
  let offset? (cs : List Char) : Option (List Char) := do
    let (_, cs) ← readBounded? 2 0 23 cs
    let (_, cs) ← readBounded? 2 0 59 (← dropChar? ':' cs)
    return cs
  match cs with
  | c :: rest =>
    if c = 'Z' ∨ c = 'z' then rest
    else if c = '+' ∨ c = '-' then (offset? rest).getD cs
    else cs
  | [] => []

/-- The number of days of a month. -/
def daysOf (year month : Nat) : Nat :=
  if month = 2 then
    if year % 4 = 0 ∧ (year % 100 ≠ 0 ∨ year % 400 = 0) then 29 else 28
  else if month = 4 ∨ month = 6 ∨ month = 9 ∨ month = 11 then 30
  else 31

/-- Reads a date, with or without a time, if one begins here. The day has to exist. -/
def readDate? (cs : List Char) : Option (Except ReadError (Json × List Char)) := do
  let (year, rest) ← readBounded? 4 0 9999 cs
  let (month, rest) ← readBounded? 2 1 12 (← dropChar? '-' rest)
  let (day, rest) ← readBounded? 2 1 31 (← dropChar? '-' rest)
  let timed? : Option (List Char) := match rest with
    | c :: after =>
      if c = 'T' ∨ c = 't' ∨ c = ' ' then (afterTime? after).map afterOffset else none
    | [] => none
  let rest := timed?.getD rest
  if year = 0 ∨ daysOf year month < day then
    return fail .invalidMoment cs
  else
    return .ok (.moment (String.ofList (cs.take (cs.length - rest.length))), rest)

/-- Reads a moment, if one begins here. -/
def readMoment? (cs : List Char) : Option (Except ReadError (Json × List Char)) :=
  match readDate? cs with
  | some result => some result
  | none => (afterTime? cs).map fun rest =>
    .ok (.moment (String.ofList (cs.take (cs.length - rest.length))), rest)

end Bundler.Toml
