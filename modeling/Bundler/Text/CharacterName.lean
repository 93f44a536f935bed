import Bundler.Text.RangeTable
import Bundler.Text.Split
import Bundler.Text.CharacterName.Table

/-!
# Names of characters

A character is found by its name or by one of its name aliases. Three kinds of names follow from the
code point and have a rule each: the syllables of Hangul, whose names spell their parts; the
ideographs and signs that are numbered by their code point; the variation selectors, whose short
names count them. All other names stand in the table, which a search reads from its start.

Letters count alike in upper and lower case, except in the names of Hangul syllables and of unified
ideographs.
-/

set_option autoImplicit false

namespace Bundler.Text.CharacterName

/-! ### The table -/

/-- The words that have a code, in the order of their codes. -/
def words : Array String :=
  ((splitOn '\n' wordText).flatMap (splitOn ' ')).toArray

/-- The codes of one character. -/
def shortCodes : List Char := [':', ';', '<', '>', '?', '^', '_', '|']

/-- The marks that open an entry: the position of the mark is the number of shared words. -/
def sharedMarks : List Char := ['!', '$', '%', '&', '(', ')', '*', '+', ',', '.', '=', '~']

/-- The position of a letter or digit in the second place of a code: small letters, then capital
letters, then digits. -/
def codeDigit (c : Char) : Nat :=
  if c.isLower then c.toNat - 'a'.toNat
  else if c.isUpper then c.toNat - 'A'.toNat + 26
  else c.toNat - '0'.toNat + 52

/-- The word with a code of two characters. -/
def longCodeWord (first second : Char) : String :=
  words.getD (shortCodes.length + 62 * (first.toNat - 'a'.toNat) + codeDigit second) ""

/-- What a reader of the table has begun and not yet finished. -/
inductive Pending where
  /-- Nothing. -/
  | nothing
  /-- A word written by letters. -/
  | letters (word : String)
  /-- A code of two characters, of which the first is read. -/
  | code (first : Char)
  /-- The code point of the next entry. -/
  | number (n : Nat)

/-- A reader of the table. -/
structure Reader where
  /-- The code point of the entry that is being read. -/
  point : Nat
  /-- The finished words of its name. -/
  name : Array String
  /-- What is begun after them. -/
  pending : Pending
  /-- The answer of the search, once it is known. -/
  found : Option Nat

namespace Reader

/-- A reader before the first entry. -/
def start : Reader := ⟨0, #[], .nothing, none⟩

/-- Finishes a word that is written by letters. -/
def endWord (r : Reader) : Reader :=
  match r.pending with
  | .letters word => { r with name := r.name.push word, pending := .nothing }
  | _ => r

/-- Finishes the entry that is being read: its code point is the answer if its name is the one
looked for. -/
def endEntry (target : Array String) (r : Reader) : Reader :=
  let r := r.endWord
  if r.found.isNone ∧ r.name == target then { r with found := some r.point } else r

/-- Opens the entry whose name begins with `shared` words of the name before it. -/
def openEntry (shared : Nat) (r : Reader) : Reader :=
  let point := match r.pending with
    | .number n => n
    | _ => r.point + 1
  { r with point, name := r.name.extract 0 shared, pending := .nothing }

/-- Adds a word that is written by a code. -/
def addWord (word : String) (r : Reader) : Reader :=
  let r := r.endWord
  { r with name := r.name.push word, pending := .nothing }

/-- Reads one character of the table in search of a name. -/
def step (target : Array String) (r : Reader) (c : Char) : Reader :=
  match r.pending with
  | .code first => r.addWord (longCodeWord first c)
  | pending =>
    if c = ' ' ∨ c = '\n' then r.endWord
    else if c = '@' then { r.endEntry target with pending := .number 0 }
    else if c.isLower then { r.endWord with pending := .code c }
    else if let some shared := sharedMarks.idxOf? c then (r.endEntry target).openEntry shared
    else if let some code := shortCodes.idxOf? c then r.addWord (words.getD code "")
    else
      match pending, hexDigit? c with
      | .number n, some d => { r with pending := .number (16 * n + d) }
      | .letters word, _ => { r with pending := .letters (word.push c) }
      | _, _ => { r with pending := .letters (String.singleton c) }

end Reader

/-- The code point that the table gives for a name in capital letters. -/
def tabled? (name : String) : Option Nat :=
  let target := (splitOn ' ' name).toArray
  ((entryText.foldl (Reader.step target) Reader.start).endEntry target).found

/-! ### Names that follow from the code point -/

/-- The value of hexadecimal digits of which the letters are capitals; there must be digits. -/
def capitalHex? (digits : List Char) : Option Nat :=
  if digits.isEmpty ∨ digits.any Char.isLower then none
  else digits.foldlM (fun n c => (16 * n + ·) <$> hexDigit? c) 0

/-- The digits after a stem. -/
def digitsAfter? (stem name : String) : Option (List Char) :=
  if name.startsWith stem then some (name.toList.drop stem.length) else none

/-- The ranges of the unified ideographs, first and last. -/
def unifiedIdeographs : List (Nat × Nat) :=
  [(0x3400, 0x4dbf), (0x4e00, 0x9fff), (0x20000, 0x2a6df), (0x2a700, 0x2b738),
    (0x2b740, 0x2b81d), (0x2b820, 0x2cea1), (0x2ceb0, 0x2ebe0), (0x30000, 0x3134a)]

/-- The other characters whose names are a stem and the code point, with the ranges of these code
points. -/
def numberedFamilies : List (String × List (Nat × Nat)) :=
  [("CJK COMPATIBILITY IDEOGRAPH-", [(0xf900, 0xfa6d), (0xfa70, 0xfad9), (0x2f800, 0x2fa1d)]),
    ("KHITAN SMALL SCRIPT CHARACTER-", [(0x18b00, 0x18cd5)]),
    ("NUSHU CHARACTER-", [(0x1b170, 0x1b2fb)])]

/-- Whether a code point lies in one of the ranges. -/
def inRanges (ranges : List (Nat × Nat)) (point : Nat) : Bool :=
  ranges.any fun (first, last) => first ≤ point && point ≤ last

/-- The unified ideograph with the given digits, of which there are four or five. -/
def unifiedIdeograph? (digits : List Char) : Option Nat :=
  if digits.length = 4 ∨ digits.length = 5 then
    (capitalHex? digits).filter (inRanges unifiedIdeographs)
  else none

/-- The code point that a name in capital letters says by its number, which has no leading zero. -/
def numbered? (name : String) : Option Nat :=
  numberedFamilies.findSome? fun (stem, ranges) => do
    let digits ← digitsAfter? stem name
    guard (digits.head? ≠ some '0')
    (capitalHex? digits).filter (inRanges ranges)

/-- The leading consonants of Hangul syllables, by the names of their letters. -/
def hangulLeads : List String :=
  ["G", "GG", "N", "D", "DD", "R", "M", "B", "BB", "S", "SS", "", "J", "JJ", "C", "K", "T", "P",
    "H"]

/-- The vowels of Hangul syllables. -/
def hangulVowels : List String :=
  ["A", "AE", "YA", "YAE", "EO", "E", "YEO", "YE", "O", "WA", "WAE", "OE", "YO", "U", "WEO", "WE",
    "WI", "YU", "EU", "YI", "I"]

/-- The trailing consonants of Hangul syllables. -/
def hangulTails : List String :=
  ["", "G", "GG", "GS", "N", "NJ", "NH", "D", "L", "LG", "LM", "LB", "LS", "LT", "LP", "LH", "M",
    "B", "BS", "S", "SS", "NG", "J", "C", "K", "T", "P", "H"]

/-- Whether a letter belongs to the name of a vowel. -/
def isVowelLetter (c : Char) : Bool :=
  "AEIOUYW".toList.contains c

/-- The Hangul syllable spelled by its parts. Consonants have no letter of a vowel in their names,
so the parts are the letters before, in and after the first run of vowel letters. -/
def hangulSyllable? (parts : List Char) : Option Nat := do
  let lead := parts.takeWhile (!isVowelLetter ·)
  let rest := parts.dropWhile (!isVowelLetter ·)
  let lead ← hangulLeads.idxOf? (String.ofList lead)
  let vowel ← hangulVowels.idxOf? (String.ofList (rest.takeWhile isVowelLetter))
  let tail ← hangulTails.idxOf? (String.ofList (rest.dropWhile isVowelLetter))
  some (0xac00 + (lead * hangulVowels.length + vowel) * hangulTails.length + tail)

/-- The variation selector with the given short name in capital letters: the first sixteen lie
together, and the others lie together elsewhere. -/
def variationSelector? (name : String) : Option Nat := do
  let digits ← digitsAfter? "VS" name
  guard (digits.length ≤ 3 ∧ digits.all Char.isDigit ∧ digits.head? ≠ some '0')
  let n ← (String.ofList digits).toNat?
  if n ≤ 16 then some (0xfe00 + (n - 1))
  else if n ≤ 256 then some (0xe0100 + (n - 17))
  else none

end CharacterName

open CharacterName in
/-- The code point of the character that has the given name or name alias. -/
def characterNamed? (name : String) : Option Nat :=
  if let some parts := digitsAfter? "HANGUL SYLLABLE " name then hangulSyllable? parts
  else if let some digits := digitsAfter? "CJK UNIFIED IDEOGRAPH-" name then
    unifiedIdeograph? digits
  else
    let name := String.ofList (name.toList.map Char.toUpper)
    numbered? name <|> variationSelector? name <|> tabled? name

end Bundler.Text
