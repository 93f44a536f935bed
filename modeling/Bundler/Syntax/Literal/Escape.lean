import Bundler.Syntax.Fault
import Bundler.Text.RangeTable

/-!
# Escapes in literals

The value of the body of a literal that is not raw. In a text, positions in messages count bytes of
the body after every character outside ASCII has been replaced by an escape of ten characters. A
backslash that escapes nothing stands for itself.
-/

set_option autoImplicit false

namespace Bundler.Syntax

open Bundler.Text (CodePoints hexDigit?)

namespace Escape

/-- The value of an octal digit. -/
def octalDigit? (c : Char) : Option Nat :=
  if '0' ≤ c ∧ c ≤ '7' then some (c.toNat - '0'.toNat) else none

/-- Takes up to `count` octal digits onto a value. -/
def takeOctal (value : Nat) : (count : Nat) → List Char → Nat × Nat × List Char
  | 0, cs => (value, 0, cs)
  | count + 1, c :: cs =>
    match octalDigit? c with
    | some d =>
      let (value, taken, rest) := takeOctal (8 * value + d) count cs
      (value, taken + 1, rest)
    | none => (value, 0, c :: cs)
  | _ + 1, [] => (value, 0, [])

/-- Takes exactly `count` hexadecimal digits; fails with the number of digits there are. -/
def takeHex (value taken : Nat) : (count : Nat) → List Char → Except Nat (Nat × List Char)
  | 0, cs => .ok (value, cs)
  | count + 1, c :: cs =>
    match hexDigit? c with
    | some d => takeHex (16 * value + d) (taken + 1) count cs
    | none => .error taken
  | _ + 1, [] => .error taken

/-- The character of an escape by a single letter or mark. -/
def simple? (c : Char) : Option Nat :=
  if c = '\\' ∨ c = '\'' ∨ c = '"' then some c.toNat
  else if c = 'a' then some 7
  else if c = 'b' then some 8
  else if c = 'f' then some 12
  else if c = 'n' then some 10
  else if c = 'r' then some 13
  else if c = 't' then some 9
  else if c = 'v' then some 11
  else none

/-- The number of bytes that stand for a character when positions are counted. -/
def width (c : Char) : Nat :=
  if c.toNat < 0x80 then 1 else 10

/-- The number of digits of a hexadecimal escape and what it is called when some are missing. -/
def hexEscape? (c : Char) : Option (Nat × String) :=
  if c = 'x' then some (2, "truncated \\xXX escape")
  else if c = 'u' then some (4, "truncated \\uXXXX escape")
  else if c = 'U' then some (8, "truncated \\UXXXXXXXX escape")
  else none

/-- The character with a given name, or why there is none; the text stands after `\N`, whose
backslash is at `position`. -/
def takeNamed (lookup : String → Option Nat) (position : Nat) (cs : List Char) :
    Except LiteralFault (Nat × Nat × List Char) :=
  let malformed := fun last => LiteralFault.textEscape position last "malformed \\N character escape"
  match cs with
  | '{' :: rest =>
    let name := rest.takeWhile (· != '}')
    let size := name.foldl (fun n c => n + width c) 0
    match rest.dropWhile (· != '}') with
    | [] => .error (malformed (position + 2 + size))
    | _ :: after =>
      if name.isEmpty then .error (malformed (position + 2))
      else
        match lookup (String.ofList name) with
        | some point => .ok (point, size + 4, after)
        | none =>
          .error (.textEscape position (position + 3 + size) "unknown Unicode character name")
  | _ => .error (malformed (position + 1))

/-- The value of the body of a text; `read` holds the code points so far, reversed. -/
def decodeTextFrom (lookup : String → Option Nat) (read : CodePoints) (position : Nat) :
    (fuel : Nat) → List Char → Except LiteralFault CodePoints
  | 0, _ => .ok read.reverse
  | _ + 1, [] => .ok read.reverse
  | _ + 1, ['\\'] => .ok ('\\'.toNat :: read).reverse
  | fuel + 1, '\\' :: c :: cs =>
    if c = '\n' then decodeTextFrom lookup read (position + 2) fuel cs
    else
      match simple? c, octalDigit? c, hexEscape? c with
      | some point, _, _ => decodeTextFrom lookup (point :: read) (position + 2) fuel cs
      | none, some d, _ =>
        let (point, taken, rest) := takeOctal d 2 cs
        decodeTextFrom lookup (point :: read) (position + 2 + taken) fuel rest
      | none, none, some (count, reason) =>
        match takeHex 0 0 count cs with
        | .error taken => .error (.textEscape position (position + 1 + taken) reason)
        | .ok (point, rest) =>
          if 0x10ffff < point then
            .error (.textEscape position (position + 1 + count) "illegal Unicode character")
          else decodeTextFrom lookup (point :: read) (position + 2 + count) fuel rest
      | none, none, none =>
        if c = 'N' then
          match takeNamed lookup position cs with
          | .error e => .error e
          | .ok (point, size, rest) =>
            decodeTextFrom lookup (point :: read) (position + size) fuel rest
        else
          -- before a character outside ASCII the backslash is written as an escape of its own
          let size := if c.toNat < 0x80 then 2 else 16
          decodeTextFrom lookup (c.toNat :: '\\'.toNat :: read) (position + size) fuel cs
  | fuel + 1, c :: cs => decodeTextFrom lookup (c.toNat :: read) (position + width c) fuel cs

/-- The value of the body of a text, given the characters that have names. -/
def decodeText (lookup : String → Option Nat) (body : List Char) : Except LiteralFault CodePoints :=
  decodeTextFrom lookup [] 0 (body.length + 1) body

/-- The value of the body of a byte string; `read` holds the bytes so far, reversed. -/
def decodeBytesFrom (read : List UInt8) (position : Nat) :
    (fuel : Nat) → List Char → Except LiteralFault (List UInt8)
  | 0, _ => .ok read.reverse
  | _ + 1, [] => .ok read.reverse
  | fuel + 1, '\\' :: c :: cs =>
    if c = '\n' then decodeBytesFrom read (position + 2) fuel cs
    else
      match simple? c, octalDigit? c with
      | some point, _ => decodeBytesFrom (UInt8.ofNat point :: read) (position + 2) fuel cs
      | none, some d =>
        let (point, taken, rest) := takeOctal d 2 cs
        decodeBytesFrom (UInt8.ofNat point :: read) (position + 2 + taken) fuel rest
      | none, none =>
        if c = 'x' then
          match takeHex 0 0 2 cs with
          | .error _ => .error (.byteEscape position)
          | .ok (point, rest) =>
            decodeBytesFrom (UInt8.ofNat point :: read) (position + 4) fuel rest
        else decodeBytesFrom (UInt8.ofNat c.toNat :: 0x5c :: read) (position + 2) fuel cs
  | fuel + 1, c :: cs => decodeBytesFrom (UInt8.ofNat c.toNat :: read) (position + 1) fuel cs

/-- The value of the body of a byte string. -/
def decodeBytes (body : List Char) : Except LiteralFault (List UInt8) :=
  decodeBytesFrom [] 0 (body.length + 1) body

end Escape

end Bundler.Syntax
