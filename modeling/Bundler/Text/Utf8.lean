import Bundler.Text.CodePoints

/-!
# UTF-8

Decoding of bytes into a text, with the cause of a failure, and encoding of a text. A sequence must
be the shortest for its code point, must not denote a surrogate and must not exceed U+10FFFF; which
second bytes are admitted depends on the first byte accordingly.
-/

set_option autoImplicit false

namespace Bundler.Text.Utf8

/-- Why bytes are no UTF-8 text. -/
inductive DecodeFault where
  /-- A byte stands where a character must begin and begins none. -/
  | invalidStart
  /-- A byte within a sequence does not continue it. -/
  | invalidContinuation
  /-- The bytes end within a sequence. -/
  | unexpectedEnd
deriving DecidableEq, Repr

/-- The description of a cause. -/
def DecodeFault.message : DecodeFault → String
  | .invalidStart => "invalid start byte"
  | .invalidContinuation => "invalid continuation byte"
  | .unexpectedEnd => "unexpected end of data"

/-- Why and where bytes are no UTF-8 text. -/
structure DecodeError where
  /-- The cause. -/
  fault : DecodeFault
  /-- The first byte of the sequence that is at fault. -/
  byte : UInt8
  /-- The position of that byte. -/
  position : Nat
  /-- The number of bytes at fault. -/
  length : Nat
deriving DecidableEq, Repr

/-- The description of a decoding failure. -/
def DecodeError.message (e : DecodeError) : String :=
  let bytes :=
    if e.length = 1 then
      "byte 0x" ++ hexPadded 2 e.byte.toNat ++ " in position " ++ toString e.position
    else
      "bytes in position " ++ toString e.position ++ "-" ++ toString (e.position + e.length - 1)
  "'utf-8' codec can't decode " ++ bytes ++ ": " ++ e.fault.message

/-- Whether a byte is `10xxxxxx`. -/
def isContinuation (b : UInt8) : Bool :=
  0x80 ≤ b && b ≤ 0xbf

/-- Whether a second byte is admitted after a first byte. -/
def isSecond (first b : UInt8) : Bool :=
  if first = 0xe0 then 0xa0 ≤ b && b ≤ 0xbf
  else if first = 0xed then 0x80 ≤ b && b ≤ 0x9f
  else if first = 0xf0 then 0x90 ≤ b && b ≤ 0xbf
  else if first = 0xf4 then 0x80 ≤ b && b ≤ 0x8f
  else isContinuation b

/-- The number of bytes in the sequence that a byte begins, if it begins one. -/
def sequenceLength? (first : UInt8) : Option Nat :=
  if first < 0x80 then some 1
  else if 0xc2 ≤ first ∧ first ≤ 0xdf then some 2
  else if 0xe0 ≤ first ∧ first ≤ 0xef then some 3
  else if 0xf0 ≤ first ∧ first ≤ 0xf4 then some 4
  else none

/-- The six bits that a continuation byte carries. -/
def payload (b : UInt8) : Nat :=
  b.toNat % 64

/-- Decodes bytes that begin at a position onto the characters read so far, held reversed. -/
def decodeFrom (read : List Char) (position : Nat) : List UInt8 → Except DecodeError (List Char)
  | [] => .ok read.reverse
  | a :: rest =>
    let fail := fun fault length => .error ⟨fault, a, position, length⟩
    match sequenceLength? a with
    | none => fail .invalidStart 1
    | some 1 => decodeFrom (Char.ofNat a.toNat :: read) (position + 1) rest
    | some 2 =>
      match rest with
      | [] => fail .unexpectedEnd 1
      | b :: rest =>
        if isContinuation b then
          decodeFrom (Char.ofNat (a.toNat % 32 * 64 + payload b) :: read) (position + 2) rest
        else fail .invalidContinuation 1
    | some 3 =>
      match rest with
      | [] => fail .unexpectedEnd 1
      | b :: rest =>
        if isSecond a b then
          match rest with
          | [] => fail .unexpectedEnd 2
          | c :: rest =>
            if isContinuation c then
              let point := (a.toNat % 16 * 64 + payload b) * 64 + payload c
              decodeFrom (Char.ofNat point :: read) (position + 3) rest
            else fail .invalidContinuation 2
        else fail .invalidContinuation 1
    | some _ =>
      match rest with
      | [] => fail .unexpectedEnd 1
      | b :: rest =>
        if isSecond a b then
          match rest with
          | [] => fail .unexpectedEnd 2
          | c :: rest =>
            if isContinuation c then
              match rest with
              | [] => fail .unexpectedEnd 3
              | d :: rest =>
                if isContinuation d then
                  let point :=
                    ((a.toNat % 8 * 64 + payload b) * 64 + payload c) * 64 + payload d
                  decodeFrom (Char.ofNat point :: read) (position + 4) rest
                else fail .invalidContinuation 3
            else fail .invalidContinuation 2
        else fail .invalidContinuation 1

/-- The text that the bytes encode, or why they encode none. -/
def decode (bytes : List UInt8) : Except DecodeError String :=
  (decodeFrom [] 0 bytes).map String.ofList

/-- The bytes of a text. -/
def encode (s : String) : List UInt8 :=
  s.toUTF8.toList

end Bundler.Text.Utf8
