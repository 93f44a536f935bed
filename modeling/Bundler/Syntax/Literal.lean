import Bundler.Syntax.Literal.Formatted
import Bundler.Syntax.Token.Lexer

/-!
# The value of string literals

Literals that stand side by side form one value: a byte string, a text, or, if one of them is
formatted, a formatted text.
-/

set_option autoImplicit false

namespace Bundler.Syntax

open Bundler.Text (CodePoints)

/-- A string literal taken apart. -/
structure Literal where
  /-- Whether it is a byte string. -/
  isBytes : Bool
  /-- Whether it is formatted. -/
  isFormatted : Bool
  /-- Whether its backslashes stand for themselves. -/
  isRaw : Bool
  /-- What stands between its quotes. -/
  body : List Char
  /-- The line on which the body begins. -/
  line : Nat

namespace Literal

/-- Takes the opening and closing quotes off a text that begins with a quote. -/
def stripQuotes (quoted : List Char) : List Char :=
  let inner := (quoted.drop 1).dropLast
  match inner with
  | a :: b :: _ :: _ :: _ =>
    if some a = quoted.head? ∧ some b = quoted.head? then (inner.drop 2).dropLast.dropLast else inner
  | _ => inner

/-- Takes a string token apart. -/
def ofToken (t : Token) : Literal :=
  let cs := t.text.toList
  let isQuote := fun c : Char => c == '"' || c == '\''
  let marks := cs.takeWhile (!isQuote ·)
  let has := fun c : Char => marks.any (·.toLower == c)
  { isBytes := has 'b'
    isFormatted := has 'f'
    isRaw := has 'r'
    body := stripQuotes (cs.dropWhile (!isQuote ·))
    line := t.line }

end Literal

/-- What has been read of a sequence of literals. -/
inductive LiteralValue where
  /-- A byte string. -/
  | bytes (b : List UInt8)
  /-- A text, with whether a formatted literal has been met. -/
  | text (pieces : Formatted.Pieces) (isFormatted : Bool)

/-- Whether the value is a byte string. -/
def LiteralValue.isBytes : LiteralValue → Bool
  | .bytes _ => true
  | .text .. => false

/-- The value of a literal joined to what was read before it. -/
def LiteralValue.append (r : Formatted.Reading) (before : Option LiteralValue) (l : Literal) :
    Except SyntaxError LiteralValue := do
  let mixed : Bool := match before with
    | some v => v.isBytes != l.isBytes
    | none => false
  if l.isBytes then
    if l.body.any (0x80 ≤ ·.toNat) then throw ⟨.literal .wideByte, l.line⟩
    let own ← if l.isRaw then pure (l.body.map fun c => UInt8.ofNat c.toNat)
      else r.orReport (Escape.decodeBytes l.body)
    if mixed then throw ⟨.literal .mixedKinds, r.faultLine⟩
    match before with
    | some (.bytes b) => return .bytes (b ++ own)
    | _ => return .bytes own
  else
    let (pieces, wasFormatted) := match before with
      | some (.text pieces formatted) => (pieces, formatted)
      | _ => ({}, false)
    if l.isFormatted then
      if mixed then throw ⟨.literal .mixedKinds, r.faultLine⟩
      let (pieces, _, _) ←
        Formatted.readPieces r l.isRaw 0 pieces l.line l.body (2 * l.body.length + 2)
      return .text pieces true
    else
      let own ← if l.isRaw then pure (l.body.map Char.toNat)
        else r.orReport (Escape.decodeText r.lookup l.body)
      if mixed then throw ⟨.literal .mixedKinds, r.faultLine⟩
      return .text (pieces.addText own) wasFormatted

/-- The value of the literals from a list of string tokens. -/
def literalValue (r : Formatted.Reading) (tokens : List Token) : Except SyntaxError Expr := do
  let step (before : Option LiteralValue) (t : Token) : Except SyntaxError (Option LiteralValue) := do
    return some (← LiteralValue.append r before (Literal.ofToken t))
  let marked := tokens.head?.any fun t => t.text.startsWith "u"
  match ← tokens.foldlM step none with
  | some (.bytes b) => return .constant (.bytes b)
  | some (.text pieces isFormatted) =>
    if isFormatted then return pieces.toExpr
    else return .constant (.text pieces.pending marked)
  | none => return .constant (.text [] false)

end Bundler.Syntax
