import Bundler.Syntax.Literal.Escape

/-!
# Formatted literals

The body of a formatted literal alternates between plain text and replacement fields in braces. A
doubled brace in the plain text stands for one brace. A field holds an expression, optionally an
equals sign that also prints the expression itself, a conversion after an exclamation mark, and a
format after a colon; the format is again plain text with fields, in which braces are not doubled.

The expression ends at the first such mark outside brackets and literals. It is parsed as a source
of its own, between parentheses, by a function that this module is given.
-/

set_option autoImplicit false

namespace Bundler.Syntax

open Bundler.Text (CodePoints)

namespace Formatted

/-- Plain text found in a formatted literal. -/
structure Plain where
  /-- Its characters, escapes not yet decoded. -/
  chars : List Char
  /-- What follows it. -/
  rest : List Char
  /-- Whether it was ended by a doubled brace, so that more plain text follows. -/
  doubled : Bool

/-- Finds the plain text up to the next field, the end of the format, or a doubled brace; `read`
holds its characters, reversed, and `skip` tells how many of the next ones are read as they are. -/
def takePlain (raw nested : Bool) (read : List Char) (named : Bool) :
    List Char → Except LiteralFault Plain
  | [] => .ok ⟨read.reverse, [], false⟩
  | c :: cs =>
    if named then
      -- within the braces of a character's name
      takePlain raw nested (c :: read) (c != '}') cs
    else if c = '\\' ∧ !raw then
      match cs with
      | 'N' :: d :: rest => takePlain raw nested (d :: 'N' :: c :: read) (d == '{') rest
      | '{' :: _ | '}' :: _ => brace (c :: read) cs
      | d :: rest => takePlain raw nested (d :: c :: read) false rest
      | [] => .ok ⟨(c :: read).reverse, [], false⟩
    else if c = '{' ∨ c = '}' then brace read (c :: cs)
    else takePlain raw nested (c :: read) false cs
where
  /-- Decides what a brace at the beginning of a text means. -/
  brace (read : List Char) : List Char → Except LiteralFault Plain
    | c :: d :: rest =>
      if !nested && c == d then .ok ⟨(c :: read).reverse, rest, true⟩
      else if !nested && c == '}' then .error .loneClosingBrace
      else .ok ⟨read.reverse, c :: d :: rest, false⟩
    | [c] =>
      if !nested && c == '}' then .error .loneClosingBrace
      else .ok ⟨read.reverse, [c], false⟩
    | [] => .ok ⟨read.reverse, [], false⟩

/-- The expression of a field and the text from the mark that ends it. -/
structure FieldExtent where
  /-- The characters of the expression. -/
  chars : List Char
  /-- The mark that ends it, and what follows. -/
  rest : List Char

/-- The closing bracket of an opening one. -/
def closingOf (c : Char) : Char :=
  if c = '(' then ')' else if c = '[' then ']' else '}'

/-- Finds the end of the expression of a field. `read` holds its characters, reversed; `quote` tells
in which literal the text stands, and whether it is a triple-quoted one; `stack` holds the open
brackets; `skip` counts characters that are read as they are. -/
def takeField (read : List Char) (quote : Option (Char × Bool)) (stack : List Char) (skip : Nat) :
    List Char → Except LiteralFault FieldExtent
  | [] =>
    if quote.isSome then .error .unterminatedInField
    else
      match stack with
      | opening :: _ => .error (.unmatchedInField opening)
      | [] => .error .unclosedField
  | c :: cs =>
    match skip with
    | n + 1 => takeField (c :: read) quote stack n cs
    | 0 =>
      let tripled := cs.head? == some c && cs.tail.head? == some c
      if c = '\\' then .error .backslashInField
      else
        match quote with
        | some (q, triple) =>
          if c = q then
            if !triple then takeField (c :: read) none stack 0 cs
            else if tripled then takeField (c :: read) none stack 2 cs
            else takeField (c :: read) quote stack 0 cs
          else takeField (c :: read) quote stack 0 cs
        | none =>
          if c = '\'' ∨ c = '"' then
            takeField (c :: read) (some (c, tripled)) stack (if tripled then 2 else 0) cs
          else if c = '(' ∨ c = '[' ∨ c = '{' then
            if 200 ≤ stack.length then .error .deepBracketsInField
            else takeField (c :: read) none (c :: stack) 0 cs
          else if c = '#' then .error .commentInField
          else if stack.isEmpty && (c == '!' || c == '=' || c == '<' || c == '>') &&
              cs.head? == some '=' then
            takeField (c :: read) none stack 1 cs
          else if stack.isEmpty && (c == '!' || c == ':' || c == '}' || c == '=') then
            .ok ⟨read.reverse, c :: cs⟩
          else if c = ')' ∨ c = ']' ∨ c = '}' then
            match stack with
            | [] => .error (.unmatchedInField c)
            | opening :: outer =>
              if closingOf opening = c then takeField (c :: read) none outer 0 cs
              else .error (.mismatchedInField c opening)
          else takeField (c :: read) none stack 0 cs

/-- The number of line feeds in a text. -/
def lineFeeds (cs : List Char) : Nat :=
  cs.countP (· == '\n')

/-- Whether a character is a blank between the expression of a field and its marks. -/
def isFieldBlank (c : Char) : Bool :=
  c == ' ' || c == '\t' || c == '\n' || c == '\r' || c.toNat == 11 || c.toNat == 12

/-- What the reading of literals needs to know about the rest of the language. -/
structure Reading where
  /-- The characters that have names. -/
  lookup : String → Option Nat
  /-- The expression of a field that begins on the given line. -/
  field : (line : Nat) → List Char → Except SyntaxError Expr
  /-- The line to report for faults of the literal itself. -/
  faultLine : Nat

/-- The result of a step that may find a fault of the literal. -/
def Reading.orReport {α : Type} (r : Reading) (result : Except LiteralFault α) :
    Except SyntaxError α :=
  result.mapError fun fault => ⟨.literal fault, r.faultLine⟩

/-- The pieces read so far. Adjacent plain text is joined, across literals too. -/
structure Pieces where
  /-- The finished pieces, reversed. -/
  finished : List Expr := []
  /-- The plain text since the last field. -/
  pending : CodePoints := []

/-- Adds plain text. -/
def Pieces.addText (p : Pieces) (points : CodePoints) : Pieces :=
  { p with pending := p.pending ++ points }

/-- Turns the pending plain text into a piece. -/
def Pieces.flush (p : Pieces) : Pieces :=
  if p.pending.isEmpty then p
  else ⟨.constant (.text p.pending false) :: p.finished, []⟩

/-- Adds a field. -/
def Pieces.addField (p : Pieces) (field : Expr) : Pieces :=
  let p := p.flush
  { p with finished := field :: p.finished }

/-- The formatted text made of the pieces. -/
def Pieces.toExpr (p : Pieces) : Expr :=
  .formatted p.flush.finished.reverse

/-- A field that has been read. -/
structure Field where
  /-- The field. -/
  expr : Expr
  /-- The text that an equals sign prints in front of it. -/
  label : Option CodePoints
  /-- What follows its closing brace. -/
  rest : List Char

/-- The conversion that a letter names. -/
def conversion? (c : Char) : Option Conversion :=
  if c = 's' then some .str else if c = 'r' then some .repr else if c = 'a' then some .ascii
  else none

/-- Splits off the equals sign of a field and the blanks after it. -/
def takeLabel (chars rest : List Char) : Except LiteralFault (Option CodePoints × List Char) :=
  match rest with
  | '=' :: more =>
    match more.dropWhile isFieldBlank with
    | [] => .error .unclosedField
    | after =>
      let text := chars ++ '=' :: more.takeWhile isFieldBlank
      .ok (some (text.map Char.toNat), after)
  | _ => .ok (none, rest)

/-- Splits off the conversion of a field. -/
def takeConversion (rest : List Char) : Except LiteralFault (Option Conversion × List Char) :=
  match rest with
  | ['!'] => .error .unclosedField
  | '!' :: c :: after =>
    match conversion? c with
    | some conversion => if after.isEmpty then .error .unclosedField else .ok (some conversion, after)
    | none => .error .unknownConversion
  | _ => .ok (none, rest)

mutual

/-- Reads plain text and fields up to the end, or up to the closing brace of a format. The pieces
are added to those read before; `line` is the line on which the text begins. -/
def readPieces (r : Reading) (raw : Bool) (level : Nat) (pieces : Pieces) (line : Nat)
    (cs : List Char) : (fuel : Nat) → Except SyntaxError (Pieces × List Char × Nat)
  | 0 => .ok (pieces, cs, line)
  | fuel + 1 => do
    let plain ← r.orReport (takePlain raw (0 < level) [] false cs)
    let text ← if raw then pure (plain.chars.map Char.toNat)
      else r.orReport (Escape.decodeText r.lookup plain.chars)
    let pieces := pieces.addText text
    let line := line + lineFeeds plain.chars
    if plain.doubled then readPieces r raw level pieces line plain.rest fuel
    else
      match plain.rest with
      | '{' :: rest => do
        let (field, line) ← readField r raw level line rest fuel
        let pieces := match field.label with
          | some label => pieces.addText label
          | none => pieces
        readPieces r raw level (pieces.addField field.expr) line field.rest fuel
      | rest =>
        if 0 < level ∧ rest.head? ≠ some '}' then r.orReport (.error .unclosedField)
        else return (pieces, rest, line)

/-- Reads a field after its opening brace; also yields the line on which it ends. -/
def readField (r : Reading) (raw : Bool) (level line : Nat) (cs : List Char) :
    (fuel : Nat) → Except SyntaxError (Field × Nat)
  | 0 => r.orReport (.error .unclosedField)
  | fuel + 1 => do
    if 2 ≤ level then r.orReport (.error .deepFields)
    else
      let extent ← r.orReport (takeField [] none [] 0 cs)
      if extent.chars.all fun c => c == ' ' || c == '\t' || c == '\n' || c.toNat == 12 then
        r.orReport (.error .emptyField)
      else
        let value ← r.field line extent.chars
        let (label, rest) ← r.orReport (takeLabel extent.chars extent.rest)
        let (conversion, rest) ← r.orReport (takeConversion rest)
        let line := line + lineFeeds (cs.take (cs.length - rest.length))
        let (format, rest, line) ← match rest with
          | [':'] => r.orReport (.error .unclosedField)
          | ':' :: rest => do
            let (pieces, rest, line) ← readPieces r raw (level + 1) {} line rest fuel
            pure (some pieces.toExpr, rest, line)
          | _ => pure (none, rest, line)
        match rest with
        | '}' :: rest =>
          let conversion := if label.isSome && format.isNone && conversion.isNone then some .repr
            else conversion
          return (⟨.field value conversion format, label, rest⟩, line)
        | _ => r.orReport (.error .unclosedField)

end

end Formatted

end Bundler.Syntax
