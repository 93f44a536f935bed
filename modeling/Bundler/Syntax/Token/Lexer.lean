import Bundler.Syntax.Token.Numeral
import Bundler.Text.Identifier
import Bundler.Text.Printable

/-!
# Splitting a source into tokens

The lexer walks over the lines of a source. At the beginning of a line outside brackets it compares
the indentation with that of the open blocks: a deeper line opens a block, and a shallower one
closes blocks until one of its own depth is found. Widths are counted twice, with tabs to every
eighth column and with tabs as single blanks, and both counts must agree. Lines that hold only
blanks or a comment have no tokens. Inside brackets ends of lines are blanks.

Every step consumes a character, so the length of the source bounds the number of steps.
-/

set_option autoImplicit false

namespace Bundler.Syntax

/-- Ends every line with a line feed: a carriage return, alone or before a line feed, becomes one,
and a source whose last character is no line feed is given one. -/
def normalizeLines (source : List Char) : List Char :=
  go source
where
  /-- Goes through the rest of the source. -/
  go : List Char → List Char
    | [] => ['\n']
    | ['\n'] => ['\n']
    | '\r' :: '\n' :: rest => '\n' :: go rest
    | '\r' :: rest => '\n' :: (if rest.isEmpty then [] else go rest)
    | c :: rest => c :: go rest

/-- The widths of an indentation. -/
structure Indentation where
  /-- The width with a tab at every eighth column. -/
  column : Nat
  /-- The width with a tab as wide as a blank. -/
  narrow : Nat
deriving DecidableEq, Repr

/-- The state of the lexer between two tokens. -/
structure LexState where
  /-- The characters not yet read. -/
  rest : List Char
  /-- The number of the line being read. -/
  line : Nat
  /-- The indentations of the open blocks, innermost first; the outermost is zero and not kept. -/
  blocks : List Indentation
  /-- The open brackets, innermost first. -/
  brackets : List OpenBracket
  /-- The tokens so far. -/
  tokens : Array Token

namespace LexState

/-- Appends a token that begins on the given line. -/
def push (s : LexState) (kind : TokenKind) (text : String) (line : Nat) : LexState :=
  { s with tokens := s.tokens.push ⟨kind, text, line, s.brackets.length⟩ }

/-- The number of the line that begins after a line feed. After the last line feed no line begins. -/
def lineAfter (line : Nat) (rest : List Char) : Nat :=
  if rest.isEmpty then line else line + 1

/-- Ends the tokens with a failure. -/
def fail (s : LexState) (error : LexicalError) (line : Nat) : TokenStream :=
  ⟨s.tokens, some ⟨error, line, s.brackets.head?⟩⟩

end LexState

/-- An indentation read from the beginning of a line. -/
structure LineStart where
  /-- The widths that count for the line. -/
  width : Indentation
  /-- The text after the indentation. -/
  rest : List Char
  /-- The line on which that text stands. -/
  line : Nat

/-- Reads the indentation of a line. A form feed starts the count again. A backslash joins the next
line; the width before the first backslash, if it is not zero, counts for the joined line. -/
def readIndentation (width : Indentation) (joined : Nat) (line : Nat) :
    List Char → Except (LexicalError × Nat) LineStart
  | ' ' :: cs => readIndentation ⟨width.column + 1, width.narrow + 1⟩ joined line cs
  | '\t' :: cs =>
    readIndentation ⟨(width.column / 8 + 1) * 8, width.narrow + 1⟩ joined line cs
  | '\\' :: '\n' :: cs =>
    if cs.isEmpty then .error (.endOfSource, line)
    else readIndentation width (if joined = 0 then width.column else joined) (line + 1) cs
  | '\\' :: _ => .error (.textAfterContinuation, line)
  | c :: cs =>
    if c.toNat = 12 then readIndentation ⟨0, 0⟩ joined line cs
    else .ok ⟨if joined = 0 then width else ⟨joined, joined⟩, c :: cs, line⟩
  | [] => .ok ⟨if joined = 0 then width else ⟨joined, joined⟩, [], line⟩

/-- The indentation of the innermost open block. -/
def innermostIndentation (blocks : List Indentation) : Indentation :=
  blocks.head?.getD ⟨0, 0⟩

/-- The number of blocks deeper than a column. -/
def closedBlocks (column : Nat) (blocks : List Indentation) : Nat :=
  (blocks.takeWhile (column < ·.column)).length

/-- Compares the indentation of a line with the open blocks and appends the tokens that open or
close blocks. -/
def adjustBlocks (s : LexState) (width : Indentation) : Except LexicalError LexState :=
  let current := innermostIndentation s.blocks
  if width.column = current.column then
    if width.narrow = current.narrow then .ok s else .error .inconsistentTabs
  else if current.column < width.column then
    if 100 ≤ s.blocks.length + 1 then .error .deepIndentation
    else if width.narrow ≤ current.narrow then .error .inconsistentTabs
    else .ok ({ s with blocks := width :: s.blocks }.push .indent "" s.line)
  else
    let count := closedBlocks width.column s.blocks
    let blocks := s.blocks.drop count
    let reached := innermostIndentation blocks
    if width.column ≠ reached.column then .error .unmatchedDedent
    else if width.narrow ≠ reached.narrow then .error .inconsistentTabs
    else
      .ok ((List.range count).foldl (fun s _ => s.push .dedent "" s.line) { s with blocks := blocks })

/-- Reads the body of a string literal after its opening quotes, up to and including the closing
ones. `run` counts the quotes just read. The result holds the characters in reverse, the rest and the
line on which the literal ends; or the line on which it was given up. -/
def readBody (quote : Char) (size : Nat) (read : List Char) (run line : Nat) :
    List Char → Except Nat (List Char × List Char × Nat)
  | [] => .error line
  | '\\' :: c :: cs =>
    readBody quote size (c :: '\\' :: read) 0
      (if c = '\n' then LexState.lineAfter line cs else line) cs
  | c :: cs =>
    if c = '\n' ∧ size = 1 then .error line
    else if c = quote then
      if run + 1 = size then .ok (c :: read, cs, line)
      else readBody quote size (c :: read) (run + 1) line cs
    else
      readBody quote size (c :: read) 0 (if c = '\n' then LexState.lineAfter line cs else line) cs

/-- Reads a string literal whose marks, reversed, have been read and whose opening quote follows. -/
def readString (marks : List Char) (quote : Char) (line : Nat) (afterQuote : List Char) :
    Except LexicalError (List Char × List Char × Nat) :=
  match afterQuote with
  | a :: b :: rest =>
    if a = quote ∧ b = quote then
      match readBody quote 3 (quote :: quote :: quote :: marks) 0 line rest with
      | .ok result => .ok result
      | .error detected => .error (.unterminatedTriple detected)
    else if a = quote then .ok (quote :: quote :: marks, b :: rest, line)
    else single
  | [a] => if a = quote then .ok (quote :: quote :: marks, [], line) else single
  | [] => single
where
  /-- A literal between single quotes ends on its line. -/
  single :=
    match readBody quote 1 (quote :: marks) 0 line afterQuote with
    | .ok result => .ok result
    | .error detected => .error (.unterminatedString detected)

/-- Which marks of a string literal have been seen in front of its quote. -/
structure StringMarks where
  /-- The mark of a byte string. -/
  bytes : Bool := false
  /-- The mark of a text. -/
  text : Bool := false
  /-- The mark of a literal without escapes. -/
  raw : Bool := false
  /-- The mark of a formatted literal. -/
  formatted : Bool := false

/-- The marks with one more letter, if it may stand after the others. -/
def StringMarks.add? (m : StringMarks) (c : Char) : Option StringMarks :=
  if !(m.bytes || m.text || m.formatted) && (c == 'b' || c == 'B') then some { m with bytes := true }
  else if !(m.bytes || m.text || m.raw || m.formatted) && (c == 'u' || c == 'U') then
    some { m with text := true }
  else if !(m.raw || m.text) && (c == 'r' || c == 'R') then some { m with raw := true }
  else if !(m.formatted || m.bytes || m.text) && (c == 'f' || c == 'F') then
    some { m with formatted := true }
  else none

/-- The marks, reversed, that stand directly before a quote, with that quote and what follows it. -/
def splitMarks? (m : StringMarks) (marks : List Char) : List Char → Option (List Char × Char × List Char)
  | [] => none
  | c :: cs =>
    if c = '"' ∨ c = '\'' then some (marks, c, cs)
    else
      match m.add? c with
      | some m => splitMarks? m (c :: marks) cs
      | none => none

/-- The operators and delimiters of three and of two characters. -/
def longSymbols : List (List Char) :=
  ["**=", "...", "//=", "<<=", ">>=", "!=", "%=", "&=", "**", "*=", "+=", "-=", "->", "//", "/=",
    ":=", "<<", "<=", "<>", "==", ">=", ">>", "@=", "^=", "|="].map String.toList

/-- The longest operator or delimiter at the beginning of a text, given its first character. -/
def takeSymbol (c : Char) (rest : List Char) : List Char × List Char :=
  match longSymbols.find? (·.isPrefixOf (c :: rest)) with
  | some s => (s, (c :: rest).drop s.length)
  | none => ([c], rest)

/-- The opening bracket that a closing one closes. -/
def openingOf? (c : Char) : Option Char :=
  if c = ')' then some '(' else if c = ']' then some '[' else if c = '}' then some '{' else none

/-- Whether a character is an opening bracket. -/
def isOpening (c : Char) : Bool :=
  c == '(' || c == '[' || c == '{'

/-- Reads an operator or delimiter and keeps account of brackets. -/
def lexSymbol (s : LexState) (c : Char) (rest : List Char) : Except LexicalError LexState :=
  let (taken, rest) := takeSymbol c rest
  if taken.length = 1 then
    if isOpening c then
      if 200 ≤ s.brackets.length then .error .deepBrackets
      else
        .ok ({ s with brackets := ⟨c, s.line⟩ :: s.brackets, rest := rest }.push .symbol
          c.toString s.line)
    else
      match openingOf? c with
      | some opening =>
        match s.brackets with
        | [] => .error (.unmatchedClosing c)
        | b :: outer =>
          if b.bracket = opening then
            .ok ({ s with brackets := outer, rest := rest }.push .symbol c.toString s.line)
          else
            .error (.mismatchedClosing c b.bracket (if b.line = s.line then none else some b.line))
      | none =>
        if Text.isPrintable c.toNat then
          .ok ({ s with rest := rest }.push .symbol c.toString s.line)
        else .error (.nonPrintable c.toNat)
  else .ok ({ s with rest := rest }.push .symbol (String.ofList taken) s.line)

/-- Reads a word: an identifier or a keyword. -/
def lexWord (s : LexState) : Except LexicalError LexState :=
  let word := s.rest.takeWhile isWordPart
  let rest := s.rest.dropWhile isWordPart
  match Text.firstNonIdentifier? word with
  | some c =>
    .error (if Text.isPrintable c.toNat then .invalidCharacter c else .nonPrintable c.toNat)
  | none =>
    let text := String.ofList word
    .ok ({ s with rest := rest }.push (if isKeyword text then .keyword else .name) text s.line)

/-- Reads a string literal. -/
def lexString (s : LexState) (marks : List Char) (quote : Char) (afterQuote : List Char) :
    Except LexicalError LexState :=
  match readString marks quote s.line afterQuote with
  | .ok (read, rest, line) =>
    let text := String.ofList read.reverse
    .ok { s.push .string text s.line with rest := rest, line := line }
  | .error e => .error e

/-- Reads a numeral whose extent has been found. -/
def lexNumeral (s : LexState) (extent : Except LexicalError Numeral.Extent) :
    Except LexicalError LexState :=
  match extent with
  | .ok e => .ok ({ s with rest := e.rest }.push .number (String.ofList e.taken) s.line)
  | .error e => .error e

/-- Reads one token other than the marks of layout; the text begins with the given character. -/
def lexToken (s : LexState) (c : Char) (rest : List Char) : Except LexicalError LexState :=
  match splitMarks? {} [] s.rest with
  | some (marks, quote, afterQuote) => lexString s marks quote afterQuote
  | none =>
    if c.isDigit then lexNumeral s (Numeral.take c rest)
    else if isWordPart c then lexWord s
    else if c = '.' ∧ rest.head?.any Char.isDigit then
      lexNumeral s (Numeral.takeFraction ['.'] rest)
    else lexSymbol s c rest

mutual

/-- Goes on at the beginning of a line. -/
def lexLine (s : LexState) : (fuel : Nat) → TokenStream
  | 0 => s.fail .endOfSource s.line
  | fuel + 1 =>
    match readIndentation ⟨0, 0⟩ 0 s.line s.rest with
    | .error (e, line) => s.fail e line
    | .ok start =>
      let s := { s with rest := start.rest, line := start.line }
      let blank := match s.rest with
        | '#' :: _ | '\n' :: _ => true
        | _ => false
      if blank || !s.brackets.isEmpty then lexRest blank s fuel
      else
        match adjustBlocks s start.width with
        | .ok s => lexRest blank s fuel
        | .error e => s.fail e s.line

/-- Goes on within a line; a blank line has no end mark. -/
def lexRest (blank : Bool) (s : LexState) : (fuel : Nat) → TokenStream
  | 0 => s.fail .endOfSource s.line
  | fuel + 1 =>
    match s.rest with
    | [] =>
      if s.brackets.isEmpty then ⟨(s.push .finish "" s.line).tokens, none⟩
      else s.fail .endOfSource s.line
    | '#' :: rest => lexRest blank { s with rest := rest.dropWhile (· != '\n') } fuel
    | '\n' :: rest =>
      let next := fun s : LexState => { s with rest := rest, line := LexState.lineAfter s.line rest }
      if blank || !s.brackets.isEmpty then lexLine (next s) fuel
      else lexLine (next (s.push .newline "" s.line)) fuel
    | '\\' :: '\n' :: rest =>
      if rest.isEmpty then s.fail .endOfSource s.line
      else lexRest blank { s with rest := rest, line := s.line + 1 } fuel
    | '\\' :: _ => s.fail .textAfterContinuation s.line
    | c :: rest =>
      if c = ' ' ∨ c = '\t' ∨ c.toNat = 12 then lexRest blank { s with rest := rest } fuel
      else
        match lexToken s c rest with
        | .ok s => lexRest blank s fuel
        | .error e => s.fail e s.line

end

/-- The tokens of a source whose first line has the given number. -/
def tokenizeFrom (firstLine : Nat) (source : List Char) : TokenStream :=
  let cs := normalizeLines source
  lexLine { rest := cs, line := firstLine, blocks := [], brackets := [], tokens := #[] }
    (2 * cs.length + 2)

/-- The tokens of a source. -/
def tokenize (source : String) : TokenStream :=
  tokenizeFrom 1 source.toList

end Bundler.Syntax
