import Bundler.Syntax.Literal
import Bundler.Syntax.Parser.Statement
import Bundler.Text.CharacterName

/-!
# Parsing a source

The rules of the grammar are tied together, and a source is parsed in at most two passes. An error
found by the parser gives way to a failure to form a token further on, unless that failure concerns
the layout of lines, and to a bracket that is never closed on an earlier line.

Every rule that refers to another one either reads a token in between or passes to a rule that binds
more tightly, so a multiple of the number of tokens bounds the depth of the recursion.

A fault is told by its kind and its line. The column that goes with the line is left out, and with it
that looking for the column can fail in its turn, as it may for a fault behind a line break in a
replacement field.
-/

set_option autoImplicit false

namespace Bundler.Syntax

namespace Parser

/-- The rule of each nonterminal, given the rules it refers to. -/
def ruleFor (r : Rules) : Rules
  | .expression => expression r
  | .starExpression => starExpression r
  | .namedExpression => namedExpression r
  | .disjunction => connected "or" .or (r .conjunction)
  | .conjunction => connected "and" .and (r .inversion)
  | .inversion => inversion r
  | .comparison => comparison r
  | .bitOr => leftAssociative [("|", .bitOr)] (r .bitXor)
  | .bitXor => leftAssociative [("^", .bitXor)] (r .bitAnd)
  | .bitAnd => leftAssociative [("&", .bitAnd)] (r .shift)
  | .shift => leftAssociative [("<<", .leftShift), (">>", .rightShift)] (r .sum)
  | .sum => leftAssociative [("+", .add), ("-", .sub)] (r .term)
  | .term => leftAssociative
      [("*", .mult), ("/", .div), ("//", .floorDiv), ("%", .mod), ("@", .matMult)] (r .factor)
  | .factor => factor r
  | .awaitPrimary => awaitPrimary r
  | .primary => primary r
  | .strings => strings
  | .arguments => arguments r
  | .starTarget => starTarget r
  | .starAtomTarget => starAtomTarget r (slices r)
  | .targetPrimary => targetPrimary r
  | .singleTarget => singleTarget r (slices r)
  | .delTarget => delTarget r (slices r)
  | .hintTarget => hintTarget r
  | .pattern => pattern r
  | .closedPattern => closedPattern r
  | .starPattern => starPattern
  | .simpleStatement => simpleStatement r
  | .statement => statement r
  | .block => block r
  | .elifChain => do return [← conditionalFrom r "elif"]

/-- The rules of the grammar, applied to each other at most `fuel` deep. -/
def rules : (fuel : Nat) → Rules
  | 0, _ => fail
  | fuel + 1, n =>
    let p := rule (ruleFor (rules fuel) n)
    if n.isKept then keep n p else p

end Parser

/-- The error that is reported instead of one that the parser found after looking at `reach` tokens,
because of what the rest of the source holds. -/
def overridingError? (stream : TokenStream) (reach : Nat) : Option SyntaxError :=
  match stream.failure with
  | none => none
  | some f =>
    if stream.tokens.size < reach then none
    else if f.error.isLayout then
      match f.innermost with
      | some b =>
        let line := (stream.tokens[reach - 1]?.map Token.line).getD 0
        if b.line < line then some ⟨.neverClosed b.bracket, b.line⟩ else none
      | none => none
    else some ⟨.lexical f.error, f.line⟩

/-- The error for a source that matched in neither pass and showed no particular fault; `reach`
counts the tokens that the first pass looked at. -/
def plainError (stream : TokenStream) (reach : Nat) : SyntaxError :=
  match stream.tokens[reach - 1]? with
  | some t =>
    match t.kind with
    | .indent => ⟨.unexpectedIndent, t.line⟩
    | .dedent => ⟨.unexpectedDedent, t.line⟩
    | _ => (overridingError? stream reach).getD ⟨.invalid, t.line⟩
  | none => ⟨.invalid, 0⟩

/-- Parses the tokens of a source by a rule, in two passes. -/
def parseStream {α : Type} (c : ParseContext) (start : Rules → Parser α) : Except SyntaxError α :=
  let p := start (Parser.rules (40 * (c.stream.tokens.size + 2)))
  let raised := fun (e : SyntaxError) reach =>
    Except.error ((overridingError? c.stream reach).getD e)
  match Parser.rule p c { position := 0, reach := 0, diagnosing := false, kept := ∅ } with
  | .matched a _ => .ok a
  | .raised e reach => raised e reach
  | .noMatch s | .gaveUp s =>
    let reach := s.reach
    match Parser.rule p c { position := 0, reach := reach, diagnosing := true, kept := ∅ } with
    | .raised e reach => raised e reach
    | .matched .. | .noMatch _ | .gaveUp _ => .error (plainError c.stream reach)

/-- Parses the expression of a replacement field that begins on the given line. Fields within its
literals are parsed the same way; each is shorter than the field around it, so the length of the
outermost bounds the depth. -/
def parseField : (depth : Nat) → (line : Nat) → List Char → Except SyntaxError Expr
  | 0, line, _ => .error ⟨.invalid, line⟩
  | depth + 1, line, cs =>
    let stream := tokenizeFrom line ('(' :: cs ++ [')'])
    let literal := fun tokens faultLine =>
      literalValue { lookup := Text.characterNamed?, field := parseField depth, faultLine } tokens
    match parseStream { stream, literal } Parser.starExpressions with
    | .ok o => .ok o.expr
    | .error e => .error e.withinField

/-- The tree of a source, or the error to report for it. The source holds no NUL character. -/
def parse (source : String) : Except SyntaxError Module :=
  let stream := tokenize source
  let literal := fun tokens faultLine =>
    literalValue
      { lookup := Text.characterNamed?, field := parseField source.length, faultLine } tokens
  parseStream { stream, literal } Parser.source

end Bundler.Syntax
