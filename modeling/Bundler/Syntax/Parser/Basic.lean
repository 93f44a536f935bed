import Std.Data.TreeMap
import Bundler.Syntax.Fault
import Bundler.Syntax.Token.Lexer

/-!
# Parsing with ordered choice

A rule of the grammar is an ordered list of alternatives, each of which is tried where the one
before it failed to match. A rule either matches and moves on, or does not match, or raises an error
that ends the parse. An alternative that has gone past a point of no return gives up instead of not
matching, and then no further alternative of its rule is tried.

A source is parsed twice. The first pass only matches. When it fails, a second, diagnosing pass
tries further alternatives that describe common faults, each with an error of its own.

Results of chosen nonterminals are kept by position, and the diagnosing pass relies on this in one
place: a part parsed while the descriptions of faults were switched off is not parsed again with them
switched on.
-/

set_option autoImplicit false

namespace Bundler.Syntax

open Std

/-- An expression as the parser sees it: with the line on which it begins and the operands directly
inside it that an assignment to it would assign to. -/
inductive Operand where
  /-- The expression, its line and the operands inside it. -/
  | mk (expr : Expr) (line : Nat) (parts : List Operand)

namespace Operand

/-- The expression. -/
def expr : Operand → Expr
  | .mk e _ _ => e

/-- The line on which the expression begins. -/
def line : Operand → Nat
  | .mk _ n _ => n

/-- The operands that an assignment would assign to. -/
def parts : Operand → List Operand
  | .mk _ _ ps => ps

/-- An operand without parts. -/
def leaf (e : Expr) (line : Nat) : Operand := .mk e line []

/-- What the operand is called in messages. -/
def describe (o : Operand) : String := o.expr.describe

end Operand

/-- The arguments of a call as the parser sees them. -/
structure Arguments where
  /-- The positional arguments, unpacked ones included. -/
  positional : List Operand
  /-- The keyword arguments. -/
  keywords : List KeywordArgument
  /-- The line on which the arguments begin. -/
  line : Nat

/-- The rules of the grammar that occur within themselves, directly or through others, or whose
results are kept. -/
inductive Nonterminal where
  | expression | starExpression | namedExpression | disjunction | conjunction | inversion
  | comparison | bitOr | bitXor | bitAnd | shift | sum | term | factor | awaitPrimary | primary
  | strings | arguments | starTarget | starAtomTarget | targetPrimary | singleTarget | delTarget
  | hintTarget | pattern | closedPattern | starPattern | simpleStatement | statement | block
  | elifChain
deriving DecidableEq, Repr, Ord

/-- What a rule yields. -/
abbrev Nonterminal.Result : Nonterminal → Type
  | .arguments => Arguments
  | .pattern | .closedPattern | .starPattern => Pattern
  | .simpleStatement => Stmt
  | .statement | .block | .elifChain => List Stmt
  | _ => Operand

/-- Whether the results of a rule are kept by position. -/
def Nonterminal.isKept : Nonterminal → Bool
  | .namedExpression | .comparison | .singleTarget | .hintTarget | .pattern | .statement
  | .elifChain => false
  | _ => true

/-- A result that is kept: no match, or a match and the position after it. -/
inductive Kept where
  /-- The rule does not match. -/
  | noMatch
  /-- The rule matches up to a position. -/
  | matched (n : Nonterminal) (result : n.Result) (stop : Nat)

/-- The order of the places at which results are kept: by position, and by rule at one position. -/
def comparePlaces (a b : Nonterminal × Nat) : Ordering :=
  (compare a.2 b.2).then (compare a.1 b.1)

/-- What stays the same during a pass. -/
structure ParseContext where
  /-- The tokens of the source. -/
  stream : TokenStream
  /-- The value of a formatted or plain literal: its tokens, and a line for faults. -/
  literal : List Token → (faultLine : Nat) → Except SyntaxError Expr

/-- What changes during a pass. -/
structure ParseState where
  /-- The index of the next token. -/
  position : Nat
  /-- The number of tokens looked at so far. -/
  reach : Nat
  /-- Whether alternatives that describe faults are tried. -/
  diagnosing : Bool
  /-- The results kept so far. -/
  kept : TreeMap (Nonterminal × Nat) Kept comparePlaces

/-- The outcome of a rule at a position. -/
inductive Reply (α : Type) where
  /-- The rule matches. -/
  | matched (a : α) (s : ParseState)
  /-- The rule, or the alternative, does not match. -/
  | noMatch (s : ParseState)
  /-- No further alternative is to be tried. -/
  | gaveUp (s : ParseState)
  /-- The parse ends, after looking at the given number of tokens. -/
  | raised (e : SyntaxError) (reach : Nat)

/-- A rule or a part of one. -/
def Parser (α : Type) := ParseContext → ParseState → Reply α

namespace Parser

/-- Sequencing. -/
@[inline] protected def bind {α β : Type} (p : Parser α) (f : α → Parser β) : Parser β :=
  fun c s =>
    match p c s with
    | .matched a s => f a c s
    | .noMatch s => .noMatch s
    | .gaveUp s => .gaveUp s
    | .raised e reach => .raised e reach

/-- Parsers are done one after the other. -/
instance : Monad Parser where
  pure a := fun _ s => .matched a s
  bind := Parser.bind

/-- The rule that never matches. -/
def fail {α : Type} : Parser α := fun _ s => .noMatch s

/-- There is a parser for everything: one that does not match. -/
instance {α : Type} : Inhabited (Parser α) := ⟨fail⟩

/-- Ends the alternatives of a rule without a match. -/
def giveUp {α : Type} : Parser α := fun _ s => .gaveUp s

/-- Ends the parse with a fault on a line. -/
def raiseAt {α : Type} (fault : Fault) (line : Nat) : Parser α :=
  fun _ s => .raised ⟨fault, line⟩ s.reach

/-- The second alternative, tried where the first does not match. -/
@[inline] def orElse {α : Type} (p : Parser α) (q : Parser α) : Parser α :=
  fun c s =>
    let position := s.position
    match p c s with
    | .noMatch s => q c { s with position := position }
    | r => r

/-- The first alternative that matches. -/
def choice {α : Type} : List (Parser α) → Parser α
  | [] => fail
  | [p] => p
  | p :: ps => orElse p (choice ps)

/-- Closes a rule: giving up within it is no match of it. -/
@[inline] def rule {α : Type} (p : Parser α) : Parser α :=
  fun c s =>
    match p c s with
    | .gaveUp s => .noMatch s
    | r => r

/-- A rule given by its alternatives. -/
def ruleOf {α : Type} (ps : List (Parser α)) : Parser α := rule (choice ps)

/-- What matches before a point of no return, and what must match after it. -/
def commit {α : Type} (p : Parser α) : Parser α :=
  fun c s =>
    match p c s with
    | .noMatch s => .gaveUp s
    | r => r

/-- Matches if the rule does, or else without reading anything. -/
@[inline] def optional {α : Type} (p : Parser α) : Parser (Option α) :=
  orElse (some <$> rule p) (pure none)

/-- Matches where the rule does, and reads nothing. -/
def ahead {α : Type} (p : Parser α) : Parser Unit :=
  fun c s =>
    let position := s.position
    match rule p c s with
    | .matched _ s => .matched () { s with position := position }
    | .noMatch s => .noMatch s
    | .gaveUp s => .noMatch s
    | .raised e reach => .raised e reach

/-- Matches where the rule does not, and reads nothing. -/
def notAhead {α : Type} (p : Parser α) : Parser Unit :=
  fun c s =>
    let position := s.position
    match rule p c s with
    | .matched _ s => .noMatch s
    | .noMatch s => .matched () { s with position := position }
    | .gaveUp s => .matched () { s with position := position }
    | .raised e reach => .raised e reach

/-- The matches of a rule one after the other, as many as there are; `read` holds them reversed. A
match that reads nothing ends the repetition. -/
def manyFrom {α : Type} (p : Parser α) (read : List α) : (fuel : Nat) → Parser (List α)
  | 0 => pure read.reverse
  | fuel + 1 => fun c s =>
    let position := s.position
    match rule p c s with
    | .matched a s =>
      if s.position ≤ position then .matched (a :: read).reverse s
      else manyFrom p (a :: read) fuel c s
    | .noMatch s => .matched read.reverse { s with position := position }
    | .gaveUp s => .matched read.reverse { s with position := position }
    | .raised e reach => .raised e reach

/-- Repeats a rule as often as it matches. -/
def many {α : Type} (p : Parser α) : Parser (List α) :=
  fun c s => manyFrom p [] (c.stream.tokens.size + 1) c s

/-- Repeats a rule as often as it matches, at least once. -/
def many1 {α : Type} (p : Parser α) : Parser (List α) := do
  let first ← rule p
  return first :: (← many p)

/-- Matches of a rule with separators between them, at least one. -/
def sepBy1 {α β : Type} (p : Parser α) (separator : Parser β) : Parser (List α) := do
  let first ← rule p
  return first :: (← many (do let _ ← separator; rule p))

/-- Goes on from a first operand as long as a step matches. -/
def extend {α : Type} (step : α → Parser α) (first : α) : Parser α :=
  fun c s => go step first (c.stream.tokens.size + 1) c s
where
  /-- Repeats the step. -/
  go (step : α → Parser α) (a : α) : (fuel : Nat) → Parser α
    | 0 => pure a
    | fuel + 1 => fun c s =>
      let position := s.position
      match rule (step a) c s with
      | .matched b s => go step b fuel c s
      | .noMatch s => .matched a { s with position := position }
      | .gaveUp s => .matched a { s with position := position }
      | .raised e reach => .raised e reach

/-- An alternative that only the diagnosing pass tries. -/
@[inline] def diagnosis {α : Type} (p : Parser α) : Parser α :=
  fun c s => if s.diagnosing then rule p c s else .noMatch s

/-- Runs a rule without the alternatives that describe faults. -/
def undiagnosed {α : Type} (p : Parser α) : Parser α :=
  fun c s =>
    let diagnosing := s.diagnosing
    match p c { s with diagnosing := false } with
    | .matched a s => .matched a { s with diagnosing := diagnosing }
    | .noMatch s => .noMatch { s with diagnosing := diagnosing }
    | .gaveUp s => .gaveUp { s with diagnosing := diagnosing }
    | .raised e reach => .raised e reach

end Parser

/-- The error for a failure to form a token. The end of the source within brackets is reported as the
bracket that is not closed. -/
def LexicalFailure.toSyntaxError (f : LexicalFailure) : SyntaxError :=
  match f.error, f.innermost with
  | .endOfSource, some open_ => ⟨.neverClosed open_.bracket, open_.line⟩
  | error, _ => ⟨.lexical error, f.line⟩

namespace Parser

/-- The next token, which is looked at but not read. -/
def peek : Parser Token := fun c s =>
  match c.stream.tokens[s.position]? with
  | some t => .matched t { s with reach := max s.reach (s.position + 1) }
  | none =>
    match c.stream.failure with
    | some f => .raised f.toSyntaxError (max s.reach (s.position + 1))
    | none => .noMatch s

/-- The line of the next token. -/
def currentLine : Parser Nat := do return (← peek).line

/-- Reads the next token if it meets a condition. -/
def tokenIf (condition : Token → Bool) : Parser Token := fun c s =>
  match peek c s with
  | .matched t s =>
    if condition t then .matched t { s with position := s.position + 1 } else .noMatch s
  | r => r

/-- Reads a keyword, operator or delimiter. -/
def tok (text : String) : Parser Token :=
  tokenIf fun t => (t.kind = .symbol || t.kind = .keyword) && t.text == text

/-- Reads a word that is a keyword in this place only. -/
def softWord (text : String) : Parser Token :=
  tokenIf fun t => t.kind = .name && t.text == text

/-- Reads a token of a class. -/
def tokenOf (kind : TokenKind) : Parser Token :=
  tokenIf fun t => t.kind = kind

/-- Reads the end of a line. -/
def newline : Parser Token := tokenOf .newline

/-- Reads a keyword, operator or delimiter, and ends the parse if another token stands there. -/
def forced (text : String) : Parser Token :=
  orElse (tok text) (do raiseAt (.expected text) (← currentLine))

/-- Ends the parse with a fault on the line of the last token looked at. -/
def raise {α : Type} (fault : Fault) : Parser α := fun c s =>
  let line := match c.stream.tokens[s.reach - 1]? with
    | some t => t.line
    | none => 0
  .raised ⟨fault, line⟩ s.reach

/-- The token just read. -/
def lastToken : Parser Token := fun c s =>
  match c.stream.tokens[s.position - 1]? with
  | some t => .matched t s
  | none => .noMatch s

/-- Runs a rule through the results kept for it. -/
def keep (n : Nonterminal) (p : Parser n.Result) : Parser n.Result := fun c s =>
  let key := (n, s.position)
  match s.kept[key]? with
  | some .noMatch => .noMatch s
  | some (.matched m result stop) =>
    if h : m = n then .matched (h ▸ result) { s with position := stop } else .noMatch s
  | none =>
    match rule p c s with
    | .matched a s =>
      let stop := s.position
      .matched a { s with kept := s.kept.insert key (.matched n a stop) }
    | .noMatch s => .noMatch { s with kept := s.kept.insert key .noMatch }
    | r => r

end Parser

/-- The rules that refer to each other, as one function. -/
abbrev Rules := (n : Nonterminal) → Parser n.Result

end Bundler.Syntax
