import Bundler.Syntax.Printer.Literal

/-!
# Printing expressions

An expression is put in parentheses if it binds more loosely than its place asks for. Places that
ask for nothing special take any expression but bare tuples, yields and assignments.
-/

set_option autoImplicit false

namespace Bundler.Syntax

open Bundler.Text (CodePoints)

/-- How tightly an expression binds, the loosest first. -/
inductive Precedence where
  | assignment | tuple | yield | test | or | and | not | comparison | bitOr | bitXor | bitAnd
  | shift | sum | term | factor | power | await | atom
deriving DecidableEq, Repr

namespace Precedence

/-- The place of a precedence in the order. -/
def rank : Precedence → Nat
  | .assignment => 0 | .tuple => 1 | .yield => 2 | .test => 3 | .or => 4 | .and => 5 | .not => 6
  | .comparison => 7 | .bitOr => 8 | .bitXor => 9 | .bitAnd => 10 | .shift => 11 | .sum => 12
  | .term => 13 | .factor => 14 | .power => 15 | .await => 16 | .atom => 17

/-- The next tighter precedence. -/
def next : Precedence → Precedence
  | .assignment => .tuple | .tuple => .yield | .yield => .test | .test => .or | .or => .and
  | .and => .not | .not => .comparison | .comparison => .bitOr | .bitOr => .bitXor
  | .bitXor => .bitAnd | .bitAnd => .shift | .shift => .sum | .sum => .term | .term => .factor
  | .factor => .power | .power => .await | .await => .atom | .atom => .atom

/-- Puts an expression of precedence `own` in parentheses if its place asks for a tighter one. -/
def wrap (own place : Precedence) (text : String) : String :=
  if own.rank < place.rank then "(" ++ text ++ ")" else text

end Precedence

/-- The symbol of a connective. -/
def Connective.symbol : Connective → String
  | .and => "and"
  | .or => "or"

/-- The precedence of a connective. -/
def Connective.precedence : Connective → Precedence
  | .and => .and
  | .or => .or

/-- The symbol of a binary operator. -/
def BinaryOp.symbol : BinaryOp → String
  | .add => "+" | .sub => "-" | .mult => "*" | .matMult => "@" | .div => "/" | .mod => "%"
  | .leftShift => "<<" | .rightShift => ">>" | .bitOr => "|" | .bitXor => "^" | .bitAnd => "&"
  | .floorDiv => "//" | .pow => "**"

/-- The precedence of a binary operator. -/
def BinaryOp.precedence : BinaryOp → Precedence
  | .add | .sub => .sum
  | .mult | .matMult | .div | .mod | .floorDiv => .term
  | .leftShift | .rightShift => .shift
  | .bitOr => .bitOr
  | .bitXor => .bitXor
  | .bitAnd => .bitAnd
  | .pow => .power

/-- The precedence that an operator asks of its left operand. Powers group to the right. -/
def BinaryOp.leftPlace (op : BinaryOp) : Precedence :=
  if op = .pow then op.precedence.next else op.precedence

/-- The precedence that an operator asks of its right operand. -/
def BinaryOp.rightPlace (op : BinaryOp) : Precedence :=
  if op = .pow then op.precedence else op.precedence.next

/-- The symbol of a unary operator, with the blank that a word needs. -/
def UnaryOp.symbol : UnaryOp → String
  | .invert => "~" | .not => "not " | .plus => "+" | .minus => "-"

/-- The precedence of a unary operator. -/
def UnaryOp.precedence : UnaryOp → Precedence
  | .not => .not
  | _ => .factor

/-- The symbol of a comparison operator. -/
def CompareOp.symbol : CompareOp → String
  | .eq => "==" | .notEq => "!=" | .lt => "<" | .ltE => "<=" | .gt => ">" | .gtE => ">="
  | .is => "is" | .isNot => "is not" | .isIn => "in" | .notIn => "not in"

/-- The items of a tuple without parentheses; a single one is followed by a comma. -/
def tupleItems : List String → String
  | [item] => item ++ ","
  | items => ", ".intercalate items

/-- The text between two brackets. -/
def bracketed (opening closing text : String) : String :=
  opening ++ text ++ closing

/-- The text between braces. -/
def braced (text : String) : String :=
  bracketed "\x7b" "\x7d" text

/-- What stands between a value and the point before an attribute. A whole number needs a blank, so
that the point does not become its own. -/
def attributeGap : Expr → String
  | .constant (.int _) | .constant (.bool _) => " "
  | _ => ""

/-- A list of texts that are all there. -/
def optionalText : Option String → List String
  | none => []
  | some text => [text]

mutual

/-- The text of an expression at a place that asks for a precedence. -/
def Expr.print (style : TextStyle) (place : Precedence) : Expr → Except PrintError String
  | .boolOp op values => do
    let texts ← printOperands style op.precedence.next values
    return op.precedence.wrap place ((" " ++ op.symbol ++ " ").intercalate texts)
  | .named target value => do
    let target ← target.print style .atom
    let value ← value.print style .atom
    return Precedence.assignment.wrap place (target ++ " := " ++ value)
  | .binary left op right => do
    let left ← left.print style op.leftPlace
    let right ← right.print style op.rightPlace
    return op.precedence.wrap place (left ++ " " ++ op.symbol ++ " " ++ right)
  | .unary op operand => do
    return op.precedence.wrap place (op.symbol ++ (← operand.print style op.precedence))
  | .lambda parameters body => do
    let parameters ← parameters.print style
    let gap := if parameters.isEmpty then "" else " "
    let body ← body.print style .test
    return Precedence.test.wrap place ("lambda" ++ gap ++ parameters ++ ": " ++ body)
  | .conditional test body orElse => do
    let body ← body.print style .or
    let test ← test.print style .or
    let orElse ← orElse.print style .test
    return Precedence.test.wrap place (body ++ " if " ++ test ++ " else " ++ orElse)
  | .dict entries => do
    return braced (", ".intercalate (← printEntries style entries))
  | .set [] => return braced "*()"
  | .set (item :: rest) => do
    let item ← item.print style .test
    return braced (", ".intercalate (item :: (← printItems style .test rest)))
  | .listComp item clauses => do
    let item ← item.print style .test
    return bracketed "[" "]" (item ++ (← printClauses style clauses))
  | .setComp item clauses => do
    let item ← item.print style .test
    return braced (item ++ (← printClauses style clauses))
  | .dictComp key value clauses => do
    let key ← key.print style .test
    let value ← value.print style .test
    return braced (key ++ ": " ++ value ++ (← printClauses style clauses))
  | .generator item clauses => do
    let item ← item.print style .test
    return bracketed "(" ")" (item ++ (← printClauses style clauses))
  | .await value => do
    return Precedence.await.wrap place ("await " ++ (← value.print style .atom))
  | .yield none => return Precedence.yield.wrap place "yield"
  | .yield (some value) => do
    return Precedence.yield.wrap place ("yield " ++ (← value.print style .atom))
  | .yieldFrom value => do
    return Precedence.yield.wrap place ("yield from " ++ (← value.print style .atom))
  | .compare left rest => do
    let left ← left.print style .bitOr
    return Precedence.comparison.wrap place (left ++ (← printComparisons style rest))
  | .call function arguments keywords => do
    let function ← function.print style .atom
    let arguments ← printItems style .test arguments
    let keywords ← printKeywords style keywords
    return function ++ bracketed "(" ")" (", ".intercalate (arguments ++ keywords))
  | .field value conversion format => do
    let inner ← value.print .sparse .or
    let points ← fieldPoints inner conversion (← printFormat format)
    return formattedText [⟨points, false⟩]
  | .formatted pieces => do
    let parts ← printPieces pieces
    match style with
    | .regular => return formattedText parts
    | .sparse => return "f" ++ sparselyQuoted Quote.all (parts.flatMap FormattedPart.points)
  | .constant value => value.print style
  | .attribute value name => do
    let text ← value.print style .atom
    return text ++ attributeGap value ++ "." ++ name
  | .subscript value (.tuple (item :: rest)) => do
    let value ← value.print style .atom
    let item ← item.print style .test
    return value ++ bracketed "[" "]" (tupleItems (item :: (← printItems style .test rest)))
  | .subscript value index => do
    let value ← value.print style .atom
    return value ++ bracketed "[" "]" (← index.print style .test)
  | .starred value => do
    return "*" ++ (← value.print style .bitOr)
  | .name id => return id
  | .list items => do
    return bracketed "[" "]" (", ".intercalate (← printItems style .test items))
  | .tuple [] => return "()"
  | .tuple (item :: rest) => do
    let item ← item.print style .test
    return Precedence.tuple.wrap place (tupleItems (item :: (← printItems style .test rest)))
  | .slice lower upper step => do
    let lower ← printOptional style lower
    let upper ← printOptional style upper
    let step ← printOptional style step
    return lower.getD "" ++ ":" ++ upper.getD "" ++ (step.map (":" ++ ·)).getD ""

/-- The text of an expression that may be absent. -/
def printOptional (style : TextStyle) : Option Expr → Except PrintError (Option String)
  | none => return none
  | some e => return some (← e.print style .test)

/-- The texts of expressions at places of one precedence. -/
def printItems (style : TextStyle) (place : Precedence) :
    List Expr → Except PrintError (List String)
  | [] => return []
  | e :: rest => do
    let text ← e.print style place
    return text :: (← printItems style place rest)

/-- The texts of the operands of a connective. Each place asks for a tighter precedence than the
one before it. -/
def printOperands (style : TextStyle) (place : Precedence) :
    List Expr → Except PrintError (List String)
  | [] => return []
  | e :: rest => do
    let text ← e.print style place
    return text :: (← printOperands style place.next rest)

/-- The texts of the entries of a dictionary. -/
def printEntries (style : TextStyle) :
    List (Option Expr × Expr) → Except PrintError (List String)
  | [] => return []
  | (none, value) :: rest => do
    let value ← value.print style .bitOr
    return ("**" ++ value) :: (← printEntries style rest)
  | (some key, value) :: rest => do
    let key ← key.print style .test
    let value ← value.print style .test
    return (key ++ ": " ++ value) :: (← printEntries style rest)

/-- The texts of the operators and operands after the first operand of a chain of comparisons. -/
def printComparisons (style : TextStyle) :
    List (CompareOp × Expr) → Except PrintError String
  | [] => return ""
  | (op, e) :: rest => do
    let text ← e.print style .bitOr
    return " " ++ op.symbol ++ " " ++ text ++ (← printComparisons style rest)

/-- The text of a clause of a comprehension. -/
def Clause.print (style : TextStyle) : Clause → Except PrintError String
  | .mk target iterable conditions isAsync => do
    let target ← target.print style .tuple
    let iterable ← iterable.print style .or
    let conditions ← printItems style .or conditions
    return (if isAsync then " async for " else " for ") ++ target ++ " in " ++ iterable ++
      String.join (conditions.map (" if " ++ ·))

/-- The text of the clauses of a comprehension. -/
def printClauses (style : TextStyle) : List Clause → Except PrintError String
  | [] => return ""
  | c :: rest => do
    let text ← c.print style
    return text ++ (← printClauses style rest)

/-- The texts of keyword arguments. -/
def printKeywords (style : TextStyle) : List KeywordArgument → Except PrintError (List String)
  | [] => return []
  | .mk name value :: rest => do
    let value ← value.print style .test
    let text := match name with
      | none => "**" ++ value
      | some name => name ++ "=" ++ value
    return text :: (← printKeywords style rest)

/-- The text of a parameter. -/
def Parameter.print (style : TextStyle) : Parameter → Except PrintError String
  | .mk name hint default => do
    let hint ← printOptional style hint
    let default ← printOptional style default
    return name ++ (hint.map (": " ++ ·)).getD "" ++ (default.map ("=" ++ ·)).getD ""

/-- The texts of parameters. -/
def printParameterList (style : TextStyle) : List Parameter → Except PrintError (List String)
  | [] => return []
  | p :: rest => do
    let text ← p.print style
    return text :: (← printParameterList style rest)

/-- The text of a parameter that may be absent. -/
def printOptionalParameter (style : TextStyle) :
    Option Parameter → Except PrintError (Option String)
  | none => return none
  | some p => return some (← p.print style)

/-- The text of the parameters of a function. -/
def Parameters.print (style : TextStyle) : Parameters → Except PrintError String
  | .mk positional regular rest named namedRest => do
    let positional ← printParameterList style positional
    let regular ← printParameterList style regular
    let rest ← printOptionalParameter style rest
    let named ← printParameterList style named
    let namedRest ← printOptionalParameter style namedRest
    let slash := if positional.isEmpty then [] else ["/"]
    let star := match rest with
      | some text => ["*" ++ text]
      | none => if named.isEmpty then [] else ["*"]
    return ", ".intercalate
      (positional ++ slash ++ regular ++ star ++ named ++ optionalText (namedRest.map ("**" ++ ·)))

/-- The parts that the pieces of a formatted literal are printed as. -/
def printPieces : List Expr → Except PrintError (List FormattedPart)
  | [] => return []
  | .constant (.text points _) :: rest => do
    return ⟨doubledBraces points, true⟩ :: (← printPieces rest)
  | .field value conversion format :: rest => do
    let inner ← value.print .sparse .or
    let points ← fieldPoints inner conversion (← printFormat format)
    return ⟨points, false⟩ :: (← printPieces rest)
  | .formatted pieces :: rest => do
    let parts ← printPieces pieces
    return parts ++ (← printPieces rest)
  | _ :: rest => printPieces rest

/-- The text of the format of a replacement field. -/
def printFormat : Option Expr → Except PrintError (Option CodePoints)
  | some (.formatted pieces) => do
    let parts ← printPieces pieces
    return some (parts.flatMap FormattedPart.points)
  | _ => return none

end

end Bundler.Syntax
