import Bundler.Syntax.Parser.Parameter

/-!
# Expressions

Operators bind in the usual order: a choice and an anonymous function weakest, then the connectives,
comparisons, the binary operators from alternatives to powers, unary operators, waiting, and the
primaries, which are atoms followed by attributes, calls and subscripts. Binary operators of one level
associate to the left, powers to the right.
-/

set_option autoImplicit false

namespace Bundler.Syntax

namespace Parser

variable (r : Rules)

/-! ### Lists of expressions -/

/-- One expression or a tuple of expressions, possibly unpacked. -/
def starExpressions : Parser Operand :=
  rule (oneOrTuple (r .starExpression))

/-- One expression or a tuple of expressions. -/
def expressions : Parser Operand :=
  rule (oneOrTuple (r .expression))

/-- An expression, or an iterable unpacked by a star. -/
def starExpression : Parser Operand := ruleOf [starred (r .bitOr), r .expression]

/-- An item of a display: an expression, an assignment within it, or an unpacked iterable. -/
def starNamedExpression : Parser Operand := ruleOf [starred (r .bitOr), r .namedExpression]

/-- The items of a display, perhaps with a comma at the end. -/
def starNamedExpressions : Parser (List Operand) :=
  rule (commaTerminated (starNamedExpression r))

/-- An assignment within an expression. -/
def assignmentExpression : Parser Operand := rule do
  let target ← nameOperand
  let _ ← tok ":="
  commit do
    let value ← r .expression
    return .leaf (.named target.expr value.expr) target.line

/-- An expression that no assignment follows. -/
def unnamedExpression : Parser Operand := do
  let e ← r .expression
  notAhead (tok ":=")
  return e

/-- An assignment within an expression, or an expression that is not the target of one. -/
def assignmentOrExpression : Parser Operand :=
  ruleOf [assignmentExpression r, unnamedExpression r]

/-- A yield. -/
def yieldExpression : Parser Operand := ruleOf [
  do
    let t ← tok "yield"
    let _ ← tok "from"
    return .leaf (.yieldFrom (← r .expression).expr) t.line,
  do
    let t ← tok "yield"
    let value ← optional (starExpressions r)
    return .leaf (.yield (value.map Operand.expr)) t.line]

/-- The right side of an assignment. -/
def yieldOrStarExpressions : Parser Operand :=
  ruleOf [yieldExpression r, starExpressions r]

/-! ### Comprehensions -/

/-- A loop whose variable is no target. -/
def invalidForTarget {α : Type} : Parser α := rule do
  let _ ← optional (tok "async")
  let _ ← tok "for"
  let target ← starExpressions r
  raiseInvalidTarget .loop target

/-- A clause of a comprehension. -/
def clause : Parser Clause := ruleOf [
  do
    let _ ← tok "async"
    body true,
  body false,
  diagnosis (invalidForTarget r)]
where
  /-- The clause after the mark of an asynchronous one. -/
  body (isAsync : Bool) : Parser Clause := do
    let _ ← tok "for"
    let target ← starTargets r
    let _ ← tok "in"
    commit do
      let iterable ← r .disjunction
      let conditions ← many (do let _ ← tok "if"; r .disjunction)
      return .mk target.expr iterable.expr (conditions.map Operand.expr) isAsync

/-- The clauses of a comprehension. -/
def clauses : Parser (List Clause) := rule (many1 (clause r))

/-- Faults of comprehensions other than those of dictionaries. -/
def invalidComprehension : Parser Operand := ruleOf [
  do
    let _ ← ruleOf [tok "[", tok "(", tok "\x7b"]
    let item ← starred (r .expression)
    let _ ← clauses r
    raiseAt .unpackedItem item.line,
  do
    let _ ← ruleOf [tok "[", tok "\x7b"]
    let item ← starNamedExpression r
    let _ ← tok ","
    let _ ← starNamedExpressions r
    let _ ← clauses r
    raiseAt .bareTupleItem item.line,
  do
    let _ ← ruleOf [tok "[", tok "\x7b"]
    let item ← starNamedExpression r
    let _ ← tok ","
    let _ ← clauses r
    raiseAt .bareTupleItem item.line]

/-- A generator expression between parentheses. -/
def generator : Parser Operand := ruleOf [
  do
    let t ← tok "("
    let item ← assignmentOrExpression r
    let cs ← clauses r
    let _ ← tok ")"
    return .leaf (.generator item.expr cs) t.line,
  diagnosis (invalidComprehension r)]

/-! ### Displays -/

/-- A list display. -/
def listDisplay : Parser Operand := rule do
  let t ← tok "["
  let items ← optional (starNamedExpressions r)
  let _ ← tok "]"
  return listOperand (items.getD []) t.line

/-- A list comprehension. -/
def listComprehension : Parser Operand := ruleOf [
  do
    let t ← tok "["
    let item ← r .namedExpression
    let cs ← clauses r
    let _ ← tok "]"
    return .leaf (.listComp item.expr cs) t.line,
  diagnosis (invalidComprehension r)]

/-- A tuple between parentheses. -/
def tupleDisplay : Parser Operand := rule do
  let t ← tok "("
  let items ← optional do
    let first ← starNamedExpression r
    let _ ← tok ","
    let others ← optional (starNamedExpressions r)
    return first :: others.getD []
  let _ ← tok ")"
  return tupleOperand (items.getD []) t.line

/-- An expression between parentheses. -/
def group : Parser Operand := ruleOf [
  do
    let _ ← tok "("
    let e ← ruleOf [yieldExpression r, r .namedExpression]
    let _ ← tok ")"
    return e,
  diagnosis (ruleOf [
    do
      let _ ← tok "("
      let e ← starred (r .expression)
      let _ ← tok ")"
      raiseAt .starredGroup e.line,
    do
      let _ ← tok "("
      let t ← tok "**"
      let _ ← r .expression
      let _ ← tok ")"
      raiseAt .doubleStarredGroup t.line])]

/-- A set display. -/
def setDisplay : Parser Operand := rule do
  let t ← tok "\x7b"
  let items ← starNamedExpressions r
  let _ ← tok "\x7d"
  return .leaf (.set (items.map Operand.expr)) t.line

/-- A set comprehension. -/
def setComprehension : Parser Operand := ruleOf [
  do
    let t ← tok "\x7b"
    let item ← r .namedExpression
    let cs ← clauses r
    let _ ← tok "\x7d"
    return .leaf (.setComp item.expr cs) t.line,
  diagnosis (invalidComprehension r)]

/-- A key and a value. -/
def keyValue : Parser (Expr × Expr) := rule do
  let key ← r .expression
  let _ ← tok ":"
  return (key.expr, (← r .expression).expr)

/-- An entry of a dictionary: a key and a value, or an unpacked mapping. -/
def dictEntry : Parser (Option Expr × Expr) := ruleOf [
  do
    let _ ← tok "**"
    return (none, (← r .bitOr).expr),
  do
    let (key, value) ← keyValue r
    return (some key, value)]

/-- A value of a dictionary that is unpacked or missing. -/
def invalidDictValue {α : Type} : Parser α := ruleOf [
  do
    let _ ← r .expression
    let _ ← tok ":"
    let t ← tok "*"
    let _ ← r .bitOr
    raiseAt .starredDictValue t.line,
  do
    let _ ← r .expression
    let t ← tok ":"
    ahead (ruleOf [tok "\x7d", tok ","])
    raiseAt .expectedDictValue t.line]

/-- Faults of the entries of a dictionary. -/
def invalidDictEntries {α : Type} : Parser α := ruleOf [
  do
    let _ ← commaSeparated (dictEntry r)
    let _ ← tok ","
    ruleOf [
      do
        let key ← r .expression
        notAhead (tok ":")
        raiseAt .expectedDictColon key.line,
      invalidDictValue r],
  invalidDictValue r]

/-- A dictionary display. -/
def dictDisplay : Parser Operand := ruleOf [
  do
    let t ← tok "\x7b"
    let entries ← optional (commaTerminated (dictEntry r))
    let _ ← tok "\x7d"
    return .leaf (.dict (entries.getD [])) t.line,
  diagnosis do
    let _ ← tok "\x7b"
    invalidDictEntries r]

/-- A dictionary comprehension. -/
def dictComprehension : Parser Operand := ruleOf [
  do
    let t ← tok "\x7b"
    let (key, value) ← keyValue r
    let cs ← clauses r
    let _ ← tok "\x7d"
    return .leaf (.dictComp key value cs) t.line,
  diagnosis do
    let _ ← tok "\x7b"
    let t ← tok "**"
    let _ ← r .bitOr
    let _ ← clauses r
    let _ ← tok "\x7d"
    raiseAt .unpackedEntry t.line]

/-! ### Arguments -/

/-- An argument after the first keyword argument. -/
inductive LateArgument where
  /-- An unpacked iterable. -/
  | starred (o : Operand)
  /-- A keyword argument, or an unpacked mapping. -/
  | keyword (k : KeywordArgument)

/-- Faults of keyword arguments. -/
def invalidKeyword {α : Type} : Parser α := ruleOf [
  do
    let t ← ruleOf [tok "True", tok "False", tok "None"]
    let _ ← tok "="
    raiseAt (.cannotAssign t.text) t.line,
  do
    let t ← tokenOf .name
    let _ ← tok "="
    let _ ← r .expression
    let _ ← clauses r
    raiseAt .assignmentAsValue t.line,
  do
    notAhead (do let _ ← tokenOf .name; tok "=")
    let e ← r .expression
    let _ ← tok "="
    raiseAt .keywordExpression e.line]

/-- A keyword argument, or something unpacked by the given rule. -/
def keywordOr (unpacked : Parser LateArgument) : Parser LateArgument := ruleOf [
  diagnosis (invalidKeyword r),
  do
    let key ← name
    let _ ← tok "="
    return .keyword (.mk (some key) (← r .expression).expr),
  unpacked]

/-- A keyword argument or an unpacked iterable. -/
def keywordOrStarred : Parser LateArgument :=
  keywordOr r do return .starred (← starred (r .expression))

/-- A keyword argument or an unpacked mapping. -/
def keywordOrDoubleStarred : Parser LateArgument :=
  keywordOr r do
    let _ ← tok "**"
    return .keyword (.mk none (← r .expression).expr)

/-- The arguments from the first keyword argument on. Mappings are unpacked last. -/
def lateArguments : Parser (List LateArgument) := ruleOf [
  do
    let first ← commaSeparated (keywordOrStarred r)
    let _ ← tok ","
    return first ++ (← commaSeparated (keywordOrDoubleStarred r)),
  commaSeparated (keywordOrStarred r),
  commaSeparated (keywordOrDoubleStarred r)]

/-- The arguments of a call: positional ones, then the others. Unpacked iterables count as
positional wherever they stand. -/
def collectArguments (line : Nat) (first : List Operand) (late : List LateArgument) : Arguments :=
  { positional := first ++ late.filterMap fun
      | .starred o => some o
      | .keyword _ => none
    keywords := late.filterMap fun
      | .starred _ => none
      | .keyword k => some k
    line := line }

/-- The arguments of a call without a comma at the end. -/
def plainArguments : Parser Arguments := ruleOf [
  do
    let line ← currentLine
    let first ← commaSeparated (ruleOf [
      starred (r .expression),
      do
        let e ← assignmentOrExpression r
        notAhead (tok "=")
        return e])
    let late ← optional (do let _ ← tok ","; lateArguments r)
    return collectArguments line first (late.getD []),
  do
    let line ← currentLine
    return collectArguments line [] (← lateArguments r)]

/-- The line of the last positional argument, if there are several. -/
def Arguments.lastLine? (a : Arguments) : Option Nat :=
  if a.positional.length ≤ 1 then none else a.positional.getLast?.map Operand.line

/-- Whether a mapping is unpacked among the arguments. -/
def Arguments.unpacksMapping (a : Arguments) : Bool :=
  a.keywords.any fun
    | .mk none _ => true
    | .mk (some _) _ => false

/-- Faults of the arguments of a call. -/
def invalidArguments : Parser Arguments := ruleOf [
  do
    let a ← plainArguments r
    let _ ← tok ","
    let _ ← tok "*"
    raiseAt .iterableAfterMapping a.line,
  do
    let e ← r .expression
    let _ ← clauses r
    let _ ← tok ","
    let _ ← optional (ruleOf [
      do let _ ← plainArguments r,
      do
        let _ ← r .expression
        let _ ← clauses r])
    raiseAt .bareGenerator e.line,
  do
    let t ← tokenOf .name
    let _ ← tok "="
    let _ ← r .expression
    let _ ← clauses r
    raiseAt .assignmentAsValue t.line,
  do
    let a ← plainArguments r
    let _ ← clauses r
    match Arguments.lastLine? a with
    | some line => raiseAt .bareGenerator line
    | none => giveUp,
  do
    let _ ← plainArguments r
    let _ ← tok ","
    let e ← r .expression
    let _ ← clauses r
    raiseAt .bareGenerator e.line,
  do
    let a ← plainArguments r
    let _ ← tok ","
    let _ ← plainArguments r
    raise (if Arguments.unpacksMapping a then .positionalAfterMapping else .positionalAfterKeyword)]

/-- The arguments of a call, perhaps with a comma at the end. -/
def arguments : Parser Arguments := ruleOf [
  do
    let a ← plainArguments r
    let _ ← optional (tok ",")
    ahead (tok ")")
    return a,
  diagnosis (invalidArguments r)]

/-! ### Atoms and primaries -/

/-- A slice, or an expression as an index. -/
def slice : Parser Operand := ruleOf [
  do
    let line ← currentLine
    let lower ← optional (r .expression)
    let _ ← tok ":"
    let upper ← optional (r .expression)
    let step ← optional do
      let _ ← tok ":"
      optional (r .expression)
    let bound := Option.map Operand.expr
    return .leaf (.slice (bound lower) (bound upper) (bound (step.getD none))) line,
  r .namedExpression]

/-- What stands between the brackets of a subscript. -/
def slices : Parser Operand := ruleOf [
  do
    let s ← slice r
    notAhead (tok ",")
    return s,
  do
    let line ← currentLine
    let items ← commaTerminated (ruleOf [slice r, starred (r .expression)])
    return tupleOperand items line]

/-- A numeral. -/
def number : Parser Operand := do
  let t ← tokenOf .number
  match Numeral.value t.text with
  | .ok c => return .leaf (.constant c) t.line
  | .error digits => raiseAt (.hugeInteger digits) t.line

/-- String literals that stand side by side. -/
def strings : Parser Operand := do
  let line ← currentLine
  let tokens ← many1 (tokenOf .string)
  fun c s =>
    let faultLine := match c.stream.tokens[s.reach - 1]? with
      | some t => t.line
      | none => 0
    match c.literal tokens faultLine with
    | .ok e => .matched (.leaf e line) s
    | .error e => .raised e s.reach

/-- A word that denotes a constant. -/
def constantWord (word : String) (c : Constant) : Parser Operand := do
  let t ← tok word
  return .leaf (.constant c) t.line

/-- An expression that no operator is part of, unless it stands between brackets. -/
def atom : Parser Operand := ruleOf [
  nameOperand,
  constantWord "True" (.bool true),
  constantWord "False" (.bool false),
  constantWord "None" .none,
  do
    ahead (tokenOf .string)
    r .strings,
  number,
  do
    ahead (tok "(")
    ruleOf [tupleDisplay r, group r, generator r],
  do
    ahead (tok "[")
    ruleOf [listDisplay r, listComprehension r],
  do
    ahead (tok "\x7b")
    ruleOf [dictDisplay r, setDisplay r, dictComprehension r, setComprehension r],
  constantWord "..." .ellipsis]

/-- The ways in which a primary goes on. -/
def trailers (value : Operand) : List (Parser Operand) :=
  let attributeTrailer : Parser Operand := do
    let _ ← tok "."
    return .leaf (.attribute value.expr (← name)) value.line
  let generatorTrailer : Parser Operand := do
    let g ← generator r
    return .leaf (.call value.expr [g.expr] []) value.line
  let callTrailer : Parser Operand := do
    let _ ← tok "("
    let a ← optional (r .arguments)
    let _ ← tok ")"
    match a with
    | some a => return .leaf (.call value.expr (a.positional.map Operand.expr) a.keywords) value.line
    | none => return .leaf (.call value.expr [] []) value.line
  let subscriptTrailer : Parser Operand := do
    let _ ← tok "["
    let index ← slices r
    let _ ← tok "]"
    return .leaf (.subscript value.expr index.expr) value.line
  [attributeTrailer, generatorTrailer, callTrailer, subscriptTrailer]

/-- The operand with the line on which its rule begins in place of its own. -/
def startingAt (line : Nat) (o : Operand) : Operand :=
  .mk o.expr line o.parts

/-- An atom followed by attributes, calls and subscripts. -/
def primary : Parser Operand := do
  let line ← currentLine
  let first ← atom r
  extend (fun value => startingAt line <$> ruleOf (trailers r value)) first

/-- A primary in front of the last attribute or subscript of a target. -/
def targetPrimary : Parser Operand := do
  let line ← currentLine
  let first ← atom r
  ahead targetContinues
  extend (fun value => do
    let next ← ruleOf (trailers r value)
    ahead targetContinues
    return startingAt line next) first

/-! ### Operators -/

/-- An operator of a level, with the spellings of the level. -/
def binaryOperator (operators : List (String × BinaryOp)) : Parser BinaryOp :=
  choice (operators.map fun (text, op) => do
    let _ ← tok text
    return op)

/-- Operands of one level joined from left to right. -/
def leftAssociative (operators : List (String × BinaryOp)) (operand : Parser Operand) :
    Parser Operand := do
  let line ← currentLine
  let first ← operand
  extend (fun left => do
    let op ← binaryOperator operators
    let right ← operand
    return .leaf (.binary left.expr op right.expr) line) first

/-- Waiting, or a primary. -/
def awaitPrimary : Parser Operand := ruleOf [
  do
    let t ← tok "await"
    return .leaf (.await (← r .primary).expr) t.line,
  r .primary]

/-- A power, or its base alone. -/
def power : Parser Operand := ruleOf [
  do
    let line ← currentLine
    let base ← r .awaitPrimary
    let _ ← tok "**"
    let exponent ← r .factor
    return .leaf (.binary base.expr .pow exponent.expr) line,
  r .awaitPrimary]

/-- A unary operator with its operand. -/
def unaryWith (text : String) (op : UnaryOp) (operand : Parser Operand) : Parser Operand := do
  let t ← tok text
  return .leaf (.unary op (← operand).expr) t.line

/-- An operand with its signs. -/
def factor : Parser Operand := ruleOf [
  unaryWith "+" .plus (r .factor),
  unaryWith "-" .minus (r .factor),
  unaryWith "~" .invert (r .factor),
  power r]

/-- A comparison operator. -/
def compareOperator : Parser CompareOp := choice [
  do let _ ← tok "=="; return .eq,
  do let _ ← tok "!="; return .notEq,
  do let _ ← tok "<="; return .ltE,
  do let _ ← tok "<"; return .lt,
  do let _ ← tok ">="; return .gtE,
  do let _ ← tok ">"; return .gt,
  do
    let _ ← tok "not"
    let _ ← tok "in"
    return .notIn,
  do let _ ← tok "in"; return .isIn,
  do
    let _ ← tok "is"
    let _ ← tok "not"
    return .isNot,
  do let _ ← tok "is"; return .is]

/-- A chain of comparisons, or a single operand. -/
def comparison : Parser Operand := do
  let line ← currentLine
  let left ← r .bitOr
  let rest ← many do
    let op ← compareOperator
    return (op, (← r .bitOr).expr)
  if rest.isEmpty then return left else return .mk (.compare left.expr rest) line [left]

/-- Operands joined by a connective, or a single operand. -/
def connected (word : String) (op : Connective) (operand : Parser Operand) : Parser Operand := do
  let line ← currentLine
  let first ← operand
  let others ← many (do let _ ← tok word; operand)
  if others.isEmpty then return first
  else return .leaf (.boolOp op ((first :: others).map Operand.expr)) line

/-- A negation, or a comparison. -/
def inversion : Parser Operand := ruleOf [
  unaryWith "not" .not (r .inversion),
  r .comparison]

/-- An anonymous function. -/
def lambda : Parser Operand := do
  let t ← tok "lambda"
  let ps ← optional (parameters r .anonymous)
  let _ ← tok ":"
  let body ← r .expression
  return .leaf (.lambda (ps.getD (.mk [] [] none [] none)) body.expr) t.line

/-- A choice between two expressions. -/
def conditional : Parser Operand := do
  let line ← currentLine
  let body ← r .disjunction
  let _ ← tok "if"
  let test ← r .disjunction
  let _ ← tok "else"
  let orElse ← r .expression
  return .leaf (.conditional test.expr body.expr orElse.expr) line

/-- Whether an expression names a statement of old. -/
def isLegacyName : Expr → Bool
  | .name id => id == "print" || id == "exec"
  | _ => false

/-- Two expressions side by side, or a choice without its alternative. -/
def invalidExpression : Parser Operand := ruleOf [
  do
    notAhead (ruleOf [
      do
        let _ ← tokenOf .name
        tokenOf .string,
      tokenIf fun t => t.kind = .name && softKeywords.contains t.text])
    let first ← r .disjunction
    let _ ← undiagnosed (ruleOf [conditional r, r .disjunction, lambda r])
    let last ← lastToken
    if isLegacyName first.expr || last.depth = 0 then giveUp
    else raiseAt .forgottenComma first.line,
  do
    let body ← r .disjunction
    let _ ← tok "if"
    let _ ← r .disjunction
    notAhead (ruleOf [tok "else", tok ":"])
    raiseAt .expectedElse body.line]

/-- A statement of old. -/
def invalidLegacy : Parser Operand := rule do
  let t ← nameOperand
  notAhead (tok "(")
  let _ ← starExpressions r
  match t.expr with
  | .name id => if isLegacyName t.expr then raiseAt (.legacyCall id) t.line else giveUp
  | _ => giveUp

/-- An expression. -/
def expression : Parser Operand := ruleOf [
  diagnosis (invalidExpression r),
  diagnosis (invalidLegacy r),
  conditional r,
  r .disjunction,
  lambda r]

/-- Assignments in places where they are not expressions. -/
def invalidNamedExpression : Parser Operand := ruleOf [
  do
    let target ← r .expression
    let _ ← tok ":="
    let _ ← r .expression
    raiseAt (.namedTarget target.describe) target.line,
  do
    let target ← nameOperand
    let _ ← tok "="
    let _ ← r .bitOr
    notAhead (ruleOf [tok "=", tok ":="])
    raiseAt .assignmentAsValue target.line,
  do
    notAhead (ruleOf [
      do let _ ← listDisplay r,
      do let _ ← tupleDisplay r,
      do let _ ← generator r,
      do let _ ← tok "True",
      do let _ ← tok "None",
      do let _ ← tok "False"])
    let target ← r .bitOr
    let _ ← tok "="
    let _ ← r .bitOr
    notAhead (ruleOf [tok "=", tok ":="])
    raiseAt (.assignmentAsComparison target.describe) target.line]

/-- An expression, or an assignment within one. -/
def namedExpression : Parser Operand := ruleOf [
  assignmentExpression r,
  diagnosis (invalidNamedExpression r),
  unnamedExpression r]

end Parser

end Bundler.Syntax
