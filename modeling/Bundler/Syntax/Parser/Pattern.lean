import Bundler.Syntax.Parser.Expression

/-!
# Patterns

The patterns of match statements. A name in a pattern captures a value, a dotted name compares with
one, and a number may have a sign and, as the sum of a real and an imaginary part, two terms.
-/

set_option autoImplicit false

namespace Bundler.Syntax

namespace Parser

variable (r : Rules)

/-- Whether an operand is an imaginary number. -/
def isImaginary (o : Operand) : Bool :=
  match o.expr with
  | .constant (.imaginary _) => true
  | _ => false

/-- A numeral with an optional sign. -/
def signed (numeral : Parser Operand) : Parser Operand := ruleOf [
  numeral,
  unaryWith "-" .minus numeral]

/-- The real part of a complex number. -/
def realPart : Parser Operand := do
  let o ← number
  if isImaginary o then raiseAt .realExpected o.line else return o

/-- The imaginary part of a complex number. -/
def imaginaryPart : Parser Operand := do
  let o ← number
  if isImaginary o then return o else raiseAt .imaginaryExpected o.line

/-- A complex number. -/
def complexNumber : Parser Expr := ruleOf [
  do
    let real ← signed realPart
    let _ ← tok "+"
    return .binary real.expr .add (← imaginaryPart).expr,
  do
    let real ← signed realPart
    let _ ← tok "-"
    return .binary real.expr .sub (← imaginaryPart).expr]

/-- A number or a text as a value. -/
def literalValueExpr : Parser Expr := ruleOf [
  do
    let o ← signed number
    notAhead (ruleOf [tok "+", tok "-"])
    return o.expr,
  complexNumber,
  do return (← r .strings).expr]

/-- One of the singleton values. -/
def singletonConstant : Parser Constant := ruleOf [
  do let _ ← tok "None"; return .none,
  do let _ ← tok "True"; return .bool true,
  do let _ ← tok "False"; return .bool false]

/-- A name followed by attributes, at least `least` of them. -/
def dotted (least : Nat) : Parser Expr := rule do
  let first ← name
  let members ← many (do let _ ← tok "."; name)
  if members.length < least then fail
  else return members.foldl Expr.attribute (.name first)

/-- Looks for a token that turns a name into something else than a capture or a value. -/
def nameContinues : Parser Token := ruleOf [tok ".", tok "(", tok "="]

/-- A name that captures a value. -/
def captureName : Parser String := do
  notAhead (softWord "_")
  let id ← name
  notAhead nameContinues
  return id

/-- A pattern, or a star that captures several items. -/
def maybeStarPattern : Parser Pattern := ruleOf [r .starPattern, r .pattern]

/-- Several patterns, perhaps with a comma at the end. -/
def sequenceItems : Parser (List Pattern) := rule (commaTerminated (maybeStarPattern r))

/-- Several patterns, at least one of them followed by a comma. -/
def openSequence : Parser (List Pattern) := rule do
  let first ← maybeStarPattern r
  let _ ← tok ","
  let others ← optional (sequenceItems r)
  return first :: others.getD []

/-- A star in a sequence. -/
def starPattern : Parser Pattern := ruleOf [
  do
    let _ ← tok "*"
    return .star (some (← captureName)),
  do
    let _ ← tok "*"
    let _ ← softWord "_"
    return .star none]

/-- A key of a mapping with its pattern. -/
def keyPattern : Parser (Expr × Pattern) := rule do
  let key ← ruleOf [
    literalValueExpr r,
    do return .constant (← singletonConstant),
    dotted 1]
  let _ ← tok ":"
  return (key, ← r .pattern)

/-- The name for the rest of a mapping. -/
def restPattern : Parser String := rule do
  let _ ← tok "**"
  captureName

/-- A mapping. -/
def mappingPattern : Parser Pattern := ruleOf [
  do
    let _ ← tok "\x7b"
    let _ ← tok "\x7d"
    return .mapping [] none,
  do
    let _ ← tok "\x7b"
    let rest ← restPattern
    let _ ← optional (tok ",")
    let _ ← tok "\x7d"
    return .mapping [] (some rest),
  do
    let _ ← tok "\x7b"
    let entries ← commaSeparated (keyPattern r)
    let _ ← tok ","
    let rest ← restPattern
    let _ ← optional (tok ",")
    let _ ← tok "\x7d"
    return .mapping entries (some rest),
  do
    let _ ← tok "\x7b"
    let entries ← commaTerminated (keyPattern r)
    let _ ← tok "\x7d"
    return .mapping entries none]

/-- Positional patterns of a class. -/
def positionalPatterns : Parser (List Pattern) := rule (commaSeparated (r .pattern))

/-- Keyword patterns of a class. -/
def keywordPatterns : Parser (List (String × Pattern)) := rule (commaSeparated do
  let key ← name
  let _ ← tok "="
  return (key, ← r .pattern))

/-- An instance of a class. -/
def classPattern : Parser Pattern := ruleOf [
  do
    let cls ← opened
    closed
    return .cls cls [] [],
  do
    let cls ← opened
    let positional ← positionalPatterns r
    let _ ← optional (tok ",")
    closed
    return .cls cls positional [],
  do
    let cls ← opened
    let keywords ← keywordPatterns r
    let _ ← optional (tok ",")
    closed
    return .cls cls [] keywords,
  do
    let cls ← opened
    let positional ← positionalPatterns r
    let _ ← tok ","
    let keywords ← keywordPatterns r
    let _ ← optional (tok ",")
    closed
    return .cls cls positional keywords,
  diagnosis do
    let _ ← opened
    let _ ← optional (do let _ ← positionalPatterns r; tok ",")
    let _ ← keywordPatterns r
    let _ ← tok ","
    let line ← currentLine
    let _ ← positionalPatterns r
    raiseAt .patternOrder line]
where
  /-- The class and its opening parenthesis. -/
  opened : Parser Expr := do
    let cls ← dotted 0
    let _ ← tok "("
    return cls
  /-- The closing parenthesis. -/
  closed : Parser Unit := do
    let _ ← tok ")"

/-- A pattern that needs no parentheses within another. -/
def closedPattern : Parser Pattern := ruleOf [
  do return .value (← literalValueExpr r),
  do return .singleton (← singletonConstant),
  do return .as none (some (← captureName)),
  do
    let _ ← softWord "_"
    return .as none none,
  do
    let value ← dotted 1
    notAhead nameContinues
    return .value value,
  do
    let _ ← tok "("
    let p ← r .pattern
    let _ ← tok ")"
    return p,
  do
    let _ ← tok "["
    let items ← optional (sequenceItems r)
    let _ ← tok "]"
    return .sequence (items.getD []),
  do
    let _ ← tok "("
    let items ← optional (openSequence r)
    let _ ← tok ")"
    return .sequence (items.getD []),
  mappingPattern r,
  classPattern r]

/-- Alternatives between patterns. -/
def orPattern : Parser Pattern := rule do
  let alternatives ← sepBy1 (r .closedPattern) (tok "|")
  match alternatives with
  | [p] => return p
  | ps => return .or ps

/-- A pattern, perhaps with a name for the value it matches. -/
def pattern : Parser Pattern := ruleOf [
  do
    let p ← orPattern r
    let _ ← tok "as"
    return .as (some p) (some (← captureName)),
  diagnosis (ruleOf [
    do
      let _ ← orPattern r
      let _ ← tok "as"
      let t ← softWord "_"
      raiseAt .wildcardTarget t.line,
    do
      let _ ← orPattern r
      let _ ← tok "as"
      notAhead (tokenOf .name)
      let e ← r .expression
      raiseAt .patternTarget e.line]),
  orPattern r]

/-- The pattern of a case; several separated by commas form a sequence. -/
def casePattern : Parser Pattern := ruleOf [
  do return .sequence (← openSequence r),
  r .pattern]

end Parser

end Bundler.Syntax
