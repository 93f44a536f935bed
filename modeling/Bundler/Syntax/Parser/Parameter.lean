import Bundler.Syntax.Parser.Target

/-!
# Parameters

The parameters of definitions, between parentheses, and of anonymous functions, before a colon. The
two lists differ in the token that ends them, and only the former have type hints.
-/

set_option autoImplicit false

namespace Bundler.Syntax

/-- The token that ends a list of parameters. -/
def ParameterStyle.closing : ParameterStyle → String
  | .definition => ")"
  | .anonymous => ":"

/-- A parameter as the parser sees it. -/
structure ReadParameter where
  /-- The name. -/
  name : String
  /-- The type hint. -/
  hint : Option Expr
  /-- The default. -/
  default : Option Expr := none
  /-- The line of the name. -/
  line : Nat

/-- The parameter without its line. -/
def ReadParameter.toParameter (p : ReadParameter) : Parameter :=
  .mk p.name p.hint p.default

namespace Parser

variable (r : Rules) (style : ParameterStyle)

/-- Reads the comma after a parameter, unless the list ends here. -/
def parameterEnd : Parser Unit :=
  ruleOf [do let _ ← tok ",", ahead (tok style.closing)]

/-- A name, in a definition with an optional type hint. -/
def parameter : Parser ReadParameter := do
  let t ← tokenOf .name
  let hint ← match style with
    | .definition => optional (do let _ ← tok ":"; r .expression)
    | .anonymous => pure none
  return { name := Text.Normalization.normalizeIdentifier t.text,
           hint := hint.map Operand.expr, line := t.line }

/-- A parameter without a default. -/
def plainParameter : Parser ReadParameter := rule do
  let p ← parameter r style
  parameterEnd style
  return p

/-- The default of a parameter. -/
def default : Parser Expr := ruleOf [
  do
    let _ ← tok "="
    return (← r .expression).expr,
  diagnosis do
    let t ← tok "="
    -- only a definition can name the missing value; before a colon nothing follows
    ahead (ruleOf [tok ")", tok ","])
    raiseAt .expectedDefault t.line]

/-- A parameter with a default. -/
def defaultParameter : Parser ReadParameter := rule do
  let p ← parameter r style
  let value ← default r
  parameterEnd style
  return { p with default := some value }

/-- A parameter with or without a default. -/
def anyParameter : Parser ReadParameter := rule do
  let p ← parameter r style
  let value ← optional (default r)
  parameterEnd style
  return { p with default := value }

/-- A collecting parameter whose type hint may be unpacked. -/
def starHintParameter : Parser ReadParameter := rule do
  let t ← tokenOf .name
  let _ ← tok ":"
  let hint ← r .starExpression
  parameterEnd style
  return { name := Text.Normalization.normalizeIdentifier t.text, hint := some hint.expr,
           line := t.line }

/-- The parameter that collects names. -/
def namedRest : Parser ReadParameter := ruleOf [
  diagnosis (ruleOf [
    do
      let _ ← tok "**"
      let _ ← parameter r style
      let t ← tok "="
      raiseAt .doubleStarDefault t.line,
    do
      let _ ← tok "**"
      let _ ← parameter r style
      let _ ← tok ","
      let p ← parameter r style
      raiseAt .afterDoubleStar p.line,
    do
      let _ ← tok "**"
      let _ ← parameter r style
      let _ ← tok ","
      let t ← ruleOf [tok "*", tok "**", tok "/"]
      raiseAt .afterDoubleStar t.line]),
  do
    let _ ← tok "**"
    plainParameter r style]

/-- The part of a list of parameters from the first star on. -/
structure ParameterTail where
  /-- The parameter that collects positions. -/
  rest : Option ReadParameter := none
  /-- The parameters given by name only. -/
  named : List ReadParameter := []
  /-- The parameter that collects names. -/
  namedRest : Option ReadParameter := none

/-- A star that is followed by no name. -/
def bareStar : Parser ParameterTail := do
  let t ← tok "*"
  let _ ← ruleOf [tok style.closing, do
    let _ ← tok ","
    ruleOf [tok style.closing, tok "**"]]
  match style with
  | .definition => raiseAt .bareStar t.line
  | .anonymous => raise .bareStar

/-- The parameters from the first star on. -/
def parameterTail : Parser ParameterTail := ruleOf [
  diagnosis (ruleOf [
    bareStar style,
    do
      let _ ← tok "*"
      let _ ← parameter r style
      let t ← tok "="
      raiseAt .starDefault t.line,
    do
      let _ ← tok "*"
      let _ ← ruleOf [do let _ ← plainParameter r style, do let _ ← tok ","]
      let _ ← many (anyParameter r style)
      let t ← tok "*"
      let _ ← ruleOf [do let _ ← plainParameter r style, do let _ ← tok ","]
      raiseAt .repeatedStar t.line]),
  do
    let _ ← tok "*"
    let rest ← plainParameter r style
    let named ← many (anyParameter r style)
    return { rest := some rest, named, namedRest := ← optional (namedRest r style) },
  match style with
  | .definition => do
    let _ ← tok "*"
    let rest ← starHintParameter r style
    let named ← many (anyParameter r style)
    return { rest := some rest, named, namedRest := ← optional (namedRest r style) }
  | .anonymous => fail,
  do
    let _ ← tok "*"
    let _ ← tok ","
    let named ← many1 (anyParameter r style)
    return { named, namedRest := ← optional (namedRest r style) },
  do return { namedRest := some (← namedRest r style) }]

/-- Parameters without defaults up to a slash. -/
def slashWithoutDefault : Parser (List ReadParameter) := rule do
  let before ← many1 (plainParameter r style)
  let _ ← tok "/"
  parameterEnd style
  return before

/-- Parameters up to a slash, the last ones with defaults. -/
def slashWithDefault : Parser (List ReadParameter) := rule do
  let before ← many (plainParameter r style)
  let defaults ← many1 (defaultParameter r style)
  let _ ← tok "/"
  parameterEnd style
  return before ++ defaults

/-- The parameters as the tree keeps them. -/
def assemble (positional regular : List ReadParameter) (tail : Option ParameterTail) : Parameters :=
  let tail := tail.getD {}
  let convert := List.map ReadParameter.toParameter
  .mk (convert positional) (convert regular) (tail.rest.map ReadParameter.toParameter)
    (convert tail.named) (tail.namedRest.map ReadParameter.toParameter)

/-- Faults of lists of parameters. -/
def invalidParameters : Parser Parameters := ruleOf [
  do
    let _ ← many (plainParameter r style)
    let _ ← ruleOf [slashWithDefault r style, many1 (defaultParameter r style)]
    let p ← plainParameter r style
    raiseAt .defaultOrder p.line,
  do
    let _ ← many (plainParameter r style)
    let t ← tok "("
    match style with
    | .definition => do
      let _ ← many1 (plainParameter r style)
      let _ ← optional (tok ",")
    | .anonymous => do
      let _ ← commaTerminated (parameter r style)
    let _ ← tok ")"
    raiseAt (.parenthesizedParameters style) t.line,
  do
    let t ← tok "/"
    let _ ← tok ","
    raiseAt .leadingSlash t.line,
  do
    let _ ← ruleOf [slashWithoutDefault r style, slashWithDefault r style]
    let _ ← many (anyParameter r style)
    let t ← tok "/"
    raiseAt .repeatedSlash t.line,
  do
    let _ ← optional (ruleOf [slashWithoutDefault r style, slashWithDefault r style])
    let _ ← many (anyParameter r style)
    let _ ← tok "*"
    let _ ← ruleOf [do let _ ← tok ",", do let _ ← plainParameter r style]
    let _ ← many (anyParameter r style)
    let t ← tok "/"
    raiseAt .slashAfterStar t.line,
  do
    let _ ← many1 (anyParameter r style)
    let _ ← tok "/"
    let t ← tok "*"
    raiseAt .expectedCommaAfterSlash t.line]

/-- A list of parameters, not empty. -/
def parameters : Parser Parameters := ruleOf [
  diagnosis (invalidParameters r style),
  do
    let positional ← slashWithoutDefault r style
    let plain ← many (plainParameter r style)
    let defaults ← many (defaultParameter r style)
    return assemble positional (plain ++ defaults) (← optional (parameterTail r style)),
  do
    let positional ← slashWithDefault r style
    let defaults ← many (defaultParameter r style)
    return assemble positional defaults (← optional (parameterTail r style)),
  do
    let plain ← many1 (plainParameter r style)
    let defaults ← many (defaultParameter r style)
    return assemble [] (plain ++ defaults) (← optional (parameterTail r style)),
  do
    let defaults ← many1 (defaultParameter r style)
    return assemble [] defaults (← optional (parameterTail r style)),
  do return assemble [] [] (some (← parameterTail r style))]

end Parser

end Bundler.Syntax
