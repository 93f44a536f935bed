import Bundler.Proofs.Syntax.Yielding

/-!
# Expressions are safe

The rules for targets, parameters, expressions and patterns keep sound results only: each of them is
put together from others that do so.
-/

set_option autoImplicit false
set_option synthInstance.maxSize 1000
set_option synthInstance.maxHeartbeats 200000

namespace Bundler.Syntax.Parser

variable {α : Type} {P : α → Prop} {p : Parser α} {r : Rules} [∀ n, IsSafe (r n)]
  {style : ParameterStyle}

/-! ## Names and targets -/

/-- A keyword, operator or delimiter may be read. -/
instance {text : String} : IsSafe (tok text) := by
  unfold tok
  infer_instance

/-- A word that is a keyword in this place only may be read. -/
instance {text : String} : IsSafe (softWord text) := by
  unfold softWord
  infer_instance

/-- A token of a class may be read. -/
instance {kind : TokenKind} : IsSafe (tokenOf kind) := by
  unfold tokenOf
  infer_instance

/-- The end of a line may be read. -/
instance : IsSafe newline := by
  unfold newline
  infer_instance

/-- A symbol that must stand here may be read. -/
instance {text : String} : IsSafe (forced text) := by
  unfold forced
  infer_instance

/-- An identifier may be read. -/
instance : IsSafe name := by
  unfold name
  infer_instance

/-- An identifier may be read as an expression. -/
instance : IsSafe nameOperand := by
  unfold nameOperand
  infer_instance

/-- A rule may be repeated with commas. -/
instance [IsSafe p] : IsSafe (commaSeparated p) := by
  unfold commaSeparated
  infer_instance

/-- A rule may be repeated with commas, the last one included. -/
instance [IsSafe p] : IsSafe (commaTerminated p) := by
  unfold commaTerminated
  infer_instance

/-- One operand or a tuple of them is safe. -/
instance {p : Parser Operand} [IsSafe p] : IsSafe (oneOrTuple p) := by
  unfold oneOrTuple
  infer_instance

/-- An unpacked iterable is safe. -/
instance {p : Parser Operand} [IsSafe p] : IsSafe (starred p) := by
  unfold starred
  infer_instance

/-- The fault of a target yields nothing. -/
instance {use : TargetUse} {o : Operand} : Yields (raiseInvalidTarget use o : Parser α) P := by
  unfold raiseInvalidTarget
  split <;> infer_instance

/-- Looking for the rest of a target is safe. -/
instance : IsSafe targetContinues := by
  unfold targetContinues
  infer_instance

/-- One target or a tuple of them is safe. -/
instance : IsSafe (starTargets r) := by
  unfold starTargets
  infer_instance

/-- A target that may be unpacked is safe. -/
instance : IsSafe (starTarget r) := by
  unfold starTarget
  infer_instance

section Slices

variable {p : Parser Operand} [IsSafe p]

/-- An attribute or a subscript is safe. -/
instance : IsSafe (attributeOrSubscript r p) := by
  unfold attributeOrSubscript
  infer_instance

/-- A target without a star is safe. -/
instance : IsSafe (starAtomTarget r p) := by
  unfold starAtomTarget
  infer_instance

/-- A single target is safe. -/
instance : IsSafe (singleTarget r p) := by
  unfold singleTarget
  infer_instance

/-- Something that can be deleted is safe. -/
instance : IsSafe (delTarget r p) := by
  unfold delTarget
  infer_instance

end Slices

/-! ## Parameters -/

/-- The end of a parameter is safe. -/
instance : IsSafe (parameterEnd style) := by
  unfold parameterEnd
  infer_instance

/-- A parameter is safe. -/
instance : IsSafe (parameter r style) := by
  unfold parameter
  cases style <;> dsimp only <;> infer_instance

/-- A parameter without a default is safe. -/
instance : IsSafe (plainParameter r style) := by
  unfold plainParameter
  infer_instance

/-- A parameter with a default is safe. -/
instance : IsSafe (defaultParameter r style) := by
  unfold defaultParameter default
  infer_instance

/-- A parameter with or without a default is safe. -/
instance : IsSafe (anyParameter r style) := by
  unfold anyParameter default
  infer_instance

/-- The parameter that collects names is safe. -/
instance : IsSafe (namedRest r style) := by
  unfold namedRest
  infer_instance

/-- The fault of a bare star yields nothing. -/
instance {P : ParameterTail → Prop} : Yields (bareStar style) P := by
  unfold bareStar
  cases style <;> infer_instance

/-- Parameters from the first star on are safe. -/
instance : IsSafe (parameterTail r style) := by
  unfold parameterTail starHintParameter
  cases style <;> dsimp only <;> infer_instance

/-- Parameters without defaults up to a slash are safe. -/
instance : IsSafe (slashWithoutDefault r style) := by
  unfold slashWithoutDefault
  infer_instance

/-- Parameters up to a slash are safe. -/
instance : IsSafe (slashWithDefault r style) := by
  unfold slashWithDefault
  infer_instance

/-- A list of parameters is safe. -/
instance : IsSafe (parameters r style) := by
  unfold parameters invalidParameters
  cases style <;> dsimp only <;> infer_instance

/-! ## Expressions -/

/-- Expressions that may be unpacked are safe. -/
instance : IsSafe (starExpressions r) := by
  unfold starExpressions
  infer_instance

/-- One expression or a tuple of them is safe. -/
instance : IsSafe (expressions r) := by
  unfold expressions
  infer_instance

/-- An expression that may be unpacked is safe. -/
instance : IsSafe (starExpression r) := by
  unfold starExpression
  infer_instance

/-- An item of a display is safe. -/
instance : IsSafe (starNamedExpression r) := by
  unfold starNamedExpression
  infer_instance

/-- The items of a display are safe. -/
instance : IsSafe (starNamedExpressions r) := by
  unfold starNamedExpressions
  infer_instance

/-- An assignment within an expression is safe. -/
instance : IsSafe (assignmentExpression r) := by
  unfold assignmentExpression
  infer_instance

/-- An expression that no assignment follows is safe. -/
instance : IsSafe (unnamedExpression r) := by
  unfold unnamedExpression
  infer_instance

/-- An expression that may be an assignment is safe. -/
instance : IsSafe (assignmentOrExpression r) := by
  unfold assignmentOrExpression
  infer_instance

/-- A yield is safe. -/
instance : IsSafe (yieldExpression r) := by
  unfold yieldExpression
  infer_instance

/-- The right side of an assignment is safe. -/
instance : IsSafe (yieldOrStarExpressions r) := by
  unfold yieldOrStarExpressions
  infer_instance

/-- The fault of a loop variable yields nothing. -/
instance : Yields (invalidForTarget r : Parser α) P := by
  unfold invalidForTarget
  infer_instance

/-- The clauses of a comprehension are safe. -/
instance : IsSafe (clauses r) := by
  unfold clauses clause clause.body
  infer_instance

/-- A generator expression is safe. -/
instance : IsSafe (generator r) := by
  unfold generator invalidComprehension
  infer_instance

/-- A list display is safe. -/
instance : IsSafe (listDisplay r) := by
  unfold listDisplay
  infer_instance

/-- A tuple is safe. -/
instance : IsSafe (tupleDisplay r) := by
  unfold tupleDisplay
  infer_instance

/-- A key and a value are safe. -/
instance : IsSafe (keyValue r) := by
  unfold keyValue
  infer_instance

/-- An entry of a dictionary is safe. -/
instance : IsSafe (dictEntry r) := by
  unfold dictEntry
  infer_instance

/-- A list comprehension is safe. -/
instance : IsSafe (listComprehension r) := by
  unfold listComprehension invalidComprehension
  infer_instance

/-- An expression between parentheses is safe. -/
instance : IsSafe (group r) := by
  unfold group
  infer_instance

/-- A set display is safe. -/
instance : IsSafe (setDisplay r) := by
  unfold setDisplay
  infer_instance

/-- A set comprehension is safe. -/
instance : IsSafe (setComprehension r) := by
  unfold setComprehension invalidComprehension
  infer_instance

/-- A dictionary display is safe. -/
instance : IsSafe (dictDisplay r) := by
  unfold dictDisplay invalidDictEntries invalidDictValue
  infer_instance

/-- A dictionary comprehension is safe. -/
instance : IsSafe (dictComprehension r) := by
  unfold dictComprehension
  infer_instance

/-- The arguments from the first keyword argument on are safe. -/
instance : IsSafe (lateArguments r) := by
  unfold lateArguments keywordOrStarred keywordOrDoubleStarred keywordOr invalidKeyword
  infer_instance

/-- The arguments of a call are safe. -/
instance : IsSafe (plainArguments r) := by
  unfold plainArguments
  infer_instance

/-- Faults of arguments are safe. -/
instance : IsSafe (invalidArguments r) := by
  unfold invalidArguments
  refine yields_ruleOf ?_
  simp only [List.Forall]
  refine ⟨inferInstance, inferInstance, inferInstance, ?_, inferInstance, inferInstance⟩
  refine yields_after inferInstance fun a => yields_after inferInstance fun _ => ?_
  split <;> infer_instance

/-- The arguments of a call with a comma at the end are safe. -/
instance : IsSafe (arguments r) := by
  unfold arguments
  infer_instance

/-- What stands between the brackets of a subscript is safe. -/
instance : IsSafe (slices r) := by
  unfold slices slice
  infer_instance

/-- A numeral is safe. -/
instance : IsSafe number := by
  unfold number
  refine yields_after inferInstance fun t => ?_
  split <;> infer_instance

/-- String literals are safe. -/
instance : IsSafe strings := by
  unfold strings
  refine yields_after inferInstance fun line => yields_after inferInstance fun tokens => ?_
  refine ⟨fun c s _ hs => ?_⟩
  dsimp only
  split
  · exact .matched trivial hs
  · exact .raised

/-- An atom is safe. -/
instance : IsSafe (atom r) := by
  unfold atom constantWord
  infer_instance

/-- The ways in which a primary goes on are safe. -/
instance {value : Operand} : IsSafe (choice (trailers r value)) := by
  unfold trailers
  refine yields_choice ?_
  simp only [List.Forall]
  refine ⟨inferInstance, inferInstance, ?_, inferInstance⟩
  refine yields_after inferInstance fun _ => yields_after inferInstance fun a =>
    yields_after inferInstance fun _ => ?_
  split <;> infer_instance

/-- A primary is safe. -/
instance : IsSafe (primary r) := by
  unfold primary
  infer_instance

/-- A primary in a target is safe. -/
instance : IsSafe (targetPrimary r) := by
  unfold targetPrimary
  infer_instance

/-- Operands of one level are safe. -/
instance {operators : List (String × BinaryOp)} {operand : Parser Operand} [IsSafe operand] :
    IsSafe (leftAssociative operators operand) := by
  unfold leftAssociative binaryOperator
  infer_instance

/-- Waiting is safe. -/
instance : IsSafe (awaitPrimary r) := by
  unfold awaitPrimary
  infer_instance

/-- A unary operator is safe. -/
instance {text : String} {op : UnaryOp} {operand : Parser Operand} [IsSafe operand] :
    IsSafe (unaryWith text op operand) := by
  unfold unaryWith
  infer_instance

/-- An operand with its signs is safe. -/
instance : IsSafe (factor r) := by
  unfold factor power
  infer_instance

/-- A chain of comparisons is safe. -/
instance : IsSafe (comparison r) := by
  unfold comparison compareOperator
  infer_instance

/-- Operands joined by a connective are safe. -/
instance {word : String} {op : Connective} {operand : Parser Operand} [IsSafe operand] :
    IsSafe (connected word op operand) := by
  unfold connected
  infer_instance

/-- A negation is safe. -/
instance : IsSafe (inversion r) := by
  unfold inversion
  infer_instance

/-- An anonymous function is safe. -/
instance : IsSafe (lambda r) := by
  unfold lambda
  infer_instance

/-- A choice between expressions is safe. -/
instance : IsSafe (conditional r) := by
  unfold conditional
  infer_instance

/-- Faults of expressions are safe. -/
instance : IsSafe (invalidExpression r) := by
  unfold invalidExpression
  infer_instance

/-- The fault of a statement of old is safe. -/
instance : IsSafe (invalidLegacy r) := by
  unfold invalidLegacy
  refine yields_rule (yields_after inferInstance fun t => yields_after inferInstance fun _ =>
    yields_after inferInstance fun _ => ?_)
  split <;> infer_instance

/-- An expression is safe. -/
instance : IsSafe (expression r) := by
  unfold expression
  infer_instance

/-- An expression with assignments within it is safe. -/
instance : IsSafe (namedExpression r) := by
  unfold namedExpression invalidNamedExpression
  infer_instance

/-! ## Patterns -/

/-- A numeral with an optional sign is safe. -/
instance {numeral : Parser Operand} [IsSafe numeral] : IsSafe (signed numeral) := by
  unfold signed
  infer_instance

/-- A number or a text as a value is safe. -/
instance : IsSafe (literalValueExpr r) := by
  unfold literalValueExpr complexNumber realPart imaginaryPart
  infer_instance

/-- A singleton value is safe. -/
instance : IsSafe singletonConstant := by
  unfold singletonConstant
  infer_instance

/-- A name followed by attributes is safe. -/
instance {least : Nat} : IsSafe (dotted least) := by
  unfold dotted
  infer_instance

/-- Looking for the rest of a pattern is safe. -/
instance : IsSafe nameContinues := by
  unfold nameContinues
  infer_instance

/-- A name that captures a value is safe. -/
instance : IsSafe captureName := by
  unfold captureName
  infer_instance

/-- Several patterns are safe. -/
instance : IsSafe (sequenceItems r) := by
  unfold sequenceItems maybeStarPattern
  infer_instance

/-- An open sequence of patterns is safe. -/
instance : IsSafe (openSequence r) := by
  unfold openSequence maybeStarPattern
  infer_instance

/-- A star in a sequence is safe. -/
instance : IsSafe starPattern := by
  unfold starPattern
  infer_instance

/-- The pattern of a mapping is safe. -/
instance : IsSafe (mappingPattern r) := by
  unfold mappingPattern keyPattern restPattern
  infer_instance

/-- The pattern of an instance is safe. -/
instance : IsSafe (classPattern r) := by
  unfold classPattern classPattern.opened classPattern.closed positionalPatterns keywordPatterns
  infer_instance

/-- A closed pattern is safe. -/
instance : IsSafe (closedPattern r) := by
  unfold closedPattern
  infer_instance

/-- Alternatives between patterns are safe. -/
instance : IsSafe (orPattern r) := by
  unfold orPattern
  refine yields_rule (yields_after inferInstance fun alternatives => ?_)
  split <;> infer_instance

/-- A pattern is safe. -/
instance : IsSafe (pattern r) := by
  unfold pattern
  infer_instance

/-- The pattern of a case is safe. -/
instance : IsSafe (casePattern r) := by
  unfold casePattern
  infer_instance

end Bundler.Syntax.Parser
