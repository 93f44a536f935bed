import Bundler.Syntax.Parser.Pattern

/-!
# Statements

A simple statement stands on a line, alone or with others separated by semicolons. A compound
statement has one or more blocks, each of which is a group of indented lines or the rest of a line.
-/

set_option autoImplicit false

namespace Bundler.Syntax

namespace Parser

variable (r : Rules)

/-! ### Simple statements -/

/-- The operator of an assignment that applies one. -/
def augmentedOperator : Parser BinaryOp :=
  choice ([("+=", .add), ("-=", .sub), ("*=", .mult), ("@=", .matMult), ("/=", .div), ("%=", .mod),
    ("&=", .bitAnd), ("|=", .bitOr), ("^=", .bitXor), ("<<=", .leftShift), (">>=", .rightShift),
    ("**=", .pow), ("//=", .floorDiv)].map fun (text, op) => do
    let _ ← tok text
    return op)

/-- A list or tuple, perhaps in more parentheses, in the place of a single target. -/
def hintTarget : Parser Operand := ruleOf [
  listDisplay r,
  tupleDisplay r,
  do
    let _ ← tok "("
    let target ← r .hintTarget
    let _ ← tok ")"
    return target]

/-- The targets of a chain of assignments, each with its equals sign. -/
def assignedTargets : Parser Operand := rule do
  let target ← starTargets r
  let _ ← tok "="
  return target

/-- Faults of assignments. -/
def invalidAssignment : Parser Stmt := ruleOf [
  do
    let target ← r .hintTarget
    let _ ← tok ":"
    let _ ← r .expression
    raiseAt (.hintForMany target.describe) target.line,
  do
    let target ← starNamedExpression r
    let _ ← tok ","
    let _ ← many (starNamedExpressions r)
    let _ ← tok ":"
    let _ ← r .expression
    raiseAt (.hintForMany "tuple") target.line,
  do
    let target ← r .expression
    let _ ← tok ":"
    let _ ← r .expression
    raiseAt .illegalHintTarget target.line,
  do
    let _ ← many (assignedTargets r)
    let target ← starExpressions r
    let _ ← tok "="
    raiseInvalidTarget .assign target,
  do
    let _ ← many (assignedTargets r)
    let target ← yieldExpression r
    let _ ← tok "="
    raiseAt .assignToYield target.line,
  do
    let target ← starExpressions r
    let _ ← augmentedOperator
    let _ ← yieldOrStarExpressions r
    raiseAt (.illegalAugmented target.describe) target.line]

/-- The value of a declaration. -/
def declaredValue : Parser (Option Operand) :=
  optional (do let _ ← tok "="; yieldOrStarExpressions r)

/-- An assignment or a declaration with a type hint. -/
def assignment : Parser Stmt := ruleOf [
  do
    let target ← nameOperand
    let _ ← tok ":"
    let hint ← r .expression
    let value ← declaredValue r
    return .annAssign target.expr hint.expr (value.map Operand.expr) true,
  do
    let target ← ruleOf [
      do
        let _ ← tok "("
        let target ← r .singleTarget
        let _ ← tok ")"
        return target,
      attributeOrSubscript r (slices r)]
    let _ ← tok ":"
    let hint ← r .expression
    let value ← declaredValue r
    return .annAssign target.expr hint.expr (value.map Operand.expr) false,
  do
    let targets ← many1 (assignedTargets r)
    let value ← yieldOrStarExpressions r
    notAhead (tok "=")
    return .assign (targets.map Operand.expr) value.expr,
  do
    let target ← r .singleTarget
    let op ← augmentedOperator
    commit do
      let value ← yieldOrStarExpressions r
      return .augAssign target.expr op value.expr,
  diagnosis (invalidAssignment r)]

/-- A return. -/
def returnStatement : Parser Stmt := rule do
  let _ ← tok "return"
  return .return ((← optional (starExpressions r)).map Operand.expr)

/-- A raise. -/
def raiseStatement : Parser Stmt := ruleOf [
  do
    let _ ← tok "raise"
    let exception ← r .expression
    let cause ← optional (do let _ ← tok "from"; r .expression)
    return .raise (some exception.expr) (cause.map Operand.expr),
  do
    let _ ← tok "raise"
    return .raise none none]

/-- A deletion. -/
def delStatement : Parser Stmt := ruleOf [
  do
    let _ ← tok "del"
    let targets ← commaTerminated (r .delTarget)
    ahead (ruleOf [tok ";", newline])
    return .delete (targets.map Operand.expr),
  diagnosis do
    let _ ← tok "del"
    let target ← starExpressions r
    raiseInvalidTarget .delete target]

/-- An assertion. -/
def assertStatement : Parser Stmt := rule do
  let _ ← tok "assert"
  let test ← r .expression
  let message ← optional (do let _ ← tok ","; r .expression)
  return .assert test.expr (message.map Operand.expr)

/-- A declaration of the scope of names. -/
def scopeStatement (word : String) (make : List String → Stmt) : Parser Stmt := rule do
  let _ ← tok word
  return make (← commaSeparated name)

/-- A dotted name. -/
def dottedName : Parser String := rule do
  let first ← name
  let others ← many (do let _ ← tok "."; name)
  return ".".intercalate (first :: others)

/-- Something imported, perhaps under another name. -/
def importAlias (imported : Parser String) : Parser Alias := rule do
  let imported ← imported
  let asName ← optional (do let _ ← tok "as"; name)
  return { name := imported, asName }

/-- An import of modules. -/
def importStatement : Parser Stmt := rule do
  let _ ← tok "import"
  return .importModules (← commaSeparated (importAlias dottedName))

/-- Leading dots. -/
def leadingDots : Parser Nat :=
  ruleOf [do let _ ← tok "."; return 1, do let _ ← tok "..."; return 3]

/-- The names imported from a module. -/
def importedNames : Parser (List Alias) := ruleOf [
  do
    let _ ← tok "("
    let names ← commaTerminated (importAlias name)
    let _ ← tok ")"
    return names,
  do
    let names ← commaSeparated (importAlias name)
    notAhead (tok ",")
    return names,
  do
    let _ ← tok "*"
    return [{ name := "*", asName := none }],
  diagnosis do
    let _ ← commaSeparated (importAlias name)
    let _ ← tok ","
    let _ ← newline
    raise .trailingImportComma]

/-- An import from a module. -/
def importFromStatement : Parser Stmt := ruleOf [
  do
    let _ ← tok "from"
    let dots ← many leadingDots
    let module ← dottedName
    let _ ← tok "import"
    return .importFrom (some module) (← importedNames) (dots.foldl (· + ·) 0),
  do
    let _ ← tok "from"
    let dots ← many1 leadingDots
    let _ ← tok "import"
    return .importFrom none (← importedNames) (dots.foldl (· + ·) 0)]

/-- A simple statement. -/
def simpleStatement : Parser Stmt := ruleOf [
  assignment r,
  do return .expr (← starExpressions r).expr,
  returnStatement r,
  importStatement,
  importFromStatement,
  raiseStatement r,
  do let _ ← tok "pass"; return .pass,
  delStatement r,
  do return .expr (← yieldExpression r).expr,
  assertStatement r,
  do let _ ← tok "break"; return .break,
  do let _ ← tok "continue"; return .continue,
  scopeStatement "global" .global,
  scopeStatement "nonlocal" .nonlocal]

/-- The simple statements of a line. -/
def simpleStatements : Parser (List Stmt) := ruleOf [
  do
    let s ← r .simpleStatement
    notAhead (tok ";")
    let _ ← newline
    return [s],
  do
    let statements ← sepBy1 (r .simpleStatement) (tok ";")
    let _ ← optional (tok ";")
    let _ ← newline
    return statements]

/-! ### Blocks -/

/-- Statements one after the other. -/
def statements : Parser (List Stmt) := do
  return (← many1 (r .statement)).flatten

/-- A group of indented lines, or the rest of a line. -/
def block : Parser (List Stmt) := ruleOf [
  do
    let _ ← newline
    let _ ← tokenOf .indent
    let body ← statements r
    let _ ← tokenOf .dedent
    return body,
  simpleStatements r,
  diagnosis do
    let _ ← newline
    notAhead (tokenOf .indent)
    raise .expectedBlock]

/-- Raises the fault that a block is missing after a line end. -/
def missingBlock {α : Type} (head : BlockHead) (line : Nat) : Parser α := do
  let _ ← newline
  notAhead (tokenOf .indent)
  raise (.expectedBlockAfter head line)

/-- Raises the fault that a colon is missing at a line end. -/
def missingColon {α : Type} : Parser α := do
  let _ ← newline
  raise (.expected ":")

/-- The block of an alternative. -/
def elseBlock : Parser (List Stmt) := ruleOf [
  diagnosis do
    let t ← tok "else"
    let _ ← tok ":"
    missingBlock (.clause "else") t.line,
  do
    let _ ← tok "else"
    let _ ← forced ":"
    r .block]

/-- Faults of the head of a statement that consists of a word and a condition. -/
def invalidConditionHead {α : Type} (word : String) : Parser α := ruleOf [
  do
    let _ ← tok word
    let _ ← r .namedExpression
    missingColon,
  do
    let t ← tok word
    let _ ← r .namedExpression
    let _ ← tok ":"
    missingBlock (.clause word) t.line]

/-- A conditional, or its continuation with another condition. -/
def conditionalFrom (word : String) : Parser Stmt := ruleOf [
  diagnosis (invalidConditionHead r word),
  do
    let _ ← tok word
    let test ← r .namedExpression
    let _ ← tok ":"
    let body ← r .block
    let orElse ← ruleOf [r .elifChain, do return (← optional (elseBlock r)).getD []]
    return .if test.expr body orElse]

/-- A conditional loop. -/
def whileStatement : Parser Stmt := ruleOf [
  diagnosis (invalidConditionHead r "while"),
  do
    let _ ← tok "while"
    let test ← r .namedExpression
    let _ ← tok ":"
    let body ← r .block
    return .while test.expr body ((← optional (elseBlock r)).getD [])]

/-- Faults of the head of a loop. -/
def invalidFor {α : Type} : Parser α := ruleOf [
  do
    let _ ← head
    missingColon,
  do
    let line ← head
    let _ ← tok ":"
    missingBlock (.clause "for") line]
where
  /-- The head of a loop without its colon. -/
  head : Parser Nat := do
    let _ ← optional (tok "async")
    let t ← tok "for"
    let _ ← starTargets r
    let _ ← tok "in"
    let _ ← starExpressions r
    return t.line

/-- A loop over an iterable. -/
def forStatement : Parser Stmt := ruleOf [
  diagnosis (invalidFor r),
  loop false,
  do
    let _ ← tok "async"
    loop true,
  diagnosis (invalidForTarget r)]
where
  /-- The loop after the mark of an asynchronous one. -/
  loop (isAsync : Bool) : Parser Stmt := do
    let _ ← tok "for"
    let target ← starTargets r
    let _ ← tok "in"
    commit do
      let iterable ← starExpressions r
      let _ ← tok ":"
      let body ← r .block
      return .for isAsync target.expr iterable.expr body ((← optional (elseBlock r)).getD [])

/-- A context manager. -/
def withItem : Parser WithItem := ruleOf [
  do
    let context ← r .expression
    let _ ← tok "as"
    let target ← r .starTarget
    ahead (ruleOf [tok ",", tok ")", tok ":"])
    return { context := context.expr, target := some target.expr },
  diagnosis do
    let _ ← r .expression
    let _ ← tok "as"
    let target ← r .expression
    ahead (ruleOf [tok ",", tok ")", tok ":"])
    raiseInvalidTarget .assign target,
  do return { context := (← r .expression).expr, target := none }]

/-- The head of a block with context managers, without its colon, as faults see it. -/
def looseWithHead (parenthesized : Bool) : Parser Nat := do
  let _ ← optional (tok "async")
  let t ← tok "with"
  let managed (context : Parser Operand) : Parser Unit := rule do
    let _ ← context
    let _ ← optional (do let _ ← tok "as"; r .starTarget)
  if parenthesized then
    let _ ← tok "("
    let _ ← commaTerminated (managed (expressions r))
    let _ ← tok ")"
    return t.line
  else
    let _ ← commaSeparated (managed (r .expression))
    return t.line

/-- A block with context managers. -/
def withStatement : Parser Stmt := ruleOf [
  diagnosis (ruleOf [missing false, missing true]),
  withBody false,
  do
    let _ ← tok "async"
    withBody true,
  diagnosis (ruleOf [
    do
      let _ ← looseWithHead r false
      missingColon,
    do
      let _ ← looseWithHead r true
      missingColon])]
where
  /-- A head whose block is missing. -/
  missing {α : Type} (parenthesized : Bool) : Parser α := do
    let line ← looseWithHead r parenthesized
    let _ ← tok ":"
    missingBlock (.clause "with") line
  /-- The statement after the mark of an asynchronous one. -/
  withBody (isAsync : Bool) : Parser Stmt := ruleOf [
    do
      let _ ← tok "with"
      let _ ← tok "("
      let items ← commaTerminated (withItem r)
      let _ ← tok ")"
      let _ ← tok ":"
      return .with isAsync items (← r .block),
    do
      let _ ← tok "with"
      let items ← commaSeparated (withItem r)
      let _ ← tok ":"
      return .with isAsync items (← r .block)]

/-! ### Guarded blocks -/

/-- The name that a handler gives to an exception. -/
def handlerName : Parser (Option String) :=
  optional (do let _ ← tok "as"; name)

/-- Faults of the head of a handler. -/
def invalidHandler {α : Type} : Parser α := ruleOf [
  do
    let _ ← tok "except"
    let _ ← optional (tok "*")
    let e ← r .expression
    let _ ← tok ","
    let _ ← expressions r
    let _ ← handlerName
    let _ ← tok ":"
    raiseAt .bareExceptionTuple e.line,
  do
    let _ ← tok "except"
    let _ ← optional (tok "*")
    let _ ← r .expression
    let _ ← handlerName
    missingColon,
  do
    let _ ← tok "except"
    missingColon,
  do
    let _ ← tok "except"
    let _ ← tok "*"
    let _ ← ruleOf [newline, tok ":"]
    raise .expectedExceptions]

/-- A handler. -/
def handler : Parser Handler := ruleOf [
  diagnosis (ruleOf [
    do
      let t ← tok "except"
      let _ ← r .expression
      let _ ← handlerName
      let _ ← tok ":"
      missingBlock (.clause "except") t.line,
    do
      let t ← tok "except"
      let _ ← tok ":"
      missingBlock (.clause "except") t.line]),
  do
    let _ ← tok "except"
    let e ← r .expression
    let id ← handlerName
    let _ ← tok ":"
    return .mk (some e.expr) id (← r .block),
  do
    let _ ← tok "except"
    let _ ← tok ":"
    return .mk none none (← r .block),
  diagnosis (invalidHandler r)]

/-- A handler of exception groups. -/
def groupHandler : Parser Handler := ruleOf [
  diagnosis do
    let t ← tok "except"
    let _ ← tok "*"
    let _ ← r .expression
    let _ ← handlerName
    let _ ← tok ":"
    missingBlock (.clause "except*") t.line,
  do
    let _ ← tok "except"
    let _ ← tok "*"
    let e ← r .expression
    let id ← handlerName
    let _ ← tok ":"
    return .mk (some e.expr) id (← r .block),
  diagnosis (invalidHandler r)]

/-- The block that is run last. -/
def finallyBlock : Parser (List Stmt) := ruleOf [
  diagnosis do
    let t ← tok "finally"
    let _ ← tok ":"
    missingBlock (.clause "finally") t.line,
  do
    let _ ← tok "finally"
    let _ ← forced ":"
    r .block]

/-- Faults of guarded blocks. -/
def invalidTry : Parser Stmt := ruleOf [
  do
    let t ← tok "try"
    let _ ← tok ":"
    missingBlock (.clause "try") t.line,
  do
    let _ ← tok "try"
    let _ ← tok ":"
    let _ ← r .block
    notAhead (ruleOf [tok "except", tok "finally"])
    raise .expectedHandler,
  do
    let _ ← tok "try"
    let _ ← tok ":"
    let _ ← many (r .block)
    let _ ← ruleOf [
      do
        let _ ← many1 (handler r)
        groupHandler r,
      do
        let _ ← many1 (groupHandler r)
        handler r]
    let _ ← many (r .block)
    raise .mixedHandlers]

/-- A guarded block. -/
def tryStatement : Parser Stmt := ruleOf [
  diagnosis (invalidTry r),
  do
    let _ ← tok "try"
    let _ ← forced ":"
    let body ← r .block
    ruleOf [
      do return .try false body [] [] (← finallyBlock r),
      handled false body (handler r),
      handled true body (groupHandler r)]]
where
  /-- The handlers and what follows them. -/
  handled (isStar : Bool) (body : List Stmt) (one : Parser Handler) : Parser Stmt := do
    let handlers ← many1 one
    let orElse ← optional (elseBlock r)
    let final ← optional (finallyBlock r)
    return .try isStar body handlers (orElse.getD []) (final.getD [])

/-! ### Match statements -/

/-- The subject of a match statement. -/
def subject : Parser Operand := ruleOf [
  do
    let line ← currentLine
    let first ← starNamedExpression r
    let _ ← tok ","
    let others ← optional (starNamedExpressions r)
    return tupleOperand (first :: others.getD []) line,
  r .namedExpression]

/-- The condition of a case. -/
def guard : Parser (Option Operand) :=
  optional (do let _ ← tok "if"; r .namedExpression)

/-- A case. -/
def matchCase : Parser MatchCase := ruleOf [
  diagnosis (ruleOf [
    do
      let _ ← softWord "case"
      let _ ← casePattern r
      let _ ← guard r
      missingColon,
    do
      let t ← softWord "case"
      let _ ← casePattern r
      let _ ← guard r
      let _ ← tok ":"
      missingBlock (.clause "case") t.line]),
  do
    let _ ← softWord "case"
    let p ← casePattern r
    let condition ← guard r
    let _ ← tok ":"
    return .mk p (condition.map Operand.expr) (← r .block)]

/-- A choice by patterns. -/
def matchStatement : Parser Stmt := ruleOf [
  do
    let _ ← softWord "match"
    let value ← subject r
    let _ ← tok ":"
    let _ ← newline
    let _ ← tokenOf .indent
    let cases ← many1 (matchCase r)
    let _ ← tokenOf .dedent
    return .match value.expr cases,
  diagnosis (ruleOf [
    do
      let _ ← softWord "match"
      let _ ← subject r
      missingColon,
    do
      let t ← softWord "match"
      let _ ← subject r
      let _ ← tok ":"
      missingBlock (.clause "match") t.line])]

/-! ### Definitions -/

/-- The decorators of a definition. -/
def decorators : Parser (List Expr) := rule do
  let ds ← many1 do
    let _ ← tok "@"
    let e ← r .namedExpression
    let _ ← newline
    return e.expr
  return ds

/-- The bases and keyword arguments of a class. -/
def classArguments : Parser (Option Arguments) := do
  let a ← optional do
    let _ ← tok "("
    let a ← optional (r .arguments)
    let _ ← tok ")"
    return a
  return a.getD none

/-- A class definition without its decorators. -/
def undecoratedClass (ds : List Expr) : Parser Stmt := ruleOf [
  diagnosis (ruleOf [
    do
      let _ ← tok "class"
      let _ ← name
      let _ ← classArguments r
      missingColon,
    do
      let t ← tok "class"
      let _ ← name
      let _ ← classArguments r
      let _ ← tok ":"
      missingBlock .classDefinition t.line]),
  do
    let _ ← tok "class"
    let id ← name
    let a ← classArguments r
    let _ ← tok ":"
    let body ← r .block
    let bases := (a.map fun a => a.positional.map Operand.expr).getD []
    let keywords := (a.map Arguments.keywords).getD []
    return .classDef id bases keywords body ds]

/-- A class definition. -/
def classDefinition : Parser Stmt := ruleOf [
  do undecoratedClass r (← decorators r),
  undecoratedClass r []]

/-- The type of what a function returns. -/
def returnHint : Parser (Option Operand) :=
  optional (do let _ ← tok "->"; r .expression)

/-- A function definition without its decorators. -/
def undecoratedFunction (ds : List Expr) : Parser Stmt := ruleOf [
  diagnosis do
    let _ ← optional (tok "async")
    let t ← tok "def"
    let _ ← name
    let _ ← tok "("
    let _ ← optional (parameters r .definition)
    let _ ← tok ")"
    let _ ← returnHint r
    let _ ← tok ":"
    missingBlock .functionDefinition t.line,
  definition false,
  do
    let _ ← tok "async"
    definition true]
where
  /-- The definition after the mark of an asynchronous one. -/
  definition (isAsync : Bool) : Parser Stmt := do
    let _ ← tok "def"
    let id ← name
    let _ ← forced "("
    let ps ← optional (parameters r .definition)
    let _ ← tok ")"
    let returns ← returnHint r
    let _ ← forced ":"
    let body ← r .block
    return .functionDef isAsync id (ps.getD (.mk [] [] none [] none)) body ds
      (returns.map Operand.expr)

/-- A function definition. -/
def functionDefinition : Parser Stmt := ruleOf [
  do undecoratedFunction r (← decorators r),
  undecoratedFunction r []]

/-- A compound statement. -/
def compoundStatement : Parser Stmt := ruleOf [
  onlyAt ["def", "@", "async"] (functionDefinition r),
  onlyAt ["if"] (conditionalFrom r "if"),
  onlyAt ["class", "@"] (classDefinition r),
  onlyAt ["with", "async"] (withStatement r),
  onlyAt ["for", "async"] (forStatement r),
  onlyAt ["try"] (tryStatement r),
  onlyAt ["while"] (whileStatement r),
  matchStatement r]
where
  /-- A statement that begins with one of the given tokens. -/
  onlyAt (words : List String) (p : Parser Stmt) : Parser Stmt := do
    ahead (choice (words.map tok))
    p

/-- A statement, or the statements of a line. -/
def statement : Parser (List Stmt) := ruleOf [
  do return [← compoundStatement r],
  simpleStatements r]

/-- The statements of a source, up to its end. -/
def source : Parser (List Stmt) := do
  let body ← optional (statements r)
  let _ ← tokenOf .finish
  return body.getD []

end Parser

end Bundler.Syntax
