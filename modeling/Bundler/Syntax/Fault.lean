import Bundler.Syntax.Token
import Bundler.Syntax.Tree

/-!
# Faults of a source

Why a source is no module, with the line to report. The wording of every fault is in
`Fault.message`. A fault within a replacement field of a formatted literal is the fault of a small
source of its own, and its message says so.
-/

set_option autoImplicit false

namespace Bundler.Syntax

/-- Why the body of a literal has no value. -/
inductive LiteralFault where
  /-- An escape in a text cannot be decoded; the positions are those of its bytes. -/
  | textEscape (first last : Nat) (reason : String)
  /-- A hexadecimal escape in a byte string lacks a digit. -/
  | byteEscape (position : Nat)
  /-- Byte strings and texts stand side by side. -/
  | mixedKinds
  /-- A byte string holds a character outside ASCII. -/
  | wideByte
  /-- A replacement field is empty. -/
  | emptyField
  /-- Replacement fields are nested more than two deep. -/
  | deepFields
  /-- A replacement field holds a backslash. -/
  | backslashInField
  /-- A replacement field holds a number sign. -/
  | commentInField
  /-- A replacement field opens too many brackets. -/
  | deepBracketsInField
  /-- A bracket in a replacement field has no partner. -/
  | unmatchedInField (bracket : Char)
  /-- A bracket in a replacement field closes another kind. -/
  | mismatchedInField (closing opening : Char)
  /-- A literal in a replacement field does not end. -/
  | unterminatedInField
  /-- A replacement field names no known conversion. -/
  | unknownConversion
  /-- A replacement field does not end. -/
  | unclosedField
  /-- A closing brace stands alone. -/
  | loneClosingBrace
  /-- A formatted literal ends too early. -/
  | endOfFormatted
deriving DecidableEq, Repr

/-- The description of a fault in a literal. -/
def LiteralFault.message : LiteralFault → String
  | .textEscape first last reason =>
    "(unicode error) 'unicodeescape' codec can't decode bytes in position " ++ toString first ++
      "-" ++ toString last ++ ": " ++ reason
  | .byteEscape position =>
    "(value error) invalid \\x escape at position " ++ toString position
  | .mixedKinds => "cannot mix bytes and nonbytes literals"
  | .wideByte => "bytes can only contain ASCII literal characters"
  | .emptyField => "f-string: empty expression not allowed"
  | .deepFields => "f-string: expressions nested too deeply"
  | .backslashInField => "f-string expression part cannot include a backslash"
  | .commentInField => "f-string expression part cannot include '#'"
  | .deepBracketsInField => "f-string: too many nested parenthesis"
  | .unmatchedInField bracket => "f-string: unmatched '" ++ bracket.toString ++ "'"
  | .mismatchedInField closing opening =>
    "f-string: closing parenthesis '" ++ closing.toString ++
      "' does not match opening parenthesis '" ++ opening.toString ++ "'"
  | .unterminatedInField => "f-string: unterminated string"
  | .unknownConversion => "f-string: invalid conversion character: expected 's', 'r', or 'a'"
  | .unclosedField => "f-string: expecting '\x7d'"
  | .loneClosingBrace => "f-string: single '\x7d' is not allowed"
  | .endOfFormatted => "f-string: unexpected end of string"

/-- The part of a compound statement that must be followed by an indented block. -/
inductive BlockHead where
  /-- A statement or clause named by a keyword. -/
  | clause (keyword : String)
  /-- A function definition. -/
  | functionDefinition
  /-- A class definition. -/
  | classDefinition
deriving DecidableEq, Repr

/-- The name of the head of a block in messages. -/
def BlockHead.describe : BlockHead → String
  | .clause keyword => "'" ++ keyword ++ "' statement"
  | .functionDefinition => "function definition"
  | .classDefinition => "class definition"

/-- Whether a list of parameters belongs to a definition or to an anonymous function. -/
inductive ParameterStyle where
  /-- Between parentheses, with type hints. -/
  | definition
  /-- Before a colon, without type hints. -/
  | anonymous
deriving DecidableEq, Repr

/-- Why a source is no module. -/
inductive Fault where
  /-- No token can be formed. -/
  | lexical (error : LexicalError)
  /-- A bracket is not closed. -/
  | neverClosed (bracket : Char)
  /-- The tokens form no statement, and nothing more is known. -/
  | invalid
  /-- A line is indented where no block begins. -/
  | unexpectedIndent
  /-- A block ends where it must not. -/
  | unexpectedDedent
  /-- A token is missing. -/
  | expected (symbol : String)
  /-- A block is missing. -/
  | expectedBlock
  /-- The block of a statement is missing. -/
  | expectedBlockAfter (head : BlockHead) (line : Nat)
  /-- A guarded block has no handler. -/
  | expectedHandler
  /-- A handler of groups names no exception. -/
  | expectedExceptions
  /-- The alternative of a conditional expression is missing. -/
  | expectedElse
  /-- A default value is missing. -/
  | expectedDefault
  /-- A value of a dictionary is missing. -/
  | expectedDictValue
  /-- The colon after a key of a dictionary is missing. -/
  | expectedDictColon
  /-- A comma between a slash and a star is missing. -/
  | expectedCommaAfterSlash
  /-- Two expressions stand side by side within brackets. -/
  | forgottenComma
  /-- An assignment stands where a value is needed. -/
  | assignmentAsValue
  /-- An assignment to something else than a name stands where a value is needed. -/
  | assignmentAsComparison (target : String)
  /-- Something cannot be assigned to. -/
  | cannotAssign (target : String)
  /-- Something cannot be deleted. -/
  | cannotDelete (target : String)
  /-- A yield is assigned to. -/
  | assignToYield
  /-- Something cannot be the target of an assignment with an operator. -/
  | illegalAugmented (target : String)
  /-- Something else than a name is assigned to within an expression. -/
  | namedTarget (target : String)
  /-- A list or tuple is given a type hint. -/
  | hintForMany (target : String)
  /-- Something that is no target is given a type hint. -/
  | illegalHintTarget
  /-- A statement of old is used without parentheses. -/
  | legacyCall (function : String)
  /-- A keyword argument has no name before its value. -/
  | keywordExpression
  /-- An unpacked mapping is followed by an unpacked iterable. -/
  | iterableAfterMapping
  /-- A positional argument follows an unpacked mapping. -/
  | positionalAfterMapping
  /-- A positional argument follows a keyword argument. -/
  | positionalAfterKeyword
  /-- A generator expression is not the only argument. -/
  | bareGenerator
  /-- An item of a comprehension is unpacked. -/
  | unpackedItem
  /-- The items of a comprehension are several. -/
  | bareTupleItem
  /-- An item of a dictionary comprehension is unpacked. -/
  | unpackedEntry
  /-- A value of a dictionary is unpacked. -/
  | starredDictValue
  /-- A starred expression stands alone in parentheses. -/
  | starredGroup
  /-- A doubly starred expression stands alone in parentheses. -/
  | doubleStarredGroup
  /-- A parameter without default follows one with a default. -/
  | defaultOrder
  /-- Parameters stand in parentheses. -/
  | parenthesizedParameters (style : ParameterStyle)
  /-- A slash comes first. -/
  | leadingSlash
  /-- A second slash. -/
  | repeatedSlash
  /-- A slash after a star. -/
  | slashAfterStar
  /-- A bare star without names after it. -/
  | bareStar
  /-- A second star. -/
  | repeatedStar
  /-- A collecting parameter has a default. -/
  | starDefault
  /-- A parameter that collects names has a default. -/
  | doubleStarDefault
  /-- A parameter follows the one that collects names. -/
  | afterDoubleStar
  /-- Several exception types without parentheses. -/
  | bareExceptionTuple
  /-- Both kinds of handlers in one statement. -/
  | mixedHandlers
  /-- A list of imported names ends in a comma. -/
  | trailingImportComma
  /-- The wildcard is the name of a pattern. -/
  | wildcardTarget
  /-- The name of a pattern is no name. -/
  | patternTarget
  /-- A positional pattern follows a keyword pattern. -/
  | patternOrder
  /-- The real part of a number pattern is not real. -/
  | realExpected
  /-- The imaginary part of a number pattern is not imaginary. -/
  | imaginaryExpected
  /-- A decimal integer has too many digits. -/
  | hugeInteger (digits : Nat)
  /-- A literal has no value. -/
  | literal (fault : LiteralFault)
  /-- A replacement field holds a fault. -/
  | inField (fault : Fault)
deriving Repr

/-- The largest number of digits that is converted between decimal text and an integer. -/
def maxIntegerDigits : Nat := 4300

/-- The description of a fault. -/
def Fault.message : Fault → String
  | .lexical error => error.message
  | .neverClosed bracket => "'" ++ bracket.toString ++ "' was never closed"
  | .invalid => "invalid syntax"
  | .unexpectedIndent => "unexpected indent"
  | .unexpectedDedent => "unexpected unindent"
  | .expected symbol => "expected '" ++ symbol ++ "'"
  | .expectedBlock => "expected an indented block"
  | .expectedBlockAfter head line =>
    "expected an indented block after " ++ head.describe ++ " on line " ++ toString line
  | .expectedHandler => "expected 'except' or 'finally' block"
  | .expectedExceptions => "expected one or more exception types"
  | .expectedElse => "expected 'else' after 'if' expression"
  | .expectedDefault => "expected default value expression"
  | .expectedDictValue => "expression expected after dictionary key and ':'"
  | .expectedDictColon => "':' expected after dictionary key"
  | .expectedCommaAfterSlash => "expected comma between / and *"
  | .forgottenComma => "invalid syntax. Perhaps you forgot a comma?"
  | .assignmentAsValue => "invalid syntax. Maybe you meant '==' or ':=' instead of '='?"
  | .assignmentAsComparison target =>
    "cannot assign to " ++ target ++ " here. Maybe you meant '==' instead of '='?"
  | .cannotAssign target => "cannot assign to " ++ target
  | .cannotDelete target => "cannot delete " ++ target
  | .assignToYield => "assignment to yield expression not possible"
  | .illegalAugmented target =>
    "'" ++ target ++ "' is an illegal expression for augmented assignment"
  | .namedTarget target => "cannot use assignment expressions with " ++ target
  | .hintForMany target => "only single target (not " ++ target ++ ") can be annotated"
  | .illegalHintTarget => "illegal target for annotation"
  | .legacyCall function =>
    "Missing parentheses in call to '" ++ function ++ "'. Did you mean " ++ function ++ "(...)?"
  | .keywordExpression => "expression cannot contain assignment, perhaps you meant \"==\"?"
  | .iterableAfterMapping => "iterable argument unpacking follows keyword argument unpacking"
  | .positionalAfterMapping => "positional argument follows keyword argument unpacking"
  | .positionalAfterKeyword => "positional argument follows keyword argument"
  | .bareGenerator => "Generator expression must be parenthesized"
  | .unpackedItem => "iterable unpacking cannot be used in comprehension"
  | .bareTupleItem => "did you forget parentheses around the comprehension target?"
  | .unpackedEntry => "dict unpacking cannot be used in dict comprehension"
  | .starredDictValue => "cannot use a starred expression in a dictionary value"
  | .starredGroup => "cannot use starred expression here"
  | .doubleStarredGroup => "cannot use double starred expression here"
  | .defaultOrder => "non-default argument follows default argument"
  | .parenthesizedParameters .definition => "Function parameters cannot be parenthesized"
  | .parenthesizedParameters .anonymous => "Lambda expression parameters cannot be parenthesized"
  | .leadingSlash => "at least one argument must precede /"
  | .repeatedSlash => "/ may appear only once"
  | .slashAfterStar => "/ must be ahead of *"
  | .bareStar => "named arguments must follow bare *"
  | .repeatedStar => "* argument may appear only once"
  | .starDefault => "var-positional argument cannot have default value"
  | .doubleStarDefault => "var-keyword argument cannot have default value"
  | .afterDoubleStar => "arguments cannot follow var-keyword argument"
  | .bareExceptionTuple => "multiple exception types must be parenthesized"
  | .mixedHandlers => "cannot have both 'except' and 'except*' on the same 'try'"
  | .trailingImportComma => "trailing comma not allowed without surrounding parentheses"
  | .wildcardTarget => "cannot use '_' as a target"
  | .patternTarget => "invalid pattern target"
  | .patternOrder => "positional patterns follow keyword patterns"
  | .realExpected => "real number required in complex literal"
  | .imaginaryExpected => "imaginary number required in complex literal"
  | .hugeInteger digits =>
    "Exceeds the limit (" ++ toString maxIntegerDigits ++
      " digits) for integer string conversion: value has " ++ toString digits ++
      " digits; use sys.set_int_max_str_digits() to increase the limit" ++
      " - Consider hexadecimal for huge integer literals to avoid decimal conversion limits."
  | .literal fault => fault.message
  | .inField fault => "f-string: " ++ fault.message

/-- A fault and the line to report for it. -/
structure SyntaxError where
  /-- The fault. -/
  fault : Fault
  /-- The line, counted from one. -/
  line : Nat
deriving Repr

/-- Marks an error as one within a replacement field, which is said once however deep the field is.
Failures to form a token are reported as they are, unless they concern the end of the field. -/
def SyntaxError.withinField (e : SyntaxError) : SyntaxError :=
  match e.fault with
  | .inField _ => e
  | .lexical error => if error.isLayout then ⟨.inField e.fault, e.line⟩ else e
  | _ => ⟨.inField e.fault, e.line⟩

/-- What an expression is called in messages. -/
def Expr.describe : Expr → String
  | .attribute .. => "attribute"
  | .subscript .. => "subscript"
  | .starred _ => "starred"
  | .name _ => "name"
  | .list _ => "list"
  | .tuple _ => "tuple"
  | .lambda .. => "lambda"
  | .call .. => "function call"
  | .boolOp .. | .binary .. | .unary .. => "expression"
  | .generator .. => "generator expression"
  | .yield _ | .yieldFrom _ => "yield expression"
  | .await _ => "await expression"
  | .listComp .. => "list comprehension"
  | .setComp .. => "set comprehension"
  | .dictComp .. => "dict comprehension"
  | .dict _ => "dict literal"
  | .set _ => "set display"
  | .formatted _ | .field .. => "f-string expression"
  | .constant .none => "None"
  | .constant (.bool true) => "True"
  | .constant (.bool false) => "False"
  | .constant .ellipsis => "ellipsis"
  | .constant _ => "literal"
  | .compare .. => "comparison"
  | .conditional .. => "conditional expression"
  | .named .. => "named expression"
  | .slice .. => "slice"

end Bundler.Syntax
