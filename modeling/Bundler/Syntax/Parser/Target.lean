import Bundler.Syntax.Parser.Basic
import Bundler.Text.Normalization

/-!
# Names, repetitions and the targets of assignments

The parts of the grammar that other parts build on: identifiers, lists separated by commas, and the
expressions that can be assigned to or deleted. Where something else stands in the place of a target,
`invalidTarget?` finds the operand to blame.
-/

set_option autoImplicit false

namespace Bundler.Syntax

namespace Parser

/-- Reads an identifier; identifiers with one normal form are the same. -/
def name : Parser String := do
  return Text.Normalization.normalizeIdentifier (← tokenOf .name).text

/-- Reads an identifier as an expression. -/
def nameOperand : Parser Operand := do
  let t ← tokenOf .name
  return .leaf (.name (Text.Normalization.normalizeIdentifier t.text)) t.line

/-- Matches of a rule separated by commas, at least one. -/
def commaSeparated {α : Type} (p : Parser α) : Parser (List α) :=
  sepBy1 p (tok ",")

/-- Matches of a rule separated by commas, at least one, and perhaps a comma at the end. -/
def commaTerminated {α : Type} (p : Parser α) : Parser (List α) := do
  let items ← commaSeparated p
  let _ ← optional (tok ",")
  return items

/-- A tuple of operands. -/
def tupleOperand (items : List Operand) (line : Nat) : Operand :=
  .mk (.tuple (items.map Operand.expr)) line items

/-- A list of operands. -/
def listOperand (items : List Operand) (line : Nat) : Operand :=
  .mk (.list (items.map Operand.expr)) line items

/-- An unpacked operand. -/
def starredOperand (item : Operand) (line : Nat) : Operand :=
  .mk (.starred item.expr) line [item]

/-- One operand, or a tuple of several; a comma after a single operand makes a tuple too. -/
def oneOrTuple (p : Parser Operand) : Parser Operand := do
  let line ← currentLine
  let first ← rule p
  let others ← many (do let _ ← tok ","; rule p)
  let comma ← optional (tok ",")
  if others.isEmpty && comma.isNone then return first
  else return tupleOperand (first :: others) line

/-- An iterable unpacked by a star. -/
def starred (p : Parser Operand) : Parser Operand := do
  let line ← currentLine
  let _ ← tok "*"
  return starredOperand (← p) line

end Parser

/-- What a target is used for. -/
inductive TargetUse where
  /-- Assignment. -/
  | assign
  /-- Deletion. -/
  | delete
  /-- The variable of a loop. -/
  | loop
deriving DecidableEq, Repr

mutual

/-- The operand that keeps an expression from being a target, if there is one. The variable of a loop
is read together with the word `in` as a comparison, of which only the left side matters. -/
def invalidTarget? (use : TargetUse) : Operand → Option Operand
  | .mk e line parts =>
    match e with
    | .list _ | .tuple _ => invalidTargetAmong? use parts
    | .starred _ =>
      if use = .delete then some (.mk e line parts) else invalidTargetAmong? use parts
    | .compare _ ops =>
      if use = .loop then
        match ops with
        | (.isIn, _) :: _ => invalidTargetAmong? use parts
        | _ => none
      else some (.mk e line parts)
    | .name _ | .subscript .. | .attribute .. => none
    | _ => some (.mk e line parts)

/-- The first operand that keeps one of several expressions from being a target. -/
def invalidTargetAmong? (use : TargetUse) : List Operand → Option Operand
  | [] => none
  | o :: os =>
    match invalidTarget? use o with
    | some bad => some bad
    | none => invalidTargetAmong? use os

end

namespace Parser

/-- Ends the parse if an operand cannot be a target, and gives up otherwise. -/
def raiseInvalidTarget {α : Type} (use : TargetUse) (o : Operand) : Parser α :=
  match invalidTarget? use o with
  | some bad =>
    let fault := if use = .delete then Fault.cannotDelete bad.describe
      else Fault.cannotAssign bad.describe
    raiseAt fault bad.line
  | none => giveUp

/-- Looks for the beginning of an attribute, a subscript or a call. -/
def targetContinues : Parser Token :=
  ruleOf [tok "(", tok "[", tok "."]

variable (r : Rules)

/-- One target or a tuple of targets. -/
def starTargets : Parser Operand := ruleOf [
  do
    let target ← r .starTarget
    notAhead (tok ",")
    return target,
  do
    let line ← currentLine
    let first ← r .starTarget
    let others ← many (do let _ ← tok ","; r .starTarget)
    let _ ← optional (tok ",")
    return tupleOperand (first :: others) line]

/-- A target that may be unpacked. -/
def starTarget : Parser Operand := ruleOf [
  do
    let line ← currentLine
    let _ ← tok "*"
    notAhead (tok "*")
    return starredOperand (← r .starTarget) line,
  r .starAtomTarget]

/-- An attribute or a subscript of a primary. -/
def attributeOrSubscript (slices : Parser Operand) : Parser Operand := ruleOf [
  do
    let line ← currentLine
    let value ← r .targetPrimary
    let _ ← tok "."
    let member ← name
    notAhead targetContinues
    return .leaf (.attribute value.expr member) line,
  do
    let line ← currentLine
    let value ← r .targetPrimary
    let _ ← tok "["
    let index ← slices
    let _ ← tok "]"
    notAhead targetContinues
    return .leaf (.subscript value.expr index.expr) line]

/-- A target without a star of its own. -/
def starAtomTarget (slices : Parser Operand) : Parser Operand := ruleOf [
  attributeOrSubscript r slices,
  nameOperand,
  do
    let _ ← tok "("
    let target ← r .starAtomTarget
    let _ ← tok ")"
    return target,
  do
    let line ← currentLine
    let _ ← tok "("
    let items ← optional (ruleOf [
      do
        let first ← r .starTarget
        let others ← many1 (do let _ ← tok ","; r .starTarget)
        let _ ← optional (tok ",")
        return first :: others,
      do
        let first ← r .starTarget
        let _ ← tok ","
        return [first]])
    let _ ← tok ")"
    return tupleOperand (items.getD []) line,
  do
    let line ← currentLine
    let _ ← tok "["
    let items ← optional (commaTerminated (r .starTarget))
    let _ ← tok "]"
    return listOperand (items.getD []) line]

/-- A target that is no tuple and no list. -/
def singleTarget (slices : Parser Operand) : Parser Operand := ruleOf [
  attributeOrSubscript r slices,
  nameOperand,
  do
    let _ ← tok "("
    let target ← r .singleTarget
    let _ ← tok ")"
    return target]

/-- Something that can be deleted. -/
def delTarget (slices : Parser Operand) : Parser Operand := ruleOf [
  attributeOrSubscript r slices,
  nameOperand,
  do
    let _ ← tok "("
    let target ← r .delTarget
    let _ ← tok ")"
    return target,
  do
    let line ← currentLine
    let _ ← tok "("
    let items ← optional (commaTerminated (r .delTarget))
    let _ ← tok ")"
    return tupleOperand (items.getD []) line,
  do
    let line ← currentLine
    let _ ← tok "["
    let items ← optional (commaTerminated (r .delTarget))
    let _ ← tok "]"
    return listOperand (items.getD []) line]

end Parser

end Bundler.Syntax
