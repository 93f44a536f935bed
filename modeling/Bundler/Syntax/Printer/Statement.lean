import Bundler.Syntax.Printer.Expression

/-!
# Printing statements

A statement is printed as lines, each already indented by four blanks for every block around it. A
definition is preceded by an empty line. A line may hold line feeds where a text does; the lines of
a text are not indented.
-/

set_option autoImplicit false

namespace Bundler.Syntax

mutual

/-- The text of a pattern at a place that asks for a precedence. -/
def Pattern.print (place : Precedence) : Pattern → Except PrintError String
  | .value e => e.print .regular .test
  | .singleton c => c.print .regular
  | .sequence items => do
    return bracketed "[" "]" (", ".intercalate (← printPatterns .test items))
  | .mapping entries rest => do
    let entries ← printMappingPatterns entries
    return braced (", ".intercalate (entries ++ optionalText (rest.map ("**" ++ ·))))
  | .cls constructor positional keywords => do
    let constructor ← constructor.print .regular .atom
    let positional ← printPatterns .test positional
    let keywords ← printKeywordPatterns keywords
    return constructor ++ bracketed "(" ")" (", ".intercalate (positional ++ keywords))
  | .star name => return "*" ++ name.getD "_"
  | .as _ none => return "_"
  | .as none (some name) => return name
  | .as (some pattern) (some name) => do
    let text ← pattern.print .bitOr
    return Precedence.test.wrap place (text ++ " as " ++ name)
  | .or alternatives => do
    let texts ← printPatterns .bitXor alternatives
    return Precedence.bitOr.wrap place (" | ".intercalate texts)

/-- The texts of patterns at places of one precedence. -/
def printPatterns (place : Precedence) : List Pattern → Except PrintError (List String)
  | [] => return []
  | p :: rest => do
    let text ← p.print place
    return text :: (← printPatterns place rest)

/-- The texts of the entries of a mapping pattern. -/
def printMappingPatterns : List (Expr × Pattern) → Except PrintError (List String)
  | [] => return []
  | (key, p) :: rest => do
    let key ← key.print .regular .test
    let text ← p.print .test
    return (key ++ ": " ++ text) :: (← printMappingPatterns rest)

/-- The texts of the keyword patterns of a class pattern. -/
def printKeywordPatterns : List (String × Pattern) → Except PrintError (List String)
  | [] => return []
  | (name, p) :: rest => do
    let text ← p.print .test
    return (name ++ "=" ++ text) :: (← printKeywordPatterns rest)

end

/-- The text of a name that an import statement binds. -/
def Alias.print (a : Alias) : String :=
  match a.asName with
  | none => a.name
  | some asName => a.name ++ " as " ++ asName

/-- The text of a list of imported names. -/
def printAliases (names : List Alias) : String :=
  ", ".intercalate (names.map Alias.print)

/-- The text of a context manager. -/
def WithItem.print (item : WithItem) : Except PrintError String := do
  let context ← item.context.print .regular .test
  match item.target with
  | none => return context
  | some target => return context ++ " as " ++ (← target.print .regular .test)

/-- A line of a block that is `depth` blocks deep. -/
def indented (depth : Nat) (text : String) : String :=
  String.ofList (List.replicate (4 * depth) ' ') ++ text

/-- The text of an expression that stands alone. -/
def printAlone (e : Expr) : Except PrintError String :=
  e.print .regular .test

/-- The lines of the decorators of a definition. -/
def decoratorLines (depth : Nat) (decorators : List Expr) : Except PrintError (List String) :=
  decorators.mapM fun e => do return indented depth ("@" ++ (← printAlone e))

/-- The text that a statement is documented by, if it is nothing but one. -/
def Stmt.docstring? : Stmt → Option String
  | .expr (.constant (.text points marked)) => some (docstringText points marked)
  | _ => none

/-- Whether a statement is a conditional. -/
def Stmt.isConditional : Stmt → Bool
  | .if .. => true
  | _ => false

/-- An optional operand after a word. -/
def withOperand (word : String) (operand : Option Expr) : Except PrintError String :=
  match operand with
  | none => return word
  | some e => do return word ++ " " ++ (← printAlone e)

/-- The line of a simple statement; a compound one has none. -/
def Stmt.simpleLine? : Stmt → Option (Except PrintError String)
  | .return value => some (withOperand "return" value)
  | .delete targets => some do
    return "del " ++ ", ".intercalate (← targets.mapM printAlone)
  | .assign targets value => some do
    let targets ← targets.mapM (Expr.print .regular .tuple)
    return String.join (targets.map (· ++ " = ")) ++ (← printAlone value)
  | .augAssign target op value => some do
    return (← printAlone target) ++ " " ++ op.symbol ++ "= " ++ (← printAlone value)
  | .annAssign target hint value simple => some do
    let text ← printAlone target
    let text := match target, simple with
      | .name _, false => bracketed "(" ")" text
      | _, _ => text
    let text := text ++ ": " ++ (← printAlone hint)
    match value with
    | none => return text
    | some value => return text ++ " = " ++ (← printAlone value)
  | .raise none _ => some (return "raise")
  | .raise (some exception) cause => some do
    let text ← withOperand "raise" (some exception)
    match cause with
    | none => return text
    | some cause => return text ++ " from " ++ (← printAlone cause)
  | .assert test message => some do
    let text ← withOperand "assert" (some test)
    match message with
    | none => return text
    | some message => return text ++ ", " ++ (← printAlone message)
  | .importModules names => some (return "import " ++ printAliases names)
  | .importFrom module names level => some do
    let dots := String.ofList (List.replicate level '.')
    return "from " ++ dots ++ module.getD "" ++ " import " ++ printAliases names
  | .global names => some (return "global " ++ ", ".intercalate names)
  | .nonlocal names => some (return "nonlocal " ++ ", ".intercalate names)
  | .expr value => some (value.print .regular .yield)
  | .pass => some (return "pass")
  | .break => some (return "break")
  | .continue => some (return "continue")
  | _ => none

mutual

/-- The lines of a statement; `chained` holds for a conditional that continues another one. -/
def Stmt.lines (depth : Nat) (chained : Bool) : Stmt → Except PrintError (List String)
  | .functionDef isAsync name parameters body decorators returns => do
    let decorators ← decoratorLines depth decorators
    let parameters ← parameters.print .regular
    let arrow ← match returns with
      | none => pure ""
      | some e => do pure (" -> " ++ (← printAlone e))
    let head := (if isAsync then "async def " else "def ") ++ name ++
      bracketed "(" ")" parameters ++ arrow ++ ":"
    let body ← documentedLines (depth + 1) body
    return "" :: decorators ++ indented depth head :: body
  | .classDef name bases keywords body decorators => do
    let decorators ← decoratorLines depth decorators
    let bases ← printItems .regular .test bases
    let keywords ← printKeywords .regular keywords
    let arguments := bases ++ keywords
    let arguments :=
      if arguments.isEmpty then "" else bracketed "(" ")" (", ".intercalate arguments)
    let body ← documentedLines (depth + 1) body
    return "" :: decorators ++ indented depth ("class " ++ name ++ arguments ++ ":") :: body
  | .for isAsync target iterable body orElse => do
    let target ← target.print .regular .tuple
    let iterable ← printAlone iterable
    let head := (if isAsync then "async for " else "for ") ++ target ++ " in " ++ iterable ++ ":"
    let body ← blockLines (depth + 1) body
    return indented depth head :: body ++ (← clauseLines depth "else" orElse)
  | .while test body orElse => do
    let test ← printAlone test
    let body ← blockLines (depth + 1) body
    return indented depth ("while " ++ test ++ ":") :: body ++ (← clauseLines depth "else" orElse)
  | .if test body orElse => do
    let test ← printAlone test
    let body ← blockLines (depth + 1) body
    let head := (if chained then "elif " else "if ") ++ test ++ ":"
    return indented depth head :: body ++ (← alternativeLines depth orElse)
  | .with isAsync items body => do
    let items ← items.mapM WithItem.print
    let head := (if isAsync then "async with " else "with ") ++ ", ".intercalate items ++ ":"
    return indented depth head :: (← blockLines (depth + 1) body)
  | .match subject cases => do
    let subject ← printAlone subject
    return indented depth ("match " ++ subject ++ ":") :: (← caseLines (depth + 1) cases)
  | .try isStar body handlers orElse final => do
    let body ← blockLines (depth + 1) body
    let handlers ← handlerLines depth isStar handlers
    let orElse ← clauseLines depth "else" orElse
    let final ← clauseLines depth "finally" final
    return indented depth "try:" :: body ++ handlers ++ orElse ++ final
  | s =>
    match s.simpleLine? with
    | some line => do return [indented depth (← line)]
    | none => return []

/-- The lines of a block. -/
def blockLines (depth : Nat) : List Stmt → Except PrintError (List String)
  | [] => return []
  | s :: rest => do
    let lines ← s.lines depth false
    return lines ++ (← blockLines depth rest)

/-- The lines of a block whose first statement may be a docstring. -/
def documentedLines (depth : Nat) : List Stmt → Except PrintError (List String)
  | [] => return []
  | s :: rest => do
    let lines ← match s.docstring? with
      | some text => pure [indented depth text]
      | none => s.lines depth false
    return lines ++ (← blockLines depth rest)

/-- The lines of the rest of a conditional. A conditional that is all of the rest continues it. -/
def alternativeLines (depth : Nat) : List Stmt → Except PrintError (List String)
  | [] => return []
  | s :: rest => do
    if rest.isEmpty && s.isConditional then
      s.lines depth true
    else
      let lines ← s.lines (depth + 1) false
      return indented depth "else:" :: lines ++ (← blockLines (depth + 1) rest)

/-- The lines of a clause; without a block there is none. -/
def clauseLines (depth : Nat) (word : String) : List Stmt → Except PrintError (List String)
  | [] => return []
  | s :: rest => do
    let lines ← s.lines (depth + 1) false
    return indented depth (word ++ ":") :: lines ++ (← blockLines (depth + 1) rest)

/-- The lines of the cases of a match statement. -/
def caseLines (depth : Nat) : List MatchCase → Except PrintError (List String)
  | [] => return []
  | .mk pattern guard body :: rest => do
    let pattern ← pattern.print .test
    let guard ← match guard with
      | none => pure ""
      | some e => do pure (" if " ++ (← printAlone e))
    let body ← blockLines (depth + 1) body
    return indented depth ("case " ++ pattern ++ guard ++ ":") :: body ++ (← caseLines depth rest)

/-- The lines of exception handlers. -/
def handlerLines (depth : Nat) (isStar : Bool) : List Handler → Except PrintError (List String)
  | [] => return []
  | .mk exceptions name body :: rest => do
    let head ← withOperand (if isStar then "except*" else "except") exceptions
    let name := match name with
      | none => ""
      | some name => " as " ++ name
    let body ← blockLines (depth + 1) body
    return indented depth (head ++ name ++ ":") :: body ++ (← handlerLines depth isStar rest)

end

end Bundler.Syntax
