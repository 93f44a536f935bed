import Bundler.Number.Binary64
import Bundler.Text.CodePoints

/-!
# Syntax trees

The trees of modules: statements, expressions and the patterns of match statements. A tree holds
what a source means and nothing of how it was laid out, so it carries no positions, comments or
parentheses.

Parameters carry their own defaults. The parser admits positional defaults only at the end of the
list, so nothing is lost by that.
-/

set_option autoImplicit false

namespace Bundler.Syntax

open Bundler.Text (CodePoints)

/-- A literal value. -/
inductive Constant where
  /-- The absent value. -/
  | none
  /-- A truth value. -/
  | bool (b : Bool)
  /-- The ellipsis. -/
  | ellipsis
  /-- An integer. -/
  | int (n : Nat)
  /-- A float. -/
  | float (x : Number.Binary64)
  /-- An imaginary number, by its magnitude. -/
  | imaginary (x : Number.Binary64)
  /-- A text, with whether its first literal was marked by `u`. -/
  | text (points : CodePoints) (marked : Bool)
  /-- A byte string. -/
  | bytes (b : List UInt8)
deriving DecidableEq, Repr

/-- The connectives that evaluate only as many operands as they need. -/
inductive Connective where
  /-- Conjunction. -/
  | and
  /-- Disjunction. -/
  | or
deriving DecidableEq, Repr

/-- The binary operators. -/
inductive BinaryOp where
  | add | sub | mult | matMult | div | mod | pow | leftShift | rightShift
  | bitOr | bitXor | bitAnd | floorDiv
deriving DecidableEq, Repr

/-- The unary operators. -/
inductive UnaryOp where
  | invert | not | plus | minus
deriving DecidableEq, Repr

/-- The comparison operators. -/
inductive CompareOp where
  | eq | notEq | lt | ltE | gt | gtE | is | isNot | isIn | notIn
deriving DecidableEq, Repr

/-- How the value of a replacement field is turned into text before it is formatted. -/
inductive Conversion where
  /-- The text for people. -/
  | str
  /-- The quoted form. -/
  | repr
  /-- The quoted form in ASCII. -/
  | ascii
deriving DecidableEq, Repr

mutual

/-- An expression. -/
inductive Expr where
  /-- Two or more operands joined by a connective. -/
  | boolOp (op : Connective) (values : List Expr)
  /-- An assignment within an expression. -/
  | named (target value : Expr)
  /-- A binary operation. -/
  | binary (left : Expr) (op : BinaryOp) (right : Expr)
  /-- A unary operation. -/
  | unary (op : UnaryOp) (operand : Expr)
  /-- An anonymous function. -/
  | lambda (parameters : Parameters) (body : Expr)
  /-- A choice between two expressions. -/
  | conditional (test body orElse : Expr)
  /-- A dictionary; an entry without a key unpacks another dictionary. -/
  | dict (entries : List (Option Expr × Expr))
  /-- A set. -/
  | set (items : List Expr)
  /-- A list comprehension. -/
  | listComp (item : Expr) (clauses : List Clause)
  /-- A set comprehension. -/
  | setComp (item : Expr) (clauses : List Clause)
  /-- A dictionary comprehension. -/
  | dictComp (key value : Expr) (clauses : List Clause)
  /-- A generator expression. -/
  | generator (item : Expr) (clauses : List Clause)
  /-- Waiting for a result. -/
  | await (value : Expr)
  /-- Yielding a value. -/
  | yield (value : Option Expr)
  /-- Yielding the values of an iterable. -/
  | yieldFrom (value : Expr)
  /-- A chain of comparisons. -/
  | compare (left : Expr) (rest : List (CompareOp × Expr))
  /-- A call. -/
  | call (function : Expr) (arguments : List Expr) (keywords : List KeywordArgument)
  /-- A replacement field of a formatted text. -/
  | field (value : Expr) (conversion : Option Conversion) (format : Option Expr)
  /-- A formatted text: literal pieces and replacement fields. -/
  | formatted (pieces : List Expr)
  /-- A literal value. -/
  | constant (value : Constant)
  /-- An attribute of a value. -/
  | attribute (value : Expr) (name : String)
  /-- An item of a value. -/
  | subscript (value index : Expr)
  /-- An unpacked iterable. -/
  | starred (value : Expr)
  /-- A name. -/
  | name (id : String)
  /-- A list. -/
  | list (items : List Expr)
  /-- A tuple. -/
  | tuple (items : List Expr)
  /-- A slice. -/
  | slice (lower upper step : Option Expr)

/-- A clause of a comprehension. -/
inductive Clause where
  /-- Iterates a target over an iterable, keeping what meets all conditions. -/
  | mk (target iterable : Expr) (conditions : List Expr) (isAsync : Bool)

/-- A keyword argument; without a name it unpacks a mapping. -/
inductive KeywordArgument where
  /-- The name and the value. -/
  | mk (name : Option String) (value : Expr)

/-- A parameter of a function. -/
inductive Parameter where
  /-- The name, the type hint and the default. -/
  | mk (name : String) (hint default : Option Expr)

/-- The parameters of a function. -/
inductive Parameters where
  /-- Those given by position only, by position or name, collecting positions, by name only, and
  collecting names. -/
  | mk (positional : List Parameter) (regular : List Parameter) (rest : Option Parameter)
      (named : List Parameter) (namedRest : Option Parameter)

end

/-- The pattern of a case. -/
inductive Pattern where
  /-- Equality with a value. -/
  | value (e : Expr)
  /-- Identity with one of the three singleton values. -/
  | singleton (c : Constant)
  /-- A sequence of given shape. -/
  | sequence (items : List Pattern)
  /-- A mapping with given keys, and a name for the rest. -/
  | mapping (entries : List (Expr × Pattern)) (rest : Option String)
  /-- An instance of a class with given attributes. -/
  | cls (constructor : Expr) (positional : List Pattern) (keywords : List (String × Pattern))
  /-- Any further items of a sequence, under a name. -/
  | star (name : Option String)
  /-- A pattern under a name; without either it matches everything. -/
  | as (pattern : Option Pattern) (name : Option String)
  /-- One of several patterns. -/
  | or (alternatives : List Pattern)

/-- A name that an import statement binds. -/
structure Alias where
  /-- What is imported, possibly dotted. -/
  name : String
  /-- The name it is bound to, if another one is given. -/
  asName : Option String
deriving DecidableEq, Repr

/-- A context manager of a with statement. -/
structure WithItem where
  /-- The manager. -/
  context : Expr
  /-- Where its value is stored. -/
  target : Option Expr

mutual

/-- A statement. -/
inductive Stmt where
  /-- A function definition. -/
  | functionDef (isAsync : Bool) (name : String) (parameters : Parameters) (body : List Stmt)
      (decorators : List Expr) (returns : Option Expr)
  /-- A class definition. -/
  | classDef (name : String) (bases : List Expr) (keywords : List KeywordArgument)
      (body : List Stmt) (decorators : List Expr)
  /-- A return. -/
  | return (value : Option Expr)
  /-- A deletion. -/
  | delete (targets : List Expr)
  /-- An assignment to one or more targets. -/
  | assign (targets : List Expr) (value : Expr)
  /-- An assignment that applies an operator. -/
  | augAssign (target : Expr) (op : BinaryOp) (value : Expr)
  /-- A declaration with a type hint; a simple one declares a bare name. -/
  | annAssign (target hint : Expr) (value : Option Expr) (simple : Bool)
  /-- A loop over an iterable. -/
  | for (isAsync : Bool) (target iterable : Expr) (body orElse : List Stmt)
  /-- A conditional loop. -/
  | while (test : Expr) (body orElse : List Stmt)
  /-- A conditional. -/
  | if (test : Expr) (body orElse : List Stmt)
  /-- A block with context managers. -/
  | with (isAsync : Bool) (items : List WithItem) (body : List Stmt)
  /-- A choice by patterns. -/
  | match (subject : Expr) (cases : List MatchCase)
  /-- Raising an exception. -/
  | raise (exception cause : Option Expr)
  /-- A guarded block; `isStar` marks handlers of exception groups. -/
  | try (isStar : Bool) (body : List Stmt) (handlers : List Handler) (orElse final : List Stmt)
  /-- An assertion. -/
  | assert (test : Expr) (message : Option Expr)
  /-- An import of modules. -/
  | importModules (names : List Alias)
  /-- An import from a module; the level counts the leading dots. -/
  | importFrom (module : Option String) (names : List Alias) (level : Nat)
  /-- A declaration of global names. -/
  | global (names : List String)
  /-- A declaration of names of an enclosing function. -/
  | nonlocal (names : List String)
  /-- An expression evaluated for its effects. -/
  | expr (value : Expr)
  /-- No operation. -/
  | pass
  /-- Leaving a loop. -/
  | break
  /-- Going on with a loop. -/
  | continue

/-- A case of a match statement. -/
inductive MatchCase where
  /-- The pattern, its condition, and what to do. -/
  | mk (pattern : Pattern) (guard : Option Expr) (body : List Stmt)

/-- An exception handler. -/
inductive Handler where
  /-- The exceptions, the name they are bound to, and what to do. -/
  | mk (exceptions : Option Expr) (name : Option String) (body : List Stmt)

end

/-- The tree of a module is the list of its statements. -/
abbrev Module := List Stmt

end Bundler.Syntax
