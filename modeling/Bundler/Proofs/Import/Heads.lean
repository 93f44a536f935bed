import Bundler.Syntax.Tree

/-!
# The heads of a tree

The heads of a tree are its statements in source order, at every depth, each without the blocks
inside it, and the cases and exception handlers that begin further blocks. Whatever is said of a tree
by saying it of every statement, case and handler is said of its heads. Here this is which texts a
tree requires, that is, the texts that its calls of `require` are given.
-/

set_option autoImplicit false

namespace Bundler.Syntax

open Bundler.Text (CodePoints)

/-- What stands in a tree without the blocks inside it. -/
inductive Head where
  | statement (s : Stmt)
  | case (pattern : Pattern) (guard : Option Expr)
  | handler (exceptions : Option Expr) (name : Option String)

mutual

/-- The heads in a statement. -/
def Stmt.heads : Stmt → List Head
  | .functionDef isAsync name parameters body decorators returns =>
    .statement (.functionDef isAsync name parameters [] decorators returns) :: blockHeads body
  | .classDef name bases keywords body decorators =>
    .statement (.classDef name bases keywords [] decorators) :: blockHeads body
  | .for isAsync target iterable body orElse =>
    .statement (.for isAsync target iterable [] []) :: blockHeads body ++ blockHeads orElse
  | .while test body orElse =>
    .statement (.while test [] []) :: blockHeads body ++ blockHeads orElse
  | .if test body orElse =>
    .statement (.if test [] []) :: blockHeads body ++ blockHeads orElse
  | .with isAsync items body => .statement (.with isAsync items []) :: blockHeads body
  | .match subject cases => .statement (.match subject []) :: caseHeads cases
  | .try isStar body handlers orElse final =>
    .statement (.try isStar [] [] [] []) :: blockHeads body ++ handlerHeads handlers ++
      blockHeads orElse ++ blockHeads final
  | s => [.statement s]

/-- The heads in a block. -/
def blockHeads : List Stmt → List Head
  | [] => []
  | s :: rest => s.heads ++ blockHeads rest

/-- The heads of cases and of the blocks in them. -/
def caseHeads : List MatchCase → List Head
  | [] => []
  | .mk pattern guard body :: rest => .case pattern guard :: blockHeads body ++ caseHeads rest

/-- The heads of handlers and of the blocks in them. -/
def handlerHeads : List Handler → List Head
  | [] => []
  | .mk exceptions name body :: rest =>
    .handler exceptions name :: blockHeads body ++ handlerHeads rest

end

/-! ## Required texts -/

/-- The text that a call requires, if it is a call of `require` for a text. -/
def requiredText? : Expr → List Expr → List KeywordArgument → Option CodePoints
  | .name id, [.constant (.text points _)], [] => if id = "require" then some points else none
  | _, _, _ => none

mutual

/-- The texts that an expression requires. -/
def Expr.requires : Expr → List CodePoints
  | .boolOp _ values => expressionsRequire values
  | .named target value => target.requires ++ value.requires
  | .binary left _ right => left.requires ++ right.requires
  | .unary _ operand => operand.requires
  | .lambda parameters body => parameters.requires ++ body.requires
  | .conditional test body orElse => body.requires ++ test.requires ++ orElse.requires
  | .dict entries => entriesRequire entries
  | .set items => expressionsRequire items
  | .listComp item clauses => item.requires ++ clausesRequire clauses
  | .setComp item clauses => item.requires ++ clausesRequire clauses
  | .dictComp key value clauses => key.requires ++ value.requires ++ clausesRequire clauses
  | .generator item clauses => item.requires ++ clausesRequire clauses
  | .await value => value.requires
  | .yield value => optionRequires value
  | .yieldFrom value => value.requires
  | .compare left rest => left.requires ++ comparisonsRequire rest
  | .call function arguments keywords =>
    (requiredText? function arguments keywords).toList ++ function.requires ++
      expressionsRequire arguments ++ keywordsRequire keywords
  | .field value _ format => value.requires ++ optionRequires format
  | .formatted pieces => expressionsRequire pieces
  | .constant _ => []
  | .attribute value _ => value.requires
  | .subscript value index => value.requires ++ index.requires
  | .starred value => value.requires
  | .name _ => []
  | .list items => expressionsRequire items
  | .tuple items => expressionsRequire items
  | .slice lower upper step => optionRequires lower ++ optionRequires upper ++ optionRequires step

/-- What an expression requires, if there is one. -/
def optionRequires : Option Expr → List CodePoints
  | none => []
  | some e => e.requires

/-- What expressions require. -/
def expressionsRequire : List Expr → List CodePoints
  | [] => []
  | e :: rest => e.requires ++ expressionsRequire rest

/-- What the entries of a dictionary require. -/
def entriesRequire : List (Option Expr × Expr) → List CodePoints
  | [] => []
  | (key, value) :: rest => optionRequires key ++ value.requires ++ entriesRequire rest

/-- What the operands of comparisons require. -/
def comparisonsRequire : List (CompareOp × Expr) → List CodePoints
  | [] => []
  | (_, e) :: rest => e.requires ++ comparisonsRequire rest

/-- What a clause of a comprehension requires. -/
def Clause.requires : Clause → List CodePoints
  | .mk target iterable conditions _ =>
    target.requires ++ iterable.requires ++ expressionsRequire conditions

/-- What the clauses of a comprehension require. -/
def clausesRequire : List Clause → List CodePoints
  | [] => []
  | c :: rest => c.requires ++ clausesRequire rest

/-- What keyword arguments require. -/
def keywordsRequire : List KeywordArgument → List CodePoints
  | [] => []
  | .mk _ value :: rest => value.requires ++ keywordsRequire rest

/-- What a parameter requires. -/
def Parameter.requires : Parameter → List CodePoints
  | .mk _ hint default => optionRequires hint ++ optionRequires default

/-- What parameters of one kind require. -/
def parameterListRequires : List Parameter → List CodePoints
  | [] => []
  | p :: rest => p.requires ++ parameterListRequires rest

/-- What a parameter requires, if there is one. -/
def optionalParameterRequires : Option Parameter → List CodePoints
  | none => []
  | some p => p.requires

/-- What the parameters of a function require. -/
def Parameters.requires : Parameters → List CodePoints
  | .mk positional regular rest named namedRest =>
    parameterListRequires positional ++ parameterListRequires regular ++
      optionalParameterRequires rest ++ parameterListRequires named ++
      optionalParameterRequires namedRest

end

mutual

/-- What a pattern requires. -/
def Pattern.requires : Pattern → List CodePoints
  | .value e => e.requires
  | .singleton _ => []
  | .sequence items => patternsRequire items
  | .mapping entries _ => mappingPatternsRequire entries
  | .cls constructor positional keywords =>
    constructor.requires ++ patternsRequire positional ++ keywordPatternsRequire keywords
  | .star _ => []
  | .as none _ => []
  | .as (some pattern) _ => pattern.requires
  | .or alternatives => patternsRequire alternatives

/-- What patterns require. -/
def patternsRequire : List Pattern → List CodePoints
  | [] => []
  | p :: rest => p.requires ++ patternsRequire rest

/-- What the entries of a mapping pattern require. -/
def mappingPatternsRequire : List (Expr × Pattern) → List CodePoints
  | [] => []
  | (key, p) :: rest => key.requires ++ p.requires ++ mappingPatternsRequire rest

/-- What keyword patterns require. -/
def keywordPatternsRequire : List (String × Pattern) → List CodePoints
  | [] => []
  | (_, p) :: rest => p.requires ++ keywordPatternsRequire rest

end

/-- The texts that a statement requires outside the blocks inside it. -/
def Stmt.requires : Stmt → List CodePoints
  | .functionDef _ _ parameters _ decorators returns =>
    expressionsRequire decorators ++ parameters.requires ++ optionRequires returns
  | .classDef _ bases keywords _ decorators =>
    expressionsRequire decorators ++ expressionsRequire bases ++ keywordsRequire keywords
  | .return value => optionRequires value
  | .delete targets => expressionsRequire targets
  | .assign targets value => expressionsRequire targets ++ value.requires
  | .augAssign target _ value => target.requires ++ value.requires
  | .annAssign target hint value _ => target.requires ++ hint.requires ++ optionRequires value
  | .for _ target iterable _ _ => target.requires ++ iterable.requires
  | .while test _ _ => test.requires
  | .if test _ _ => test.requires
  | .with _ items _ => items.flatMap fun item => item.context.requires ++ optionRequires item.target
  | .match subject _ => subject.requires
  | .raise exception cause => optionRequires exception ++ optionRequires cause
  | .try .. => []
  | .assert test message => test.requires ++ optionRequires message
  | .expr value => value.requires
  | .importModules _ | .importFrom .. | .global _ | .nonlocal _ | .pass | .break | .continue => []

/-- What a head requires, without the blocks below it. -/
def Head.requires : Head → List CodePoints
  | .statement s => s.requires
  | .case pattern guard => pattern.requires ++ optionRequires guard
  | .handler exceptions _ => optionRequires exceptions

/-- The texts that a block requires, in source order. -/
def blockRequires (block : List Stmt) : List CodePoints :=
  (blockHeads block).flatMap Head.requires

/-- The heads of two blocks are those of the first one and of the second one. -/
theorem blockHeads_append (first second : List Stmt) :
    blockHeads (first ++ second) = blockHeads first ++ blockHeads second := by
  induction first with
  | nil => rfl
  | cons s first ih =>
    rw [List.cons_append, blockHeads, blockHeads, ih, List.append_assoc]

/-- The heads of a block of statements without blocks inside them are these statements. -/
theorem blockHeads_of_simple {block : List Stmt} (h : ∀ s ∈ block, s.heads = [.statement s]) :
    blockHeads block = block.map .statement := by
  induction block with
  | nil => rfl
  | cons s block ih =>
    rw [blockHeads, h s List.mem_cons_self, ih fun t ht => h t (List.mem_cons_of_mem _ ht)]
    rfl

end Bundler.Syntax
