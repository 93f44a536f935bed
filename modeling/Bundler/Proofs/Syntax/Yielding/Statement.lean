import Bundler.Proofs.Reference.Dotted
import Bundler.Proofs.Syntax.Yielding.Expression

/-!
# Imports of a source are plain

The rules for statements yield statements whose imports are plain: the names in an import are normal
forms of words, with single dots between them. By induction on the depth to which the rules are
applied this holds of the whole grammar, and so of every source that can be parsed.
-/

set_option autoImplicit false
set_option synthInstance.maxSize 1000
set_option synthInstance.maxHeartbeats 200000

namespace Bundler.Syntax

open Bundler.Import (ArePlain import? arePlain_nil arePlain_append arePlain_blockHeads
  arePlain_handlerHeads arePlain_caseHeads arePlain_importFrom relativeImports)

variable {α β : Type} {body orElse final : List Stmt}

/-- A bare name is plain. -/
theorem IsBareName.isPlain {name : String} (h : IsBareName name) : Import.IsPlain name where
  no_slash := h.no_slash
  no_dot hhead := h.no_dot (List.mem_of_mem_head? (Option.mem_def.mpr hhead))

/-- Bare names with dots between them are plain. -/
theorem isPlain_intercalate {names : List String} (h : ∀ name ∈ names, IsBareName name) :
    Import.IsPlain (".".intercalate names) := by
  have htext : (".".intercalate names).toList = DottedReference.joined names := by
    simp [DottedReference.joined, String.toList_intercalate]
  refine ⟨fun hslash => ?_, ?_⟩
  · rw [htext] at hslash
    rcases DottedReference.mem_joined hslash with hdot | ⟨name, hname, hslash⟩
    · exact absurd hdot (by decide)
    · exact (h name hname).no_slash hslash
  · rw [htext]
    exact DottedReference.head?_joined (fun name hname => (h name hname).ne_empty)
      fun name hname => (h name hname).no_dot

namespace Parser

variable {P : α → Prop} {p : Parser α}

/-- What is separated by commas is as asked. -/
instance [Checked α] [hp : Yields p Checked.Holds] : Yields (commaSeparated p) Checked.Holds := by
  unfold commaSeparated
  infer_instance

/-- What is ended by commas is as asked. -/
instance [Checked α] [hp : Yields p Checked.Holds] : Yields (commaTerminated p) Checked.Holds := by
  unfold commaTerminated
  infer_instance

/-! ## Simple statements -/

/-- A statement without blocks that is no import is as asked. -/
theorem holds_of_simple {s : Stmt} (hheads : s.heads = [.statement s])
    (himport : import? (.statement s) = none) : Checked.Holds s := by
  change ArePlain s.heads
  rw [hheads]
  exact arePlain_nil.cons himport

section Simple

variable {e target hint value : Expr} {targets : List Expr} {o o' : Option Expr}
  {names : List String}

/-- A declaration is as asked. -/
instance {simple : Bool} : Fact (Checked.Holds (Stmt.annAssign target hint o simple)) :=
  ⟨holds_of_simple rfl rfl⟩

/-- An assignment is as asked. -/
instance : Fact (Checked.Holds (Stmt.assign targets value)) := ⟨holds_of_simple rfl rfl⟩

/-- An assignment with an operator is as asked. -/
instance {op : BinaryOp} : Fact (Checked.Holds (Stmt.augAssign target op value)) :=
  ⟨holds_of_simple rfl rfl⟩

/-- A return is as asked. -/
instance : Fact (Checked.Holds (Stmt.return o)) := ⟨holds_of_simple rfl rfl⟩

/-- A raise is as asked. -/
instance : Fact (Checked.Holds (Stmt.raise o o')) := ⟨holds_of_simple rfl rfl⟩

/-- A deletion is as asked. -/
instance : Fact (Checked.Holds (Stmt.delete targets)) := ⟨holds_of_simple rfl rfl⟩

/-- An assertion is as asked. -/
instance : Fact (Checked.Holds (Stmt.assert e o)) := ⟨holds_of_simple rfl rfl⟩

/-- A declaration of global names is as asked. -/
instance : Fact (Checked.Holds (Stmt.global names)) := ⟨holds_of_simple rfl rfl⟩

/-- A declaration of outer names is as asked. -/
instance : Fact (Checked.Holds (Stmt.nonlocal names)) := ⟨holds_of_simple rfl rfl⟩

/-- An import of modules is as asked. -/
instance {names : List Alias} : Fact (Checked.Holds (Stmt.importModules names)) :=
  ⟨holds_of_simple rfl rfl⟩

/-- An expression is as asked. -/
instance : Fact (Checked.Holds (Stmt.expr e)) := ⟨holds_of_simple rfl rfl⟩

/-- No operation is as asked. -/
instance : Fact (Checked.Holds Stmt.pass) := ⟨holds_of_simple rfl rfl⟩

/-- Leaving a loop is as asked. -/
instance : Fact (Checked.Holds Stmt.break) := ⟨holds_of_simple rfl rfl⟩

/-- Going on with a loop is as asked. -/
instance : Fact (Checked.Holds Stmt.continue) := ⟨holds_of_simple rfl rfl⟩

end Simple

/-! ## Statements with blocks -/

section Compound

variable [hbody : Fact (Checked.Holds body)] [horElse : Fact (Checked.Holds orElse)]
  [hfinal : Fact (Checked.Holds final)]

/-- A function definition is as asked if what is in it is. -/
instance {isAsync : Bool} {name : String} {parameters : Parameters} {decorators : List Expr}
    {returns : Option Expr} :
    Fact (Checked.Holds (Stmt.functionDef isAsync name parameters body decorators returns)) :=
  ⟨(arePlain_blockHeads hbody.out).cons rfl⟩

/-- A class definition is as asked if what is in it is. -/
instance {name : String} {bases decorators : List Expr} {keywords : List KeywordArgument} :
    Fact (Checked.Holds (Stmt.classDef name bases keywords body decorators)) :=
  ⟨(arePlain_blockHeads hbody.out).cons rfl⟩

/-- A loop over an iterable is as asked if what is in it is. -/
instance {isAsync : Bool} {target iterable : Expr} :
    Fact (Checked.Holds (Stmt.for isAsync target iterable body orElse)) :=
  ⟨arePlain_append.mpr ⟨(arePlain_blockHeads hbody.out).cons rfl, arePlain_blockHeads horElse.out⟩⟩

/-- A conditional loop is as asked if what is in it is. -/
instance {test : Expr} : Fact (Checked.Holds (Stmt.while test body orElse)) :=
  ⟨arePlain_append.mpr ⟨(arePlain_blockHeads hbody.out).cons rfl, arePlain_blockHeads horElse.out⟩⟩

/-- A conditional is as asked if what is in it is. -/
instance {test : Expr} : Fact (Checked.Holds (Stmt.if test body orElse)) :=
  ⟨arePlain_append.mpr ⟨(arePlain_blockHeads hbody.out).cons rfl, arePlain_blockHeads horElse.out⟩⟩

/-- A block with context managers is as asked if what is in it is. -/
instance {isAsync : Bool} {items : List WithItem} :
    Fact (Checked.Holds (Stmt.with isAsync items body)) :=
  ⟨(arePlain_blockHeads hbody.out).cons rfl⟩

/-- A choice by patterns is as asked if what is in it is. -/
instance {subject : Expr} {cases : List MatchCase} [h : Fact (Checked.Holds cases)] :
    Fact (Checked.Holds (Stmt.match subject cases)) :=
  ⟨(arePlain_caseHeads h.out).cons rfl⟩

/-- A guarded block is as asked if what is in it is. -/
instance {isStar : Bool} {handlers : List Handler} [h : Fact (Checked.Holds handlers)] :
    Fact (Checked.Holds (Stmt.try isStar body handlers orElse final)) := by
  have hhead : ArePlain (.statement (.try isStar [] [] [] []) :: blockHeads body) :=
    (arePlain_blockHeads hbody.out).cons rfl
  have hfront := arePlain_append.mpr ⟨hhead, arePlain_handlerHeads h.out⟩
  have hmiddle := arePlain_append.mpr ⟨hfront, arePlain_blockHeads horElse.out⟩
  exact ⟨arePlain_append.mpr ⟨hmiddle, arePlain_blockHeads hfinal.out⟩⟩

/-- A handler is as asked if its block is. -/
instance {exceptions : Option Expr} {name : Option String} :
    Fact (Checked.Holds (Handler.mk exceptions name body)) :=
  ⟨arePlain_append.mpr ⟨(arePlain_blockHeads hbody.out).cons rfl, arePlain_nil⟩⟩

/-- A case is as asked if its block is. -/
instance {pattern : Pattern} {guard : Option Expr} :
    Fact (Checked.Holds (MatchCase.mk pattern guard body)) :=
  ⟨arePlain_append.mpr ⟨(arePlain_blockHeads hbody.out).cons rfl, arePlain_nil⟩⟩

end Compound

variable {r : Rules} [hr : ∀ n, Yields (r n) n.Holds] [hs : ∀ n, IsSafe (r n)]

/-- The operator of an assignment is safe. -/
instance : IsSafe augmentedOperator := by
  unfold augmentedOperator
  infer_instance

/-- A list or tuple in the place of a target is safe. -/
instance : IsSafe (hintTarget r) := by
  unfold hintTarget
  infer_instance

/-- The targets of an assignment are safe. -/
instance : IsSafe (assignedTargets r) := by
  unfold assignedTargets
  infer_instance

/-- The value of a declaration is safe. -/
instance : IsSafe (declaredValue r) := by
  unfold declaredValue
  infer_instance

/-- An assignment is as asked. -/
instance : Yields (assignment r) Checked.Holds := by
  unfold assignment invalidAssignment
  infer_instance

/-- A return is as asked. -/
instance : Yields (returnStatement r) Checked.Holds := by
  unfold returnStatement
  infer_instance

/-- A raise is as asked. -/
instance : Yields (raiseStatement r) Checked.Holds := by
  unfold raiseStatement
  infer_instance

/-- A deletion is as asked. -/
instance : Yields (delStatement r) Checked.Holds := by
  unfold delStatement
  infer_instance

/-- An assertion is as asked. -/
instance : Yields (assertStatement r) Checked.Holds := by
  unfold assertStatement
  infer_instance

/-- A declaration of names is as asked. -/
instance {word : String} {make : List String → Stmt} [∀ names, Fact (Checked.Holds (make names))] :
    Yields (scopeStatement word make) Checked.Holds := by
  unfold scopeStatement
  infer_instance

/-! ## Imports -/

/-- Identifiers are bare. -/
theorem yields_name : Yields name IsBareName := by
  unfold name
  refine yields_tokenIf.bind fun t ht => yields_pure ?_
  exact (ht.1 (of_decide_eq_true ht.2)).isBareName

/-- Identifiers are plain. -/
instance : Yields name Checked.Holds :=
  yields_name.mono fun _ h => h.isPlain

/-- Dotted names are plain. -/
instance : Yields dottedName Checked.Holds := by
  have hothers : Yields (do let _ ← tok "."; name) IsBareName :=
    yields_after inferInstance fun _ => yields_name
  refine yields_rule (yields_name.bind fun first hfirst => hothers.many.bind fun others h => ?_)
  exact yields_pure (isPlain_intercalate (List.forall_mem_cons.mpr ⟨hfirst, h⟩))

/-- What is imported under another name has the name that is imported. -/
instance {imported : String} {asName : Option String} [h : Fact (Checked.Holds imported)] :
    Fact (Checked.Holds ({ name := imported, asName } : Alias)) :=
  h

/-- A star is plain. -/
instance : Fact (Checked.Holds "*") := ⟨⟨by decide, by decide⟩⟩

/-- An import is as asked if its names are. -/
instance {module : Option String} {names : List Alias} {level : Nat}
    [hmodule : Fact (Checked.Holds module)] [hnames : Fact (Checked.Holds names)] :
    Fact (Checked.Holds (Stmt.importFrom module names level)) :=
  ⟨arePlain_importFrom hmodule.out hnames.out⟩

/-- Something imported is as asked. -/
instance {imported : Parser String} [Yields imported Checked.Holds] :
    Yields (importAlias imported) Checked.Holds := by
  unfold importAlias
  infer_instance

/-- An import of modules is as asked. -/
instance : Yields importStatement Checked.Holds := by
  unfold importStatement
  infer_instance

/-- Leading dots are safe. -/
instance : IsSafe leadingDots := by
  unfold leadingDots
  infer_instance

/-- The names imported from a module are as asked. -/
instance : Yields importedNames Checked.Holds := by
  unfold importedNames
  infer_instance

/-- An import from a module is as asked. -/
instance : Yields importFromStatement Checked.Holds := by
  unfold importFromStatement
  infer_instance

/-- A simple statement is as asked. -/
instance : Yields (simpleStatement r) Checked.Holds := by
  unfold simpleStatement
  infer_instance

/-- The simple statements of a line are as asked. -/
instance : Yields (simpleStatements r) Checked.Holds := by
  unfold simpleStatements
  infer_instance

/-! ## Blocks -/

/-- Statements in a row are as asked. -/
instance : Yields (statements r) Checked.Holds := by
  unfold statements
  infer_instance

/-- A block is as asked. -/
instance : Yields (block r) Checked.Holds := by
  unfold block
  infer_instance

/-- The fault of a missing block yields nothing. -/
instance {head : BlockHead} {line : Nat} : Yields (missingBlock head line : Parser α) P := by
  unfold missingBlock
  infer_instance

/-- The fault of a missing colon yields nothing. -/
instance : Yields (missingColon : Parser α) P := by
  unfold missingColon
  infer_instance

/-- The block of an alternative is as asked. -/
instance : Yields (elseBlock r) Checked.Holds := by
  unfold elseBlock
  infer_instance

/-- The faults of a condition yield nothing. -/
instance {word : String} : Yields (invalidConditionHead r word : Parser α) P := by
  unfold invalidConditionHead
  infer_instance

/-- A conditional is as asked. -/
instance {word : String} : Yields (conditionalFrom r word) Checked.Holds := by
  unfold conditionalFrom
  infer_instance

/-- A conditional loop is as asked. -/
instance : Yields (whileStatement r) Checked.Holds := by
  unfold whileStatement
  infer_instance

/-- A loop over an iterable is as asked. -/
instance : Yields (forStatement r) Checked.Holds := by
  unfold forStatement forStatement.loop invalidFor invalidFor.head
  infer_instance

/-- A context manager is safe. -/
instance : IsSafe (withItem r) := by
  unfold withItem
  infer_instance

/-- The head of a block with context managers is safe. -/
instance {parenthesized : Bool} : IsSafe (looseWithHead r parenthesized) := by
  unfold looseWithHead
  infer_instance

/-- A block with context managers is as asked. -/
instance : Yields (withStatement r) Checked.Holds := by
  unfold withStatement withStatement.missing withStatement.withBody
  infer_instance

/-- The name of an exception is safe. -/
instance : IsSafe handlerName := by
  unfold handlerName
  infer_instance

/-- A handler is as asked. -/
instance : Yields (handler r) Checked.Holds := by
  unfold handler invalidHandler
  infer_instance

/-- A handler of exception groups is as asked. -/
instance : Yields (groupHandler r) Checked.Holds := by
  unfold groupHandler invalidHandler
  infer_instance

/-- The block that is run last is as asked. -/
instance : Yields (finallyBlock r) Checked.Holds := by
  unfold finallyBlock
  infer_instance

/-- A guarded block is as asked. -/
instance : Yields (tryStatement r) Checked.Holds := by
  unfold tryStatement tryStatement.handled invalidTry
  infer_instance

/-- The subject of a match statement is safe. -/
instance : IsSafe (subject r) := by
  unfold subject
  infer_instance

/-- The condition of a case is safe. -/
instance : IsSafe (guard r) := by
  unfold guard
  infer_instance

/-- A case is as asked. -/
instance : Yields (matchCase r) Checked.Holds := by
  unfold matchCase
  infer_instance

/-- A choice by patterns is as asked. -/
instance : Yields (matchStatement r) Checked.Holds := by
  unfold matchStatement
  infer_instance

/-- Decorators are safe. -/
instance : IsSafe (decorators r) := by
  unfold decorators
  infer_instance

/-- The bases of a class are safe. -/
instance : IsSafe (classArguments r) := by
  unfold classArguments
  infer_instance

/-- A class definition without its decorators is as asked. -/
instance {ds : List Expr} : Yields (undecoratedClass r ds) Checked.Holds := by
  unfold undecoratedClass
  infer_instance

/-- A class definition is as asked. -/
instance : Yields (classDefinition r) Checked.Holds := by
  unfold classDefinition
  infer_instance

/-- The type of what a function returns is safe. -/
instance : IsSafe (returnHint r) := by
  unfold returnHint
  infer_instance

/-- A function definition without any marks is as asked. -/
instance {ds : List Expr} {isAsync : Bool} :
    Yields (undecoratedFunction.definition r ds isAsync) Checked.Holds := by
  unfold undecoratedFunction.definition
  infer_instance

/-- A function definition without its decorators is as asked. -/
instance {ds : List Expr} : Yields (undecoratedFunction r ds) Checked.Holds := by
  unfold undecoratedFunction
  infer_instance

/-- A function definition is as asked. -/
instance : Yields (functionDefinition r) Checked.Holds := by
  unfold functionDefinition
  infer_instance

/-- A compound statement is as asked. -/
instance : Yields (compoundStatement r) Checked.Holds := by
  unfold compoundStatement compoundStatement.onlyAt
  infer_instance

/-- A statement is as asked. -/
instance : Yields (statement r) Checked.Holds := by
  unfold statement
  infer_instance

/-- The statements of a source are as asked. -/
instance : Yields (source r) Checked.Holds := by
  unfold source
  infer_instance

/-! ## The grammar -/

/-- The rule of a nonterminal yields what is asked of it if the rules it refers to do. -/
theorem yields_ruleFor (n : Nonterminal) : Yields (ruleFor r n) n.Holds := by
  cases n <;> dsimp only [ruleFor] <;> infer_instance

/-- The rules of the grammar yield what is asked of them. -/
theorem yields_rules (fuel : Nat) : ∀ n, Yields (rules fuel n) n.Holds := by
  induction fuel with
  | zero => exact fun n => inferInstanceAs (Yields fail n.Holds)
  | succ fuel ih =>
    intro n
    have hsafe : ∀ n, IsSafe (rules fuel n) := fun n => (ih n).isSafe
    have hrule := yields_rule (yields_ruleFor n (r := rules fuel))
    unfold rules
    dsimp only
    split
    · exact hrule.keep
    · exact hrule

end Parser

variable {P : α → Prop}

/-- A source is parsed to what its rule yields. -/
theorem holds_of_parseStream {c : ParseContext} {start : Rules → Parser α} {a : α}
    (hformed : AreFormed c.stream.tokens)
    (hstart : ∀ r : Rules, (∀ n, Parser.Yields (r n) n.Holds) → Parser.Yields (start r) P)
    (h : parseStream c start = .ok a) : P a := by
  have hrules := Parser.yields_rules (40 * (c.stream.tokens.size + 2))
  have hempty : ParseState.IsSound
      { position := 0, reach := 0, diagnosing := false, kept := ∅ } := by
    intro place n result stop hkept
    cases hkept
  have hreply := (Parser.yields_rule (hstart _ hrules)).isSound c _ hformed hempty
  unfold parseStream at h
  dsimp only at h
  generalize Parser.rule _ c _ = reply at hreply h
  cases hreply with
  | matched result kept =>
    cases h
    exact result
  | noMatch =>
    -- The diagnosing pass only finds the fault to report.
    dsimp only at h
    split at h <;> cases h
  | gaveUp =>
    dsimp only at h
    split at h <;> cases h
  | raised => cases h

/-- The imports of a source that can be parsed are plain. -/
theorem isPlain_of_parse {source : String} {tree : Module} (h : parse source = .ok tree) :
    ∀ i ∈ relativeImports tree, i.IsPlain := by
  have hholds : Checked.Holds tree := by
    refine holds_of_parseStream (areFormed_tokenize source) (fun r hr => ?_) h
    have hsafe : ∀ n, Parser.IsSafe (r n) := fun n => (hr n).isSafe
    infer_instance
  exact arePlain_blockHeads hholds

end Bundler.Syntax
