import Bundler.Proofs.Import.Failure

/-!
# What scoping does to every module

Scoping the imports of a module replaces the relative imports by their blocks whenever it succeeds.
It succeeds just when no name that the blocks write is a keyword. Such names are not ruled out by the
syntax of imports: a name in other characters may be the normal form of a keyword.

The block of an import leaves the same names behind that the import would have bound. The temporary
is among its names for a while only, unless the import binds that name itself.
-/

set_option autoImplicit false

namespace Bundler.Import

open Bundler.Syntax
open Bundler.Text (CodePoints)

/-! ## When scoping succeeds -/

/-- A step that may fail has a value. -/
def Succeeds {ε α : Type} (x : Except ε α) : Prop :=
  ∃ a, x = .ok a

section Succeeds

variable {ε α β : Type}

/-- A step that only gives a value has it. -/
theorem succeeds_pure (a : α) : Succeeds (pure a : Except ε α) :=
  ⟨a, rfl⟩

/-- If it does not depend on the value of the first step whether the second one succeeds, both of
them have to. -/
theorem succeeds_bind {x : Except ε α} {f : α → Except ε β} {P : Prop}
    (h : ∀ a, Succeeds (f a) ↔ P) : Succeeds (x >>= f) ↔ Succeeds x ∧ P := by
  constructor
  · rintro ⟨b, hb⟩
    obtain ⟨a, ha, hf⟩ := bind_eq_ok.mp hb
    exact ⟨⟨a, ha⟩, (h a).mp ⟨b, hf⟩⟩
  · rintro ⟨⟨a, ha⟩, hP⟩
    obtain ⟨b, hb⟩ := (h a).mpr hP
    exact ⟨b, bind_eq_ok.mpr ⟨a, ha, hb⟩⟩

/-- A step has a value if it does before a function is applied. -/
theorem succeeds_bind_pure {x : Except ε α} {f : α → β} :
    Succeeds (x >>= fun a => pure (f a)) ↔ Succeeds x := by
  rw [succeeds_bind fun a => iff_true_intro (succeeds_pure (f a)), and_true]

end Succeeds

namespace RelativeImport

/-- The names that are written into the block of an import: those that it binds, and those that it
reads from the module in the temporary. -/
def written (found : String → Bool) (i : RelativeImport) : List String :=
  if i.isStar then []
  else if i.module.isNone then i.names.map Alias.binding
  else i.names.flatMap fun a =>
    if found (i.nameReference a) then [Alias.binding a] else [Alias.binding a, a.name]

/-- No name that is written into the block of an import is a keyword. -/
def IsWritable (found : String → Bool) (i : RelativeImport) : Prop :=
  ∀ name ∈ i.written found, isKeyword name = false

end RelativeImport

section Success

variable {ε : Type}

/-- A value can be bound to names that are no keywords. -/
theorem succeeds_bindName {name written : String} {value : Expr} {names : List String} :
    Succeeds (bind name value names written : Except (ScopingError ε) Stmt) ↔
      ∀ n ∈ names, isKeyword n = false := by
  unfold bind
  by_cases hkeyword : names.any isKeyword
  · have hnone : ¬ ∀ n ∈ names, isKeyword n = false := by
      intro hall
      obtain ⟨n, hn, hn'⟩ := List.any_eq_true.mp hkeyword
      rw [hall n hn] at hn'
      exact Bool.false_ne_true hn'
    rw [if_pos hkeyword]
    refine iff_of_false ?_ hnone
    rintro ⟨s, hs⟩
    split at hs <;> cases hs
  · rw [if_neg hkeyword]
    refine iff_of_true ⟨_, rfl⟩ fun n hn => ?_
    rw [Bool.not_eq_true, List.any_eq_false] at hkeyword
    exact Bool.eq_false_iff.mpr (hkeyword n hn)

/-- Modules can be bound if no name that is bound is a keyword. -/
theorem succeeds_bindModules {level : Nat} {names : List Alias} :
    Succeeds (bindModules level names : Except (ScopingError ε) (Scoped (List Stmt))) ↔
      ∀ name ∈ names.map Alias.binding, isKeyword name = false := by
  induction names with
  | nil => exact iff_of_true (succeeds_pure _) (List.forall_mem_nil _)
  | cons a names ih =>
    rw [bindModules, succeeds_bind fun _ => succeeds_bind_pure, ih, List.map_cons,
      List.forall_mem_cons]
    exact and_congr_left' (succeeds_bindName.trans (by rw [List.forall_mem_singleton]))

variable (found : String → Bool)

/-- The answers of a predicate that has one for each reference. -/
def answering (reference : String) : Except ε Bool :=
  .ok (found reference)

/-- The modules that are found are those for which the answer is yes. -/
theorem finds_answering : finds (answering (ε := ε) found) = found :=
  rfl

/-- Members can be bound if no name that is bound or read is a keyword. -/
theorem succeeds_bindMembers {level : Nat} {module : Option String} {names : List Alias} :
    Succeeds (bindMembers (answering (ε := ε) found) level module names) ↔
      ∀ name ∈ names.flatMap fun a =>
          if found (referenceText level module (some a.name)) then [Alias.binding a]
          else [Alias.binding a, a.name],
        isKeyword name = false := by
  induction names with
  | nil => exact iff_of_true (succeeds_pure _) (List.forall_mem_nil _)
  | cons a names ih =>
    have hanswer : (answering (ε := ε) found (referenceText level module (some a.name))).mapError
        ScopingError.probe = .ok (found (referenceText level module (some a.name))) := rfl
    rw [bindMembers, List.flatMap_cons, List.forall_mem_append, ← ih]
    change Succeeds (Except.bind _ _) ↔ _
    rw [hanswer]
    cases hfound : found (referenceText level module (some a.name)) with
    | true => exact (succeeds_bind fun _ => succeeds_bind_pure).trans (and_congr_left' succeeds_bindName)
    | false => exact (succeeds_bind fun _ => succeeds_bind_pure).trans (and_congr_left' succeeds_bindName)

/-- A relative import becomes a block just when the names in the block are no keywords. -/
theorem succeeds_scopedImport (i : RelativeImport) :
    Succeeds (scopedImport (answering (ε := ε) found) i.module i.names i.level) ↔
      i.IsWritable found := by
  obtain ⟨module, names, level⟩ := i
  unfold scopedImport RelativeImport.IsWritable RelativeImport.written RelativeImport.isStar
  dsimp only
  cases hstar : names.any (·.name == "*") with
  | true =>
    simp only [Bool.not_true, Bool.and_false, Bool.false_eq_true, if_false, if_true]
    exact iff_of_true (succeeds_pure _) (List.forall_mem_nil _)
  | false =>
    cases module with
    | none => exact succeeds_bind_pure.trans succeeds_bindModules
    | some module => exact succeeds_bind_pure.trans (succeeds_bindMembers found)

/-- No relative import among heads writes a keyword. -/
def HeadsWritable (heads : List Head) : Prop :=
  ∀ i ∈ heads.filterMap import?, i.IsWritable found

/-- Nothing is in the way where there are no heads. -/
theorem headsWritable_nil : HeadsWritable found [] :=
  List.forall_mem_nil _

/-- Heads can be written if those of both parts can. -/
theorem headsWritable_append (first second : List Head) :
    HeadsWritable found (first ++ second) ↔
      HeadsWritable found first ∧ HeadsWritable found second := by
  rw [HeadsWritable, List.filterMap_append, List.forall_mem_append]
  rfl

/-- A head that is no relative import is not in the way. -/
theorem headsWritable_cons {head : Head} (h : import? head = none) (rest : List Head) :
    HeadsWritable found (head :: rest) ↔ HeadsWritable found rest := by
  rw [HeadsWritable, List.filterMap_cons_none h]
  rfl

mutual

/-- The imports in a statement can be scoped just when they write no keywords. -/
theorem succeeds_scopeStmt : (s : Stmt) →
    (Succeeds (scopeStmt (answering (ε := ε) found) s) ↔ HeadsWritable found s.heads)
  | .importFrom module names level => by
    rw [scopeStmt]
    by_cases hlevel : level = 0
    · have himports : (Stmt.importFrom module names level).heads.filterMap import? = [] := by
        simp [Stmt.heads, import?, hlevel]
      rw [if_pos hlevel, HeadsWritable, himports]
      exact iff_of_true (succeeds_pure _) (List.forall_mem_nil _)
    · have himports : (Stmt.importFrom module names level).heads.filterMap import? =
          [⟨module, names, level⟩] := by
        simp [Stmt.heads, import?, hlevel]
      rw [if_neg hlevel, HeadsWritable, himports, List.forall_mem_singleton]
      exact succeeds_scopedImport found ⟨module, names, level⟩
  | .functionDef _ _ _ body _ _ | .classDef _ _ _ body _ | .with _ _ body => by
    rw [scopeStmt, Stmt.heads, headsWritable_cons found rfl, ← succeeds_scopeBlock body]
    exact succeeds_bind_pure
  | .for _ _ _ body orElse | .while _ body orElse | .if _ body orElse => by
    rw [scopeStmt, Stmt.heads, List.cons_append, headsWritable_cons found rfl,
      headsWritable_append, ← succeeds_scopeBlock body, ← succeeds_scopeBlock orElse]
    exact succeeds_bind fun _ => succeeds_bind_pure
  | .match _ cases => by
    rw [scopeStmt, Stmt.heads, headsWritable_cons found rfl, ← succeeds_scopeCases cases]
    exact succeeds_bind_pure
  | .try _ body handlers orElse final => by
    rw [scopeStmt, Stmt.heads, List.cons_append, List.cons_append, List.cons_append,
      headsWritable_cons found rfl, headsWritable_append, headsWritable_append,
      headsWritable_append, ← succeeds_scopeBlock body, ← succeeds_scopeHandlers handlers,
      ← succeeds_scopeBlock orElse, ← succeeds_scopeBlock final, and_assoc, and_assoc]
    exact succeeds_bind fun _ => succeeds_bind fun _ => succeeds_bind fun _ => succeeds_bind_pure
  | .return _ | .delete _ | .assign _ _ | .augAssign _ _ _ | .annAssign _ _ _ _ | .raise _ _
  | .assert _ _ | .importModules _ | .global _ | .nonlocal _ | .expr _ | .pass | .break
  | .continue => iff_of_true (succeeds_pure _) (headsWritable_nil found)

/-- A block can be scoped if its heads can be written. -/
theorem succeeds_scopeBlock : (block : List Stmt) →
    (Succeeds (scopeBlock (answering (ε := ε) found) block) ↔
      HeadsWritable found (blockHeads block))
  | [] => iff_of_true (succeeds_pure _) (headsWritable_nil found)
  | s :: rest => by
    rw [scopeBlock, blockHeads, headsWritable_append, ← succeeds_scopeStmt s,
      ← succeeds_scopeBlock rest]
    exact succeeds_bind fun _ => succeeds_bind_pure

/-- Cases can be scoped if their heads can be written. -/
theorem succeeds_scopeCases : (cases : List MatchCase) →
    (Succeeds (scopeCases (answering (ε := ε) found) cases) ↔
      HeadsWritable found (caseHeads cases))
  | [] => iff_of_true (succeeds_pure _) (headsWritable_nil found)
  | .mk _ _ body :: rest => by
    rw [scopeCases, caseHeads, List.cons_append, headsWritable_cons found rfl,
      headsWritable_append, ← succeeds_scopeBlock body, ← succeeds_scopeCases rest]
    exact succeeds_bind fun _ => succeeds_bind_pure

/-- Handlers can be scoped if their heads can be written. -/
theorem succeeds_scopeHandlers : (handlers : List Handler) →
    (Succeeds (scopeHandlers (answering (ε := ε) found) handlers) ↔
      HeadsWritable found (handlerHeads handlers))
  | [] => iff_of_true (succeeds_pure _) (headsWritable_nil found)
  | .mk _ _ body :: rest => by
    rw [scopeHandlers, handlerHeads, List.cons_append, headsWritable_cons found rfl,
      headsWritable_append, ← succeeds_scopeBlock body, ← succeeds_scopeHandlers rest]
    exact succeeds_bind fun _ => succeeds_bind_pure

end

end Success

/-! ## The names that are left behind -/

/-- The name that is assigned to or deleted. -/
def targetName? : Expr → Option String
  | .name id => some id
  | _ => none

/-- The names that are bound after an import, or after a statement of the block of one. -/
def boundAfter (bound : List String) : Stmt → List String
  | .assign targets _ => bound ++ targets.filterMap targetName?
  | .delete targets => bound.filter fun name => name ∉ targets.filterMap targetName?
  | .importFrom _ names _ => bound ++ names.map Alias.binding
  | _ => bound

/-- Assignments to the names of an import bind them in order. -/
theorem foldl_boundAfter_assign {names : List Alias} {assignment : Alias → Stmt}
    (h : ∀ a ∈ names, ∃ value, assignment a = .assign [.name (Alias.binding a)] value)
    (bound : List String) :
    (names.map assignment).foldl boundAfter bound = bound ++ names.map Alias.binding := by
  induction names generalizing bound with
  | nil => simp
  | cons a names ih =>
    obtain ⟨value, hvalue⟩ := h a List.mem_cons_self
    have hbound : boundAfter bound (assignment a) = bound ++ [Alias.binding a] := by
      rw [hvalue]
      rfl
    rw [List.map_cons, List.foldl_cons, hbound, ih (fun b hb => h b (List.mem_cons_of_mem _ hb)),
      List.append_assoc, List.map_cons, List.singleton_append]

namespace RelativeImport

variable (found : String → Bool) (i : RelativeImport)

/-- The statement that a relative import is. -/
def statement : Stmt :=
  .importFrom i.module i.names i.level

/-- The block of an import leaves the names bound that the import would have bound. -/
theorem foldl_boundAfter_block (hstar : i.isStar = false)
    (hbinds : temporary ∉ i.names.map Alias.binding) {bound : List String}
    (hbound : temporary ∉ bound) :
    (i.block found).foldl boundAfter bound = boundAfter bound i.statement := by
  change _ = bound ++ i.names.map Alias.binding
  have hpublication : boundAfter bound publication = bound := rfl
  unfold block
  rw [List.foldl_cons, hpublication, hstar, if_neg Bool.false_ne_true]
  by_cases hmodule : i.module.isNone
  · rw [if_pos hmodule]
    exact foldl_boundAfter_assign (fun _ _ => ⟨_, rfl⟩) bound
  · have hassign : ∀ a ∈ i.names, ∃ value,
        (if found (i.nameReference a) then i.bindRequired a else bindRead a) =
          .assign [.name (Alias.binding a)] value := by
      intro a _
      split
      · exact ⟨_, rfl⟩
      · exact ⟨_, rfl⟩
    have htemporary (value : Expr) :
        boundAfter bound (.assign [.name temporary] value) = bound ++ [temporary] := rfl
    rw [if_neg hmodule, List.foldl_append, List.foldl_cons, List.foldl_nil, List.foldl_cons,
      htemporary, foldl_boundAfter_assign hassign]
    -- What is deleted in the end is the temporary, which stands between the names.
    have hkeep : ∀ names : List String, temporary ∉ names →
        (names.filter fun name => name ∉ [temporary]) = names := by
      intro names hnames
      rw [List.filter_eq_self]
      intro name hname
      simpa using fun h : name = temporary => hnames (h ▸ hname)
    change ((bound ++ [temporary] ++ i.names.map Alias.binding).filter
      fun name => name ∉ [temporary]) = _
    rw [List.filter_append, List.filter_append, hkeep _ hbound, hkeep _ hbinds]
    simp

end RelativeImport

/-! ## Every module -/

/-- What scoping makes of a module, where `found` tells which references name modules. -/
structure IsScopingOf (found : String → Bool) (m : Module) (r : Scoped Module) : Prop where
  /-- Each relative import is replaced by its block, at whatever depth it stands. -/
  value : r.value = replaceBlock (RelativeImport.block found) m
  /-- All other statements, cases and handlers stay as they are, and in their order. -/
  heads : blockHeads r.value = (blockHeads m).flatMap (replaceHead (RelativeImport.block found))
  /-- No relative import is left. -/
  complete : relativeImports r.value = []
  /-- The references are those of the imports, in source order. -/
  references : r.references = (relativeImports m).flatMap (RelativeImport.references found)
  /-- They are what the blocks require. -/
  required : r.references.map CodePoints.ofString =
    (relativeImports m).flatMap fun i => blockRequires (i.block found)
  /-- The blocks leave the names behind that the imports would have bound. -/
  names : ∀ i ∈ relativeImports m, i.isStar = false → temporary ∉ i.names.map Alias.binding →
    ∀ bound, temporary ∉ bound →
      (i.block found).foldl boundAfter bound = boundAfter bound i.statement

/-- Scoping the imports of a module replaces them by their blocks, unless a keyword would be written
into a block; then it fails for that reason. -/
theorem scopeImports_exact {ε : Type} (found : String → Bool) (m : Module) :
    ((∀ i ∈ relativeImports m, i.IsWritable found) →
      ∃ r, scopeImports (answering (ε := ε) found) m = .ok r ∧ IsScopingOf found m r) ∧
    ((∃ i ∈ relativeImports m, ¬ i.IsWritable found) →
      ∃ error, scopeImports (answering (ε := ε) found) m = .error (.keyword error)) := by
  have hsucceeds : Succeeds (scopeImports (answering (ε := ε) found) m) ↔
      ∀ i ∈ relativeImports m, i.IsWritable found := succeeds_scopeBlock found m
  constructor
  · intro hwritable
    obtain ⟨r, hr⟩ := hsucceeds.mpr hwritable
    obtain ⟨hvalue, hreferences⟩ := scopeImports_ok hr
    rw [finds_answering] at hvalue hreferences
    refine ⟨r, hr, hvalue, ?_, ?_, hreferences, ?_, ?_⟩
    · rw [hvalue, blockHeads_replaceBlock]
    · rw [hvalue]
      exact relativeImports_replaceBlock _ (relativeImports_block found) m
    · simp only [hreferences, List.map_flatMap, blockRequires_block]
    · intro i _ hstar hbinds bound hbound
      exact i.foldl_boundAfter_block found hstar hbinds hbound
  · rintro ⟨i, hi, hkeyword⟩
    cases hresult : scopeImports (answering (ε := ε) found) m with
    | ok r => exact absurd (hsucceeds.mp ⟨r, hresult⟩ i hi) hkeyword
    | error e =>
      obtain ⟨other, _, hfails⟩ := exists_fails_of_scopeImports hresult
      cases hfails with
      | keyword _ _ => exact ⟨_, rfl⟩
      | probe _ hprobe => cases hprobe

/-- A function that imports a submodule and a name of a package, which are bound by one block. -/
theorem scopeImports_exact_function :
    ∃ r, scopeImports (answering (ε := Empty) fun reference => reference == ".p.sub")
        [.functionDef false "f" (.mk [] [] none [] none)
          [.importFrom (some "p") [⟨"sub", none⟩, ⟨"a", some "b"⟩] 1] [] none] = .ok r ∧
      IsScopingOf (fun reference => reference == ".p.sub")
        [.functionDef false "f" (.mk [] [] none [] none)
          [.importFrom (some "p") [⟨"sub", none⟩, ⟨"a", some "b"⟩] 1] [] none] r :=
  (scopeImports_exact _ _).1 (by
    intro i hi
    rw [List.mem_singleton.mp hi]
    unfold RelativeImport.IsWritable
    decide +kernel)

/-- An imported name that is a keyword cannot be bound, although a tree can hold such an import. -/
theorem not_succeeds_scopeImports_keyword :
    ¬ Succeeds (scopeImports (answering (ε := Empty) fun _ => false)
      [.importFrom none [⟨"if", none⟩] 1]) := by
  intro h
  have hwritable := (succeeds_scopeBlock _ _).mp h
  have hkeyword := hwritable ⟨none, [⟨"if", none⟩], 1⟩ (List.mem_singleton_self _) "if"
    (List.mem_singleton_self _)
  revert hkeyword
  decide +kernel

end Bundler.Import
