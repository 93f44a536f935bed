import Bundler.Import.Scoping
import Bundler.Proofs.Import.Heads
import Bundler.Proofs.Outcome

/-!
# Scoping as a replacement

Scoping the imports of a module replaces each relative import, at whatever depth it stands, by a
block that is determined by the import alone, once it is known which references name modules. All
other statements, cases and handlers stay as they are and where they are. The references that are
collected on the way are those of the blocks in source order, and they are just what the blocks
require.
-/

set_option autoImplicit false

namespace Bundler.Import

open Bundler.Syntax
open Bundler.Text (CodePoints)

/-- A relative import. -/
structure RelativeImport where
  /-- The module after the dots. -/
  module : Option String
  /-- The imported names. -/
  names : List Alias
  /-- The number of dots. -/
  level : Nat

namespace RelativeImport

/-- Whether an import asks for all names of its module. -/
def isStar (i : RelativeImport) : Bool :=
  i.names.any (·.name == "*")

/-- The reference of an imported name, as that of a module. -/
def nameReference (i : RelativeImport) (a : Alias) : String :=
  referenceText i.level i.module (some a.name)

/-- The reference of the module that names are imported from. -/
def moduleReference (i : RelativeImport) : String :=
  referenceText i.level i.module none

/-- The imported names that are not read from the module, because modules of these names exist. -/
def submodules (found : String → Bool) (i : RelativeImport) : List String :=
  if i.module.isNone || i.isStar then [] else (i.names.map i.nameReference).filter found

/-- The references of an import. -/
def references (found : String → Bool) (i : RelativeImport) : List String :=
  if i.module.isNone && !i.isStar then i.names.map i.nameReference
  else i.moduleReference :: i.submodules found

/-- The assignment of a required module to a name. -/
def bindRequired (i : RelativeImport) (a : Alias) : Stmt :=
  .assign [.name (Alias.binding a)] (require (i.nameReference a))

/-- The assignment of a name of the module in the temporary. -/
def bindRead (a : Alias) : Stmt :=
  .assign [.name (Alias.binding a)] (.attribute (.name temporary) a.name)

/-- The block that replaces an import. -/
def block (found : String → Bool) (i : RelativeImport) : List Stmt :=
  publication ::
    if i.isStar then [spread i.moduleReference]
    else if i.module.isNone then i.names.map i.bindRequired
    else
      .assign [.name temporary] (require i.moduleReference) ::
        (i.names.map fun a => if found (i.nameReference a) then i.bindRequired a else bindRead a) ++
        [.delete [.name temporary]]

end RelativeImport

/-- The relative import that a head is. -/
def import? : Head → Option RelativeImport
  | .statement (.importFrom module names level) =>
    if level = 0 then none else some ⟨module, names, level⟩
  | _ => none

/-- The relative imports of a block, in source order. -/
def relativeImports (block : List Stmt) : List RelativeImport :=
  (blockHeads block).filterMap import?

mutual

/-- A statement with every relative import replaced. -/
def replaceStmt (f : RelativeImport → List Stmt) : Stmt → List Stmt
  | .importFrom module names level =>
    if level = 0 then [.importFrom module names level] else f ⟨module, names, level⟩
  | .functionDef isAsync name parameters body decorators returns =>
    [.functionDef isAsync name parameters (replaceBlock f body) decorators returns]
  | .classDef name bases keywords body decorators =>
    [.classDef name bases keywords (replaceBlock f body) decorators]
  | .for isAsync target iterable body orElse =>
    [.for isAsync target iterable (replaceBlock f body) (replaceBlock f orElse)]
  | .while test body orElse => [.while test (replaceBlock f body) (replaceBlock f orElse)]
  | .if test body orElse => [.if test (replaceBlock f body) (replaceBlock f orElse)]
  | .with isAsync items body => [.with isAsync items (replaceBlock f body)]
  | .match subject cases => [.match subject (replaceCases f cases)]
  | .try isStar body handlers orElse final =>
    [.try isStar (replaceBlock f body) (replaceHandlers f handlers) (replaceBlock f orElse)
      (replaceBlock f final)]
  | s => [s]

/-- A block with every relative import replaced. -/
def replaceBlock (f : RelativeImport → List Stmt) : List Stmt → List Stmt
  | [] => []
  | s :: rest => replaceStmt f s ++ replaceBlock f rest

/-- Cases with the relative imports in them replaced. -/
def replaceCases (f : RelativeImport → List Stmt) : List MatchCase → List MatchCase
  | [] => []
  | .mk pattern guard body :: rest =>
    .mk pattern guard (replaceBlock f body) :: replaceCases f rest

/-- Handlers with the relative imports in them replaced. -/
def replaceHandlers (f : RelativeImport → List Stmt) : List Handler → List Handler
  | [] => []
  | .mk exceptions name body :: rest =>
    .mk exceptions name (replaceBlock f body) :: replaceHandlers f rest

end

/-! ## The heads after a replacement -/

/-- What a head becomes: the heads of the block that replaces it, or itself. -/
def replaceHead (f : RelativeImport → List Stmt) (h : Head) : List Head :=
  match import? h with
  | some i => blockHeads (f i)
  | none => [h]

section Heads

variable (f : RelativeImport → List Stmt)

mutual

/-- A replacement replaces the heads of a statement one by one. -/
theorem blockHeads_replaceStmt :
    (s : Stmt) → blockHeads (replaceStmt f s) = s.heads.flatMap (replaceHead f)
  | .importFrom module names level => by
    by_cases hlevel : level = 0
    · simp [replaceStmt, Stmt.heads, blockHeads, replaceHead, import?, hlevel]
    · simp [replaceStmt, Stmt.heads, replaceHead, import?, hlevel]
  | .functionDef _ _ _ body _ _ | .classDef _ _ _ body _ | .with _ _ body => by
    have hbody := blockHeads_replaceBlock body
    simp [replaceStmt, Stmt.heads, blockHeads, replaceHead, import?, hbody]
  | .for _ _ _ body orElse | .while _ body orElse | .if _ body orElse => by
    have hbody := blockHeads_replaceBlock body
    have horElse := blockHeads_replaceBlock orElse
    simp [replaceStmt, Stmt.heads, blockHeads, replaceHead, import?, hbody, horElse]
  | .match _ cases => by
    have hcases := caseHeads_replaceCases cases
    simp [replaceStmt, Stmt.heads, blockHeads, replaceHead, import?, hcases]
  | .try _ body handlers orElse final => by
    have hbody := blockHeads_replaceBlock body
    have hhandlers := handlerHeads_replaceHandlers handlers
    have horElse := blockHeads_replaceBlock orElse
    have hfinal := blockHeads_replaceBlock final
    simp [replaceStmt, Stmt.heads, blockHeads, replaceHead, import?, hbody, hhandlers, horElse,
      hfinal]
  | .return _ | .delete _ | .assign _ _ | .augAssign _ _ _ | .annAssign _ _ _ _ | .raise _ _
  | .assert _ _ | .importModules _ | .global _ | .nonlocal _ | .expr _ | .pass | .break
  | .continue => rfl

/-- A replacement replaces the heads of a block one by one. -/
theorem blockHeads_replaceBlock :
    (block : List Stmt) →
      blockHeads (replaceBlock f block) = (blockHeads block).flatMap (replaceHead f)
  | [] => rfl
  | s :: rest => by
    rw [replaceBlock, blockHeads_append, blockHeads_replaceStmt s, blockHeads_replaceBlock rest,
      blockHeads, List.flatMap_append]

/-- Replacing imports in cases replaces the heads. -/
theorem caseHeads_replaceCases :
    (cases : List MatchCase) →
      caseHeads (replaceCases f cases) = (caseHeads cases).flatMap (replaceHead f)
  | [] => rfl
  | .mk _ _ body :: rest => by
    have hbody := blockHeads_replaceBlock body
    have hrest := caseHeads_replaceCases rest
    simp [replaceCases, caseHeads, replaceHead, import?, hbody, hrest]

/-- Replacing imports in handlers replaces the heads. -/
theorem handlerHeads_replaceHandlers :
    (handlers : List Handler) →
      handlerHeads (replaceHandlers f handlers) = (handlerHeads handlers).flatMap (replaceHead f)
  | [] => rfl
  | .mk _ _ body :: rest => by
    have hbody := blockHeads_replaceBlock body
    have hrest := handlerHeads_replaceHandlers rest
    simp [replaceHandlers, handlerHeads, replaceHead, import?, hbody, hrest]

end

/-- No relative import is left if none is put in place of another one. -/
theorem relativeImports_replaceBlock (h : ∀ i, relativeImports (f i) = []) (block : List Stmt) :
    relativeImports (replaceBlock f block) = [] := by
  rw [relativeImports, blockHeads_replaceBlock, List.filterMap_flatMap, List.flatMap_eq_nil_iff]
  intro head _
  unfold replaceHead
  cases himport : import? head with
  | none => simp [himport]
  | some i => exact h i

/-- Where a block requires nothing, it requires after a replacement what has been put in place of its
relative imports. -/
theorem blockRequires_replaceBlock {block : List Stmt} (h : blockRequires block = []) :
    blockRequires (replaceBlock f block) =
      (relativeImports block).flatMap fun i => blockRequires (f i) := by
  unfold blockRequires relativeImports at *
  rw [blockHeads_replaceBlock]
  generalize blockHeads block = heads at h
  induction heads with
  | nil => rfl
  | cons head heads ih =>
    rw [List.flatMap_cons, List.append_eq_nil_iff] at h
    rw [List.flatMap_cons, List.flatMap_append, ih h.2]
    unfold replaceHead
    cases himport : import? head with
    | none => simp [himport, h.1]
    | some i => simp [himport]

end Heads

/-! ## What the blocks require -/

section Blocks

variable (found : String → Bool) (i : RelativeImport)

/-- A block consists of calls, assignments and deletions. -/
theorem mem_block {s : Stmt} (h : s ∈ i.block found) :
    (∃ e, s = .expr e) ∨ (∃ targets value, s = .assign targets value) ∨
      ∃ targets, s = .delete targets := by
  unfold RelativeImport.block at h
  rcases List.mem_cons.mp h with rfl | h
  · exact .inl ⟨_, rfl⟩
  split at h
  · rw [List.mem_singleton.mp h]
    exact .inl ⟨_, rfl⟩
  · split at h
    · obtain ⟨a, _, rfl⟩ := List.mem_map.mp h
      exact .inr (.inl ⟨_, _, rfl⟩)
    · rcases List.mem_append.mp h with h | h
      · rcases List.mem_cons.mp h with rfl | h
        · exact .inr (.inl ⟨_, _, rfl⟩)
        · obtain ⟨a, _, rfl⟩ := List.mem_map.mp h
          split
          · exact .inr (.inl ⟨_, _, rfl⟩)
          · exact .inr (.inl ⟨_, _, rfl⟩)
      · rw [List.mem_singleton.mp h]
        exact .inr (.inr ⟨_, rfl⟩)

/-- The heads of the block for an import are its statements. -/
theorem blockHeads_block : blockHeads (i.block found) = (i.block found).map .statement := by
  apply blockHeads_of_simple
  intro s hs
  rcases mem_block found i hs with ⟨e, rfl⟩ | ⟨targets, value, rfl⟩ | ⟨targets, rfl⟩ <;> rfl

/-- The block for an import has no relative imports. -/
theorem relativeImports_block : relativeImports (i.block found) = [] := by
  rw [relativeImports, blockHeads_block, List.filterMap_eq_nil_iff]
  intro head hhead
  obtain ⟨s, hs, rfl⟩ := List.mem_map.mp hhead
  rcases mem_block found i hs with ⟨e, rfl⟩ | ⟨targets, value, rfl⟩ | ⟨targets, rfl⟩ <;> rfl

/-- Publishing the names of a module requires nothing. -/
theorem requires_publication : publication.requires = [] := by
  decide

/-- Spreading the names of a module requires it. -/
theorem requires_spread (reference : String) :
    (spread reference).requires = [CodePoints.ofString reference] := by
  simp [spread, callMethod, call, globals, nameAndValue, isPublic, require, literal, Stmt.requires,
    Expr.requires, expressionsRequire, keywordsRequire, clausesRequire, Clause.requires,
    requiredText?]

/-- A call for a module requires it. -/
theorem requires_require (reference : String) :
    (require reference).requires = [CodePoints.ofString reference] := by
  simp [require, call, literal, Expr.requires, expressionsRequire, keywordsRequire, requiredText?]

/-- Binding a name to a module requires it. -/
theorem requires_assign_require (name reference : String) :
    (Stmt.assign [.name name] (require reference)).requires = [CodePoints.ofString reference] := by
  rw [Stmt.requires, requires_require]
  rfl

/-- Reading a member requires nothing more. -/
theorem requires_bindRead (a : Alias) : (RelativeImport.bindRead a).requires = [] := rfl

/-- The blocks for imported names require the names that are modules. -/
theorem requires_bindNames (names : List Alias) :
    (names.map fun a => if found (i.nameReference a) then i.bindRequired a
      else RelativeImport.bindRead a).flatMap Stmt.requires =
      ((names.map i.nameReference).filter found).map CodePoints.ofString := by
  induction names with
  | nil => rfl
  | cons a names ih =>
    rw [List.map_cons, List.flatMap_cons, ih, List.map_cons, List.filter_cons]
    by_cases ha : found (i.nameReference a)
    · simp only [ha, if_true, RelativeImport.bindRequired, requires_assign_require]
      rfl
    · simp only [ha, Bool.false_eq_true, if_false, requires_bindRead]
      rfl

/-- A block requires the references of its import, in their order. -/
theorem blockRequires_block :
    blockRequires (i.block found) = (i.references found).map CodePoints.ofString := by
  have hflat : blockRequires (i.block found) = (i.block found).flatMap Stmt.requires := by
    rw [blockRequires, blockHeads_block, List.flatMap_map]
    rfl
  rw [hflat]
  unfold RelativeImport.block RelativeImport.references RelativeImport.submodules
  rw [List.flatMap_cons, requires_publication, List.nil_append]
  by_cases hstar : i.isStar
  · simp [hstar, requires_spread]
  · by_cases hmodule : i.module.isNone
    · have hall : (i.names.map i.bindRequired).flatMap Stmt.requires =
          (i.names.map i.nameReference).map CodePoints.ofString := by
        simp only [List.flatMap_map, RelativeImport.bindRequired, requires_assign_require,
          List.map_map]
        exact (List.map_eq_flatMap ..).symm
      simpa [hstar, hmodule] using hall
    · have hnames := requires_bindNames found i i.names
      simp [hstar, hmodule, List.flatMap_append, requires_require, hnames, Stmt.requires,
        expressionsRequire, Expr.requires]

end Blocks

/-! ## Scoping -/

section Scoping

variable {ε : Type}

/-- Whether a module is found for a reference. -/
def finds (isModule : String → Except ε Bool) (reference : String) : Bool :=
  match isModule reference with
  | .ok found => found
  | .error _ => false

/-- A module is found if the answer is yes. -/
theorem finds_eq {isModule : String → Except ε Bool} {reference : String} {found : Bool}
    (h : (isModule reference).mapError (ScopingError.probe (ε := ε)) = .ok found) :
    finds isModule reference = found := by
  unfold finds
  cases hm : isModule reference with
  | error e =>
    rw [hm] at h
    cases h
  | ok b =>
    rw [hm] at h
    exact Except.ok.inj h

/-- A value is bound by an assignment. -/
theorem bind_ok {name written : String} {value : Expr} {names : List String} {s : Stmt}
    (h : (bind name value names written : Except (ScopingError ε) Stmt) = .ok s) :
    s = .assign [.name name] value := by
  unfold bind at h
  split at h
  · split at h <;> cases h
  · exact (Except.ok.inj h).symm

/-- Modules are bound to their names one by one. -/
theorem bindModules_ok {level : Nat} {names : List Alias} {r : Scoped (List Stmt)}
    (h : (bindModules level names : Except (ScopingError ε) (Scoped (List Stmt))) = .ok r) :
    r = ⟨names.map (RelativeImport.mk none names level).bindRequired,
      names.map (RelativeImport.mk none names level).nameReference⟩ := by
  -- The names of the import play no part here, so the induction on them may leave it as it is.
  suffices hall : ∀ all, r = ⟨names.map (RelativeImport.mk none all level).bindRequired,
      names.map (RelativeImport.mk none all level).nameReference⟩ from hall names
  intro all
  induction names generalizing r with
  | nil =>
    cases h
    rfl
  | cons a names ih =>
    obtain ⟨s, hs, h⟩ := bind_eq_ok.mp h
    obtain ⟨rest, hrest, h⟩ := bind_eq_ok.mp h
    obtain rfl := bind_ok hs
    obtain rfl := ih hrest
    cases h
    rfl

/-- Members are bound to modules where these are found, and are read otherwise. -/
theorem bindMembers_ok {isModule : String → Except ε Bool} {level : Nat} {module : Option String}
    {names : List Alias} {r : Scoped (List Stmt)} (i : RelativeImport) (hlevel : i.level = level)
    (hmodule : i.module = module)
    (h : bindMembers isModule level module names = .ok r) :
    r = ⟨names.map fun a =>
        if finds isModule (i.nameReference a) then i.bindRequired a else RelativeImport.bindRead a,
      (names.map i.nameReference).filter (finds isModule)⟩ := by
  subst hlevel hmodule
  induction names generalizing r with
  | nil =>
    cases h
    rfl
  | cons a names ih =>
    obtain ⟨found, hfound, h⟩ := bind_eq_ok.mp h
    have hfinds : finds isModule (i.nameReference a) = found := finds_eq hfound
    cases found with
    | true =>
      obtain ⟨s, hs, h⟩ := bind_eq_ok.mp h
      obtain ⟨rest, hrest, h⟩ := bind_eq_ok.mp h
      obtain rfl := bind_ok hs
      obtain rfl := ih hrest
      cases h
      simp only [List.map_cons, List.filter_cons, hfinds, if_true]
      rfl
    | false =>
      obtain ⟨s, hs, h⟩ := bind_eq_ok.mp h
      obtain ⟨rest, hrest, h⟩ := bind_eq_ok.mp h
      obtain rfl := bind_ok hs
      obtain rfl := ih hrest
      cases h
      simp only [List.map_cons, List.filter_cons, hfinds, Bool.false_eq_true, if_false]
      rfl

/-- A relative import becomes its block, and gives its references. -/
theorem scopedImport_ok {isModule : String → Except ε Bool} (i : RelativeImport)
    {r : Scoped (List Stmt)} (h : scopedImport isModule i.module i.names i.level = .ok r) :
    r = ⟨i.block (finds isModule), i.references (finds isModule)⟩ := by
  obtain ⟨module, names, level⟩ := i
  unfold scopedImport at h
  unfold RelativeImport.block RelativeImport.references RelativeImport.submodules
    RelativeImport.isStar
  dsimp only at h ⊢
  cases hstar : names.any (·.name == "*") with
  | true =>
    simp only [hstar, Bool.not_true, Bool.and_false, Bool.false_eq_true, if_false, if_true] at h
    cases h
    simp only [Bool.not_true, Bool.and_false, Bool.or_true, Bool.false_eq_true, if_false, if_true]
    rfl
  | false =>
    cases module with
    | none =>
      simp only [hstar, Option.isNone_none, Bool.not_false, Bool.and_true, if_true] at h
      obtain ⟨bound, hbound, h⟩ := bind_eq_ok.mp h
      obtain rfl := bindModules_ok hbound
      cases h
      simp
    | some name =>
      simp only [hstar, Option.isNone_some, Bool.false_and, Bool.false_eq_true, if_false] at h
      obtain ⟨bound, hbound, h⟩ := bind_eq_ok.mp h
      obtain rfl := bindMembers_ok ⟨some name, names, level⟩ rfl rfl hbound
      cases h
      simp [RelativeImport.moduleReference]

/-- The references of the relative imports among heads. -/
def headReferences (found : String → Bool) (heads : List Head) : List String :=
  (heads.filterMap import?).flatMap (RelativeImport.references found)

/-- The heads of two blocks refer to what those of either refer to. -/
theorem headReferences_append (found : String → Bool) (first second : List Head) :
    headReferences found (first ++ second) =
      headReferences found first ++ headReferences found second := by
  rw [headReferences, List.filterMap_append, List.flatMap_append]
  rfl

variable {isModule : String → Except ε Bool}

mutual

/-- Scoping replaces the relative imports in a statement and collects their references. -/
theorem scopeStmt_ok : (s : Stmt) → {r : Scoped (List Stmt)} → scopeStmt isModule s = .ok r →
    r = ⟨replaceStmt (RelativeImport.block (finds isModule)) s,
      headReferences (finds isModule) s.heads⟩
  | .importFrom module names level, r, h => by
    rw [scopeStmt] at h
    by_cases hlevel : level = 0
    · rw [if_pos hlevel] at h
      cases h
      simp [replaceStmt, Stmt.heads, headReferences, import?, hlevel]
    · rw [if_neg hlevel] at h
      obtain rfl := scopedImport_ok ⟨module, names, level⟩ h
      simp [replaceStmt, Stmt.heads, headReferences, import?, hlevel]
  | .functionDef _ _ _ body _ _, r, h | .classDef _ _ _ body _, r, h | .with _ _ body, r, h => by
    obtain ⟨body', hbody, h⟩ := bind_eq_ok.mp h
    obtain rfl := scopeBlock_ok body hbody
    cases h
    simp only [replaceStmt, Stmt.heads]
    rfl
  | .for _ _ _ body orElse, r, h | .while _ body orElse, r, h | .if _ body orElse, r, h => by
    obtain ⟨body', hbody, h⟩ := bind_eq_ok.mp h
    obtain ⟨orElse', horElse, h⟩ := bind_eq_ok.mp h
    obtain rfl := scopeBlock_ok body hbody
    obtain rfl := scopeBlock_ok orElse horElse
    cases h
    simp only [replaceStmt, Stmt.heads, headReferences_append]
    rfl
  | .match _ cases, r, h => by
    obtain ⟨cases', hcases, h⟩ := bind_eq_ok.mp h
    obtain rfl := scopeCases_ok cases hcases
    cases h
    simp only [replaceStmt, Stmt.heads]
    rfl
  | .try _ body handlers orElse final, r, h => by
    obtain ⟨body', hbody, h⟩ := bind_eq_ok.mp h
    obtain ⟨handlers', hhandlers, h⟩ := bind_eq_ok.mp h
    obtain ⟨orElse', horElse, h⟩ := bind_eq_ok.mp h
    obtain ⟨final', hfinal, h⟩ := bind_eq_ok.mp h
    obtain rfl := scopeBlock_ok body hbody
    obtain rfl := scopeHandlers_ok handlers hhandlers
    obtain rfl := scopeBlock_ok orElse horElse
    obtain rfl := scopeBlock_ok final hfinal
    cases h
    simp only [replaceStmt, Stmt.heads, headReferences_append]
    rfl
  | .return _, r, h | .delete _, r, h | .assign _ _, r, h | .augAssign _ _ _, r, h
  | .annAssign _ _ _ _, r, h | .raise _ _, r, h | .assert _ _, r, h | .importModules _, r, h
  | .global _, r, h | .nonlocal _, r, h | .expr _, r, h | .pass, r, h | .break, r, h
  | .continue, r, h => by
    cases h
    rfl

/-- Scoping replaces the relative imports in a block and collects their references. -/
theorem scopeBlock_ok : (block : List Stmt) → {r : Scoped (List Stmt)} →
    scopeBlock isModule block = .ok r →
    r = ⟨replaceBlock (RelativeImport.block (finds isModule)) block,
      headReferences (finds isModule) (blockHeads block)⟩
  | [], r, h => by
    cases h
    rfl
  | s :: rest, r, h => by
    obtain ⟨ss, hs, h⟩ := bind_eq_ok.mp h
    obtain ⟨rest', hrest, h⟩ := bind_eq_ok.mp h
    obtain rfl := scopeStmt_ok s hs
    obtain rfl := scopeBlock_ok rest hrest
    cases h
    rw [replaceBlock, blockHeads, headReferences_append]

/-- Cases are scoped by replacing the imports in them. -/
theorem scopeCases_ok : (cases : List MatchCase) → {r : Scoped (List MatchCase)} →
    scopeCases isModule cases = .ok r →
    r = ⟨replaceCases (RelativeImport.block (finds isModule)) cases,
      headReferences (finds isModule) (caseHeads cases)⟩
  | [], r, h => by
    cases h
    rfl
  | .mk _ _ body :: rest, r, h => by
    obtain ⟨body', hbody, h⟩ := bind_eq_ok.mp h
    obtain ⟨rest', hrest, h⟩ := bind_eq_ok.mp h
    obtain rfl := scopeBlock_ok body hbody
    obtain rfl := scopeCases_ok rest hrest
    cases h
    simp only [replaceCases, caseHeads, headReferences_append]
    rfl

/-- Handlers are scoped by replacing the imports in them. -/
theorem scopeHandlers_ok : (handlers : List Handler) → {r : Scoped (List Handler)} →
    scopeHandlers isModule handlers = .ok r →
    r = ⟨replaceHandlers (RelativeImport.block (finds isModule)) handlers,
      headReferences (finds isModule) (handlerHeads handlers)⟩
  | [], r, h => by
    cases h
    rfl
  | .mk _ _ body :: rest, r, h => by
    obtain ⟨body', hbody, h⟩ := bind_eq_ok.mp h
    obtain ⟨rest', hrest, h⟩ := bind_eq_ok.mp h
    obtain rfl := scopeBlock_ok body hbody
    obtain rfl := scopeHandlers_ok rest hrest
    cases h
    simp only [replaceHandlers, handlerHeads, headReferences_append]
    rfl

end

/-- Scoping the imports of a module replaces them by their blocks and collects their references. -/
theorem scopeImports_ok {m : Module} {r : Scoped Module} (h : scopeImports isModule m = .ok r) :
    r.value = replaceBlock (RelativeImport.block (finds isModule)) m ∧
      r.references = (relativeImports m).flatMap (RelativeImport.references (finds isModule)) := by
  obtain rfl := scopeBlock_ok m h
  exact ⟨rfl, rfl⟩

end Scoping

end Bundler.Import
