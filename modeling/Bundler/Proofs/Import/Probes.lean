import Bundler.Proofs.Import.Replacement

/-!
# What scoping asks for

Scoping the imports of a module asks, for names that are imported from a module, whether there are
modules of these names. It asks for nothing else: where the answers agree, so do the results.
-/

set_option autoImplicit false

namespace Bundler.Import

open Bundler.Syntax

/-- The references for which an import asks whether there is a module. -/
def RelativeImport.probes (i : RelativeImport) : List String :=
  if i.module.isNone || i.isStar then [] else i.names.map i.nameReference

/-- The references for which the relative imports among heads ask. -/
def headProbes (heads : List Head) : List String :=
  (heads.filterMap import?).flatMap RelativeImport.probes

/-- The heads of two blocks ask for what those of either ask for. -/
theorem headProbes_append (first second : List Head) :
    headProbes (first ++ second) = headProbes first ++ headProbes second := by
  rw [headProbes, List.filterMap_append, List.flatMap_append]
  rfl

variable {ε : Type} {isModule isModule' : String → Except ε Bool}

/-- Two ways to ask for modules give the same answers. -/
def AgreeOn (isModule isModule' : String → Except ε Bool) (references : List String) : Prop :=
  ∀ reference ∈ references, isModule' reference = isModule reference

namespace AgreeOn

variable {first second : List String}

/-- Answers that agree on references agree on the first ones. -/
theorem left (h : AgreeOn isModule isModule' (first ++ second)) : AgreeOn isModule isModule' first :=
  fun reference hreference => h reference (List.mem_append_left _ hreference)

/-- Answers that agree on references agree on the last ones. -/
theorem right (h : AgreeOn isModule isModule' (first ++ second)) :
    AgreeOn isModule isModule' second :=
  fun reference hreference => h reference (List.mem_append_right _ hreference)

end AgreeOn

/-- Members are bound in the same way if the answers for them agree. -/
theorem bindMembers_congr {level : Nat} {module : Option String} {names : List Alias}
    (h : ∀ a ∈ names, isModule' (referenceText level module (some a.name)) =
      isModule (referenceText level module (some a.name))) :
    bindMembers isModule' level module names = bindMembers isModule level module names := by
  induction names with
  | nil => rfl
  | cons a names ih =>
    have hrest := ih fun other hother => h other (List.mem_cons_of_mem _ hother)
    rw [bindMembers, bindMembers, h a List.mem_cons_self, hrest]

/-- An import is scoped in the same way if the answers agree. -/
theorem scopedImport_congr (i : RelativeImport) (h : AgreeOn isModule isModule' i.probes) :
    scopedImport isModule' i.module i.names i.level =
      scopedImport isModule i.module i.names i.level := by
  unfold scopedImport
  cases hstar : i.names.any (·.name == "*") with
  | true => rfl
  | false =>
    cases hmodule : i.module with
    | none => rfl
    | some module =>
      have hprobes : i.probes = i.names.map i.nameReference := by
        simp [RelativeImport.probes, RelativeImport.isStar, hstar, hmodule]
      have hmembers : bindMembers isModule' i.level (some module) i.names =
          bindMembers isModule i.level (some module) i.names := by
        apply bindMembers_congr
        intro a ha
        have hanswer := h (i.nameReference a) (hprobes ▸ List.mem_map_of_mem ha)
        rwa [RelativeImport.nameReference, hmodule] at hanswer
      simp only [hmembers]

mutual

/-- Scoping the imports in a statement depends on the answers that it asks for. -/
theorem scopeStmt_congr : (s : Stmt) → AgreeOn isModule isModule' (headProbes s.heads) →
    scopeStmt isModule' s = scopeStmt isModule s
  | .importFrom module names level, h => by
    rw [scopeStmt, scopeStmt]
    by_cases hlevel : level = 0
    · rw [if_pos hlevel, if_pos hlevel]
    · have hprobes : headProbes (Stmt.heads (.importFrom module names level)) =
          (RelativeImport.mk module names level).probes := by
        simp [headProbes, Stmt.heads, import?, hlevel]
      rw [hprobes] at h
      rw [if_neg hlevel, if_neg hlevel]
      exact scopedImport_congr ⟨module, names, level⟩ h
  | .functionDef _ _ _ body _ _, h | .classDef _ _ _ body _, h | .with _ _ body, h => by
    rw [Stmt.heads] at h
    rw [scopeStmt, scopeStmt, scopeBlock_congr body h]
  | .for _ _ _ body orElse, h | .while _ body orElse, h | .if _ body orElse, h => by
    rw [Stmt.heads, headProbes_append] at h
    rw [scopeStmt, scopeStmt, scopeBlock_congr body h.left, scopeBlock_congr orElse h.right]
  | .match _ cases, h => by
    rw [Stmt.heads] at h
    rw [scopeStmt, scopeStmt, scopeCases_congr cases h]
  | .try _ body handlers orElse final, h => by
    rw [Stmt.heads, headProbes_append, headProbes_append, headProbes_append] at h
    rw [scopeStmt, scopeStmt, scopeBlock_congr body h.left.left.left,
      scopeHandlers_congr handlers h.left.left.right, scopeBlock_congr orElse h.left.right,
      scopeBlock_congr final h.right]
  | .return _, _ | .delete _, _ | .assign _ _, _ | .augAssign _ _ _, _ | .annAssign _ _ _ _, _
  | .raise _ _, _ | .assert _ _, _ | .importModules _, _ | .global _, _ | .nonlocal _, _
  | .expr _, _ | .pass, _ | .break, _ | .continue, _ => rfl

/-- A block is scoped in the same way if the answers agree. -/
theorem scopeBlock_congr : (block : List Stmt) →
    AgreeOn isModule isModule' (headProbes (blockHeads block)) →
    scopeBlock isModule' block = scopeBlock isModule block
  | [], _ => rfl
  | s :: rest, h => by
    rw [blockHeads, headProbes_append] at h
    rw [scopeBlock, scopeBlock, scopeStmt_congr s h.left, scopeBlock_congr rest h.right]

/-- Cases are scoped in the same way if the answers agree. -/
theorem scopeCases_congr : (cases : List MatchCase) →
    AgreeOn isModule isModule' (headProbes (caseHeads cases)) →
    scopeCases isModule' cases = scopeCases isModule cases
  | [], _ => rfl
  | .mk _ _ body :: rest, h => by
    rw [caseHeads, headProbes_append] at h
    rw [scopeCases, scopeCases, scopeBlock_congr body h.left, scopeCases_congr rest h.right]

/-- Handlers are scoped in the same way if the answers agree. -/
theorem scopeHandlers_congr : (handlers : List Handler) →
    AgreeOn isModule isModule' (headProbes (handlerHeads handlers)) →
    scopeHandlers isModule' handlers = scopeHandlers isModule handlers
  | [], _ => rfl
  | .mk _ _ body :: rest, h => by
    rw [handlerHeads, headProbes_append] at h
    rw [scopeHandlers, scopeHandlers, scopeBlock_congr body h.left,
      scopeHandlers_congr rest h.right]

end

/-- Scoping the imports of a module depends on the answers that it asks for. -/
theorem scopeImports_congr {m : Module}
    (h : ∀ i ∈ relativeImports m, AgreeOn isModule isModule' i.probes) :
    scopeImports isModule' m = scopeImports isModule m := by
  apply scopeBlock_congr
  intro reference hreference
  obtain ⟨i, hi, hprobe⟩ := List.mem_flatMap.mp hreference
  exact h i hi reference hprobe

end Bundler.Import
