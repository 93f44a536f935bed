import Bundler.Proofs.Import.Probes

/-!
# Imports that cannot be scoped

Scoping the imports of a module fails at a relative import only: a name in it is a keyword, or it
cannot be found out whether there is a module of a name.
-/

set_option autoImplicit false

namespace Bundler.Import

open Bundler.Syntax

variable {ε : Type} {isModule : String → Except ε Bool} {e : ScopingError ε}

/-- Why an import cannot be scoped. -/
inductive RelativeImport.Fails (isModule : String → Except ε Bool) (i : RelativeImport) :
    ScopingError ε → Prop where
  /-- A name is a keyword, or is to be bound to one. -/
  | keyword {a : Alias} {error : SyntaxError} (mem : a ∈ i.names)
      (keyword : isKeyword (Alias.binding a) = true ∨ isKeyword a.name = true) :
      Fails isModule i (.keyword error)
  /-- There is no answer for a reference. -/
  | probe {reference : String} {error : ε} (mem : reference ∈ i.probes)
      (failed : isModule reference = .error error) : Fails isModule i (.probe error)

/-- Some relative import among heads cannot be scoped. -/
def HeadsFail (isModule : String → Except ε Bool) (heads : List Head) (e : ScopingError ε) : Prop :=
  ∃ i ∈ heads.filterMap import?, i.Fails isModule e

namespace HeadsFail

variable {first second : List Head}

/-- What fails among the first heads fails among all. -/
theorem left (h : HeadsFail isModule first e) : HeadsFail isModule (first ++ second) e := by
  obtain ⟨i, hi, hfails⟩ := h
  exact ⟨i, by rw [List.filterMap_append]; exact List.mem_append_left _ hi, hfails⟩

/-- What fails behind a head fails with it. -/
theorem cons {head : Head} (h : HeadsFail isModule second e) : HeadsFail isModule (head :: second) e := by
  obtain ⟨i, hi, hfails⟩ := h
  rw [HeadsFail, List.filterMap_cons]
  split
  · exact ⟨i, hi, hfails⟩
  · exact ⟨i, List.mem_cons_of_mem _ hi, hfails⟩

/-- What fails among the last heads fails among all. -/
theorem right (h : HeadsFail isModule second e) : HeadsFail isModule (first ++ second) e := by
  obtain ⟨i, hi, hfails⟩ := h
  exact ⟨i, by rw [List.filterMap_append]; exact List.mem_append_right _ hi, hfails⟩

end HeadsFail

/-! ## One import -/

/-- A name is bound unless a name in the assignment is a keyword. -/
theorem exists_keyword_of_bind {name written : String} {value : Expr} {names : List String}
    (h : (bind name value names written : Except (ScopingError ε) Stmt) = .error e) :
    (∃ error, e = .keyword error) ∧ ∃ n ∈ names, isKeyword n = true := by
  unfold bind at h
  split at h
  · rename_i hkeyword
    refine ⟨?_, List.any_eq_true.mp hkeyword⟩
    split at h <;> cases h <;> exact ⟨_, rfl⟩
  · cases h

/-- Modules cannot be bound only because of a keyword. -/
theorem exists_keyword_of_bindModules {level : Nat} {names : List Alias}
    (h : (bindModules level names : Except (ScopingError ε) _) = .error e) :
    (∃ error, e = .keyword error) ∧ ∃ a ∈ names, isKeyword (Alias.binding a) = true := by
  induction names with
  | nil => cases h
  | cons a names ih =>
    rw [bindModules] at h
    rcases bind_eq_error.mp h with h | ⟨s, _, h⟩
    · obtain ⟨herror, n, hn, hkeyword⟩ := exists_keyword_of_bind h
      rw [List.mem_singleton.mp hn] at hkeyword
      exact ⟨herror, a, List.mem_cons_self, hkeyword⟩
    · rcases bind_eq_error.mp h with h | ⟨_, _, h⟩
      · obtain ⟨herror, other, hother, hkeyword⟩ := ih h
        exact ⟨herror, other, List.mem_cons_of_mem _ hother, hkeyword⟩
      · cases h

/-- Members cannot be bound only because of a keyword, or of a reference without an answer. -/
theorem bindMembers_eq_error {level : Nat} {module : Option String} {names : List Alias}
    (h : bindMembers isModule level module names = .error e) :
    (∃ error, e = .keyword error ∧
      ∃ a ∈ names, isKeyword (Alias.binding a) = true ∨ isKeyword a.name = true) ∨
    ∃ error, e = .probe error ∧
      ∃ a ∈ names, isModule (referenceText level module (some a.name)) = .error error := by
  induction names with
  | nil => cases h
  | cons a names ih =>
    rw [bindMembers] at h
    rcases bind_eq_error.mp h with h | ⟨found, _, h⟩
    · obtain ⟨error, hprobe, rfl⟩ := mapError_eq_error.mp h
      exact .inr ⟨error, rfl, a, List.mem_cons_self, hprobe⟩
    -- Whichever way the name is bound, the other names follow.
    have hrest : ∀ f : Scoped (List Stmt) → Scoped (List Stmt),
        (bindMembers isModule level module names >>= fun r => pure (f r)) = .error e →
        bindMembers isModule level module names = .error e := by
      intro f hf
      rcases bind_eq_error.mp hf with hf | ⟨_, _, hf⟩
      · exact hf
      · cases hf
    have hmembers : bindMembers isModule level module names = .error e ∨
        (∃ error, e = .keyword error) ∧
          (isKeyword (Alias.binding a) = true ∨ isKeyword a.name = true) := by
      dsimp only at h
      split at h
      · rcases bind_eq_error.mp h with h | ⟨s, _, h⟩
        · obtain ⟨herror, n, hn, hkeyword⟩ := exists_keyword_of_bind h
          rw [List.mem_singleton.mp hn] at hkeyword
          exact .inr ⟨herror, .inl hkeyword⟩
        · exact .inl (hrest _ h)
      · rcases bind_eq_error.mp h with h | ⟨s, _, h⟩
        · obtain ⟨herror, n, hn, hkeyword⟩ := exists_keyword_of_bind h
          rcases List.mem_pair.mp hn with rfl | rfl
          · exact .inr ⟨herror, .inl hkeyword⟩
          · exact .inr ⟨herror, .inr hkeyword⟩
        · exact .inl (hrest _ h)
    rcases hmembers with h | ⟨⟨error, rfl⟩, hkeyword⟩
    · rcases ih h with ⟨error, rfl, other, hother, hkeyword⟩ | ⟨error, rfl, other, hother, hprobe⟩
      · exact .inl ⟨error, rfl, other, List.mem_cons_of_mem _ hother, hkeyword⟩
      · exact .inr ⟨error, rfl, other, List.mem_cons_of_mem _ hother, hprobe⟩
    · exact .inl ⟨error, rfl, a, List.mem_cons_self, hkeyword⟩

/-- An import that cannot be scoped fails for one of its causes. -/
theorem scopedImport_eq_error (i : RelativeImport)
    (h : scopedImport isModule i.module i.names i.level = .error e) : i.Fails isModule e := by
  unfold scopedImport at h
  dsimp only at h
  split at h
  · rcases bind_eq_error.mp h with h | ⟨_, _, h⟩
    · obtain ⟨⟨error, rfl⟩, a, ha, hkeyword⟩ := exists_keyword_of_bindModules h
      exact .keyword ha (.inl hkeyword)
    · cases h
  · rename_i hmodule
    split at h
    · cases h
    · rename_i hstar
      rcases bind_eq_error.mp h with h | ⟨_, _, h⟩
      · rcases bindMembers_eq_error h with ⟨error, rfl, a, ha, hkeyword⟩ | ⟨error, rfl, a, ha, hprobe⟩
        · exact .keyword ha hkeyword
        · refine .probe ?_ hprobe
          have hstar' : i.isStar = false := Bool.eq_false_iff.mpr hstar
          have hprobes : (i.module.isNone || i.isStar) = false := by
            change ¬ (i.module.isNone && !i.isStar) = true at hmodule
            rw [hstar', Bool.not_false, Bool.and_true, Bool.not_eq_true] at hmodule
            rw [hmodule, hstar', Bool.or_false]
          rw [RelativeImport.probes, hprobes, if_neg Bool.false_ne_true]
          exact List.mem_map_of_mem ha
      · cases h

/-! ## Imports at any depth -/

mutual

/-- Scoping the imports in a statement fails at one of them. -/
theorem scopeStmt_eq_error : (s : Stmt) → scopeStmt isModule s = .error e →
    HeadsFail isModule s.heads e
  | .importFrom module names level, h => by
    rw [scopeStmt] at h
    by_cases hlevel : level = 0
    · rw [if_pos hlevel] at h
      cases h
    · rw [if_neg hlevel] at h
      refine ⟨⟨module, names, level⟩, ?_, scopedImport_eq_error ⟨module, names, level⟩ h⟩
      simp [Stmt.heads, import?, hlevel]
  | .functionDef _ _ _ body _ _, h | .classDef _ _ _ body _, h | .with _ _ body, h => by
    rcases bind_eq_error.mp h with h | ⟨_, _, h⟩
    · exact (scopeBlock_eq_error body h).cons
    · cases h
  | .for _ _ _ body orElse, h | .while _ body orElse, h | .if _ body orElse, h => by
    rcases bind_eq_error.mp h with h | ⟨_, _, h⟩
    · exact ((scopeBlock_eq_error body h).cons).left
    · rcases bind_eq_error.mp h with h | ⟨_, _, h⟩
      · exact (scopeBlock_eq_error orElse h).right
      · cases h
  | .match _ cases, h => by
    rcases bind_eq_error.mp h with h | ⟨_, _, h⟩
    · exact (scopeCases_eq_error cases h).cons
    · cases h
  | .try _ body handlers orElse final, h => by
    rcases bind_eq_error.mp h with h | ⟨_, _, h⟩
    · exact (((scopeBlock_eq_error body h).cons).left).left.left
    rcases bind_eq_error.mp h with h | ⟨_, _, h⟩
    · exact (scopeHandlers_eq_error handlers h).right.left.left
    rcases bind_eq_error.mp h with h | ⟨_, _, h⟩
    · exact (scopeBlock_eq_error orElse h).right.left
    rcases bind_eq_error.mp h with h | ⟨_, _, h⟩
    · exact (scopeBlock_eq_error final h).right
    · cases h
  | .return _, h | .delete _, h | .assign _ _, h | .augAssign _ _ _, h | .annAssign _ _ _ _, h
  | .raise _ _, h | .assert _ _, h | .importModules _, h | .global _, h | .nonlocal _, h
  | .expr _, h | .pass, h | .break, h | .continue, h => by
    cases h

/-- A block that cannot be scoped has a head that fails. -/
theorem scopeBlock_eq_error : (block : List Stmt) → scopeBlock isModule block = .error e →
    HeadsFail isModule (blockHeads block) e
  | [], h => by
    cases h
  | s :: rest, h => by
    rcases bind_eq_error.mp h with h | ⟨_, _, h⟩
    · exact (scopeStmt_eq_error s h).left
    rcases bind_eq_error.mp h with h | ⟨_, _, h⟩
    · exact (scopeBlock_eq_error rest h).right
    · cases h

/-- Cases that cannot be scoped have a head that fails. -/
theorem scopeCases_eq_error : (cases : List MatchCase) → scopeCases isModule cases = .error e →
    HeadsFail isModule (caseHeads cases) e
  | [], h => by
    cases h
  | .mk _ _ body :: rest, h => by
    rcases bind_eq_error.mp h with h | ⟨_, _, h⟩
    · exact ((scopeBlock_eq_error body h).cons).left
    rcases bind_eq_error.mp h with h | ⟨_, _, h⟩
    · exact (scopeCases_eq_error rest h).right
    · cases h

/-- Handlers that cannot be scoped have a head that fails. -/
theorem scopeHandlers_eq_error : (handlers : List Handler) →
    scopeHandlers isModule handlers = .error e → HeadsFail isModule (handlerHeads handlers) e
  | [], h => by
    cases h
  | .mk _ _ body :: rest, h => by
    rcases bind_eq_error.mp h with h | ⟨_, _, h⟩
    · exact ((scopeBlock_eq_error body h).cons).left
    rcases bind_eq_error.mp h with h | ⟨_, _, h⟩
    · exact (scopeHandlers_eq_error rest h).right
    · cases h

end

/-- Scoping the imports of a module fails at a relative import of the module. -/
theorem exists_fails_of_scopeImports {m : Module} (h : scopeImports isModule m = .error e) :
    ∃ i ∈ relativeImports m, i.Fails isModule e :=
  scopeBlock_eq_error m h

end Bundler.Import
