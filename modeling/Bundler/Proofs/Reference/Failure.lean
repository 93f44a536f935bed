import Bundler.Proofs.Reference.Below

/-!
# References without candidates

The candidates of a reference can be formed unless a slash gets in the way: one in a suffix, which may
leave no name to put the suffix behind, or one in the reference itself, which may lead to the root.
-/

set_option autoImplicit false

namespace Bundler

variable {p cwd directory : Path} {suffix reference : String} {suffixes : List String} {e : PathError}

/-- A suffix cannot be put behind a name if it holds a slash only. -/
theorem Path.withSuffix_eq_error (hname : IsName p.name) (h : p.withSuffix suffix = .error e) :
    e = .invalidName (p.name ++ suffix) ∧ '/' ∈ suffix.toList := by
  have hne : p.names ≠ [] := by
    intro hnil
    rw [Path.name, hnil] at hname
    exact hname.ne_empty rfl
  refine ⟨?_, ?_⟩
  · unfold withSuffix withName at h
    rw [if_neg hname.ne_empty] at h
    split at h
    · cases h
      rfl
    · cases h
  · by_contra hslash
    have hsplit : (⟨p.anchor, []⟩ : Path).extend (p.names.dropLast ++ [p.name]) = p := by
      rw [Path.name, List.getLastD_eq_getLast?, List.getLast?_eq_some_getLast hne, Option.getD_some,
        List.dropLast_append_getLast, Path.extend, List.nil_append]
    rw [← hsplit, withSuffix_extend hname hslash] at h
    cases h

/-- The last name stays when what comes before it is normalized. -/
theorem Path.collapseFrom_concat {absolute : Bool} {done names : List String} {name : String}
    (h : name ≠ "..") :
    collapseFrom absolute done (names ++ [name]) = collapseFrom absolute done names ++ [name] := by
  induction names generalizing done with
  | nil => simp [collapseFrom, h]
  | cons first names ih =>
    rw [List.cons_append]
    unfold collapseFrom
    split
    · cases done with
      | nil => exact ih
      | cons last before =>
        dsimp only
        split <;> exact ih
    · exact ih

/-- A last name that leads down stays the last one. -/
theorem Path.name_normalize_extend {name : String} (h : IsStepName name) :
    ((p.extend [name]).normalize cwd).name = name := by
  have hjoin : (cwd.join (p.extend [name])).names = (cwd.join p).names ++ [name] := by
    unfold Path.join Path.isAbsolute
    cases hanchor : p.anchor <;> simp [hanchor]
  unfold Path.normalize
  dsimp only
  rw [hjoin, List.flatMap_append, List.flatMap_singleton, namesOf_eq_singleton h.toIsName,
    collapseFrom_concat h.ne_dots, Path.name, List.getLastD_concat]

/-- The suffixes cannot be put behind a name one by one if one of them holds a slash only. -/
theorem Path.exists_slash_of_mapM_withSuffix (hname : IsName p.name)
    (h : suffixes.mapM p.withSuffix = .error e) :
    ∃ name, e = .invalidName name ∧ ∃ suffix ∈ suffixes, '/' ∈ suffix.toList := by
  obtain ⟨suffix, hsuffix, hfails⟩ := exists_error_of_mapM h
  obtain ⟨hinvalid, hslash⟩ := withSuffix_eq_error hname hfails
  exact ⟨_, hinvalid, suffix, hsuffix, hslash⟩

/-- Forming candidates fails at a suffix with a slash, or for a reference with a slash. -/
theorem candidates_eq_error (h : candidates cwd directory reference suffixes = .error e) :
    (∃ name, e = .invalidName name ∧ ∃ suffix ∈ suffixes, '/' ∈ suffix.toList) ∨
      '/' ∈ reference.toList := by
  by_cases hslash : '/' ∈ reference.toList
  · exact .inr hslash
  refine .inl ?_
  by_cases hne : reference = ""
  · rw [candidates, if_pos hne] at h
    cases h
  rw [candidates, if_neg hne] at h
  cases hread : DottedReference.ofString? reference with
  | some r =>
    have hr : r.IsReadable := (DottedReference.isReadable_of_ofString? hread).1
    rw [hread] at h
    dsimp only [DottedReference.candidates] at h
    cases hnames : r.names using List.reverseRecOn with
    | nil =>
      rw [hnames] at h
      cases h
    | append_singleton before last =>
      have hlast : Path.IsName last := isName_of_isReferenceName (hr.names last (by simp [hnames]))
      split at h
      · cases h
      · rcases bind_eq_error.mp h with h | ⟨_, _, h⟩
        · refine Path.exists_slash_of_mapM_withSuffix ?_ h
          rwa [hnames, Path.name, ← List.append_assoc, List.getLastD_concat]
        · cases h
  | none =>
    have hreference := isStepName_of_not_isDotted hne hslash hread
    rw [hread] at h
    dsimp only at h
    rcases bind_eq_error.mp h with h | ⟨_, _, h⟩
    · refine Path.exists_slash_of_mapM_withSuffix ?_ h
      rw [Path.div_eq_extend hreference.toIsName, Path.name_normalize_extend hreference]
      exact hreference.toIsName
    · cases h

end Bundler
