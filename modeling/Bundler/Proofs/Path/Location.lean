import Bundler.Proofs.Path.Normal

/-!
# Locations

A location is an absolute path that normalizing leaves as it is: all names on it lead down. From a
location, names `..` lead up as far as there are names, and no further; the path to a location from a
directory that it is in leads down only.
-/

set_option autoImplicit false

namespace Bundler.Path

/-- An absolute path that normalizing leaves as it is, whatever the current directory is. -/
structure IsLocation (p : Path) : Prop where
  /-- The path begins at the root. -/
  isAbsolute : p.isAbsolute = true
  /-- Normalizing changes nothing. -/
  normalize_eq : ∀ cwd, p.normalize cwd = p

variable {p root cwd : Path} {names : List String}

/-- All names on a normalized absolute path lead down. -/
theorem isStepName_of_mem_normalize (h : (p.normalize cwd).isAbsolute = true) :
    ∀ name ∈ (p.normalize cwd).names, IsStepName name := by
  intro name hname
  refine ⟨isCanonical_normalize p cwd name hname, ?_⟩
  rintro rfl
  have habsolute : (cwd.join p).isAbsolute = true := h
  unfold Path.normalize at hname
  dsimp only at hname
  rw [habsolute] at hname
  exact dots_not_mem_collapseFrom List.not_mem_nil hname

/-- The locations are the absolute paths that lead down. -/
theorem isLocation_iff :
    p.IsLocation ↔ p.isAbsolute = true ∧ ∀ name ∈ p.names, IsStepName name := by
  constructor
  · intro h
    refine ⟨h.isAbsolute, ?_⟩
    rw [← h.normalize_eq p]
    apply isStepName_of_mem_normalize
    rw [h.normalize_eq]
    exact h.isAbsolute
  · rintro ⟨habsolute, hnames⟩
    refine ⟨habsolute, fun cwd => ?_⟩
    have hcanonical : p.IsCanonical := fun name hname => (hnames name hname).toIsName
    rw [hcanonical.normalize_eq habsolute, collapseFrom_eq [] hnames]
    rfl

/-- The names on a location lead down. -/
theorem IsLocation.isStepName (h : p.IsLocation) : ∀ name ∈ p.names, IsStepName name :=
  (isLocation_iff.mp h).2

/-- A location is a path in normal form. -/
theorem IsLocation.isCanonical (h : p.IsLocation) : p.IsCanonical :=
  fun name hname => (h.isStepName name hname).toIsName

/-- Further names that lead down make another location. -/
theorem IsLocation.extend (h : p.IsLocation) (hnames : ∀ name ∈ names, IsStepName name) :
    (p.extend names).IsLocation := by
  rw [isLocation_iff]
  refine ⟨h.isAbsolute, ?_⟩
  intro name hname
  rcases List.mem_append.mp hname with hname | hname
  · exact h.isStepName name hname
  · exact hnames name hname

/-- The first names of a location lead to a location. -/
theorem IsLocation.take (h : p.IsLocation) (n : Nat) :
    ({ p with names := p.names.take n } : Path).IsLocation := by
  refine isLocation_iff.mpr ⟨h.isAbsolute, ?_⟩
  intro name hname
  exact h.isStepName name (List.mem_of_mem_take hname)

/-! ## Up -/

/-- Names `..` cancel the last names before them, as far as there are any. -/
theorem collapseFrom_climb {done : List String} (hdone : ∀ name ∈ done, IsStepName name) (n : Nat)
    (rest : List String) :
    collapseFrom true done (List.replicate n ".." ++ rest) = collapseFrom true (done.drop n) rest := by
  induction n generalizing done with
  | zero => rfl
  | succ n ih =>
    rw [List.replicate_succ, List.cons_append]
    cases done with
    | nil =>
      rw [collapseFrom, if_pos rfl, if_pos rfl, ih (by simp), List.drop_nil, List.drop_nil]
    | cons last before =>
      rw [List.forall_mem_cons] at hdone
      rw [collapseFrom_dots_cons hdone.1.ne_dots, ih hdone.2, List.drop_succ_cons]

/-- Names `..` behind a location lead up from it, and the names behind them down again. -/
theorem IsLocation.normalize_climb (h : p.IsLocation) (n : Nat)
    (hnames : ∀ name ∈ names, IsStepName name) (cwd : Path) :
    (p.extend (List.replicate n ".." ++ names)).normalize cwd =
      ({ p with names := p.names.take (p.names.length - n) } : Path).extend names := by
  have hcanonical : (p.extend (List.replicate n ".." ++ names)).IsCanonical := by
    refine h.isCanonical.extend fun name hname => ?_
    rcases List.mem_append.mp hname with hdots | hmem
    · rw [List.eq_of_mem_replicate hdots]
      exact isName_dots
    · exact (hnames name hmem).toIsName
  have hreversed : ∀ name ∈ p.names.reverse, IsStepName name :=
    fun name hname => h.isStepName name (List.mem_reverse.mp hname)
  rw [hcanonical.normalize_eq h.isAbsolute, names_extend, collapseFrom_append [] _ h.isStepName,
    List.append_nil, collapseFrom_climb hreversed, collapseFrom_eq _ hnames, List.drop_reverse,
    List.reverse_reverse]
  rfl

/-! ## Down -/

/-- The path to a location from a directory that it is in. -/
theorem IsLocation.relativeText_extend (h : root.IsLocation)
    (hnames : ∀ name ∈ names, IsStepName name) (cwd : Path) :
    relativeText cwd (root.extend names).toString root = .ok (Path.mk .relative names).toString := by
  have hlocation := h.extend hnames
  have hcommon : dropCommon (root.names ++ names) root.names = (names, []) := by
    have happend := dropCommon_append root.names names []
    rw [List.append_nil] at happend
    rw [happend]
    cases names <;> rfl
  rw [relativeText, if_neg (toString_ne_empty _), ofString_toString hlocation.isCanonical,
    relativeTo, hlocation.normalize_eq, h.normalize_eq, names_extend, hcommon]
  rfl

end Bundler.Path
