import Bundler.Proofs.Disk.Lookup
import Bundler.Proofs.Path.Extension

/-!
# Normal paths

A normal path leads down from the root by step names. Normalizing leaves it as it is, and what
normalizing gives is normal. The path that leads from one location to another does lead there, and it
does not depend on the directory that both are in.
-/

set_option autoImplicit false

namespace Bundler

/-- A step name with a suffix is a step name again. -/
theorem IsStepName.append {name suffix : String} (h : IsStepName name)
    (hsuffix : '/' ∉ suffix.toList) : IsStepName (name ++ suffix) where
  toIsName := h.toIsName.append hsuffix
  ne_dots := by
    intro hdots
    have hchars : name.toList ++ suffix.toList = ['.', '.'] := by
      rw [← String.toList_append, hdots]
      rfl
    -- The name would be nothing, one dot or two dots.
    rcases List.append_eq_cons_iff.mp hchars with ⟨hname, _⟩ | ⟨rest, hname, hrest⟩
    · exact h.ne_empty (String.toList_eq_nil_iff.mp hname)
    · rcases List.append_eq_singleton_iff.mp hrest.symm with ⟨hnil, _⟩ | ⟨hdot, _⟩
      · rw [hnil] at hname
        exact h.ne_dot (String.toList_inj.mp hname)
      · rw [hdot] at hname
        exact h.ne_dots (String.toList_inj.mp hname)

namespace Path

/-- A path that leads down from the root. -/
structure IsNormal (p : Path) : Prop where
  /-- The path begins at the root. -/
  anchor : p.anchor = .root
  /-- Every name leads down. -/
  names : ∀ name ∈ p.names, IsStepName name

variable {p : Path} {names : List String}

/-- A path that leads down from the root is absolute. -/
theorem IsNormal.isAbsolute (h : p.IsNormal) : p.isAbsolute = true := by
  rw [Path.isAbsolute, h.anchor]
  rfl

/-- A path that leads down from the root is in normal form. -/
theorem IsNormal.isCanonical (h : p.IsNormal) : p.IsCanonical :=
  fun name hname => (h.names name hname).toIsName

/-- A path that leads down from the root does so with further such names. -/
theorem IsNormal.extend (h : p.IsNormal) (hnames : ∀ name ∈ names, IsStepName name) :
    (p.extend names).IsNormal := by
  refine ⟨h.anchor, ?_⟩
  intro name hname
  rcases List.mem_append.mp hname with hname | hname
  · exact h.names name hname
  · exact hnames name hname

/-- Names are split into themselves. -/
theorem namesOf_flatMap (h : ∀ name ∈ names, IsName name) : names.flatMap namesOf = names := by
  induction names with
  | nil => rfl
  | cons name names ih =>
    rw [List.flatMap_cons, namesOf_eq_singleton (h name List.mem_cons_self),
      ih fun other hother => h other (List.mem_cons_of_mem _ hother)]
    rfl

/-- A name is kept. -/
theorem collapseFrom_cons {absolute : Bool} {done : List String} {name : String} (h : name ≠ "..")
    (rest : List String) :
    collapseFrom absolute done (name :: rest) = collapseFrom absolute (name :: done) rest :=
  if_neg h

/-- Two dots take back the name before them. -/
theorem collapseFrom_dots_cons {absolute : Bool} {before : List String} {last : String}
    (h : last ≠ "..") (rest : List String) :
    collapseFrom absolute (last :: before) (".." :: rest) = collapseFrom absolute before rest :=
  (if_pos rfl).trans (if_neg h)

/-- Names that lead down cancel none. -/
theorem collapseFrom_append {absolute : Bool} (done rest : List String)
    (h : ∀ name ∈ names, IsStepName name) :
    collapseFrom absolute done (names ++ rest) =
      collapseFrom absolute (names.reverse ++ done) rest := by
  induction names generalizing done with
  | nil => rfl
  | cons name names ih =>
    rw [List.forall_mem_cons] at h
    rw [List.cons_append, collapseFrom_cons h.1.ne_dots, ih _ h.2, List.reverse_cons,
      List.append_assoc, List.singleton_append]

/-- Names that lead down are kept. -/
theorem collapseFrom_eq {absolute : Bool} (done : List String)
    (h : ∀ name ∈ names, IsStepName name) :
    collapseFrom absolute done names = done.reverse ++ names := by
  rw [← List.append_nil names, collapseFrom_append done [] h, collapseFrom, List.reverse_append,
    List.reverse_reverse, List.append_nil]

/-- As many names `..` as names lead down cancel all of these. -/
theorem collapseFrom_replicate_append {absolute : Bool} (done rest : List String)
    (h : ∀ name ∈ names, IsStepName name) :
    collapseFrom absolute (names ++ done) (List.replicate names.length ".." ++ rest) =
      collapseFrom absolute done rest := by
  induction names with
  | nil => rfl
  | cons name names ih =>
    rw [List.forall_mem_cons] at h
    rw [List.length_cons, List.replicate_succ, List.cons_append, List.cons_append,
      collapseFrom_dots_cons h.1.ne_dots, ih h.2]

/-- Where names `..` lead up and the others down, the former cancel what stands before them. -/
theorem collapseFrom_up_down {common up down : List String}
    (hup : ∀ name ∈ common ++ up, IsStepName name) (hdown : ∀ name ∈ down, IsStepName name) :
    collapseFrom true [] (common ++ up ++ (List.replicate up.length ".." ++ down)) =
      common ++ down := by
  have hreversed : ∀ name ∈ up.reverse, IsStepName name := fun name hname =>
    hup name (List.mem_append_right _ (List.mem_reverse.mp hname))
  rw [collapseFrom_append [] _ hup, List.append_nil, List.reverse_append, ← List.length_reverse,
    collapseFrom_replicate_append _ _ hreversed, collapseFrom_eq _ hdown, List.reverse_reverse]

/-- An absolute path is normalized by taking names back. -/
theorem IsCanonical.normalize_eq (h : p.IsCanonical) (habsolute : p.isAbsolute = true) (cwd : Path) :
    p.normalize cwd = { p with names := collapseFrom true [] p.names } := by
  have hjoin : cwd.join p = p := by rw [join, if_pos habsolute]
  unfold Path.normalize
  dsimp only
  rw [hjoin, namesOf_flatMap h, habsolute]

/-- Normalizing leaves a normal path as it is. -/
theorem IsNormal.normalize_eq (h : p.IsNormal) (cwd : Path) : p.normalize cwd = p := by
  rw [h.isCanonical.normalize_eq h.isAbsolute, collapseFrom_eq [] h.names]
  rfl

/-- No two dots are left on an absolute path. -/
theorem dots_not_mem_collapseFrom {done : List String} (hdone : ".." ∉ done) :
    ".." ∉ collapseFrom true done names := by
  induction names generalizing done with
  | nil => simpa [collapseFrom] using hdone
  | cons name names ih =>
    unfold collapseFrom
    split
    · cases done with
      | nil => exact ih (by simp)
      | cons last before =>
        have hlast : last ≠ ".." := fun heq => hdone (heq ▸ List.mem_cons_self)
        dsimp only
        rw [if_neg hlast]
        exact ih fun hmem => hdone (List.mem_cons_of_mem _ hmem)
    · rename_i hname
      refine ih fun hmem => ?_
      rcases List.mem_cons.mp hmem with heq | hmem
      · exact hname heq.symm
      · exact hdone hmem

/-- What normalizing gives is normal if it begins at the root. -/
theorem isNormal_normalize {cwd : Path} (h : (p.normalize cwd).anchor = .root) :
    (p.normalize cwd).IsNormal := by
  refine ⟨h, ?_⟩
  intro name hname
  refine ⟨isCanonical_normalize p cwd name hname, ?_⟩
  rintro rfl
  unfold Path.normalize at h hname
  dsimp only at h hname
  have habsolute : (cwd.join p).isAbsolute = true := by
    rw [Path.isAbsolute, h]
    rfl
  rw [habsolute] at hname
  exact dots_not_mem_collapseFrom (by simp) hname

/-! ## Relative to a directory -/

/-- Names that two paths have in common are dropped. -/
theorem dropCommon_append (common down up : List String) :
    dropCommon (common ++ down) (common ++ up) = dropCommon down up := by
  induction common with
  | nil => rfl
  | cons name common ih => rw [List.cons_append, List.cons_append, dropCommon, if_pos rfl, ih]

/-- Two lists are what they have in common, followed by what is left of each. -/
theorem exists_common (as bs : List String) : ∃ common,
    as = common ++ (dropCommon as bs).1 ∧ bs = common ++ (dropCommon as bs).2 := by
  fun_induction dropCommon as bs with
  | case1 as b bs ih =>
    obtain ⟨common, has, hbs⟩ := ih
    exact ⟨b :: common, congrArg (b :: ·) has, congrArg (b :: ·) hbs⟩
  | case2 | case3 => exact ⟨[], rfl, rfl⟩

/-- The path to a location relative to a directory leads from the directory to the location. -/
theorem IsNormal.normalize_div_relativeTo {root : Path} (hp : p.IsNormal) (hroot : root.IsNormal)
    (cwd cwd' : Path) : (root / (p.relativeTo root cwd).toString).normalize cwd' = p := by
  obtain ⟨common, hdown, hup⟩ := exists_common p.names root.names
  rw [relativeTo, hp.normalize_eq, hroot.normalize_eq]
  generalize dropCommon p.names root.names = pieces at hdown hup ⊢
  obtain ⟨down, up⟩ := pieces
  have hdownNames : ∀ name ∈ down, IsStepName name := fun name hname =>
    hp.names name (hdown ▸ List.mem_append_right _ hname)
  have hupNames : ∀ name ∈ common ++ up, IsStepName name := hup ▸ hroot.names
  have hnames : ∀ name ∈ List.replicate up.length ".." ++ down, IsName name := by
    intro name hname
    rcases List.mem_append.mp hname with hdots | hmem
    · rw [(List.mem_replicate.mp hdots).2]
      exact isName_dots
    · exact (hdownNames name hmem).toIsName
  have hdiv : root / (Path.mk .relative (List.replicate up.length ".." ++ down)).toString =
      root.extend (List.replicate up.length ".." ++ down) := by
    change root.join (ofString (Path.mk .relative _).toString) = _
    rw [ofString_toString (p := ⟨.relative, _⟩) hnames]
    rfl
  dsimp only
  rw [hdiv, (hroot.isCanonical.extend hnames).normalize_eq hroot.isAbsolute, names_extend, hup,
    collapseFrom_up_down hupNames hdownNames]
  exact congrArg₂ Path.mk (hroot.anchor.trans hp.anchor.symm) hdown.symm

/-- The path of a location relative to the root is written as one. -/
theorem IsNormal.relativeText_eq (h : p.IsNormal) (cwd root : Path) :
    relativeText cwd p.toString root = .ok (p.relativeTo root cwd).toString := by
  rw [relativeText, if_neg p.toString_ne_empty, ofString_toString h.isCanonical]

/-- The path that leads from one place in a directory to another one in it. -/
def between (down up : List String) : Path :=
  let (down, up) := dropCommon down up
  { anchor := .relative, names := List.replicate up.length ".." ++ down }

/-- The path to a location in a directory from another location in it depends on where they are in
the directory only. -/
theorem relativeText_extend {directory root cwd : Path} {up : List String}
    (hdirectory : directory.IsNormal) (hnames : ∀ name ∈ names, IsStepName name)
    (hroot : root.normalize cwd = directory.extend up) :
    relativeText cwd (directory.extend names).toString root = .ok (between names up).toString := by
  have hlocation := hdirectory.extend hnames
  rw [hlocation.relativeText_eq, relativeTo, hlocation.normalize_eq, hroot, names_extend,
    names_extend, dropCommon_append]
  rfl

end Path

end Bundler
