import Bundler.Proofs.Disk.Lookup

/-!
# Copied directories

A directory without links in it may stand again elsewhere, on the same disk or on another one. What
names lead to from the directory they also lead to from the copy, wherever the two stand and however
many links lead there.
-/

set_option autoImplicit false

namespace Bundler.Disk

/-- A directory holds no links and stands again on another disk under another path. -/
structure IsCopied (d d' : Disk) (original copy : Path) : Prop where
  /-- The directory is there. -/
  stands : d.isDirectory original = true
  /-- The copy is there. -/
  standsAgain : d'.isDirectory copy = true
  /-- There are no links in the directory. -/
  linkless : ∀ base, d.place original = .ok base → ∀ names target,
    d.get? (base ++ names) ≠ some (.link target)
  /-- What is in the directory is in the copy, and nothing else. -/
  same : ∀ base base', d.place original = .ok base → d'.place copy = .ok base' →
    ∀ names, names ≠ [] → d'.get? (base' ++ names) = d.get? (base ++ names)

variable {d d' : Disk} {original copy : Path} {names : List String}

/-- Where names lead from a directory without links and from its copy. -/
theorem exists_locate_eq {base base' : List String}
    (hlinkless : ∀ names target, d.get? (base ++ names) ≠ some (.link target))
    (hsame : ∀ names, d'.get? (base' ++ names) = d.get? (base ++ names)) (links links' : Nat)
    (here : List String) (hnames : ∀ name ∈ names, IsStepName name) :
    ∃ outcome : Except SystemError (List String),
      d.locate links (base ++ here) names = outcome.map (base ++ ·) ∧
      d'.locate links' (base' ++ here) names = outcome.map (base' ++ ·) := by
  induction names generalizing here with
  | nil => exact ⟨.ok here, locate_nil, locate_nil⟩
  | cons name rest ih =>
    have hname : IsStepName name := hnames name List.mem_cons_self
    have hrest := ih (here ++ [name]) fun other hother => hnames other (List.mem_cons_of_mem _ hother)
    have hget' := hsame (here ++ [name])
    rw [← List.append_assoc, ← List.append_assoc] at hget'
    rw [← List.append_assoc, ← List.append_assoc] at hrest
    cases hget : d.get? (base ++ here ++ [name]) with
    | none =>
      rw [hget] at hget'
      refine ⟨if rest = [] then .ok (here ++ [name]) else .error .noEntry, ?_, ?_⟩
      · rw [locate_missing hname.ne_dot hname.ne_dots hget]
        split <;> simp [Except.map]
      · rw [locate_missing hname.ne_dot hname.ne_dots hget']
        split <;> simp [Except.map]
    | some e =>
      rw [hget] at hget'
      cases e with
      | file bytes =>
        refine ⟨if rest = [] then .ok (here ++ [name]) else .error .notDirectory, ?_, ?_⟩
        · rw [locate_file hname.ne_dot hname.ne_dots hget]
          split <;> simp [Except.map]
        · rw [locate_file hname.ne_dot hname.ne_dots hget']
          split <;> simp [Except.map]
      | directory =>
        rw [locate_directory hname.ne_dot hname.ne_dots hget,
          locate_directory hname.ne_dot hname.ne_dots hget']
        exact hrest
      | link target =>
        rw [List.append_assoc] at hget
        exact absurd hget (hlinkless _ target)

namespace IsCopied

/-- What names lead to from a directory they lead to from its copy. -/
theorem find_extend (h : d.IsCopied d' original copy) (hnames : ∀ name ∈ names, IsStepName name) :
    d'.find (copy.extend names) = d.find (original.extend names) := by
  obtain ⟨_, base, hplace, hbase⟩ := isDirectory_iff_place.mp h.stands
  obtain ⟨_, base', hplace', hbase'⟩ := isDirectory_iff_place.mp h.standsAgain
  have hsame : ∀ names, d'.get? (base' ++ names) = d.get? (base ++ names) := by
    intro names
    by_cases hnil : names = []
    · rw [hnil, List.append_nil, List.append_nil, hbase, hbase']
    · exact h.same base base' hplace hplace' names hnil
  obtain ⟨left, _, hrest⟩ := locate_append hplace hbase
  obtain ⟨left', _, hrest'⟩ := locate_append hplace' hbase'
  obtain ⟨outcome, houtcome, houtcome'⟩ :=
    exists_locate_eq (h.linkless base hplace) hsame left left' [] hnames
  rw [List.append_nil] at houtcome houtcome'
  have hnames' : ∀ name ∈ names, Path.IsName name := fun name hname => (hnames name hname).toIsName
  unfold find
  rw [absoluteSteps_extend d' copy hnames', absoluteSteps_extend d original hnames', hrest, hrest',
    houtcome, houtcome']
  cases outcome with
  | error e => rfl
  | ok place =>
    dsimp only [Except.map, bind, Except.bind]
    rw [hsame]

/-- Below a copy, a path holds a NUL character if the original one does. -/
theorem hasNull_extend (h : d.IsCopied d' original copy) (names : List String) :
    (copy.extend names).hasNull = (original.extend names).hasNull := by
  rw [Path.hasNull_extend, Path.hasNull_extend, (isDirectory_iff.mp h.stands).1,
    (isDirectory_iff.mp h.standsAgain).1]
  rfl

/-- Below a copy, a path leads to a file if the original one does. -/
theorem isFile_extend (h : d.IsCopied d' original copy) (hnames : ∀ name ∈ names, IsStepName name) :
    d'.isFile (copy.extend names) = d.isFile (original.extend names) := by
  rw [isFile, isFile, h.find_extend hnames, h.hasNull_extend]

/-- Files are read from a copy as from the directory. -/
theorem read_extend (h : d.IsCopied d' original copy) (hnames : ∀ name ∈ names, IsStepName name)
    {bytes : List UInt8} (hread : d.read (original.extend names) = .ok bytes) :
    d'.read (copy.extend names) = .ok bytes := by
  rw [read_eq_ok] at hread ⊢
  rwa [h.find_extend hnames, h.hasNull_extend]

/-- A file in a directory is not the directory. -/
theorem ne_nil_of_read (h : d.IsCopied d' original copy) {bytes : List UInt8}
    (hread : d.read (original.extend names) = .ok bytes) : names ≠ [] := by
  rintro rfl
  rw [Path.extend_nil] at hread
  have hfind := (read_eq_ok.mp hread).2
  rw [(isDirectory_iff.mp h.stands).2] at hfind
  cases hfind

end IsCopied

end Bundler.Disk
