import Bundler.Proofs.Disk.Storing
import Bundler.Verification

/-!
# Storing files where nothing stands

Files are stored in an empty directory, or in one that is not there and is made for them. Either way
the directory holds just these files afterwards.
-/

set_option autoImplicit false

namespace Bundler.Disk

/-- A path leads to a directory in which nothing stands. -/
def IsEmptyDirectory (d : Disk) (p : Path) : Prop :=
  p.hasNull = false ∧ ∃ base, d.place p = .ok base ∧ d.get? base = some .directory ∧
    ∀ rest, rest ≠ [] → d.get? (base ++ rest) = none

/-- A path leads to nothing or to a directory in which nothing stands. -/
def IsVacant (d : Disk) (p : Path) : Prop :=
  d.isPresent p = false ∨ d.IsEmptyDirectory p

variable {d d' : Disk} {p : Path} {base names : List String} {files : List (String × List UInt8)}

/-- Without files, nothing is stored. -/
theorem storedAt_nil (names : List String) : storedAt [] names = none := by
  rcases names with _ | ⟨first, _ | ⟨next, rest⟩⟩ <;> rfl

/-- An empty directory contains no files. -/
theorem isEmptyDirectory_iff :
    d.IsEmptyDirectory p ↔ p.hasNull = false ∧ ∃ base, d.place p = .ok base ∧ d.Contains base [] := by
  unfold IsEmptyDirectory
  refine and_congr_right fun _ => exists_congr fun base => and_congr_right fun _ => ?_
  constructor
  · rintro ⟨hdirectory, hbelow⟩
    exact ⟨hdirectory, fun rest hrest => (hbelow rest hrest).trans (storedAt_nil rest).symm⟩
  · intro h
    exact ⟨h.directory, fun rest hrest => (h.below rest hrest).trans (storedAt_nil rest)⟩

/-- An empty directory is there. -/
theorem IsEmptyDirectory.isPresent (h : d.IsEmptyDirectory p) : d.isPresent p = true := by
  obtain ⟨hnull, base, hplace, hdirectory, _⟩ := h
  exact isPresent_iff_place.mpr ⟨hnull, base, _, hplace, hdirectory⟩

/-- What is not there is no directory. -/
theorem isDirectory_eq_false (h : d.isPresent p = false) : d.isDirectory p = false := by
  rw [Bool.eq_false_iff, ne_eq, isDirectory_iff]
  rintro ⟨hnull, hfind⟩
  rw [isPresent_iff.mpr ⟨hnull, _, hfind⟩] at h
  cases h

/-! ## Storing keeps a disk proper -/

/-- Files that have been stored have paths without NUL characters. -/
theorem hasNull_of_store (h : store p files d = .ok () d') :
    ∀ file ∈ files, (p / file.1).hasNull = false := by
  induction files generalizing d with
  | nil => exact nofun
  | cons file files ih =>
    obtain ⟨made, between, _, hwrite, hrest⟩ := store_cons_eq_ok.mp h
    intro other hother
    rcases List.mem_cons.mp hother with rfl | hother
    · exact (write_eq_ok.mp hwrite).1
    · exact ih hrest other hother

/-- Storing files keeps a disk proper. -/
theorem IsProper.store (h : d.IsProper) (hstore : Disk.store p files d = .ok () d') :
    d'.IsProper := by
  induction files generalizing d with
  | nil =>
    cases hstore
    exact h
  | cons file files ih =>
    obtain ⟨made, between, hmade, hwrite, hrest⟩ := store_cons_eq_ok.mp hstore
    exact ih ((h.makeDirectoriesUpTo hmade).write hwrite) hrest

/-! ## Storing in a directory that is empty or missing -/

/-- Files that were stored in an empty directory are in it, and nothing else is. -/
theorem IsEmptyDirectory.contains_of_store (h : d.IsEmptyDirectory p)
    (hnames : ∀ file ∈ files, IsStepName file.1) (hstore : store p files d = .ok () d') :
    ∃ base, d'.place p = .ok base ∧ d'.Contains base files := by
  obtain ⟨_, base, hplace, hempty⟩ := isEmptyDirectory_iff.mp h
  have hfit : ∀ file ∈ files, IsStepName file.1 ∧ (p.extend [file.1]).hasNull = false := by
    intro file hfile
    have hnull := hasNull_of_store hstore file hfile
    rw [Path.div_eq_extend (hnames file hfile).toIsName] at hnull
    exact ⟨hnames file hfile, hnull⟩
  obtain ⟨stored, hstored, hplace', hcontains⟩ := hempty.exists_store hplace hfit
  rw [hstore] at hstored
  cases hstored
  exact ⟨base, hplace', hcontains⟩

/-- Files can be stored in an empty directory. -/
theorem IsEmptyDirectory.exists_store (h : d.IsEmptyDirectory p)
    (hfiles : ∀ file ∈ files, IsEntryName file.1) : ∃ d', Disk.store p files d = .ok () d' := by
  obtain ⟨hnull, base, hplace, hempty⟩ := isEmptyDirectory_iff.mp h
  have hfit : ∀ file ∈ files, IsStepName file.1 ∧ (p.extend [file.1]).hasNull = false := by
    intro file hfile
    refine ⟨(hfiles file hfile).toIsStepName, ?_⟩
    rw [Path.hasNull_extend, hnull, Bool.false_or]
    exact hasNull_of_isEntryName (by simpa using hfiles file hfile)
  obtain ⟨d', hstore, _⟩ := hempty.exists_store hplace hfit
  exact ⟨d', hstore⟩

/-- A directory that has just been made is empty. -/
theorem IsProper.isEmptyDirectory_of_makeDirectory (h : d.IsProper)
    (hmake : d.makeDirectory p = .ok d') : d'.IsEmptyDirectory p := by
  obtain ⟨base, hplace, hcontains⟩ := h.contains_makeDirectory hmake
  exact isEmptyDirectory_iff.mpr ⟨(makeDirectory_eq_ok.mp hmake).1, base, hplace, hcontains⟩

/-- Before files are stored where nothing stands, there is an empty directory for them. -/
theorem IsProper.exists_empty (h : d.IsProper) (hvacant : d.IsVacant p)
    (hnames : d.isPresent p = false → ∀ name ∈ p.names, IsStepName name) (hne : files ≠ [])
    (hstore : Disk.store p files d = .ok () d') :
    ∃ made, Grows [] d made ∧ made.IsEmptyDirectory p ∧ Disk.store p files made = .ok () d' := by
  rcases hvacant with habsent | hempty
  · obtain ⟨file, rest, rfl⟩ := List.exists_cons_of_ne_nil hne
    obtain ⟨made, _, hmade, _, _⟩ := store_cons_eq_ok.mp hstore
    obtain ⟨hgrows, hdirectory⟩ := grows_makeDirectories hmade
    obtain ⟨base, hplace, hcontains⟩ := h.contains_makeDirectoriesUpTo (hnames habsent)
      (isDirectory_eq_false habsent) hmade
    refine ⟨made, hgrows, ?_, ?_⟩
    · exact isEmptyDirectory_iff.mpr ⟨(isDirectory_iff.mp hdirectory).1, base, hplace, hcontains⟩
    · rwa [← store_of_makeDirectories hne hmade]
  · exact ⟨d, .refl d, hempty, hstore⟩

/-- Files that were stored where nothing stands are in their directory, and nothing else is. -/
theorem IsProper.contains_of_store (h : d.IsProper) (hvacant : d.IsVacant p)
    (hnames : d.isPresent p = false → ∀ name ∈ p.names, IsStepName name) (hne : files ≠ [])
    (hfiles : ∀ file ∈ files, IsStepName file.1) (hstore : Disk.store p files d = .ok () d') :
    ∃ base, d'.place p = .ok base ∧ d'.Contains base files := by
  obtain ⟨made, _, hempty, hstored⟩ := h.exists_empty hvacant hnames hne hstore
  exact hempty.contains_of_store hfiles hstored

/-- Storing files where nothing stands lets a disk grow by these files, all of which are new, and by
directories. -/
theorem IsProper.grows_of_store (h : d.IsProper) (hvacant : d.IsVacant p)
    (hnames : d.isPresent p = false → ∀ name ∈ p.names, IsStepName name) (hne : files ≠ [])
    (hfiles : ∀ file ∈ files, IsStepName file.1) (hstore : Disk.store p files d = .ok () d') :
    ∃ written, Grows written d d' ∧ (∀ place ∈ written, d.get? place = none) ∧
      ∀ place, place ∈ written ↔ ∃ file ∈ files, d'.place (p / file.1) = .ok place := by
  obtain ⟨made, hmade, hempty, hstored⟩ := h.exists_empty hvacant hnames hne hstore
  obtain ⟨base, hplace, hcontains⟩ := hempty.contains_of_store hfiles hstored
  obtain ⟨_, below, hbelow, hnothing⟩ := isEmptyDirectory_iff.mp hempty
  obtain ⟨written, hgrows, hwritten⟩ := grows_store hstored
  have hsame : below = base :=
    Except.ok.inj ((hgrows.place_eq_ok hbelow).symm.trans hplace)
  refine ⟨written, hmade.trans hgrows, ?_, hwritten⟩
  intro place hmem
  obtain ⟨file, hfile, hplace'⟩ := (hwritten place).mp hmem
  have hname := hfiles file hfile
  rw [Path.div_eq_extend hname.toIsName,
    place_extend hplace hcontains.directory hname (hcontains.ne_link _), Except.ok.injEq] at hplace'
  -- Nothing stood there once the directory had been made, let alone before.
  have hfree : made.get? place = none := by
    rw [← hplace', ← hsame, hnothing.below _ (by simp), storedAt_nil]
  cases hget : d.get? place with
  | none => rfl
  | some e =>
    rw [hmade.kept place e List.not_mem_nil hget] at hfree
    cases hfree

/-! ## New directories at the root -/

/-- Where one directory can be made, nothing else has to be. -/
theorem makeDirectories_of_makeDirectory (h : d.makeDirectory p = .ok d') :
    makeDirectories p d = .ok () d' := by
  have hensure : ensureDirectory p d = .ok () d' := by
    rw [ensureDirectory_eq_ok]
    split
    · rename_i hdirectory
      rw [makeDirectory_of_isDirectory hdirectory] at h
      cases h
    · exact h
  refine stateful_bind_eq_ok.mpr ⟨d, d, rfl, ?_⟩
  rw [h]
  exact hensure

section Root

variable {name : String} (hname : IsEntryName name)

include hname

/-- A name at the root is the only step. -/
theorem absoluteSteps_root : d.absoluteSteps ⟨.root, [name]⟩ = [name] :=
  absoluteSteps_eq rfl (by simpa [Path.IsCanonical] using hname.toIsName)

/-- A name at the root that is no link leads to itself. -/
theorem place_root_of_ne_link (hlink : ∀ target, d.get? [name] ≠ some (.link target)) :
    d.place ⟨.root, [name]⟩ = .ok [name] := by
  rw [place, absoluteSteps_root hname]
  cases hget : d.get? ([] ++ [name]) with
  | none => rw [locate_missing hname.ne_dot hname.ne_dots hget, if_pos rfl, List.nil_append]
  | some e =>
    cases e with
    | file bytes => rw [locate_file hname.ne_dot hname.ne_dots hget, if_pos rfl, List.nil_append]
    | directory => rw [locate_directory hname.ne_dot hname.ne_dots hget, locate_nil, List.nil_append]
    | link target => exact absurd hget (hlink target)

variable (hfree : d.get? [name] = none)

include hfree

/-- A name at the root at which nothing stands leads to nothing. -/
theorem isPresent_root : d.isPresent ⟨.root, [name]⟩ = false := by
  have hplace := place_root_of_ne_link hname fun target => by rw [hfree]; nofun
  rw [Bool.eq_false_iff, ne_eq, isPresent_iff_place]
  rintro ⟨_, place, e, hplace', hget⟩
  rw [hplace, Except.ok.injEq] at hplace'
  rw [← hplace', hfree] at hget
  cases hget

/-- A directory can be made at the root. -/
theorem makeDirectory_root : d.makeDirectory ⟨.root, [name]⟩ = .ok (d.put [name] .directory) := by
  refine makeDirectory_eq_ok.mpr ⟨?_, [], name, [], absoluteSteps_root hname, hname.ne_dot,
    hname.ne_dots, locate_nil, rfl, hfree, rfl⟩
  exact hasNull_of_isEntryName (by simpa using hname)

/-- Files can be stored in a directory at the root that is not there. -/
theorem IsProper.exists_store_root (hproper : d.IsProper) (hne : files ≠ [])
    (hfiles : ∀ file ∈ files, IsEntryName file.1) :
    ∃ d', Disk.store ⟨.root, [name]⟩ files d = .ok () d' := by
  have hmake : makeDirectories ⟨.root, [name]⟩ d = .ok () (d.put [name] .directory) :=
    makeDirectories_of_makeDirectory (makeDirectory_root hname hfree)
  obtain ⟨base, hplace, hcontains⟩ := hproper.contains_makeDirectoriesUpTo
    (by simpa using hname.toIsStepName) (isDirectory_eq_false (isPresent_root hname hfree)) hmake
  have hfit : ∀ file ∈ files, IsStepName file.1 ∧
      ((Path.mk .root [name]).extend [file.1]).hasNull = false := by
    intro file hfile
    refine ⟨(hfiles file hfile).toIsStepName, hasNull_of_isEntryName ?_⟩
    intro other hother
    rcases List.mem_cons.mp hother with rfl | hother
    · exact hname
    · rw [List.mem_singleton.mp hother]
      exact hfiles file hfile
  obtain ⟨d', hstore, _⟩ := hcontains.exists_store hplace hfit
  exact ⟨d', (store_of_makeDirectories hne hmake).trans hstore⟩

end Root

end Bundler.Disk
