import Bundler.Proofs.Artifact.Writing

/-!
# How far changes reach

Making a directory changes a disk at most where the path of the directory leads, and the paths above it:
what is new there are directories. Storing files in a directory changes the places of these files
besides. All other places stay as they are.
-/

set_option autoImplicit false

namespace Bundler

/-- A path up to some of its names. -/
def Path.upTo (p : Path) (n : Nat) : Path :=
  { p with names := p.names.take n }

/-- All names of a path make the path. -/
theorem Path.upTo_length (p : Path) : p.upTo p.names.length = p := by
  rw [upTo, List.take_length]

/-- The directories on the way to a parent are those on the way to the path. -/
theorem Path.upTo_parent (p : Path) (n : Nat) :
    p.parent.upTo n = p.upTo (min n (p.names.length - 1)) := by
  rw [upTo, upTo, parent, List.dropLast_eq_take, List.take_take]

namespace Disk

/-- What has changed on a disk: at most the places of some files, where files stand now, and places that
were free and are those of directories on a path now. -/
structure ChangesAtMost (files : List Path) (directory : Path) (before after : Disk) : Prop where
  /-- Every place is as before, that of a file, or that of a new directory. -/
  places : ∀ names, after.get? names = before.get? names ∨
    (∃ file ∈ files, after.place file = .ok names ∧
      ∃ bytes, after.get? names = some (.file bytes)) ∨
    before.get? names = none ∧ after.get? names = some .directory ∧
      ∃ n, after.place (directory.upTo n) = .ok names
  /-- What the system around tells stays. -/
  surroundings : after.toSurroundings = before.toSurroundings

namespace ChangesAtMost

variable {d d' d'' : Disk} {p directory : Path} {written : List (List String)}
  {paths paths' : List Path}

/-- No change is one that is allowed. -/
theorem refl (paths : List Path) (directory : Path) (d : Disk) :
    ChangesAtMost paths directory d d where
  places := fun _ => .inl rfl
  surroundings := rfl

/-- Two changes one after the other. The places of the first one are still the places of its files and
directories if the second one lets the disk grow. -/
theorem trans (h : ChangesAtMost paths directory d d') (hgrows : Grows written d' d'')
    (h' : ChangesAtMost paths' directory d' d'') :
    ChangesAtMost (paths ++ paths') directory d d'' where
  places := by
    intro names
    rcases h'.places names with hsame | ⟨file, hfile, hplace, hnow⟩ | ⟨hfree, hnow, n, hplace⟩
    · rw [hsame]
      rcases h.places names with hsame' | ⟨file, hfile, hplace, hbytes⟩ | ⟨hfree, hdirectory, n, hplace⟩
      · exact .inl hsame'
      · exact .inr (.inl ⟨file, List.mem_append_left _ hfile, hgrows.place_eq_ok hplace, hbytes⟩)
      · exact .inr (.inr ⟨hfree, hdirectory, n, hgrows.place_eq_ok hplace⟩)
    · exact .inr (.inl ⟨file, List.mem_append_right _ hfile, hplace, hnow⟩)
    · -- What was free in between was free before.
      rcases h.places names with hsame | ⟨_, _, _, bytes, hbytes⟩ | ⟨_, hdirectory, _⟩
      · exact .inr (.inr ⟨hsame.symm.trans hfree, hnow, n, hplace⟩)
      · rw [hfree] at hbytes
        cases hbytes
      · rw [hfree] at hdirectory
        cases hdirectory
  surroundings := h'.surroundings.trans h.surroundings

/-- The directories above the parent of a path are directories on the path. -/
theorem of_parent (h : ChangesAtMost paths p.parent d d') : ChangesAtMost paths p d d' where
  places := by
    intro names
    rcases h.places names with hsame | hfile | ⟨hfree, hnow, n, hplace⟩
    · exact .inl hsame
    · exact .inr (.inl hfile)
    · rw [Path.upTo_parent] at hplace
      exact .inr (.inr ⟨hfree, hnow, _, hplace⟩)
  surroundings := h.surroundings

end ChangesAtMost

section Changes

variable {d d' : Disk} {p : Path} {bytes : List UInt8}

/-- Writing a file changes it at most. -/
theorem changesAtMost_write (directory : Path) (h : d.write p bytes = .ok d') :
    ChangesAtMost [p] directory d d' := by
  obtain ⟨_, place, hplace, hfree, rfl⟩ := write_eq_ok.mp h
  have hne := ne_nil_of_get? hfree
  refine ⟨?_, rfl⟩
  intro names
  rw [get?_put hne]
  by_cases hnames : names = place
  · rw [if_pos hnames, hnames]
    exact .inr (.inl ⟨p, List.mem_singleton_self p, (grows_put_file hfree).place_eq_ok hplace, bytes,
      rfl⟩)
  · rw [if_neg hnames]
    exact .inl rfl

/-- Making a directory changes no file. -/
theorem changesAtMost_makeDirectory (h : d.makeDirectory p = .ok d') :
    ChangesAtMost [] p d d' := by
  obtain ⟨place, hplace, hne, hfree, rfl⟩ := makeDirectory_eq_put h
  refine ⟨?_, rfl⟩
  intro names
  rw [get?_put hne]
  by_cases hnames : names = place
  · rw [if_pos hnames, hnames]
    refine .inr (.inr ⟨hfree, rfl, p.names.length, ?_⟩)
    rw [Path.upTo_length, hplace]
  · rw [if_neg hnames]
    exact .inl rfl

/-- Making sure of a directory changes no file. -/
theorem changesAtMost_ensureDirectory (h : ensureDirectory p d = .ok () d') :
    ChangesAtMost [] p d d' := by
  rw [ensureDirectory_eq_ok] at h
  split at h
  · rw [h]
    exact .refl [] p d
  · exact changesAtMost_makeDirectory h

/-- Making directories changes no file. -/
theorem changesAtMost_makeDirectoriesUpTo {above : Nat}
    (h : makeDirectoriesUpTo p above d = .ok () d') : ChangesAtMost [] p d d' := by
  induction above generalizing p d' with
  | zero => exact changesAtMost_ensureDirectory h
  | succ above ih =>
    rcases makeDirectoriesUpTo_succ h with h | ⟨_, between, hbetween, h⟩
    · exact changesAtMost_ensureDirectory h
    · exact (ih hbetween).of_parent.trans (grows_ensureDirectory h).1
        (changesAtMost_ensureDirectory h)

/-- Storing files changes their places at most, and those of the directories on the way. -/
theorem changesAtMost_store {files : List (String × List UInt8)} (h : store p files d = .ok () d') :
    ChangesAtMost (files.map fun file => p / file.1) p d d' := by
  induction files generalizing d with
  | nil =>
    cases h
    exact .refl [] p _
  | cons file files ih =>
    obtain ⟨made, between, hmade, hwrite, hrest⟩ := store_cons_eq_ok.mp h
    obtain ⟨_, place, _, hfree, hput⟩ := write_eq_ok.mp hwrite
    have hfirst : Grows [place] made between := hput ▸ grows_put_file hfree
    obtain ⟨written, hgrows, _⟩ := grows_store hrest
    have hfile := (changesAtMost_makeDirectoriesUpTo hmade).trans hfirst (changesAtMost_write p hwrite)
    exact hfile.trans hgrows (ih hrest)

end Changes

/-! ## Changes that keep a property -/

section Keeps

variable {P : Disk → Prop} {p : Path}

/-- Making sure of a directory keeps what making it keeps. -/
theorem keeps_ensureDirectory (h : ∀ d d', P d → d.makeDirectory p = .ok d' → P d') :
    Keeps P (ensureDirectory p) := by
  intro d hd
  have hstate : stateAfter (ensureDirectory p) d = (d.makeDirectory p).toOption.getD d := by
    unfold ensureDirectory
    rw [stateAfter_get_bind]
    rcases d.makeDirectory p with ⟨e, q⟩ | d'
    · dsimp only
      split <;> rfl
    · rfl
    · rfl
  rw [hstate]
  cases hmake : d.makeDirectory p with
  | ok d' => exact h d d' hd hmake
  | error e => exact hd

/-- The directories on a path are made by one round after the other. -/
theorem keeps_makeDirectoriesUpTo (h : ∀ n, Keeps P (ensureDirectory (p.upTo n))) (above : Nat) :
    Keeps P (makeDirectoriesUpTo p above) := by
  induction above generalizing p with
  | zero =>
    have hp := h p.names.length
    rwa [Path.upTo_length] at hp
  | succ above ih =>
    have hp := h p.names.length
    rw [Path.upTo_length] at hp
    have hparent : Keeps P (makeDirectoriesUpTo p.parent above) := by
      refine ih fun n => ?_
      rw [Path.upTo_parent]
      exact h _
    refine keeps_get.bind fun d => ?_
    split
    · dsimp only
      split
      · exact (keeps_throw _).bind fun _ => hparent.bind fun _ => hp
      · exact hparent.bind fun _ => hp
    · exact hp

/-- Writing a file keeps what holds of every disk after it has been written. -/
theorem keeps_writeFile {bytes : List UInt8} (h : ∀ d d', P d → d.write p bytes = .ok d' → P d') :
    Keeps P (writeFile p bytes) := by
  intro d hd
  have hstate : stateAfter (writeFile p bytes) d = (d.write p bytes).toOption.getD d := by
    unfold writeFile
    rw [stateAfter_get_bind]
    cases d.write p bytes <;> rfl
  rw [hstate]
  cases hwrite : d.write p bytes with
  | ok d' => exact h d d' hd hwrite
  | error e => exact hd

end Keeps

end Disk

end Bundler
