import Bundler.Proofs.Artifact.Writing
import Bundler.Proofs.Disk.Proper

/-!
# Storing files in an empty directory

Files with plain names can always be stored in an empty directory. Afterwards the directory holds
just these files, each with the bytes that were stored last under its name. A directory that has just
been made is empty.
-/

set_option autoImplicit false

namespace Bundler

namespace Disk

/-- What stands under names in a directory that files were stored in. -/
def storedAt (files : List (String × List UInt8)) : List String → Option Entry
  | [name] => (files.reverse.lookup name).map .file
  | _ => none

/-- A directory that holds stored files and nothing else. -/
structure Contains (d : Disk) (base : List String) (files : List (String × List UInt8)) : Prop where
  /-- The directory is there. -/
  directory : d.get? base = some .directory
  /-- The files are there, and nothing else. -/
  below : ∀ rest, rest ≠ [] → d.get? (base ++ rest) = storedAt files rest

variable {d d' : Disk} {p : Path} {base : List String} {files : List (String × List UInt8)}

/-- A file that is stored last takes the place of those of the same name. -/
theorem storedAt_concat (files : List (String × List UInt8)) (name : String) (bytes : List UInt8)
    (rest : List String) :
    storedAt (files ++ [(name, bytes)]) rest =
      if rest = [name] then some (.file bytes) else storedAt files rest := by
  cases rest with
  | nil => rfl
  | cons first rest =>
    cases rest with
    | nil =>
      rw [storedAt, List.reverse_append, List.reverse_singleton, List.singleton_append,
        lookup_cons_ite]
      by_cases hname : first = name <;> simp [hname, storedAt]
    | cons next rest => simp [storedAt]

/-- Where a name in a directory leads, unless a link stands there. -/
theorem place_extend {name : String} (hplace : d.place p = .ok base)
    (hbase : d.get? base = some .directory) (hname : IsStepName name)
    (hlink : ∀ target, d.get? (base ++ [name]) ≠ some (.link target)) :
    d.place (p.extend [name]) = .ok (base ++ [name]) := by
  obtain ⟨left, _, hrest⟩ := locate_append hplace hbase
  rw [place, absoluteSteps_extend d p (by simpa using hname.toIsName), hrest]
  cases hget : d.get? (base ++ [name]) with
  | none => rw [locate_missing hname.ne_dot hname.ne_dots hget, if_pos rfl]
  | some e =>
    cases e with
    | file bytes => rw [locate_file hname.ne_dot hname.ne_dots hget, if_pos rfl]
    | directory => rw [locate_directory hname.ne_dot hname.ne_dots hget, locate_nil]
    | link target => exact absurd hget (hlink target)

/-- There are no links among stored files. -/
theorem Contains.ne_link (h : d.Contains base files) (name target : String) :
    d.get? (base ++ [name]) ≠ some (.link target) := by
  rw [h.below [name] (by simp), storedAt]
  simp

/-- A directory contains one more file after it has been put there. -/
theorem Contains.put (h : d.Contains base files) (name : String) (bytes : List UInt8) :
    (d.put (base ++ [name]) (.file bytes)).Contains base (files ++ [(name, bytes)]) where
  directory := by
    rw [get?_put (by simp), if_neg (by simp), h.directory]
  below := by
    intro rest hrest
    rw [get?_put (by simp), storedAt_concat, h.below rest hrest]
    simp only [List.append_cancel_left_eq]

/-- A path that leads to a directory with files leads to a directory. -/
theorem isDirectory_of_contains (hnull : p.hasNull = false) (hplace : d.place p = .ok base)
    (h : d.Contains base files) : d.isDirectory p = true :=
  isDirectory_iff_place.mpr ⟨hnull, base, hplace, h.directory⟩

/-- One more file is stored. -/
theorem Contains.write {name : String} (h : d.Contains base files) (hplace : d.place p = .ok base)
    (hnull : (p.extend [name]).hasNull = false) (hname : IsStepName name) (bytes : List UInt8) :
    d.write (p / name) bytes = .ok (d.put (base ++ [name]) (.file bytes)) := by
  rw [Path.div_eq_extend hname.toIsName]
  refine write_eq_ok.mpr ⟨hnull, base ++ [name], ?_, ?_, rfl⟩
  · exact place_extend hplace h.directory hname (h.ne_link name)
  · rw [h.below [name] (by simp), storedAt]
    cases files.reverse.lookup name with
    | none => exact .inl rfl
    | some old => exact .inr ⟨old, rfl⟩

/-- Files with plain names can be stored in a directory that holds stored files only. -/
theorem Contains.exists_store {more : List (String × List UInt8)} (h : d.Contains base files)
    (hplace : d.place p = .ok base)
    (hnames : ∀ file ∈ more, IsStepName file.1 ∧ (p.extend [file.1]).hasNull = false) :
    ∃ d', store p more d = .ok () d' ∧ d'.place p = .ok base ∧ d'.Contains base (files ++ more) := by
  induction more generalizing d files with
  | nil => exact ⟨d, rfl, hplace, by rwa [List.append_nil]⟩
  | cons file more ih =>
    obtain ⟨hname, hnull⟩ := hnames file List.mem_cons_self
    have hp : p.hasNull = false := by
      rw [Path.hasNull_extend, Bool.or_eq_false_iff] at hnull
      exact hnull.1
    have hmake := makeDirectories_of_isDirectory (isDirectory_of_contains hp hplace h)
    have hwrite := h.write hplace hnull hname file.2
    obtain ⟨_, place, _, hfree, hput⟩ := write_eq_ok.mp hwrite
    have hplace' : (d.put (base ++ [file.1]) (.file file.2)).place p = .ok base := by
      rw [hput]
      exact (grows_put_file hfree).place_eq_ok hplace
    obtain ⟨d', hstore, hplace'', hcontains⟩ := ih (h.put file.1 file.2) hplace'
      fun other hother => hnames other (List.mem_cons_of_mem _ hother)
    refine ⟨d', store_cons_eq_ok.mpr ⟨_, _, hmake, hwrite, hstore⟩, hplace'', ?_⟩
    rwa [List.append_assoc] at hcontains

/-- Making a directory first makes no difference. -/
theorem store_of_makeDirectories {made : Disk} (hne : files ≠ [])
    (hmake : makeDirectories p d = .ok () made) : store p files d = store p files made := by
  cases files with
  | nil => exact absurd rfl hne
  | cons file files =>
    have hthere := makeDirectories_of_isDirectory (grows_makeDirectories hmake).2
    change (makeDirectories p >>= fun _ => _ : Changing Unit) d =
      (makeDirectories p >>= fun _ => _ : Changing Unit) made
    change EStateM.bind (makeDirectories p) _ d = EStateM.bind (makeDirectories p) _ made
    unfold EStateM.bind
    rw [hmake, hthere]

/-! ## Directories that have just been made -/

/-- Nothing stands in a directory that is new. -/
theorem IsProper.contains_put (h : d.IsProper) {names : List String} (hne : names ≠ [])
    (hfree : d.get? names = none) : (d.put names .directory).Contains names [] where
  directory := by
    rw [get?_put hne, if_pos rfl]
  below := by
    intro rest hrest
    have hnone := h.get?_append hrest (by simp [hfree] : d.get? names ≠ some .directory)
    rw [get?_put hne, if_neg (by simpa using hrest), hnone]
    cases rest with
    | nil => rfl
    | cons first rest => cases rest <;> rfl

/-- A directory that is made is empty. -/
theorem IsProper.contains_makeDirectory (h : d.IsProper) (hmake : d.makeDirectory p = .ok d') :
    ∃ base, d'.place p = .ok base ∧ d'.Contains base [] := by
  obtain ⟨place, hplace, hne, hfree, rfl⟩ := makeDirectory_eq_put hmake
  exact ⟨place, hplace, h.contains_put hne hfree⟩

/-- Nothing stands in a directory that has just been made sure of. -/
theorem IsProper.contains_ensureDirectory (h : d.IsProper) (habsent : d.isDirectory p = false)
    (hmake : Disk.ensureDirectory p d = .ok () d') :
    ∃ base, d'.place p = .ok base ∧ d'.Contains base [] := by
  rw [ensureDirectory_eq_ok, if_neg (by simp [habsent])] at hmake
  exact h.contains_makeDirectory hmake

/-- Names that lead down from a path lead to a new, empty directory once it has been made: those above
it that were missing have been made along with it. -/
theorem IsProper.contains_makeDirectoriesUpTo (h : d.IsProper) {above : Nat}
    (hnames : ∀ name ∈ p.names, IsStepName name) (habsent : d.isDirectory p = false)
    (hmake : Disk.makeDirectoriesUpTo p above d = .ok () d') :
    ∃ base, d'.place p = .ok base ∧ d'.Contains base [] := by
  induction above generalizing p d' with
  | zero => exact h.contains_ensureDirectory habsent hmake
  | succ above ih =>
    rcases makeDirectoriesUpTo_succ hmake with hmake | ⟨hne, between, hbetween, hmake⟩
    · exact h.contains_ensureDirectory habsent hmake
    · refine (h.makeDirectoriesUpTo hbetween).contains_ensureDirectory ?_ hmake
      cases hparent : d.isDirectory p.parent with
      | true =>
        rw [makeDirectoriesUpTo_of_isDirectory hparent] at hbetween
        cases hbetween
        exact habsent
      | false =>
        -- The directory above has just been made, so that the last name is free in it.
        obtain ⟨base, hbase, hcontains⟩ :=
          ih (fun name hname => hnames name (List.mem_of_mem_dropLast hname)) hparent hbetween
        have hp : p.parent.extend [p.names.getLast hne] = p := by
          rw [Path.extend, Path.parent, List.dropLast_append_getLast]
        have hlast : IsStepName (p.names.getLast hne) := hnames _ (List.getLast_mem hne)
        have hplace := place_extend hbase hcontains.directory hlast (hcontains.ne_link _)
        have hnone := hcontains.below [p.names.getLast hne] (by simp)
        rw [hp] at hplace
        rw [Bool.eq_false_iff, ne_eq, isDirectory_iff_place]
        rintro ⟨_, place, hplace', hget⟩
        rw [hplace] at hplace'
        cases hplace'
        rw [hnone] at hget
        cases hget

end Disk

end Bundler
