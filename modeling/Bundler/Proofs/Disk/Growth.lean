import Bundler.Proofs.Disk.Lookup

/-!
# Growing disks

Writing files and making directories lets a disk grow: entries stay, files at the places written
apart, and what is new elsewhere is a directory. A look-up that has led somewhere leads there still.
-/

set_option autoImplicit false

namespace Bundler.Disk

/-- A disk has grown by files at some places and by directories. -/
structure Grows (written : List (List String)) (before after : Disk) : Prop where
  /-- Entries stay, those written apart. -/
  kept : ∀ names e, names ∉ written → before.get? names = some e → after.get? names = some e
  /-- Other places that were free are free or hold a directory. -/
  made : ∀ names, names ∉ written → before.get? names = none →
    after.get? names = none ∨ after.get? names = some .directory
  /-- Only files are written over. -/
  replaced : ∀ names ∈ written, before.get? names = none ∨ ∃ bytes, before.get? names = some (.file bytes)
  /-- Where something was written there is a file. -/
  wrote : ∀ names ∈ written, ∃ bytes, after.get? names = some (.file bytes)
  /-- What the system around tells stays. -/
  surroundings : after.toSurroundings = before.toSurroundings

namespace Grows

variable {d d' d'' : Disk} {written more : List (List String)}

/-- The current directory stays. -/
theorem current (h : Grows written d d') : d'.current = d.current :=
  congrArg Surroundings.current h.surroundings

/-- A disk has grown by nothing. -/
theorem refl (d : Disk) : Grows [] d d where
  kept := fun _ _ _ h => h
  made := fun _ _ h => .inl h
  replaced := fun _ h => nomatch h
  wrote := fun _ h => nomatch h
  surroundings := rfl

/-- A disk that has grown twice has grown by both. -/
theorem trans (h : Grows written d d') (h' : Grows more d' d'') :
    Grows (written ++ more) d d'' where
  kept := by
    intro names e hnames hget
    rw [List.mem_append, not_or] at hnames
    exact h'.kept names e hnames.2 (h.kept names e hnames.1 hget)
  made := by
    intro names hnames hget
    rw [List.mem_append, not_or] at hnames
    rcases h.made names hnames.1 hget with hnone | hdirectory
    · exact h'.made names hnames.2 hnone
    · exact .inr (h'.kept names _ hnames.2 hdirectory)
  replaced := by
    intro names hnames
    by_cases hfirst : names ∈ written
    · exact h.replaced names hfirst
    · have hmore : names ∈ more := (List.mem_append.mp hnames).resolve_left hfirst
      cases hget : d.get? names with
      | none => exact .inl rfl
      | some e =>
        -- An entry that the first part keeps is written over by the second part, so it is a file.
        rcases h'.replaced names hmore with hnone | ⟨bytes, hbytes⟩
        · rw [h.kept names e hfirst hget] at hnone
          cases hnone
        · rw [h.kept names e hfirst hget] at hbytes
          exact .inr ⟨bytes, hbytes⟩
  wrote := by
    intro names hnames
    by_cases hmore : names ∈ more
    · exact h'.wrote names hmore
    · obtain ⟨bytes, hbytes⟩ := h.wrote names ((List.mem_append.mp hnames).resolve_right hmore)
      exact ⟨bytes, h'.kept names _ hmore hbytes⟩
  surroundings := h'.surroundings.trans h.surroundings

/-- A directory stays. -/
theorem get?_directory (h : Grows written d d') {names : List String}
    (hget : d.get? names = some .directory) : d'.get? names = some .directory := by
  apply h.kept names _ _ hget
  intro hnames
  rcases h.replaced names hnames with hnone | ⟨bytes, hbytes⟩
  · rw [hget] at hnone
    cases hnone
  · rw [hget] at hbytes
    cases hbytes

/-- Links stay, and there are no new ones. -/
theorem get?_link (h : Grows written d d') {names : List String} {target : String} :
    d'.get? names = some (.link target) ↔ d.get? names = some (.link target) := by
  constructor
  · intro hget
    have hnames : names ∉ written := by
      intro hnames
      obtain ⟨bytes, hbytes⟩ := h.wrote names hnames
      rw [hget] at hbytes
      cases hbytes
    cases hbefore : d.get? names with
    | none =>
      rcases h.made names hnames hbefore with hnone | hdirectory
      · rw [hget] at hnone
        cases hnone
      · rw [hget] at hdirectory
        cases hdirectory
    | some e => rw [← hget, h.kept names e hnames hbefore]
  · intro hget
    apply h.kept names _ _ hget
    intro hnames
    rcases h.replaced names hnames with hnone | ⟨bytes, hbytes⟩
    · rw [hget] at hnone
      cases hnone
    · rw [hget] at hbytes
      cases hbytes

/-- Where a file was there is one still. -/
theorem get?_file (h : Grows written d d') {names : List String} {bytes : List UInt8}
    (hget : d.get? names = some (.file bytes)) : ∃ now, d'.get? names = some (.file now) := by
  by_cases hnames : names ∈ written
  · exact h.wrote names hnames
  · exact ⟨bytes, h.kept names _ hnames hget⟩

/-- A look-up that has led somewhere leads there still. -/
theorem locate_eq_ok (h : Grows written d d') {links : Nat} {here names place : List String}
    (hlocate : d.locate links here names = .ok place) :
    d'.locate links here names = .ok place := by
  induction links, here, names using d.locate_induction with
  | nil links here =>
    rw [locate_nil] at hlocate ⊢
    exact hlocate
  | dot links here rest ih =>
    rw [locate_dot] at hlocate ⊢
    exact ih hlocate
  | dots links here rest ih =>
    rw [locate_dots] at hlocate ⊢
    exact ih hlocate
  | missing links here name rest hdot hdots hget =>
    rw [locate_missing hdot hdots hget] at hlocate
    split at hlocate
    · rename_i hrest
      subst hrest
      cases hlocate
      -- What is there now is no link, and it is the last name.
      cases hnow : d'.get? (here ++ [name]) with
      | none => rw [locate_missing hdot hdots hnow, if_pos rfl]
      | some e =>
        cases e with
        | file bytes => rw [locate_file hdot hdots hnow, if_pos rfl]
        | directory => rw [locate_directory hdot hdots hnow, locate_nil]
        | link target =>
          rw [h.get?_link, hget] at hnow
          cases hnow
    · cases hlocate
  | file links here name rest bytes hdot hdots hget =>
    rw [locate_file hdot hdots hget] at hlocate
    obtain ⟨now, hnow⟩ := h.get?_file hget
    rw [locate_file hdot hdots hnow]
    exact hlocate
  | directory links here name rest hdot hdots hget ih =>
    rw [locate_directory hdot hdots hget] at hlocate
    rw [locate_directory hdot hdots (h.get?_directory hget)]
    exact ih hlocate
  | stuck here name rest target hdot hdots hget =>
    rw [locate_link_zero hdot hdots hget] at hlocate
    cases hlocate
  | link links here name rest target hdot hdots hget ih =>
    rw [locate_link hdot hdots hget] at hlocate
    rw [locate_link hdot hdots (h.get?_link.mpr hget)]
    exact ih hlocate

/-- Paths are looked up from the same current directory. -/
theorem absoluteSteps_eq (h : Grows written d d') (p : Path) :
    d'.absoluteSteps p = d.absoluteSteps p := by
  rw [absoluteSteps, absoluteSteps, h.current]

/-- A path that led to a place leads there still. -/
theorem place_eq_ok (h : Grows written d d') {p : Path} {place : List String}
    (hplace : d.place p = .ok place) : d'.place p = .ok place := by
  rw [Disk.place, h.absoluteSteps_eq]
  exact h.locate_eq_ok hplace

/-- A path that led to a directory does so still. -/
theorem isDirectory (h : Grows written d d') {p : Path} (hp : d.isDirectory p = true) :
    d'.isDirectory p = true := by
  rw [isDirectory_iff_place] at hp ⊢
  obtain ⟨hnull, place, hplace, hget⟩ := hp
  exact ⟨hnull, place, h.place_eq_ok hplace, h.get?_directory hget⟩

/-- Directories above a place stay. -/
theorem isOpen (h : Grows written d d') {names : List String} (hopen : d.IsOpen names) :
    d'.IsOpen names := by
  intro n
  exact h.get?_directory (hopen n)

end Grows

/-! ## Writing a file -/

section Write

variable {d d' : Disk} {p : Path} {bytes : List UInt8}

/-- A file is put at the place that its path leads to, where nothing was or a file. -/
theorem write_eq_ok :
    d.write p bytes = .ok d' ↔ p.hasNull = false ∧ ∃ place, d.place p = .ok place ∧
      (d.get? place = none ∨ ∃ old, d.get? place = some (.file old)) ∧
      d' = d.put place (.file bytes) := by
  unfold write Disk.place
  cases hnull : p.hasNull with
  | true => simp
  | false =>
    cases hplace : d.locate maxLinks [] (d.absoluteSteps p) with
    | error e => simp
    | ok place =>
      cases hget : d.get? place with
      | none => simp [hget, eq_comm]
      | some e => cases e <;> simp [hget, eq_comm]

/-- There is no file at the root. -/
theorem ne_nil_of_get? {names : List String}
    (h : d.get? names = none ∨ ∃ old, d.get? names = some (.file old)) : names ≠ [] := by
  rintro rfl
  rcases h with h | ⟨old, h⟩ <;> cases h

/-- A disk grows by a file that is put where nothing else than a file stands. -/
theorem grows_put_file {names : List String}
    (h : d.get? names = none ∨ ∃ old, d.get? names = some (.file old)) :
    Grows [names] d (d.put names (.file bytes)) where
  kept := by
    intro other e hother hget
    rw [get?_put (ne_nil_of_get? h), if_neg (by simpa using hother), hget]
  made := by
    intro other hother hget
    rw [get?_put (ne_nil_of_get? h), if_neg (by simpa using hother)]
    exact .inl hget
  replaced := by
    intro other hother
    rw [List.mem_singleton.mp hother]
    exact h
  wrote := by
    intro other hother
    rw [List.mem_singleton.mp hother, get?_put (ne_nil_of_get? h), if_pos rfl]
    exact ⟨bytes, rfl⟩
  surroundings := rfl

/-- Where a file was written, its bytes are read. -/
theorem read_write (h : d.write p bytes = .ok d') : d'.read p = .ok bytes := by
  obtain ⟨hnull, place, hplace, hget, rfl⟩ := write_eq_ok.mp h
  refine read_eq_ok_iff_place.mpr ⟨hnull, place, ?_, ?_⟩
  · exact (grows_put_file hget).place_eq_ok hplace
  · rw [get?_put (ne_nil_of_get? hget), if_pos rfl]

end Write

/-! ## Making a directory -/

section MakeDirectory

variable {d d' : Disk} {p : Path}

/-- A disk grows by a directory that is put where nothing stands. -/
theorem grows_put_directory {names : List String} (hne : names ≠ []) (h : d.get? names = none) :
    Grows [] d (d.put names .directory) where
  kept := by
    intro other e _ hget
    have hother : other ≠ names := by
      rintro rfl
      rw [h] at hget
      cases hget
    rw [get?_put hne, if_neg hother, hget]
  made := by
    intro other _ hget
    rw [get?_put hne]
    by_cases hother : other = names
    · rw [if_pos hother]
      exact .inr rfl
    · rw [if_neg hother]
      exact .inl hget
  replaced := fun _ h => nomatch h
  wrote := fun _ h => nomatch h
  surroundings := rfl

/-- A directory is made in the directory that the names before the last one lead to. -/
theorem makeDirectory_eq_ok :
    d.makeDirectory p = .ok d' ↔ p.hasNull = false ∧ ∃ names name base,
      d.absoluteSteps p = names ++ [name] ∧ name ≠ "." ∧ name ≠ ".." ∧
      d.locate maxLinks [] names = .ok base ∧ d.get? base = some .directory ∧
      d.get? (base ++ [name]) = none ∧ d' = d.put (base ++ [name]) .directory := by
  unfold makeDirectory
  cases hnull : p.hasNull with
  | true => simp
  | false =>
    cases hsteps : d.absoluteSteps p using List.reverseRecOn with
    | nil =>
      have hget : d.get? [] = some .directory := rfl
      simp [locate_nil, hget]
    | append_singleton names name =>
      simp only [List.dropLast_concat, List.getLast?_concat, Bool.false_eq_true, if_false]
      cases hlocate : d.locate maxLinks [] names with
      | error e => simp [hlocate]
      | ok base =>
        rcases hbase : d.get? base with _ | _ | _ | _
        · simp [hlocate, hbase]
        · simp [hlocate, hbase]
        · cases hget : d.get? (base ++ [name]) with
          | none =>
            by_cases hdots : name = "." ∨ name = ".."
            · simp [hlocate, hbase, hget, hdots]
              grind
            · simp [hlocate, hbase, hget, hdots, eq_comm]
              grind
          | some e => simp [hlocate, hbase, hget]
        · simp [hlocate, hbase]

/-- A directory is made where its path leads afterwards. -/
theorem makeDirectory_eq_put (h : d.makeDirectory p = .ok d') : ∃ place, d'.place p = .ok place ∧
    place ≠ [] ∧ d.get? place = none ∧ d' = d.put place .directory := by
  obtain ⟨hnull, names, name, base, hsteps, hdot, hdots, hlocate, hbase, hfree, rfl⟩ :=
    makeDirectory_eq_ok.mp h
  have hgrows : Grows [] d (d.put (base ++ [name]) .directory) :=
    grows_put_directory (by simp) hfree
  have hput : (d.put (base ++ [name]) .directory).get? (base ++ [name]) = some .directory := by
    rw [get?_put (by simp), if_pos rfl]
  refine ⟨base ++ [name], ?_, by simp, hfree, rfl⟩
  obtain ⟨left, _, hrest⟩ := locate_append (hgrows.locate_eq_ok hlocate)
    (hgrows.get?_directory hbase)
  rw [place, hgrows.absoluteSteps_eq, hsteps, hrest, locate_directory hdot hdots hput, locate_nil]

/-- A directory that was made is there. -/
theorem grows_makeDirectory (h : d.makeDirectory p = .ok d') :
    Grows [] d d' ∧ d'.isDirectory p = true := by
  have hnull := (makeDirectory_eq_ok.mp h).1
  obtain ⟨place, hplace, hne, hfree, rfl⟩ := makeDirectory_eq_put h
  have hget : (d.put place .directory).get? place = some .directory := by
    rw [get?_put hne, if_pos rfl]
  have hdirectory := isDirectory_iff_place.mpr ⟨hnull, place, hplace, hget⟩
  exact ⟨grows_put_directory hne hfree, hdirectory⟩

/-- No directory is made where there is one. -/
theorem makeDirectory_of_isDirectory (h : d.isDirectory p = true) :
    d.makeDirectory p = .error (.system .fileExists p) := by
  obtain ⟨hnull, place, hplace, hget⟩ := isDirectory_iff_place.mp h
  unfold makeDirectory
  rw [Disk.place] at hplace
  cases hsteps : d.absoluteSteps p using List.reverseRecOn with
  | nil =>
    have hroot : d.get? [] = some .directory := rfl
    simp [hnull, locate_nil, hroot]
  | append_singleton names name =>
    rw [hsteps] at hplace
    obtain ⟨base, hbase, hopen⟩ := exists_locate_of_append (isOpen_nil d) (by simp) hplace
    obtain ⟨left, _, hrest⟩ := locate_append hbase hopen.get?
    simp only [hnull, Bool.false_eq_true, if_false, List.dropLast_concat, List.getLast?_concat,
      hbase, hopen.get?]
    by_cases hdots : name = "." ∨ name = ".."
    · rw [if_pos hdots]
    · rw [if_neg hdots]
      rw [not_or] at hdots
      cases hfree : d.get? (base ++ [name]) with
      | none =>
        rw [hrest, locate_missing hdots.1 hdots.2 hfree, if_pos rfl] at hplace
        cases hplace
        rw [hfree] at hget
        cases hget
      | some e => rfl

/-- A directory that is ensured is made, unless it is there. -/
theorem ensureDirectory_eq_ok :
    ensureDirectory p d = .ok () d' ↔
      if d.isDirectory p then d' = d else d.makeDirectory p = .ok d' := by
  rw [ensureDirectory, stateful_bind_eq_ok]
  simp only [get_eq_ok]
  by_cases hdirectory : d.isDirectory p = true
  · have hmake := makeDirectory_of_isDirectory hdirectory
    rw [if_pos hdirectory]
    constructor
    · rintro ⟨t, s, ⟨ht, hs⟩, h⟩
      subst t s
      simp only [hmake, hdirectory, Bool.not_true, Bool.false_eq_true, or_false, reduceCtorEq,
        if_false] at h
      cases h
      rfl
    · rintro rfl
      refine ⟨d', d', ⟨rfl, rfl⟩, ?_⟩
      simp only [hmake, hdirectory, Bool.not_true, Bool.false_eq_true, or_false, reduceCtorEq,
        if_false]
      rfl
  · rw [if_neg hdirectory]
    constructor
    · rintro ⟨t, s, ⟨ht, hs⟩, h⟩
      subst t s
      rcases hmake : d.makeDirectory p with ⟨e, q⟩ | made
      · simp only [hmake, hdirectory, Bool.not_false, or_true, if_true] at h
        cases h
      · rw [hmake] at h
        cases h
      · rw [hmake] at h
        cases h
        rfl
    · intro hmake
      refine ⟨d, d, ⟨rfl, rfl⟩, ?_⟩
      rw [hmake]
      rfl

/-- Nothing is made where there is a directory. -/
theorem ensureDirectory_of_isDirectory (h : d.isDirectory p = true) :
    ensureDirectory p d = .ok () d :=
  ensureDirectory_eq_ok.mpr (by rw [if_pos h])

/-- Making sure of a directory lets a disk grow by directories. -/
theorem grows_ensureDirectory (h : ensureDirectory p d = .ok () d') :
    Grows [] d d' ∧ d'.isDirectory p = true := by
  rw [ensureDirectory_eq_ok] at h
  split at h
  · rw [h]
    exact ⟨.refl d, ‹_›⟩
  · exact grows_makeDirectory h

/-- One round of making directories: the one above is made first if it is missing. -/
theorem makeDirectoriesUpTo_succ {above : Nat}
    (h : makeDirectoriesUpTo p (above + 1) d = .ok () d') :
    ensureDirectory p d = .ok () d' ∨ p.names ≠ [] ∧
      ∃ between, makeDirectoriesUpTo p.parent above d = .ok () between ∧
        ensureDirectory p between = .ok () d' := by
  rw [makeDirectoriesUpTo] at h
  obtain ⟨t, s, hget, h⟩ := stateful_bind_eq_ok.mp h
  obtain ⟨ht, hs⟩ := get_eq_ok.mp hget
  subst t s
  rcases hmake : d.makeDirectory p with ⟨e, q⟩ | made
  · rw [hmake] at h
    cases e with
    | noEntry =>
      dsimp only at h
      by_cases hnames : p.names = []
      · rw [if_pos hnames] at h
        cases h
      · rw [if_neg hnames] at h
        obtain ⟨_, between, hbetween, h⟩ := stateful_bind_eq_ok.mp h
        exact .inr ⟨hnames, between, hbetween, h⟩
    | fileExists | notDirectory | isDirectory | linkLoop => exact .inl h
  · rw [hmake] at h
    exact .inl h
  · rw [hmake] at h
    exact .inl h

/-- Nothing is made above a directory that is there. -/
theorem makeDirectoriesUpTo_of_isDirectory {above : Nat} (h : d.isDirectory p = true) :
    makeDirectoriesUpTo p above d = .ok () d := by
  have hensure := ensureDirectory_of_isDirectory h
  cases above with
  | zero => exact hensure
  | succ above =>
    refine stateful_bind_eq_ok.mpr ⟨d, d, rfl, ?_⟩
    rw [makeDirectory_of_isDirectory h]
    exact hensure

/-- Where there is a directory, none is made. -/
theorem makeDirectories_of_isDirectory (h : d.isDirectory p = true) :
    makeDirectories p d = .ok () d :=
  makeDirectoriesUpTo_of_isDirectory h

/-- Making directories lets a disk grow by directories. -/
theorem grows_makeDirectoriesUpTo {above : Nat} (h : makeDirectoriesUpTo p above d = .ok () d') :
    Grows [] d d' ∧ d'.isDirectory p = true := by
  induction above generalizing p d' with
  | zero => exact grows_ensureDirectory h
  | succ above ih =>
    rcases makeDirectoriesUpTo_succ h with h | ⟨_, between, hbetween, h⟩
    · exact grows_ensureDirectory h
    · obtain ⟨hgrows, hdirectory⟩ := grows_ensureDirectory h
      exact ⟨(ih hbetween).1.trans hgrows, hdirectory⟩

/-- Making directories adds directories only, and then the last one is there. -/
theorem grows_makeDirectories (h : makeDirectories p d = .ok () d') :
    Grows [] d d' ∧ d'.isDirectory p = true :=
  grows_makeDirectoriesUpTo h

end MakeDirectory

end Bundler.Disk
