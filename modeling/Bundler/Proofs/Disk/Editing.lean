import Bundler.Proofs.Disk.Proper

/-!
# Changing one file

Creating, editing or deleting a file changes what stands at one place. Neither a file nor nothing lets a
look-up go on, so a look-up that leads somewhere leads there before and after the change, and elsewhere
the same is found.
-/

set_option autoImplicit false

namespace Bundler.Disk

/-- A file stands at a place, or nothing. -/
def HoldsAtMostFile (d : Disk) (place : List String) : Prop :=
  d.get? place = none ∨ ∃ bytes, d.get? place = some (.file bytes)

/-- A file has been created, edited or deleted at a place. -/
structure ChangesFile (place : List String) (before after : Disk) : Prop where
  old : before.HoldsAtMostFile place
  new : after.HoldsAtMostFile place
  kept : ∀ names, names ≠ place → after.get? names = before.get? names
  current : after.current = before.current

variable {d d' : Disk} {place target here names rest : List String} {name : String} {links : Nat}
  {e : Entry} {p : Path} {bytes : List UInt8}

/-- Names that lead to a file or to nothing lead there if they are the last ones. -/
theorem HoldsAtMostFile.locate_eq_ok (h : d.HoldsAtMostFile (here ++ [name])) (hdot : name ≠ ".")
    (hdots : name ≠ "..") :
    d.locate links here (name :: rest) = .ok target ↔ rest = [] ∧ here ++ [name] = target := by
  by_cases hrest : rest = []
  · rcases h with hget | ⟨bytes, hget⟩
    · simp [locate_missing hdot hdots hget, hrest]
    · simp [locate_file hdot hdots hget, hrest]
  · rcases h with hget | ⟨bytes, hget⟩
    · simp [locate_missing hdot hdots hget, hrest]
    · simp [locate_file hdot hdots hget, hrest]

namespace ChangesFile

/-- A change of a file can be undone by one. -/
theorem symm (h : ChangesFile place d d') : ChangesFile place d' d :=
  ⟨h.new, h.old, fun names hnames => (h.kept names hnames).symm, h.current.symm⟩

/-- Directories and links stay. -/
theorem get?_eq_some (h : ChangesFile place d d') (hget : d.get? names = some e)
    (hfile : ∀ bytes, e ≠ .file bytes) : d'.get? names = some e := by
  have hne : names ≠ place := by
    rintro rfl
    rcases h.old with hnone | ⟨bytes, hbytes⟩
    · cases hnone.symm.trans hget
    · exact hfile bytes (Option.some.inj (hget.symm.trans hbytes))
  rw [h.kept names hne, hget]

/-- Files and nothing stay files and nothing, though not each what it was. -/
theorem holdsAtMostFile (h : ChangesFile place d d') (hfile : d.HoldsAtMostFile names) :
    d'.HoldsAtMostFile names := by
  by_cases hnames : names = place
  · rw [hnames]
    exact h.new
  · rw [HoldsAtMostFile, h.kept names hnames]
    exact hfile

/-- A look-up that led somewhere leads there after a file has changed. -/
theorem locate_of_locate (h : ChangesFile place d d')
    (hlocate : d.locate links here names = .ok target) :
    d'.locate links here names = .ok target := by
  induction links, here, names using d.locate_induction with
  | nil links here =>
    rw [locate_nil] at hlocate ⊢
    exact hlocate
  | dot links here rest ih =>
    rw [locate_dot] at hlocate ⊢
    exact ih hlocate
  | dots links here rest ih =>
    rw [locate_dots] at hlocate ⊢
    exact ih hlocate
  | missing links here name rest hdot hdots hget =>
    have hold : d.HoldsAtMostFile (here ++ [name]) := .inl hget
    rw [hold.locate_eq_ok hdot hdots] at hlocate
    exact ((h.holdsAtMostFile hold).locate_eq_ok hdot hdots).mpr hlocate
  | file links here name rest bytes hdot hdots hget =>
    have hold : d.HoldsAtMostFile (here ++ [name]) := .inr ⟨bytes, hget⟩
    rw [hold.locate_eq_ok hdot hdots] at hlocate
    exact ((h.holdsAtMostFile hold).locate_eq_ok hdot hdots).mpr hlocate
  | directory links here name rest hdot hdots hget ih =>
    rw [locate_directory hdot hdots hget] at hlocate
    rw [locate_directory hdot hdots (h.get?_eq_some hget nofun)]
    exact ih hlocate
  | stuck here name rest target hdot hdots hget =>
    rw [locate_link_zero hdot hdots hget] at hlocate
    cases hlocate
  | link links here name rest target hdot hdots hget ih =>
    rw [locate_link hdot hdots hget] at hlocate
    rw [locate_link hdot hdots (h.get?_eq_some hget nofun)]
    exact ih hlocate

/-- A path leads to the same place before and after a change. -/
theorem place_eq_ok (h : ChangesFile place d d') : d'.place p = .ok target ↔ d.place p = .ok target := by
  have hsteps : d'.absoluteSteps p = d.absoluteSteps p := by
    rw [absoluteSteps, absoluteSteps, h.current]
  rw [Disk.place, Disk.place, hsteps]
  exact ⟨h.symm.locate_of_locate, h.locate_of_locate⟩

/-- What is found away from the place of a change is found before and after. -/
theorem find_eq_ok (h : ChangesFile place d d') (hp : d.place p ≠ .ok place) :
    d'.find p = .ok e ↔ d.find p = .ok e := by
  rw [Disk.find_eq_ok, Disk.find_eq_ok]
  refine exists_congr fun other => ?_
  rw [h.place_eq_ok]
  refine and_congr_right fun hother => ?_
  have hne : other ≠ place := by
    rintro rfl
    exact hp hother
  rw [h.kept other hne]

/-- Whether a path leads to a file depends on no other file. -/
theorem isFile_eq (h : ChangesFile place d d') (hp : d.place p ≠ .ok place) :
    d'.isFile p = d.isFile p := by
  rw [Bool.eq_iff_iff, isFile_iff, isFile_iff]
  simp only [h.find_eq_ok hp]

/-- What is read under a path depends on no other file. -/
theorem read_eq_ok (h : ChangesFile place d d') (hp : d.place p ≠ .ok place) :
    d'.read p = .ok bytes ↔ d.read p = .ok bytes := by
  rw [Disk.read_eq_ok, Disk.read_eq_ok, h.find_eq_ok hp]

end ChangesFile

/-! ## Changes of one file -/

/-- Writing a file creates or edits the one that its path leads to. -/
theorem changesFile_write (h : d.write p bytes = .ok d') :
    ∃ place, d.place p = .ok place ∧ ChangesFile place d d' := by
  obtain ⟨_, place, hplace, hold, rfl⟩ := write_eq_ok.mp h
  have hne : place ≠ [] := ne_nil_of_get? hold
  refine ⟨place, hplace, hold, .inr ⟨bytes, ?_⟩, ?_, rfl⟩
  · rw [get?_put hne, if_pos rfl]
  · intro names hnames
    rw [get?_put hne, if_neg hnames]

/-- Removing a place leaves the places that are not below it. -/
theorem get?_remove (hnames : ¬ place <+: names) : (d.remove place).get? names = d.get? names := by
  have hlookup : ∀ entries : List (List String × Entry),
      (entries.filter fun x => !place.isPrefixOf x.1).lookup names = entries.lookup names := by
    intro entries
    induction entries with
    | nil => rfl
    | cons x rest ih =>
      obtain ⟨key, value⟩ := x
      rw [List.filter_cons]
      by_cases hkey : place <+: key
      · have hne : names ≠ key := by
          rintro rfl
          exact hnames hkey
        have hdropped : place.isPrefixOf key = true := List.isPrefixOf_iff_prefix.mpr hkey
        simp [hdropped, ih, lookup_cons_ite, hne]
      · have hstays : place.isPrefixOf key = false :=
          Bool.eq_false_iff.mpr fun h => hkey (List.isPrefixOf_iff_prefix.mp h)
        simp [hstays, ih, lookup_cons_ite]
  rw [get?, get?, remove, hlookup]

/-- Nothing is found where something has been removed. -/
theorem get?_remove_self (hplace : place ≠ []) : (d.remove place).get? place = none := by
  rw [get?, if_neg hplace, List.lookup_eq_none_iff]
  intro x hx
  have hstays : place.isPrefixOf x.1 = false := by simpa using (List.mem_filter.mp hx).2
  rw [bne_iff_ne]
  intro heq
  rw [heq, List.isPrefixOf_iff_prefix.mpr (List.prefix_refl x.1)] at hstays
  cases hstays

/-- Removing a file from a proper disk deletes that file only. -/
theorem IsProper.changesFile_remove (h : d.IsProper) (hget : d.get? place = some (.file bytes)) :
    ChangesFile place d (d.remove place) := by
  have hne : place ≠ [] := by
    rintro rfl
    cases hget
  refine ⟨.inr ⟨bytes, hget⟩, .inl (get?_remove_self hne), ?_, rfl⟩
  intro names hnames
  by_cases hbelow : place <+: names
  · -- Nothing stands below a file, before or after.
    obtain ⟨rest, rfl⟩ := hbelow
    have hrest : rest ≠ [] := by
      rintro rfl
      exact hnames (List.append_nil place)
    have hnone : d.get? (place ++ rest) = none := h.get?_append hrest (by simp [hget])
    rw [hnone, Option.eq_none_iff_forall_ne_some]
    intro e he
    have hkept : (place ++ rest, e) ∈ d.entries :=
      List.mem_of_mem_filter (mem_of_get? (by simp [hrest]) he)
    rw [h.get?_of_mem hkept] at hnone
    cases hnone
  · exact get?_remove hbelow

end Bundler.Disk
