import Bundler.Proofs.Disk.Growth
import Bundler.Proofs.Lists

/-!
# Proper disks

A disk that holds a tree has every place once, under names that the system allows, and every entry
stands in a directory. Writing files and making directories keeps this. Below a place that is free
nothing can be found.
-/

set_option autoImplicit false

namespace Bundler

/-- A name that an entry of a directory may have. -/
structure IsEntryName (name : String) : Prop extends IsStepName name where
  /-- The system takes a NUL character for the end of a name. -/
  no_null : Char.ofNat 0 ∉ name.toList

namespace Disk

/-- A disk that holds a tree. -/
structure IsProper (d : Disk) : Prop where
  /-- Every place is there once. -/
  keys : (d.entries.map Prod.fst).Nodup
  /-- Places have names that are allowed. -/
  names : ∀ x ∈ d.entries, ∀ name ∈ x.1, IsEntryName name
  /-- Every entry stands in a directory; the root is no entry. -/
  parents : ∀ x ∈ d.entries, x.1 ≠ [] ∧ d.get? x.1.dropLast = some .directory
  /-- The paths that links lead to hold no NUL character. -/
  targets : ∀ x ∈ d.entries, ∀ target, x.2 = .link target → Char.ofNat 0 ∉ target.toList
  /-- The path of the current directory holds no NUL character. -/
  current : d.current.hasNull = false

variable {d d' : Disk} {names rest : List String} {name : String} {e : Entry}

/-- A path of entry names holds no NUL character. -/
theorem hasNull_of_isEntryName {anchor : Anchor} (h : ∀ name ∈ names, IsEntryName name) :
    (Path.mk anchor names).hasNull = false := by
  rw [Path.hasNull_eq_false]
  exact fun name hname => (h name hname).no_null

/-- What stands at a place is an entry. -/
theorem mem_of_get? (hne : names ≠ []) (h : d.get? names = some e) : (names, e) ∈ d.entries := by
  rw [get?, if_neg hne] at h
  obtain ⟨before, after, hentries, _⟩ := List.lookup_eq_some_iff.mp h
  rw [hentries]
  simp

namespace IsProper

/-- An entry of a proper disk stands at its place. -/
theorem get?_of_mem (h : d.IsProper) (hmem : (names, e) ∈ d.entries) : d.get? names = some e := by
  rw [get?, if_neg (h.parents _ hmem).1]
  exact (lookup_eq_some_iff_mem h.keys).mpr hmem

/-- The names on the way to an entry are entry names. -/
theorem isEntryName (h : d.IsProper) (hget : d.get? names = some e) :
    ∀ name ∈ names, IsEntryName name := by
  by_cases hne : names = []
  · subst hne
    exact nofun
  · exact h.names _ (mem_of_get? hne hget)

/-- An entry stands in a directory. -/
theorem get?_parent (h : d.IsProper) (hget : d.get? (names ++ [name]) = some e) :
    d.get? names = some .directory := by
  have hparent := (h.parents _ (mem_of_get? (by simp) hget)).2
  rwa [List.dropLast_concat] at hparent

/-- Below a place that is no directory nothing can be found. -/
theorem get?_append (h : d.IsProper) (hrest : rest ≠ [])
    (hget : d.get? names ≠ some .directory) : d.get? (names ++ rest) = none := by
  induction rest using List.reverseRecOn with
  | nil => exact absurd rfl hrest
  | append_singleton rest name ih =>
    by_contra hsome
    obtain ⟨e, he⟩ := Option.ne_none_iff_exists'.mp hsome
    rw [← List.append_assoc] at he
    have hparent := h.get?_parent he
    by_cases hnil : rest = []
    · rw [hnil, List.append_nil] at hparent
      exact hget hparent
    · rw [ih hnil] at hparent
      cases hparent

/-- The directories above a directory are there. -/
theorem isOpen (h : d.IsProper) (hget : d.get? names = some .directory) : d.IsOpen names := by
  induction names using List.reverseRecOn with
  | nil => exact isOpen_nil d
  | append_singleton names name ih => exact (ih (h.get?_parent hget)).concat hget

/-- An entry may be put into a directory, unless it takes the place of one. -/
theorem put (h : d.IsProper) (hparent : d.get? names = some .directory) (hname : IsEntryName name)
    (hfree : d.get? (names ++ [name]) ≠ some .directory)
    (htarget : ∀ target, e ≠ .link target) : (d.put (names ++ [name]) e).IsProper where
  keys := by
    have hmem : ∀ x ∈ d.entries.filter (fun x => x.1 != names ++ [name]),
        x.1 ≠ names ++ [name] := by
      intro x hx
      simpa using (List.mem_filter.mp hx).2
    rw [Disk.put, List.map_append, List.nodup_append]
    refine ⟨h.keys.sublist (List.filter_sublist.map _), List.nodup_singleton _, ?_⟩
    intro key hkey other hother
    obtain ⟨x, hx, rfl⟩ := List.mem_map.mp hkey
    rw [List.map_singleton, List.mem_singleton] at hother
    rw [hother]
    exact hmem x hx
  names := by
    intro x hx
    rcases List.mem_append.mp hx with hx | hx
    · exact h.names x (List.mem_of_mem_filter hx)
    · rw [List.mem_singleton.mp hx]
      intro other hother
      rcases List.mem_append.mp hother with hother | hother
      · exact h.isEntryName hparent other hother
      · rw [List.mem_singleton.mp hother]
        exact hname
  parents := by
    intro x hx
    -- The place of the entry was none of a directory, so that nothing stood in it.
    have hkept : d.get? x.1.dropLast = some .directory →
        (d.put (names ++ [name]) e).get? x.1.dropLast = some .directory := by
      intro hget
      rw [get?_put (by simp), if_neg, hget]
      intro heq
      rw [heq] at hget
      exact hfree hget
    rcases List.mem_append.mp hx with hx | hx
    · obtain ⟨hne, hget⟩ := h.parents x (List.mem_of_mem_filter hx)
      exact ⟨hne, hkept hget⟩
    · rw [List.mem_singleton.mp hx] at hkept ⊢
      refine ⟨by simp, hkept ?_⟩
      rw [List.dropLast_concat]
      exact hparent
  targets := by
    intro x hx target htarget'
    rcases List.mem_append.mp hx with hx | hx
    · exact h.targets x (List.mem_of_mem_filter hx) target htarget'
    · rw [List.mem_singleton.mp hx] at htarget'
      exact absurd htarget' (htarget target)
  current := h.current

end IsProper

/-! ## Places of a look-up -/

/-- A name as it stands in a look-up: it may be one or two dots. -/
structure IsStep (name : String) : Prop where
  ne_empty : name ≠ ""
  no_slash : '/' ∉ name.toList
  no_null : Char.ofNat 0 ∉ name.toList

/-- A step that is no dots is an entry name. -/
theorem IsStep.isEntryName (h : IsStep name) (hdot : name ≠ ".") (hdots : name ≠ "..") :
    IsEntryName name where
  ne_empty := h.ne_empty
  ne_dot := hdot
  no_slash := h.no_slash
  ne_dots := hdots
  no_null := h.no_null

/-- The steps on names without NUL characters are fit for a look-up. -/
theorem isStep_of_mem_steps (h : ∀ other ∈ names, Char.ofNat 0 ∉ other.toList)
    (hname : name ∈ steps names) : IsStep name := by
  obtain ⟨other, hother, hname⟩ := List.mem_flatMap.mp hname
  obtain ⟨hpiece, hempty⟩ := List.mem_filter.mp hname
  obtain ⟨piece, hmem, rfl⟩ := List.mem_map.mp hpiece
  refine ⟨by simpa using hempty, ?_, ?_⟩
  · rw [String.toList_ofList]
    exact Text.not_mem_of_mem_splitChars hmem
  · rw [String.toList_ofList]
    intro hnull
    exact h other hother (Text.mem_of_mem_splitChars hmem hnull)

/-- A path without NUL characters is looked up by steps. -/
theorem IsProper.isStep_of_mem_absoluteSteps (h : d.IsProper) {p : Path} (hp : p.hasNull = false)
    (hname : name ∈ d.absoluteSteps p) : IsStep name := by
  apply isStep_of_mem_steps _ hname
  have hcurrent := h.current
  rw [Path.hasNull_eq_false] at hp hcurrent
  intro other hother
  unfold Path.join at hother
  split at hother
  · exact hp other hother
  · rcases List.mem_append.mp hother with hother | hother
    · exact hcurrent other hother
    · exact hp other hother

/-- The steps on the path that a link leads to are fit for a look-up. -/
theorem IsProper.isStep_of_mem_target (h : d.IsProper) {target : String}
    (hget : d.get? names = some (.link target)) (hname : name ∈ steps [target]) : IsStep name := by
  have hne : names ≠ [] := by
    rintro rfl
    cases hget
  refine isStep_of_mem_steps ?_ hname
  intro text htext
  rw [List.mem_singleton.mp htext]
  exact h.targets _ (mem_of_get? hne hget) target rfl

/-- A link is followed from the directory that it stands in, or from the root. -/
theorem mem_of_mem_linkStart {here : List String} {target : String}
    (hname : name ∈ linkStart here target) : name ∈ here := by
  unfold linkStart at hname
  split at hname
  · cases hname
  · exact hname

/-- The names of a place are names of entries. -/
theorem IsProper.isEntryName_of_locate (h : d.IsProper) {links : Nat} {here place : List String}
    (hhere : ∀ name ∈ here, IsEntryName name) (hnames : ∀ name ∈ names, IsStep name)
    (hlocate : d.locate links here names = .ok place) : ∀ name ∈ place, IsEntryName name := by
  induction links, here, names using d.locate_induction with
  | nil links here =>
    rw [locate_nil] at hlocate
    cases hlocate
    exact hhere
  | dot links here rest ih =>
    rw [locate_dot] at hlocate
    exact ih hhere (fun name hname => hnames name (List.mem_cons_of_mem _ hname)) hlocate
  | dots links here rest ih =>
    rw [locate_dots] at hlocate
    exact ih (fun name hname => hhere name (List.mem_of_mem_dropLast hname))
      (fun name hname => hnames name (List.mem_cons_of_mem _ hname)) hlocate
  | missing links here name rest hdot hdots hget =>
    rw [locate_missing hdot hdots hget] at hlocate
    split at hlocate
    · cases hlocate
      intro other hother
      rcases List.mem_append.mp hother with hother | hother
      · exact hhere other hother
      · rw [List.mem_singleton.mp hother]
        exact (hnames name List.mem_cons_self).isEntryName hdot hdots
    · cases hlocate
  | file links here name rest bytes hdot hdots hget =>
    rw [locate_file hdot hdots hget] at hlocate
    split at hlocate
    · cases hlocate
      exact h.isEntryName hget
    · cases hlocate
  | directory links here name rest hdot hdots hget ih =>
    rw [locate_directory hdot hdots hget] at hlocate
    exact ih (h.isEntryName hget) (fun name hname => hnames name (List.mem_cons_of_mem _ hname))
      hlocate
  | stuck here name rest target hdot hdots hget =>
    rw [locate_link_zero hdot hdots hget] at hlocate
    cases hlocate
  | link links here name rest target hdot hdots hget ih =>
    rw [locate_link hdot hdots hget] at hlocate
    refine ih (fun other hother => hhere other (mem_of_mem_linkStart hother)) ?_ hlocate
    intro other hother
    rcases List.mem_append.mp hother with hother | hother
    · exact h.isStep_of_mem_target hget hother
    · exact hnames other (List.mem_cons_of_mem _ hother)

/-- The names on the way to a place are entry names. -/
theorem IsProper.isEntryName_of_place (h : d.IsProper) {p : Path} (hp : p.hasNull = false)
    {place : List String} (hplace : d.place p = .ok place) :
    ∀ name ∈ place, IsEntryName name := by
  have hsteps : ∀ name ∈ d.absoluteSteps p, IsStep name := by
    intro name hname
    exact h.isStep_of_mem_absoluteSteps hp hname
  exact h.isEntryName_of_locate (by simp) hsteps hplace

/-! ## Changes keep a disk proper -/

section Changes

variable {p : Path} {bytes : List UInt8}

/-- Writing a file keeps a disk proper. -/
theorem IsProper.write (h : d.IsProper) (hwrite : d.write p bytes = .ok d') : d'.IsProper := by
  obtain ⟨hnull, place, hplace, hfree, rfl⟩ := write_eq_ok.mp hwrite
  have hnames := h.isEntryName_of_place hnull hplace
  have hparent := (isOpen_of_locate (isOpen_nil d) hplace).get?
  have hne : place ≠ [] := ne_nil_of_get? hfree
  rw [← List.dropLast_append_getLast hne] at hfree ⊢
  refine h.put hparent (hnames _ (List.getLast_mem hne)) ?_ nofun
  rcases hfree with hfree | ⟨old, hfree⟩ <;> simp [hfree]

/-- Making a directory keeps a disk proper. -/
theorem IsProper.makeDirectory (h : d.IsProper) (hmake : d.makeDirectory p = .ok d') :
    d'.IsProper := by
  obtain ⟨hnull, names, name, base, hsteps, hdot, hdots, _, hbase, hfree, rfl⟩ :=
    makeDirectory_eq_ok.mp hmake
  have hstep : IsStep name := h.isStep_of_mem_absoluteSteps hnull (by simp [hsteps])
  refine h.put hbase (hstep.isEntryName hdot hdots) ?_ nofun
  simp [hfree]

/-- Making sure of a directory keeps a disk proper. -/
theorem IsProper.ensureDirectory (h : d.IsProper)
    (hmake : Disk.ensureDirectory p d = .ok () d') : d'.IsProper := by
  rw [ensureDirectory_eq_ok] at hmake
  split at hmake
  · rwa [hmake]
  · exact h.makeDirectory hmake

/-- Making directories keeps a disk proper. -/
theorem IsProper.makeDirectoriesUpTo (h : d.IsProper) {above : Nat}
    (hmake : Disk.makeDirectoriesUpTo p above d = .ok () d') : d'.IsProper := by
  induction above generalizing p d' with
  | zero => exact h.ensureDirectory hmake
  | succ above ih =>
    rcases makeDirectoriesUpTo_succ hmake with hmake | ⟨_, between, hbetween, hmake⟩
    · exact h.ensureDirectory hmake
    · exact (ih hbetween).ensureDirectory hmake

end Changes

end Disk

end Bundler
