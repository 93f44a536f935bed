import Bundler.Proofs.Disk.Proper

/-!
# Look-ups on a disk that has grown

A look-up that has failed may lead somewhere after a disk has grown, since a directory that was
missing may be there now. It still finds none of the entries from before, unless it goes up out of a
new directory: everything below a new directory is new, and it holds no links.
-/

set_option autoImplicit false

namespace Bundler.Disk

/-- The directories that a look-up goes up from, in the order of the look-up. -/
def ascents (d : Disk) (links : Nat) (here : List String) : List String → List (List String)
  | [] => []
  | name :: rest =>
    if name = "." then ascents d links here rest
    else if name = ".." then here :: ascents d links here.dropLast rest
    else
      match d.get? (here ++ [name]) with
      | some .directory => ascents d links (here ++ [name]) rest
      | some (.link target) =>
        match links with
        | 0 => []
        | links + 1 => ascents d links (linkStart here target) (steps [target] ++ rest)
      | _ => []
termination_by names => (links, names.length)

section Ascents

variable {d : Disk} {links : Nat} {here rest : List String} {name : String}

/-- A dot is no step. -/
theorem ascents_dot : d.ascents links here ("." :: rest) = d.ascents links here rest := by
  rw [ascents, if_pos rfl]

/-- Two dots go up from where the look-up is. -/
theorem ascents_dots :
    d.ascents links here (".." :: rest) = here :: d.ascents links here.dropLast rest := by
  rw [ascents, if_neg (by decide), if_pos rfl]

/-- A directory is entered without going up. -/
theorem ascents_directory (hdot : name ≠ ".") (hdots : name ≠ "..")
    (h : d.get? (here ++ [name]) = some .directory) :
    d.ascents links here (name :: rest) = d.ascents links (here ++ [name]) rest := by
  rw [ascents, if_neg hdot, if_neg hdots, h]

/-- A link is followed, and its names come first. -/
theorem ascents_link {target : String} (hdot : name ≠ ".") (hdots : name ≠ "..")
    (h : d.get? (here ++ [name]) = some (.link target)) :
    d.ascents (links + 1) here (name :: rest) =
      d.ascents links (linkStart here target) (steps [target] ++ rest) := by
  rw [ascents, if_neg hdot, if_neg hdots, h]

end Ascents

/-- No look-up of a path goes up out of a directory that was not there before. -/
def StaysOnOld (before after : Disk) (p : Path) : Prop :=
  ∀ place ∈ after.ascents maxLinks [] (after.absoluteSteps p), before.get? place ≠ none

variable {d d' : Disk} {written : List (List String)} {links : Nat} {here names place : List String}

/-- A look-up goes up from the same directories after a disk has grown, and maybe from more. -/
theorem Grows.ascents_subset (h : Grows written d d') :
    d.ascents links here names ⊆ d'.ascents links here names := by
  induction links, here, names using d.locate_induction with
  | nil links here =>
    rw [ascents]
    exact List.nil_subset _
  | dot links here rest ih =>
    rw [ascents_dot, ascents_dot]
    exact ih
  | dots links here rest ih =>
    rw [ascents_dots, ascents_dots]
    exact List.cons_subset_cons here ih
  | missing links here name rest hdot hdots hget =>
    rw [ascents, if_neg hdot, if_neg hdots, hget]
    exact List.nil_subset _
  | file links here name rest bytes hdot hdots hget =>
    rw [ascents, if_neg hdot, if_neg hdots, hget]
    exact List.nil_subset _
  | directory links here name rest hdot hdots hget ih =>
    rw [ascents_directory hdot hdots hget, ascents_directory hdot hdots (h.get?_directory hget)]
    exact ih
  | stuck here name rest target hdot hdots hget =>
    rw [ascents, if_neg hdot, if_neg hdots, hget]
    exact List.nil_subset _
  | link links here name rest target hdot hdots hget ih =>
    rw [ascents_link hdot hdots hget, ascents_link hdot hdots (h.get?_link.mpr hget)]
    exact ih

/-- A look-up that never goes up out of something new has not done so when less was new. -/
theorem StaysOnOld.of_grows_after {after : Disk} {p : Path} (h : Grows written d' after)
    (hp : StaysOnOld d after p) : StaysOnOld d d' p := by
  intro place hplace
  rw [← h.absoluteSteps_eq] at hplace
  exact hp place (h.ascents_subset hplace)

/-- A look-up that never goes up out of something new does not do so either if more counts as old. -/
theorem StaysOnOld.of_grows_before {after : Disk} {p : Path} (h : Grows written d d')
    (hp : StaysOnOld d after p) : StaysOnOld d' after p := by
  intro place hplace
  obtain ⟨e, he⟩ := Option.ne_none_iff_exists'.mp (hp place hplace)
  by_cases hmem : place ∈ written
  · obtain ⟨bytes, hbytes⟩ := h.wrote place hmem
    simp [hbytes]
  · simp [h.kept place e hmem he]

/-- A look-up from a new directory runs into no loop and finds nothing from before. -/
theorem Grows.locate_of_new (h : Grows written d d') (hproper : d.IsProper)
    (hnew : d.get? here = none)
    (hascents : ∀ place ∈ d'.ascents links here names, d.get? place ≠ none) :
    d'.locate links here names ≠ .error .linkLoop ∧
      ∀ place, d'.locate links here names = .ok place → d.get? place = none := by
  have hbelow : ∀ {here : List String} (name : String), d.get? here = none →
      d.get? (here ++ [name]) = none := by
    intro here name hnew
    exact hproper.get?_append (by simp) (by simp [hnew])
  induction links, here, names using d'.locate_induction with
  | nil links here =>
    rw [locate_nil]
    refine ⟨nofun, ?_⟩
    rintro place ⟨⟩
    exact hnew
  | dot links here rest ih =>
    rw [ascents_dot] at hascents
    rw [locate_dot]
    exact ih hnew hascents
  | dots links here rest ih =>
    rw [ascents_dots] at hascents
    exact absurd hnew (hascents here List.mem_cons_self)
  | missing links here name rest hdot hdots hget =>
    rw [locate_missing hdot hdots hget]
    split
    · refine ⟨nofun, ?_⟩
      rintro place ⟨⟩
      exact hbelow name hnew
    · exact ⟨nofun, nofun⟩
  | file links here name rest bytes hdot hdots hget =>
    rw [locate_file hdot hdots hget]
    split
    · refine ⟨nofun, ?_⟩
      rintro place ⟨⟩
      exact hbelow name hnew
    · exact ⟨nofun, nofun⟩
  | directory links here name rest hdot hdots hget ih =>
    rw [ascents_directory hdot hdots hget] at hascents
    rw [locate_directory hdot hdots hget]
    exact ih (hbelow name hnew) hascents
  | stuck here name rest target hdot hdots hget =>
    rw [h.get?_link, hbelow name hnew] at hget
    cases hget
  | link links here name rest target hdot hdots hget ih =>
    rw [h.get?_link, hbelow name hnew] at hget
    cases hget

/-- Two look-ups step by step: a look-up ends as before, or it has failed at a directory that is new. -/
theorem Grows.locate_eq_or (h : Grows written d d') (hproper : d.IsProper)
    (hascents : ∀ place ∈ d'.ascents links here names, d.get? place ≠ none) :
    d'.locate links here names = d.locate links here names ∨
      d.locate links here names = .error .noEntry ∧
        d'.locate links here names ≠ .error .linkLoop ∧
        ∀ place, d'.locate links here names = .ok place → d.get? place = none := by
  induction links, here, names using d.locate_induction with
  | nil links here =>
    rw [locate_nil, locate_nil]
    exact .inl rfl
  | dot links here rest ih =>
    rw [ascents_dot] at hascents
    rw [locate_dot, locate_dot]
    exact ih hascents
  | dots links here rest ih =>
    rw [ascents_dots] at hascents
    rw [locate_dots, locate_dots]
    exact ih fun place hplace => hascents place (List.mem_cons_of_mem _ hplace)
  | missing links here name rest hdot hdots hget =>
    rw [locate_missing hdot hdots hget]
    by_cases hrest : rest = []
    · have hplace : d.locate links here (name :: rest) = .ok (here ++ [name]) := by
        rw [locate_missing hdot hdots hget, if_pos hrest]
      rw [if_pos hrest, h.locate_eq_ok hplace]
      exact .inl rfl
    · rw [if_neg hrest]
      refine .inr ⟨rfl, ?_⟩
      -- What has been missing may be there now: then it is no link.
      cases hnow : d'.get? (here ++ [name]) with
      | none =>
        rw [locate_missing hdot hdots hnow, if_neg hrest]
        exact ⟨nofun, nofun⟩
      | some e =>
        cases e with
        | file bytes =>
          rw [locate_file hdot hdots hnow, if_neg hrest]
          exact ⟨nofun, nofun⟩
        | directory =>
          rw [ascents_directory hdot hdots hnow] at hascents
          rw [locate_directory hdot hdots hnow]
          exact h.locate_of_new hproper hget hascents
        | link target =>
          rw [h.get?_link, hget] at hnow
          cases hnow
  | file links here name rest bytes hdot hdots hget =>
    obtain ⟨now, hnow⟩ := h.get?_file hget
    rw [locate_file hdot hdots hget, locate_file hdot hdots hnow]
    exact .inl rfl
  | directory links here name rest hdot hdots hget ih =>
    have hnow := h.get?_directory hget
    rw [ascents_directory hdot hdots hnow] at hascents
    rw [locate_directory hdot hdots hget, locate_directory hdot hdots hnow]
    exact ih hascents
  | stuck here name rest target hdot hdots hget =>
    rw [locate_link_zero hdot hdots hget, locate_link_zero hdot hdots (h.get?_link.mpr hget)]
    exact .inl rfl
  | link links here name rest target hdot hdots hget ih =>
    have hnow := h.get?_link.mpr hget
    rw [ascents_link hdot hdots hnow] at hascents
    rw [locate_link hdot hdots hget, locate_link hdot hdots hnow]
    exact ih hascents

/-- The outcome of a path that never goes up out of a new directory: it is as before, or the path led
nowhere before and leads to something new. -/
theorem Grows.place_eq_or {p : Path} (h : Grows written d d') (hproper : d.IsProper)
    (hp : StaysOnOld d d' p) :
    d'.place p = d.place p ∨ d.place p = .error .noEntry ∧ d'.place p ≠ .error .linkLoop ∧
      ∀ place, d'.place p = .ok place → d.get? place = none := by
  unfold StaysOnOld at hp
  unfold Disk.place
  rw [h.absoluteSteps_eq] at hp ⊢
  exact h.locate_eq_or hproper hp

/-! ## Files that are found -/

section Files

variable {p : Path} {bytes : List UInt8}

/-- What led to a file leads to one after a disk has grown. -/
theorem Grows.isFile (h : Grows written d d') (hp : d.isFile p = true) : d'.isFile p = true := by
  obtain ⟨hnull, place, bytes, hplace, hget⟩ := isFile_iff_place.mp hp
  obtain ⟨now, hnow⟩ := h.get?_file hget
  exact isFile_iff_place.mpr ⟨hnull, place, now, h.place_eq_ok hplace, hnow⟩

/-- What could be read is read as before, if files were only written where there was nothing. -/
theorem Grows.read (h : Grows written d d') (hfree : ∀ place ∈ written, d.get? place = none)
    (hp : d.read p = .ok bytes) : d'.read p = .ok bytes := by
  obtain ⟨hnull, place, hplace, hget⟩ := read_eq_ok_iff_place.mp hp
  have hold : place ∉ written := by
    intro hplace
    rw [hfree place hplace] at hget
    cases hget
  have hkept := h.kept _ _ hold hget
  exact read_eq_ok_iff_place.mpr ⟨hnull, place, h.place_eq_ok hplace, hkept⟩

/-- A path leads to a file if and only if it did before, unless it leads to one that was written. -/
theorem Grows.isFile_eq (h : Grows written d d') (hproper : d.IsProper) (hp : StaysOnOld d d' p)
    (hwritten : ∀ place ∈ written, d'.place p ≠ .ok place) : d'.isFile p = d.isFile p := by
  rw [Bool.eq_iff_iff]
  refine ⟨fun hfile => ?_, h.isFile⟩
  obtain ⟨hnull, place, bytes, hplace, hget⟩ := isFile_iff_place.mp hfile
  have hold : place ∉ written := fun hmem => hwritten place hmem hplace
  cases hbefore : d.get? place with
  | none =>
    -- What is new and was not written is a directory.
    rcases h.made place hold hbefore with hnow | hnow
    · rw [hget] at hnow
      cases hnow
    · rw [hget] at hnow
      cases hnow
  | some e =>
    obtain rfl : e = .file bytes :=
      Option.some.inj ((h.kept place e hold hbefore).symm.trans hget)
    rcases h.place_eq_or hproper hp with heq | ⟨_, _, hnew⟩
    · rw [heq] at hplace
      exact isFile_iff_place.mpr ⟨hnull, place, bytes, hplace, hbefore⟩
    · rw [hnew place hplace] at hbefore
      cases hbefore

end Files

end Bundler.Disk
