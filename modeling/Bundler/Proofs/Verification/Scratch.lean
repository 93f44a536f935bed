import Bundler.Proofs.Artifact.Refusal
import Bundler.Proofs.Disk.Physical
import Bundler.Proofs.Verification.Verdict

/-!
# The directory of a verification

A verification builds a project again in a directory that is made for it. However this ends, nothing
changes outside that directory: no link stands in it that would lead out, and the files in it have plain
names. So the disk is as it was once the directory is gone, and artifacts that are apart from it are
listed as before.
-/

set_option autoImplicit false

namespace Bundler

namespace Disk

/-- A disk that differs from an earlier one at most in one place and below, where no links stand. -/
structure DiffersBelow (place : List String) (before after : Disk) : Prop where
  /-- Nothing changes outside. -/
  outside : ∀ names, ¬ place <+: names → after.get? names = before.get? names
  /-- No links lead out. -/
  noLinks : ∀ rest target, after.get? (place ++ rest) ≠ some (.link target)
  /-- What the system around tells stays. -/
  surroundings : after.toSurroundings = before.toSurroundings

/-- A disk that differs from an earlier one at most in a directory, which a path leads to. -/
structure DiffersIn (p : Path) (place : List String) (before after : Disk) : Prop
    extends DiffersBelow place before after where
  /-- The path leads to the place. -/
  place_eq : after.place p = .ok place
  /-- There is a directory. -/
  directory : after.get? place = some .directory
  /-- The path holds no NUL character. -/
  hasNull : p.hasNull = false

variable {before d d' : Disk} {p : Path} {place : List String}

/-- A directory that has just been made is all that has changed. -/
theorem IsProper.exists_differsIn (h : d.IsProper) (hmake : d.makeDirectory p = .ok d') :
    ∃ place, d.get? place = none ∧ DiffersIn p place d d' := by
  obtain ⟨place, hplace, hne, hfree, rfl⟩ := makeDirectory_eq_put hmake
  have hput : (d.put place .directory).get? place = some .directory := by
    rw [get?_put hne, if_pos rfl]
  refine ⟨place, hfree, ⟨?_, ?_, rfl⟩, hplace, hput, (makeDirectory_eq_ok.mp hmake).1⟩
  · intro names hnames
    rw [get?_put hne, if_neg]
    rintro rfl
    exact hnames List.prefix_rfl
  · intro rest target hlink
    by_cases hrest : rest = []
    · rw [hrest, List.append_nil, hput] at hlink
      cases hlink
    · rw [get?_put hne, if_neg (by simpa using hrest), h.get?_append hrest (by simp [hfree])] at hlink
      cases hlink

/-- The directory is not made again. -/
theorem DiffersIn.makeDirectories (h : DiffersIn p place before d) :
    makeDirectories p d = .ok () d := by
  apply makeDirectories_of_isDirectory
  exact isDirectory_iff_place.mpr ⟨h.hasNull, place, h.place_eq, h.directory⟩

/-- A file with a plain name is written in the directory. -/
theorem DiffersIn.write (h : DiffersIn p place before d) {name : String} {bytes : List UInt8}
    (hname : IsStepName name) (hwrite : d.write (p / name) bytes = .ok d') :
    DiffersIn p place before d' := by
  obtain ⟨_, found, hfound, hfree, rfl⟩ := write_eq_ok.mp hwrite
  have hplace : d.place (p.extend [name]) = .ok (place ++ [name]) :=
    place_extend h.place_eq h.directory hname (h.noLinks [name])
  rw [Path.div_eq_extend hname.toIsName, hplace, Except.ok.injEq] at hfound
  subst hfound
  have hgrows : Grows [place ++ [name]] d (d.put (place ++ [name]) (.file bytes)) :=
    grows_put_file hfree
  refine ⟨⟨?_, ?_, h.surroundings⟩, hgrows.place_eq_ok h.place_eq, hgrows.get?_directory h.directory,
    h.hasNull⟩
  · intro names hnames
    rw [get?_put (by simp), if_neg, h.outside names hnames]
    rintro rfl
    exact hnames (List.prefix_append _ _)
  · intro rest target hlink
    exact h.noLinks rest target (hgrows.get?_link.mp hlink)

/-- Files with plain names are stored in the directory. -/
theorem DiffersIn.store (h : DiffersIn p place before d) {files : List (String × List UInt8)}
    (hnames : ∀ file ∈ files, IsStepName file.1) (hstore : Disk.store p files d = .ok () d') :
    DiffersIn p place before d' := by
  induction files generalizing d with
  | nil =>
    cases hstore
    exact h
  | cons file files ih =>
    obtain ⟨made, between, hmade, hwrite, hrest⟩ := store_cons_eq_ok.mp hstore
    obtain ⟨_, rfl⟩ := EStateM.Result.ok.inj (h.makeDirectories.symm.trans hmade)
    have hwritten := h.write (hnames file List.mem_cons_self) hwrite
    exact ih hwritten (fun other hother => hnames other (List.mem_cons_of_mem _ hother)) hrest

end Disk

/-! ## Generating artifacts, however it ends -/

section Generating

variable {ε α : Type} {P : Disk → Prop} {root directory : Path} {g : ModuleGraph}

/-- A change of the disk keeps what it keeps there. -/
theorem Work.keeps_change {c : Disk.Changing α} (h : Keeps P c) :
    Keeps (fun w => P w.disk) (Work.change c : Work ε α) := by
  intro w hw
  have hc := h w.disk hw
  unfold Work.change stateAfter at *
  cases hresult : c w.disk <;> simpa [hresult] using hc

/-- Writing a bundle keeps what making its directory and writing its file keep. -/
theorem keeps_writeBundle {name : String} (hmake : Keeps P (Disk.makeDirectories directory))
    (hwrite : ∀ bytes, Keeps P (Disk.writeFile (directory / name) bytes)) (cacheExports : Bool) :
    Keeps (fun w => P w.disk) (writeBundle root directory name cacheExports g : Work ε Unit) := by
  refine (Work.keeps_change hmake).bind fun _ => ?_
  exact (looksOnly_assembleBundle _ _ _).keeps.bind fun _ => Work.keeps_change (hwrite _)

/-- Writing a listing keeps what making its directory and writing its file keep. -/
theorem keeps_writeListing (hmake : Keeps P (Disk.makeDirectories directory))
    (hwrite : ∀ bytes, Keeps P (Disk.writeFile (directory / ArtifactKind.modules.fileName) bytes)) :
    Keeps (fun w => P w.disk) (writeListing root directory g : Work ε _) := by
  refine (Work.keeps_change hmake).bind fun _ => ?_
  refine keeps_get.bind fun w => ?_
  refine (Work.looksOnly_requireOk _ _).keeps.bind fun modules => ?_
  refine (Work.keeps_change (hwrite _)).bind fun _ => ?_
  cases (jsonLines (modules.map ListedModule.toJson)).2 with
  | none => exact keeps_pure _
  | some e => exact keeps_throw _

/-- Writing a summary keeps what making its directory and writing its file keep. -/
theorem keeps_writeSummary (hmake : Keeps P (Disk.makeDirectories directory))
    (hwrite : ∀ bytes, Keeps P (Disk.writeFile (directory / ArtifactKind.summary.fileName) bytes))
    (policy : Except Invalid IdentityPolicy) (bound : Option Int) :
    Keeps (fun w => P w.disk) (writeSummary root directory policy bound g : Work ε _) := by
  refine (Work.keeps_change hmake).bind fun _ => ?_
  refine keeps_get.bind fun _ => ?_
  refine (Work.looksOnly_requireOk _ _).keeps.bind fun _ => ?_
  refine (Work.looksOnly_requireOk _ _).keeps.bind fun _ => ?_
  exact (Work.keeps_change (hwrite _)).bind fun _ => keeps_pure _

/-- Generating artifacts keeps what making their directory and writing files in it keep. -/
theorem Project.keeps_generate {p : Project}
    (hvalid : ∀ given, p.settings = some given → given.IsValid)
    (hmake : Keeps P (Disk.makeDirectories directory))
    (hwrite : ∀ name bytes, IsStepName name → Keeps P (Disk.writeFile (directory / name) bytes)) :
    Keeps (fun w => P w.disk) (p.generate (some directory)) := by
  refine p.looksOnly_effectiveSettings.keeps.bind_of_ok fun settings w w' hsettings => ?_
  have hname := ((effectiveSettings_eq_ok.mp hsettings).1.isValid hvalid).bundleName
  refine (keeps_pure directory).bind_of_ok fun out w w' hout => ?_
  obtain ⟨rfl, _⟩ := pure_eq_ok.mp hout
  refine (p.looksOnly_buildGraph settings).keeps.bind fun g => ?_
  refine (keeps_writeBundle hmake (fun bytes => hwrite _ bytes (isStepName_of_isPlainName hname)) _).bind
    fun _ => ?_
  refine ((keeps_writeListing hmake fun bytes => hwrite _ bytes isStepName_modules).bind fun _ =>
    keeps_pure _).bind fun _ => ?_
  refine (keeps_writeSummary hmake (fun bytes => hwrite _ bytes isStepName_summary) _ _).bind fun _ => ?_
  exact (Work.looksOnly_note _).keeps.bind fun _ => keeps_pure _

end Generating

/-- Building a project again in a directory with plain names in it changes nothing outside, whether it
succeeds or fails. -/
theorem Project.differsIn_generate {p : Project} {d d₁ : Disk} {scratch : Path} {place : List String}
    (hvalid : ∀ given, p.settings = some given → given.IsValid)
    (h : Disk.DiffersIn scratch place d d₁) (events : List Event) :
    Disk.DiffersIn scratch place d (stateAfter (p.generate (some scratch)) ⟨d₁, events⟩).disk := by
  have hmake : Keeps (Disk.DiffersIn scratch place d) (Disk.makeDirectories scratch) := by
    intro after hafter
    rwa [stateAfter_of_ok hafter.makeDirectories]
  have hwrite : ∀ name bytes, IsStepName name → Keeps (Disk.DiffersIn scratch place d)
      (Disk.writeFile (scratch / name) bytes) :=
    fun name bytes hname => Disk.keeps_writeFile fun _ _ h hwritten => h.write hname hwritten
  exact keeps_generate hvalid hmake hwrite ⟨d₁, events⟩ h

/-- What has been built again in a directory that is apart from another one makes no difference to the
contents of that one. -/
theorem Project.lookup_contents_of_generate {p : Project} {d d₁ rebuilt : Disk}
    {scratch artifacts : Path} {place : List String} {made : Generated} {events events' : List Event}
    (hproper : d.IsProper) (hvalid : ∀ given, p.settings = some given → given.IsValid)
    (hdirectory : d.isDirectory artifacts = true) (hmake : d.makeDirectory scratch = .ok d₁)
    (hmade : p.generate (some scratch) ⟨d₁, events⟩ = .ok made ⟨rebuilt, events'⟩)
    (hplace : d₁.place scratch = .ok place) (hapart : d.IsApart rebuilt artifacts place)
    (path : String) : (rebuilt.contents artifacts).lookup path = (d.contents artifacts).lookup path := by
  obtain ⟨other, hfree, hdiffers⟩ := hproper.exists_differsIn hmake
  obtain rfl : other = place := Except.ok.inj (hdiffers.place_eq.symm.trans hplace)
  have hafter := differsIn_generate hvalid hdiffers events
  rw [stateAfter_of_ok hmade] at hafter
  obtain ⟨generation⟩ := generate_yields.mp ⟨made, events', hmade⟩
  have hsettings := generation.isConfigured.isValid hvalid
  have hstored := generation.stored
  rw [show generation.out = scratch from generation.isStoredIn] at hstored
  have hproper' : rebuilt.IsProper := (hproper.makeDirectory hmake).store hstored
  obtain ⟨written, hgrows, hwritten⟩ := Disk.grows_store hstored
  have hnew : ∀ place ∈ written, other <+: place ∧ d.get? place = none := by
    intro place hmem
    obtain ⟨file, hfile, hfound⟩ := (hwritten place).mp hmem
    have hname := isStepName_of_mem_files generation.texts hsettings.bundleName file hfile
    rw [Path.div_eq_extend hname.toIsName, Disk.place_extend hafter.place_eq hafter.directory hname
      (hafter.noLinks _), Except.ok.injEq] at hfound
    subst hfound
    exact ⟨List.prefix_append _ _, hproper.get?_append (by simp) (by simp [hfree])⟩
  have hall := (Disk.grows_makeDirectory hmake).1.trans hgrows
  exact hapart.lookup_contents hall hproper hproper' hdirectory hfree hafter.outside hnew path

/-- A directory that is made in one that is there is below it. -/
theorem Disk.ne_nil_of_makeDirectory {d d₁ : Disk} {p directory : Path} {base rest : List String}
    (hdirectory : d.isDirectory directory = true) (hmake : d.makeDirectory p = .ok d₁)
    (hbase : d₁.place directory = .ok base) (hplace : d₁.place p = .ok (base ++ rest)) : rest ≠ [] := by
  rintro rfl
  obtain ⟨made, hmade, _, hfree, _⟩ := makeDirectory_eq_put hmake
  obtain ⟨_, there, hthere, hget⟩ := isDirectory_iff_place.mp hdirectory
  obtain rfl : base = there :=
    Except.ok.inj (hbase.symm.trans ((grows_makeDirectory hmake).1.place_eq_ok hthere))
  rw [List.append_nil] at hplace
  obtain rfl := Except.ok.inj (hplace.symm.trans hmade)
  rw [hget] at hfree
  cases hfree

/-- What has been generated in an empty directory in another one is listed there, under a path that is
none in the empty directory. -/
theorem Project.Generation.exists_listed {p : Project} {d d' : Disk} {chosen : Option Path}
    {directory : Path} {base rest : List String} (generation : p.Generation chosen d d')
    (hproper : d.IsProper) (hvalid : generation.settings.IsValid)
    (hempty : d.IsEmptyDirectory generation.out) (hnull : directory.hasNull = false)
    (hbase : d.place directory = .ok base) (hplace : d.place generation.out = .ok (base ++ rest))
    (hrest : rest ≠ []) :
    ∃ path bytes, (d'.contents directory).lookup path = some bytes ∧
      (d'.contents generation.out).lookup path = none := by
  have hnames := isStepName_of_mem_files generation.texts hvalid.bundleName
  have hne := ArtifactTexts.files_ne_nil generation.texts generation.settings.bundleName
  have hproper' : d'.IsProper := hproper.store generation.stored
  obtain ⟨place, hfound, hcontains⟩ := hempty.contains_of_store hnames generation.stored
  obtain ⟨_, hgrows, _⟩ := Disk.grows_store generation.stored
  obtain rfl : base ++ rest = place :=
    Except.ok.inj ((hgrows.place_eq_ok hplace).symm.trans hfound)
  obtain ⟨file, hfile⟩ := List.exists_mem_of_ne_nil _ hne
  obtain ⟨bytes, hlookup⟩ := exists_lookup_of_mem (List.mem_reverse.mpr hfile)
  refine ⟨"/".intercalate (rest ++ [file.1]), bytes, ?_, ?_⟩
  · exact hcontains.lookup_contents_above hproper' hnull (hgrows.place_eq_ok hbase) hlookup
  · have hstored := hproper.lookup_contents_of_store (.inr hempty) (fun habsent => by
      rw [hempty.isPresent] at habsent
      cases habsent) hne hnames generation.stored
    rw [hstored.2, List.lookup_eq_none_iff]
    intro other hother
    -- The files in the empty directory have plain names, which hold no slash.
    have hname : Path.IsName other.1 := (hnames other (List.mem_reverse.mp hother)).toIsName
    have hall : ∀ name ∈ rest ++ [file.1], Path.IsName name := by
      intro name hmem
      rcases List.mem_append.mp hmem with hmem | hmem
      · have hentry := hproper'.isEntryName hcontains.directory name (List.mem_append_right _ hmem)
        exact hentry.toIsName
      · rw [List.mem_singleton.mp hmem]
        exact (hnames file hfile).toIsName
    have hlength : (rest ++ [file.1]).length ≠ 1 := by
      simpa using hrest
    rw [bne_iff_ne]
    rintro heq
    exact Path.not_isName_intercalate hall hlength (heq ▸ hname)

/-- A verification that builds in the directory with the artifacts, or below it, always finds a
difference: what it has built itself is listed there. -/
theorem Project.verify_of_standsIn {p : Project} {d d₁ : Disk} {w : Workspace} {artifacts : Path}
    {made : Generated} {events : List Event} (hproper : d.IsProper)
    (hvalid : ∀ given, p.settings = some given → given.IsValid)
    (hdirectory : d.isDirectory artifacts = true) (hmake : d.makeDirectory d.scratch = .ok d₁)
    (hinside : d₁.StandsIn d.scratch artifacts)
    (h : p.generate (some d.scratch) ⟨d₁, events⟩ = .ok made w) :
    ∃ c events', p.verify artifacts ⟨d, events⟩ = .ok c ⟨d, events'⟩ ∧ c.isEqual = false := by
  have hempty : d₁.IsEmptyDirectory d.scratch := hproper.isEmptyDirectory_of_makeDirectory hmake
  obtain ⟨c, rebuilt, made', events', hmade, hverify, hexact⟩ :=
    exists_verify (w := ⟨d, events⟩) hproper hvalid hdirectory hmake hempty h
  cases hmade.symm.trans h
  refine ⟨c, events', hverify, ?_⟩
  obtain ⟨generation⟩ := generate_yields.mp ⟨made, events', h⟩
  have hout : generation.out = d.scratch := generation.isStoredIn
  obtain ⟨base, place, hbase, hplace, rest, rfl⟩ := hinside
  have hrest := Disk.ne_nil_of_makeDirectory hdirectory hmake hbase hplace
  rw [← hout] at hempty hplace
  obtain ⟨path, bytes, hlisted, hnone⟩ := generation.exists_listed (hproper.makeDirectory hmake)
    (generation.isConfigured.isValid hvalid) hempty (Disk.isDirectory_iff.mp hdirectory).1 hbase hplace
    hrest
  rw [hout] at hnone
  rw [Bool.eq_false_iff]
  intro hequal
  have hsame := hexact.isEqual.mp hequal path
  rw [hlisted, hnone] at hsame
  cases hsame

end Bundler
