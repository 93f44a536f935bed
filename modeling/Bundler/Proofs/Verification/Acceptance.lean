import Bundler.Proofs.Artifact.Confinement
import Bundler.Proofs.CommandLine.Calls
import Bundler.Proofs.Disk.RealPath
import Bundler.Proofs.Graph.Probes
import Bundler.Proofs.Verification.Scratch

/-!
# Generated artifacts are accepted

The main result: a verification tells exactly how artifacts differ from those that are generated into an
empty directory, and it accepts what was generated just before, if that took the place of nothing that
the build asks for.

Generating artifacts makes directories, and a path that led nowhere may go through one of them and up
again, to a file that was there before. The configuration file and the candidates of a build must not
be such paths, since the second build would find files that the first one did not. Likewise, the real
path of the root has to be its own real path: where links lead in a loop it may not be.
-/

set_option autoImplicit false

namespace Bundler

open CommandLine

/-- What the build of a project asks for: its configuration file, and the candidates that are tried. -/
def Disk.AsksFor (d : Disk) (root : Path) (entry : Option String) (settings : Settings) (p : Path) :
    Prop :=
  p = root / configurationName ∨
    ∃ file, entryPath d root entry settings = .ok file ∧ d.Probes settings file.toString p

/-- The name of the configuration file is one. -/
theorem isStepName_configurationName : IsStepName configurationName :=
  isStepName_of_isPlainName (by decide)

/-- A plain name without NUL characters is an entry name. -/
theorem isEntryName_of_isPlainName {name : String} (h : Settings.isPlainName name = true)
    (hnull : Char.ofNat 0 ∉ name.toList) : IsEntryName name where
  toIsStepName := isStepName_of_isPlainName h
  no_null := hnull

/-- Home directories are what the system around tells. -/
theorem expandHome_congr {d d' : Disk} (hsame : d'.toSurroundings = d.toSurroundings) (p : Path) :
    d'.expandHome p = d.expandHome p := by
  unfold Disk.expandHome
  rw [hsame]

/-- The path of an entry module depends on what the system around tells. -/
theorem entryPath_congr {d d' : Disk} (hsame : d'.toSurroundings = d.toSurroundings) (root : Path)
    (entry : Option String) (settings : Settings) :
    entryPath d' root entry settings = entryPath d root entry settings := by
  unfold entryPath
  simp only [expandHome_congr hsame]

/-- The output directory of a project is a real path below the root. -/
theorem real_of_outputDirectory {d : Disk} {root out : Path} {output : String}
    (hroot : d.real root = .ok root) (h : outputDirectory d root output = .ok out) :
    d.real (root / output) = .ok out := by
  obtain ⟨base, hbase, hout, _⟩ := exists_real_of_outputDirectory h
  obtain rfl := Except.ok.inj (hroot.symm.trans hbase)
  exact hout

section Stored

variable {d d' : Disk} {root out : Path} {entry : Option String} {settings : Settings}
  {written : List (List String)}

/-- A project whose build asks for nothing that has changed is built again. -/
theorem isBuilt_of_grows {p : Project} {g : ModuleGraph} (hgrows : Disk.Grows written d d')
    (hfree : ∀ place ∈ written, d.get? place = none)
    (hsame : ∀ q, d.AsksFor p.root p.entry settings q → d'.isFile q = d.isFile q)
    (h : p.IsBuilt d settings g) : p.IsBuilt d' settings g := by
  obtain ⟨file, hfile, hrun⟩ := h
  refine ⟨file, (entryPath_congr hgrows.surroundings _ _ _).trans hfile, ?_⟩
  refine Builder.run_ofDisk_eq hgrows.current (fun _ _ _ hread => hgrows.read hfree hread) ?_ hrun
  intro q hq
  exact hsame q (.inr ⟨file, hfile, hq⟩)

/-- A project is found again. -/
theorem finds_of_grows {given : String} (hproper : d.IsProper) (hgrows : Disk.Grows written d d')
    (hfree : ∀ place ∈ written, d.get? place = none)
    (hold : Disk.StaysOnOld d d' (root / configurationName))
    (hsame : d'.isFile (root / configurationName) = d.isFile (root / configurationName))
    (h : Finds d given root settings) : Finds d' given root settings := by
  obtain ⟨path, hpath, hreal, hsettings⟩ := h
  rw [Path.div_eq_extend isStepName_configurationName.toIsName] at hold
  refine ⟨path, (expandHome_congr hgrows.surroundings _).trans hpath, ?_, ?_⟩
  · exact hgrows.real_of_extend hproper isStepName_configurationName hold hreal
  · have hcalls := congrArg Surroundings.nesting hgrows.surroundings
    exact Settings.load_congr hcalls hsame (fun _ hread => hgrows.read hfree hread) hsettings

/-- What has been generated where nothing stood is accepted, if the build asks for nothing that has
changed and the directory of the verification is elsewhere. -/
theorem exists_verify_generated {p : Project} {chosen : Option Path} {d₁ : Disk}
    (generation : p.Generation chosen d d') (hproper : d.IsProper)
    (hgiven : p.settings = some generation.settings) (hvalid : generation.settings.IsValid)
    (hvacant : d.IsVacant generation.out)
    (hnames : ∀ name ∈ generation.out.names, IsStepName name)
    (hmake : d'.makeDirectory d'.scratch = .ok d₁)
    (helsewhere : ¬ d₁.StandsIn d'.scratch generation.out)
    (hgrows : Disk.Grows written d d₁) (hfree : ∀ place ∈ written, d.get? place = none)
    (hsame : ∀ q, d.AsksFor p.root p.entry generation.settings q → d₁.isFile q = d.isFile q) :
    ∃ c, (p.verify generation.out).Yields ⟨d', []⟩ c d' ∧ c.isEqual = true := by
  have hne := ArtifactTexts.files_ne_nil generation.texts generation.settings.bundleName
  have hfiles := isStepName_of_mem_files generation.texts hvalid.bundleName
  have hproper' : d'.IsProper := hproper.store generation.stored
  have hproper₁ : d₁.IsProper := hproper'.makeDirectory hmake
  have hempty : d₁.IsEmptyDirectory d'.scratch := hproper'.isEmptyDirectory_of_makeDirectory hmake
  have hdirectory : d'.isDirectory generation.out = true := isDirectory_of_store hne generation.stored
  -- The artifacts are generated again, since the build gives the same graph.
  obtain ⟨rebuilt, hstore⟩ := hempty.exists_store (generation.isEntryName hvalid)
  have hshown : generation.graph.IsShownBy d₁.current p.root generation.settings
      generation.texts := by
    rw [hgrows.current]
    exact generation.isShownBy
  have hconfigured : p.IsConfigured d₁ generation.settings := by
    unfold Project.IsConfigured
    rw [hgiven]
  have hagain : p.Generation (some d'.scratch) d₁ rebuilt :=
    { generation with
      out := d'.scratch
      isConfigured := hconfigured
      isStoredIn := rfl
      isBuilt := isBuilt_of_grows hgrows hfree hsame generation.isBuilt
      isShownBy := hshown
      stored := hstore }
  obtain ⟨made, events, hmade⟩ := (Project.generate_yields (w := ⟨d₁, []⟩)).mpr ⟨hagain⟩
  have hvalid' : ∀ given, p.settings = some given → given.IsValid := by
    intro given hsettings
    rw [hgiven, Option.some.injEq] at hsettings
    exact hsettings ▸ hvalid
  obtain ⟨c, _, _, events', hmade', hc, hexact⟩ :=
    Project.exists_verify (w := ⟨d', []⟩) hproper' hvalid' hdirectory hmake hempty hmade
  cases hmade'.symm.trans hmade
  refine ⟨c, ⟨events, hc⟩, hexact.isEqual.mpr ?_⟩
  -- What was generated before is still there, since nothing has changed outside the new directory.
  obtain ⟨base, hbase, hcontains⟩ :=
    hproper.contains_of_store hvacant (fun _ => hnames) hne hfiles generation.stored
  obtain ⟨place, hnew, hmadeIn⟩ := hproper'.exists_differsIn hmake
  have hdiffers := Project.differsIn_generate hvalid' hmadeIn []
  rw [stateAfter_of_ok hmade] at hdiffers
  have hout : ¬ base <+: place := by
    intro hprefix
    have hbase₁ := (Disk.grows_makeDirectory hmake).1.place_eq_ok hbase
    exact helsewhere ⟨base, place, hbase₁, hmadeIn.place_eq, hprefix⟩
  have hkept : rebuilt.Contains base (generation.texts.files generation.settings.bundleName) :=
    hcontains.of_outside hproper' hnew hout hdiffers.outside
  obtain ⟨_, hgrows', _⟩ := Disk.grows_store hstore
  have hbase' : rebuilt.place generation.out = .ok base :=
    hgrows'.place_eq_ok ((Disk.grows_makeDirectory hmake).1.place_eq_ok hbase)
  have hnull := (Disk.isDirectory_iff.mp hdirectory).1
  have hbefore := hkept.lookup_contents (hproper₁.store hstore) hnull hbase'
  have hafter := hproper₁.lookup_contents_of_store (.inr hempty) (fun habsent => by
    rw [hempty.isPresent] at habsent
    cases habsent) hne hfiles hstore
  intro path
  rw [hbefore, hafter.2]

end Stored

/-- A verification gives the exact difference between the artifacts, as they are listed while its own
directory is there, and what is generated into an empty directory; this directory makes no difference to
artifacts that are apart from it. And a call that verifies what a call has generated before succeeds. -/
theorem verification_exact_and_accepting (d : Disk) (hproper : d.IsProper) :
    (∀ (p : Project) (artifacts e : Path) (events : List Event) (made : Generated) (w : Workspace)
        (d₁ : Disk),
      (∀ given, p.settings = some given → given.IsValid) → d.isDirectory artifacts = true →
      d.makeDirectory d.scratch = .ok d₁ → d₁.IsEmptyDirectory e →
      p.generate (some e) ⟨d₁, events⟩ = .ok made w →
      ∃ c rebuilt made' events', p.generate (some d.scratch) ⟨d₁, events⟩ = .ok made' ⟨rebuilt, events'⟩ ∧
        p.verify artifacts ⟨d, events⟩ = .ok c ⟨d, events'⟩ ∧
        c.IsExact (rebuilt.contents artifacts) (w.disk.contents e) ∧
        ∀ place, d₁.place d.scratch = .ok place → d.IsApart rebuilt artifacts place →
          c.IsExact (d.contents artifacts) (w.disk.contents e)) ∧
    ∀ (generating verifying : List String) (verbose verbose' : Bool) (root : String)
      (entry : Option String) (base out : Path) (settings : Settings) (d' d₁ : Disk),
      Invocation.ofArguments generating = .ok ⟨verbose, root, entry, .generate {} none⟩ →
      Invocation.ofArguments verifying = .ok ⟨verbose', root, entry, .verify none⟩ →
      Succeeds d generating d' →
      Finds d root base settings → outputDirectory d base settings.outputDir = .ok out →
      d.IsVacant out → d.real base = .ok base →
      d'.makeDirectory d'.scratch = .ok d₁ → ¬ d₁.StandsIn d'.scratch out →
      (∀ q, d.AsksFor base entry settings q → Disk.StaysOnOld d d₁ q ∧
        ∀ path ∈ artifactPaths out settings.bundleName, d'.place q ≠ d'.place path) →
      Succeeds d' verifying d' := by
  refine ⟨?_, ?_⟩
  · intro p artifacts e events made w d₁ hvalid hdirectory hmake hempty hmade
    obtain ⟨c, rebuilt, made', events', hagain, hc, hexact⟩ :=
      Project.exists_verify (w := ⟨d, events⟩) hproper hvalid hdirectory hmake hempty hmade
    refine ⟨c, rebuilt, made', events', hagain, hc, hexact, ?_⟩
    intro place hplace hapart
    refine hexact.congr_left fun path => ?_
    exact (Project.lookup_contents_of_generate hproper hvalid hdirectory hmake hagain hplace hapart
      path).symm
  intro generating verifying verbose verbose' root entry base out settings d' d₁ hgenerating hverifying
    hsucceeds hfinds hout hvacant hbase hmake helsewhere hasks
  obtain ⟨base', settings', made, hfinds', hmade⟩ := (succeeds_generate hgenerating).mp hsucceeds
  obtain ⟨rfl, rfl⟩ := hfinds.unique hfinds'
  obtain ⟨generation⟩ := Project.generate_yields.mp ⟨made, hmade⟩
  have hsettings : generation.settings = settings := generation.isConfigured
  have hstored : generation.out = out := by
    have hstored := generation.isStoredIn
    rw [hsettings] at hstored
    exact Except.ok.inj (hstored.symm.trans hout)
  have hvalid : generation.settings.IsValid := by
    obtain ⟨_, _, _, hload⟩ := hfinds
    rw [hsettings]
    exact Settings.isValid_of_load hload
  have hreal := real_of_outputDirectory hbase hout
  have hnames := (Disk.isNormal_of_real hreal).names
  have hne := ArtifactTexts.files_ne_nil generation.texts generation.settings.bundleName
  have hfiles := isStepName_of_mem_files generation.texts hvalid.bundleName
  rw [← hstored] at hvacant hnames
  obtain ⟨written, hgrows, hfree, hwritten⟩ :=
    hproper.grows_of_store hvacant (fun _ => hnames) hne hfiles generation.stored
  -- The directory of the verification is made next.
  have hnext : Disk.Grows [] d' d₁ := (Disk.grows_makeDirectory hmake).1
  have hboth : Disk.Grows written d d₁ := by
    have htrans := hgrows.trans hnext
    rwa [List.append_nil] at htrans
  have hproper' : d'.IsProper := hproper.store generation.stored
  have hsame : ∀ q, d.AsksFor base entry settings q → d₁.isFile q = d.isFile q := by
    intro q hq
    obtain ⟨hold, hplaces⟩ := hasks q hq
    refine hboth.isFile_eq hproper hold ?_
    intro place hplace hfound
    obtain ⟨file, hfile, hfileplace⟩ := (hwritten place).mp hplace
    obtain ⟨bytes, hbytes⟩ := hgrows.wrote place hplace
    refine hplaces (out / file.1) ?_ ?_
    · rw [← hsettings]
      exact List.mem_map_of_mem (f := fun file => out / file.1) hfile
    · rcases hnext.place_eq_or hproper' (hold.of_grows_before hgrows) with heq | ⟨_, _, hnone⟩
      · rw [← heq, hfound, ← hstored, hfileplace]
      · rw [hnone place hfound] at hbytes
        cases hbytes
  obtain ⟨hold, _⟩ := hasks _ (.inl rfl)
  have hconfiguration : d'.isFile (base / configurationName) = d.isFile (base / configurationName) := by
    rw [Bool.eq_iff_iff]
    refine ⟨fun hfile => ?_, hgrows.isFile⟩
    rw [← hsame _ (.inl rfl)]
    exact hnext.isFile hfile
  have hfound := finds_of_grows hproper hgrows hfree (hold.of_grows_after hnext) hconfiguration hfinds
  obtain ⟨c, hc, hequal⟩ := exists_verify_generated generation hproper (by rw [hsettings]; rfl)
    hvalid hvacant hnames hmake (by rwa [hstored]) hboth hfree (by rwa [hsettings])
  rw [hstored] at hc
  have hreal' : d'.real (base / settings.outputDir) = .ok out := by
    refine hgrows.real hreal ?_
    have hdirectory := isDirectory_of_store hne generation.stored
    obtain ⟨_, place, hplace, _⟩ := Disk.isDirectory_iff_place.mp hdirectory
    rw [← hstored, hplace]
    nofun
  exact (succeeds_verify hverifying).mpr ⟨base, settings, out, c, hfound, hreal', hc, hequal⟩

/-! ## An example -/

/-- Nothing else is reached from a module without references. -/
theorem Builder.eq_start_of_reaches {b : Builder} {entry code : String} {location : Path}
    (hcompile : b.frontend (b.start entry) = .ok ⟨[], code⟩) (h : b.Reaches entry location) :
    location = b.start entry := by
  induction h with
  | refl => rfl
  | tail _ hrefers ih =>
    obtain ⟨compiled, hcompiled, reference, hreference, _⟩ := hrefers
    rw [ih] at hcompiled
    obtain rfl := Except.ok.inj (hcompile.symm.trans hcompiled)
    cases hreference

/-- The arguments of a call that generates the artifacts of the module. -/
theorem ofArguments_generate : Invocation.ofArguments ["generate", "a.py"] =
    .ok ⟨false, ".", some "a.py", .generate {} none⟩ := by
  cbv

/-- The arguments of a call that verifies the artifacts of the module. -/
theorem ofArguments_verify : Invocation.ofArguments ["verify", "a.py"] =
    .ok ⟨false, ".", some "a.py", .verify none⟩ := by
  cbv

/-- A disk with an empty module at the root, where the directory for artifacts is not there and no
configuration is found. -/
structure Disk.HoldsModule (d : Disk) : Prop where
  isProper : d.IsProper
  current : d.current = ⟨.root, []⟩
  module : d.get? ["a.py"] = some (.file [])
  free : d.get? [".modpack"] = none
  unconfigured : d.isFile ⟨.root, [configurationName]⟩ = false

/-- What the call that generates the artifacts of the module leaves. -/
structure Disk.HasGenerated (d d' : Disk) (written : List (List String)) : Prop where
  /-- The disk is proper. -/
  isProper : d'.IsProper
  /-- The call has succeeded. -/
  succeeds : Succeeds d ["generate", "a.py"] d'
  /-- The disk has grown by the artifacts. -/
  grows : Disk.Grows written d d'
  /-- The artifacts take the place of nothing. -/
  free : ∀ place ∈ written, d.get? place = none
  /-- Everything that is new is in the directory for artifacts. -/
  differsIn : Disk.DiffersIn ⟨.root, [".modpack"]⟩ [".modpack"] d d'
  /-- The artifacts stand in this directory. -/
  places : ∀ path ∈ artifactPaths ⟨.root, [".modpack"]⟩ "bundle.py", ∃ name,
    d'.place path = .ok [".modpack", name]

namespace Disk.HoldsModule

variable {d : Disk} (h : d.HoldsModule)

include h

/-- The root is in its place. -/
theorem place_root : d.place ⟨.root, []⟩ = .ok [] :=
  h.isProper.place_root rfl

/-- The root is its own real path, and that of the current directory. -/
theorem real_root {anchor : Anchor} : d.real ⟨anchor, []⟩ = .ok ⟨.root, []⟩ := by
  have hsteps : d.absoluteSteps ⟨anchor, []⟩ = [] := by
    unfold Disk.absoluteSteps
    rw [h.current]
    cases anchor <;> rfl
  have hnames : d.realNames d.entries.length [] [] (d.absoluteSteps ⟨anchor, []⟩) =
      (.complete, []) := by
    rw [hsteps, Disk.realNames_nil]
  refine Disk.real_eq_ok.mpr ⟨?_, ?_, rfl, ?_⟩
  · rw [Disk.following, hnames]
    simp
  · rw [Disk.realCandidate, hnames]
    rfl
  · rw [h.place_root]
    simp

/-- Nothing stands where the directory for artifacts will be. -/
theorem isVacant_output : d.IsVacant ⟨.root, [".modpack"]⟩ := by
  have hname : IsEntryName ".modpack" := isEntryName_of_isPlainName (by decide) (by decide)
  have habsent := Disk.isPresent_root hname h.free
  exact .inl habsent

/-- The directory for artifacts is its own real path. -/
theorem real_output : d.real ⟨.root, [".modpack"]⟩ = .ok ⟨.root, [".modpack"]⟩ := by
  have hname : IsEntryName ".modpack" := isEntryName_of_isPlainName (by decide) (by decide)
  have hlink : d.link? ([] ++ [".modpack"]) = none := by
    rw [List.nil_append, Disk.link?, h.free]
  have hplace : d.place ⟨.root, [".modpack"]⟩ = .ok [".modpack"] := by
    rw [Disk.place, Disk.absoluteSteps_root hname,
      Disk.locate_missing hname.ne_dot hname.ne_dots h.free, if_pos rfl]
    rfl
  have hnames : d.realNames d.entries.length [] [] (d.absoluteSteps ⟨.root, [".modpack"]⟩) =
      (.complete, [".modpack"]) := by
    rw [Disk.absoluteSteps_root hname,
      Disk.realNames_plain hname.ne_dot hname.ne_dots (by decide) hlink, Disk.realNames_nil]
    rfl
  refine Disk.real_eq_ok.mpr ⟨?_, ?_, by decide, ?_⟩
  · rw [Disk.following, hnames]
    simp
  · rw [Disk.realCandidate, hnames]
    decide
  · rw [hplace]
    simp

/-- The root is found, without a configuration. -/
theorem finds : Finds d "." ⟨.root, []⟩ {} := by
  refine ⟨⟨.relative, []⟩, by cbv, h.real_root, ?_⟩
  have hfile : (⟨.root, []⟩ : Path) / configurationName = ⟨.root, [configurationName]⟩ :=
    Path.div_eq_extend isStepName_configurationName.toIsName
  unfold Settings.load
  dsimp only
  rw [hfile, h.unconfigured]
  rfl

/-- The directory for artifacts is found. -/
theorem outputDirectory_eq :
    outputDirectory d ⟨.root, []⟩ ".modpack" = .ok ⟨.root, [".modpack"]⟩ := by
  have hrelative : (".modpack".startsWith "~" || (Path.ofString ".modpack").isAbsolute) = false := by
    cbv
  have hfile : (⟨.root, []⟩ : Path) / ".modpack" = ⟨.root, [".modpack"]⟩ := by
    decide
  unfold outputDirectory Failure.crashOn
  dsimp only
  rw [if_neg (by decide), hrelative, if_neg Bool.false_ne_true, h.real_root]
  refine bind_eq_ok.mpr ⟨⟨.root, []⟩, rfl, ?_⟩
  rw [hfile, h.real_output]
  rfl

/-- The module is empty. -/
theorem read : d.read ⟨.root, ["a.py"]⟩ = .ok [] := by
  have hroot := h.place_root
  have hmodule := h.module
  exact h.isProper.read_extend (p := ⟨.root, []⟩) rfl hroot hmodule

/-- The artifacts of the module are generated. -/
theorem exists_generation : ∃ d', Nonempty ((oneModule "bundle.py").Generation none d d') := by
  obtain ⟨code, hbuilt⟩ := isBuilt_oneModule h.current h.read "bundle.py"
  obtain ⟨texts, hshown⟩ := isShownBy_singleGraph code "bundle.py"
  have hname : IsEntryName ".modpack" := isEntryName_of_isPlainName (by decide) (by decide)
  have hfiles : ∀ file ∈ texts.files "bundle.py", IsEntryName file.1 := by
    have hbundle : IsEntryName "bundle.py" := isEntryName_of_isPlainName (by decide) (by decide)
    have hmodules : IsEntryName ArtifactKind.modules.fileName := ⟨isStepName_modules, by decide⟩
    have hsummary : IsEntryName ArtifactKind.summary.fileName := ⟨isStepName_summary, by decide⟩
    intro file hfile
    simp only [ArtifactTexts.files, List.mem_cons, List.not_mem_nil, or_false] at hfile
    rcases hfile with rfl | rfl | rfl
    · exact hbundle
    · exact hmodules
    · exact hsummary
  obtain ⟨d', hstore⟩ := h.isProper.exists_store_root hname h.free (texts.files_ne_nil _) hfiles
  have hshown' : (singleGraph code).IsShownBy d.current ⟨.root, []⟩ {} texts := by
    rw [h.current]
    exact hshown
  have generation : (oneModule "bundle.py").Generation none d d' :=
    { settings := {}, out := ⟨.root, [".modpack"]⟩, graph := singleGraph code, texts
      isConfigured := rfl, isStoredIn := h.outputDirectory_eq, isBuilt := hbuilt
      isShownBy := hshown', stored := hstore }
  exact ⟨d', ⟨generation⟩⟩

/-- The call that generates the artifacts of the module makes their directory and writes in it. -/
theorem exists_generated : ∃ d' written, d.HasGenerated d' written := by
  obtain ⟨d', ⟨generation⟩⟩ := h.exists_generation
  obtain ⟨made, hmade⟩ := (Project.generate_yields (w := ⟨d, []⟩)).mpr ⟨generation⟩
  have hname : IsEntryName ".modpack" := isEntryName_of_isPlainName (by decide) (by decide)
  have hnames : ∀ name ∈ (Path.mk .root [".modpack"]).names, IsStepName name := by
    simpa using hname.toIsStepName
  have hsettings : generation.settings = {} := generation.isConfigured
  have hout : generation.out = ⟨.root, [".modpack"]⟩ := by
    have hstored := generation.isStoredIn
    rw [hsettings] at hstored
    exact Except.ok.inj (hstored.symm.trans h.outputDirectory_eq)
  have hstore := generation.stored
  rw [hout, hsettings] at hstore
  have hne := generation.texts.files_ne_nil "bundle.py"
  have hfiles := isStepName_of_mem_files generation.texts
    (by decide : Settings.isPlainName "bundle.py" = true)
  obtain ⟨written, hgrows, hfree, _⟩ :=
    h.isProper.grows_of_store h.isVacant_output (fun _ => hnames) hne hfiles hstore
  -- The directory is made at the root, and the files are stored in it.
  have hmake := Disk.makeDirectory_root hname h.free
  obtain ⟨place, _, hdiffers⟩ := h.isProper.exists_differsIn hmake
  obtain rfl : place = [".modpack"] := by
    have hput : (d.put [".modpack"] .directory).get? [".modpack"] = some .directory := by
      rw [Disk.get?_put (by simp), if_pos rfl]
    have hplace := Disk.place_root_of_ne_link hname fun target => by
      rw [hput]
      nofun
    exact Except.ok.inj (hdiffers.place_eq.symm.trans hplace)
  have hstored := hstore
  rw [Disk.store_of_makeDirectories hne (Disk.makeDirectories_of_makeDirectory hmake)] at hstored
  have hafter := hdiffers.store hfiles hstored
  have hplaces : ∀ path ∈ artifactPaths ⟨.root, [".modpack"]⟩ "bundle.py",
      ∃ name, d'.place path = .ok [".modpack", name] := by
    intro path hpath
    have hpaths : artifactPaths ⟨.root, [".modpack"]⟩ "bundle.py" =
        (generation.texts.files "bundle.py").map
          fun file => (⟨.root, [".modpack"]⟩ : Path) / file.1 := rfl
    rw [hpaths] at hpath
    obtain ⟨file, hfile, rfl⟩ := List.mem_map.mp hpath
    have hfilename := hfiles file hfile
    refine ⟨file.1, ?_⟩
    rw [Path.div_eq_extend hfilename.toIsName]
    exact Disk.place_extend hafter.place_eq hafter.directory hfilename (hafter.noLinks _)
  have hsucceeds : Succeeds d ["generate", "a.py"] d' :=
    (succeeds_generate ofArguments_generate).mpr ⟨_, _, made, h.finds, hmade⟩
  exact ⟨d', written,
    { isProper := h.isProper.store hstore, succeeds := hsucceeds, grows := hgrows, free := hfree
      differsIn := hafter, places := hplaces }⟩

/-- The build of the module asks for the configuration only. -/
theorem eq_of_asksFor {q : Path} (hq : d.AsksFor ⟨.root, []⟩ (some "a.py") {} q) :
    q = ⟨.root, [configurationName]⟩ := by
  rcases hq with rfl | ⟨file, hfile, location, reference, hreached, hlooks, _⟩
  · exact Path.div_eq_extend isStepName_configurationName.toIsName
  exfalso
  obtain ⟨code, hcompile⟩ := exists_compile_empty h.read [".py"]
  have hentry : entryPath d ⟨.root, []⟩ (some "a.py") {} = .ok ⟨.root, ["a.py"]⟩ := by
    cbv
  obtain rfl := Except.ok.inj (hentry.symm.trans hfile)
  have hstart := Builder.start_oneModule h.current {}
  have hfrontend : (Builder.ofDisk d {}).frontend ((Builder.ofDisk d {}).start "/a.py") =
      .ok ⟨[], code⟩ := by
    rw [hstart]
    exact hcompile
  have hlocation : location = ⟨.root, ["a.py"]⟩ :=
    (Builder.eq_start_of_reaches hfrontend hreached).trans hstart
  subst hlocation
  rcases hlooks with ⟨compiled, hcompiled, hreference⟩ | ⟨text, tree, htext, htree, i, hi, _⟩
  · obtain rfl := Except.ok.inj (hcompile.symm.trans hcompiled)
    cases hreference
  · obtain rfl := Except.ok.inj ((readSource_empty h.read).symm.trans htext)
    obtain rfl := Except.ok.inj (parseSource_empty.symm.trans htree)
    cases hi

end Disk.HoldsModule

namespace Disk

variable {d : Disk} {name : String} (hname : IsEntryName name)
  (hlink : ∀ target, d.get? [name] ≠ some (.link target))

include hname hlink

/-- A name at the root that is no link is looked up without going up. -/
theorem ascents_root :
    d.ascents maxLinks [] (d.absoluteSteps ⟨.root, [name]⟩) = [] := by
  rw [absoluteSteps_root hname, ascents, if_neg hname.ne_dot, if_neg hname.ne_dots]
  cases hget : d.get? ([] ++ [name]) with
  | none => rfl
  | some e =>
    cases e with
    | file bytes => rfl
    | directory => rw [ascents]
    | link target => exact absurd hget (hlink target)

end Disk

/-- A disk on which everything stands at the root is proper. -/
theorem Disk.isProper_of_root {d : Disk} (hkeys : (d.entries.map Prod.fst).Nodup)
    (hnames : ∀ x ∈ d.entries, x.1.length = 1 ∧
      ∀ name ∈ x.1, Settings.isPlainName name = true ∧ Char.ofNat 0 ∉ name.toList)
    (htargets : ∀ x ∈ d.entries, ∀ target, x.2 = .link target → Char.ofNat 0 ∉ target.toList)
    (hcurrent : d.current = ⟨.root, []⟩) : d.IsProper where
  keys := hkeys
  names := by
    intro x hx name hname
    obtain ⟨hplain, hnull⟩ := (hnames x hx).2 name hname
    exact isEntryName_of_isPlainName hplain hnull
  parents := by
    intro x hx
    obtain ⟨name, hname⟩ := List.length_eq_one_iff.mp (hnames x hx).1
    rw [hname]
    exact ⟨by simp, rfl⟩
  targets := htargets
  current := by rw [hcurrent]; rfl

/-- The disk with an empty module and an empty directory. -/
theorem holdsModule_moduleAndDirectory : moduleAndDirectory.HoldsModule where
  isProper := by
    refine Disk.isProper_of_root (by decide) (by decide) ?_ rfl
    intro x hx target htarget
    simp only [moduleAndDirectory, List.mem_cons, List.not_mem_nil, or_false] at hx
    rcases hx with rfl | rfl <;> cases htarget
  current := rfl
  module := rfl
  free := rfl
  unconfigured := by cbv

/-- The same disk with the directory of a verification. -/
def moduleAndScratch : Disk :=
  moduleAndDirectory.put ["modpack-verify-_"] .directory

/-- A verification can make its directory. -/
theorem makeDirectory_moduleAndDirectory :
    moduleAndDirectory.makeDirectory moduleAndDirectory.scratch = .ok moduleAndScratch := by
  have hscratch : moduleAndDirectory.scratch = ⟨.root, ["modpack-verify-_"]⟩ := by
    decide
  have hname : IsEntryName "modpack-verify-_" := isEntryName_of_isPlainName (by decide) (by decide)
  rw [hscratch]
  exact Disk.makeDirectory_root hname rfl

/-- The module is still there. -/
theorem holdsModule_moduleAndScratch : moduleAndScratch.HoldsModule where
  isProper := holdsModule_moduleAndDirectory.isProper.makeDirectory makeDirectory_moduleAndDirectory
  current := rfl
  module := rfl
  free := rfl
  unconfigured := by cbv

/-- The directory for artifacts at the root is apart from that of a verification, which is at the root as
well. -/
theorem isApart_moduleAndDirectory {rebuilt : Disk} {written : List (List String)}
    (hgrows : Disk.Grows written moduleAndDirectory rebuilt) :
    moduleAndDirectory.IsApart rebuilt ⟨.root, ["o"]⟩ ["modpack-verify-_"] := by
  have hname : IsEntryName "o" := isEntryName_of_isPlainName (by decide) (by decide)
  have hlink : ∀ target, rebuilt.get? ["o"] ≠ some (.link target) := by
    intro target htarget
    rw [hgrows.get?_link] at htarget
    cases htarget
  -- Nothing but the directory itself stands there.
  have hnothing : ∀ base names, moduleAndDirectory.place ⟨.root, ["o"]⟩ = .ok base →
      moduleAndDirectory.get? (base ++ names) ≠ none → names = [] := by
    intro base names hbase hthere
    by_contra hne
    obtain rfl := Except.ok.inj (place_moduleAndDirectory.symm.trans hbase)
    rw [contains_moduleAndDirectory.below names hne, Disk.storedAt_nil] at hthere
    exact hthere rfl
  refine ⟨?_, ?_, ?_⟩
  · intro base hbase
    obtain rfl := Except.ok.inj (place_moduleAndDirectory.symm.trans hbase)
    decide
  · intro base names hbase hthere place hplace
    obtain rfl := hnothing base names hbase hthere
    have hascents : rebuilt.ascents Disk.maxLinks [] (rebuilt.absoluteSteps ⟨.root, ["o"]⟩) = [] :=
      Disk.ascents_root hname hlink
    rw [Path.extend, List.append_nil, hascents] at hplace
    cases hplace
  · intro base names found hbase hthere hfound
    obtain rfl := hnothing base names hbase hthere
    rw [Path.extend, List.append_nil, Disk.place_root_of_ne_link hname hlink] at hfound
    obtain rfl := Except.ok.inj hfound
    decide

/-- The verdict on a directory without artifacts is exact, and the artifacts of the module are accepted
once they have been generated. -/
theorem verification_exact_and_accepting_oneModule : ∃ made w c events d',
    (oneModule "bundle.py").generate (some ⟨.root, ["o"]⟩) ⟨moduleAndScratch, []⟩ = .ok made w ∧
    (oneModule "bundle.py").verify ⟨.root, ["o"]⟩ ⟨moduleAndDirectory, []⟩ =
      .ok c ⟨moduleAndDirectory, events⟩ ∧
    c.IsExact (moduleAndDirectory.contents ⟨.root, ["o"]⟩) (w.disk.contents ⟨.root, ["o"]⟩) ∧
    Succeeds moduleAndDirectory ["generate", "a.py"] d' ∧ Succeeds d' ["verify", "a.py"] d' := by
  have hmodule := holdsModule_moduleAndDirectory
  have hmake := makeDirectory_moduleAndDirectory
  obtain ⟨hexact, haccepts⟩ := verification_exact_and_accepting moduleAndDirectory hmodule.isProper
  have hnext := (Disk.grows_makeDirectory hmake).1
  -- The verdict on the directory that is there.
  have hplace : moduleAndScratch.place ⟨.root, ["o"]⟩ = .ok ["o"] :=
    hnext.place_eq_ok place_moduleAndDirectory
  have hempty : moduleAndScratch.IsEmptyDirectory ⟨.root, ["o"]⟩ := by
    refine ⟨by decide, ["o"], hplace, rfl, ?_⟩
    rintro (_ | ⟨first, rest⟩) hne
    · exact absurd rfl hne
    · simp [moduleAndScratch, moduleAndDirectory, Disk.put, Disk.get?]
  have hvalid : ∀ given, (oneModule "bundle.py").settings = some given → given.IsValid := by
    intro given hgiven
    cases hgiven
    exact Settings.isValid_default
  have hdirectory : moduleAndDirectory.isDirectory ⟨.root, ["o"]⟩ = true :=
    Disk.isDirectory_iff_place.mpr ⟨by decide, ["o"], place_moduleAndDirectory, rfl⟩
  obtain ⟨_, ⟨generation⟩⟩ := holdsModule_moduleAndScratch.exists_generation
  have hsettings := generation.isConfigured.isValid hvalid
  obtain ⟨built, made, events, hmade, _⟩ := generation.exists_generate hsettings hempty []
  obtain ⟨c, rebuilt, _, events', hagain, hc, _, hverdict⟩ := hexact (oneModule "bundle.py")
    ⟨.root, ["o"]⟩ ⟨.root, ["o"]⟩ [] made _ moduleAndScratch hvalid hdirectory hmake hempty hmade
  obtain ⟨again⟩ := Project.generate_yields.mp ⟨_, events', hagain⟩
  obtain ⟨_, hgrows, _⟩ := Disk.grows_store again.stored
  have hscratch : moduleAndScratch.place moduleAndDirectory.scratch = .ok ["modpack-verify-_"] := by
    cbv
  have hapart := isApart_moduleAndDirectory (hnext.trans hgrows)
  have hhere := hverdict _ hscratch hapart
  -- The artifacts that have been generated are accepted.
  obtain ⟨d', written, hgenerated⟩ := hmodule.exists_generated
  have hscratchName : IsEntryName "modpack-verify-_" :=
    isEntryName_of_isPlainName (by decide) (by decide)
  have hconfiguration : IsEntryName configurationName :=
    ⟨isStepName_configurationName, by decide⟩
  have hnew : d'.get? ["modpack-verify-_"] = none := by
    rw [hgenerated.differsIn.outside _ (by decide)]
    rfl
  have hscratch' : d'.scratch = ⟨.root, ["modpack-verify-_"]⟩ := by
    rw [Disk.scratch, hgenerated.grows.surroundings]
    decide
  have hmake' : d'.makeDirectory d'.scratch = .ok (d'.put ["modpack-verify-_"] .directory) := by
    rw [hscratch']
    exact Disk.makeDirectory_root hscratchName hnew
  have hnext' := (Disk.grows_makeDirectory hmake').1
  have hboth := hgenerated.grows.trans hnext'
  refine ⟨made, _, c, events', d', hmade, hc, hhere, hgenerated.succeeds, ?_⟩
  refine haccepts ["generate", "a.py"] ["verify", "a.py"] false false "." (some "a.py") ⟨.root, []⟩
    ⟨.root, [".modpack"]⟩ {} d' _ ofArguments_generate ofArguments_verify hgenerated.succeeds
    hmodule.finds hmodule.outputDirectory_eq hmodule.isVacant_output hmodule.real_root hmake' ?_ ?_
  · rintro ⟨base, place, hbase, hplace, hprefix⟩
    have hout := hnext'.place_eq_ok hgenerated.differsIn.place_eq
    obtain rfl := Except.ok.inj (hout.symm.trans hbase)
    rw [hscratch'] at hplace
    have hthere := Disk.place_root_of_ne_link (d := d'.put ["modpack-verify-_"] .directory)
      hscratchName fun target => by
        rw [Disk.get?_put (by simp), if_pos rfl]
        simp
    obtain rfl := Except.ok.inj (hthere.symm.trans hplace)
    revert hprefix
    decide
  intro q hq
  obtain rfl := hmodule.eq_of_asksFor hq
  have hlink : ∀ {after : Disk} {more : List (List String)},
      Disk.Grows more moduleAndDirectory after →
      ∀ target, after.get? [configurationName] ≠ some (.link target) := by
    intro after more hmore target htarget
    rw [hmore.get?_link] at htarget
    cases htarget
  refine ⟨?_, ?_⟩
  · intro place hplace
    rw [Disk.ascents_root hconfiguration (hlink hboth)] at hplace
    cases hplace
  · intro path hpath
    obtain ⟨name, hname⟩ := hgenerated.places path hpath
    rw [hname, Disk.place_root_of_ne_link hconfiguration (hlink hgenerated.grows)]
    simp

/-- A disk on which the configuration file is a link through the directory for artifacts, which is not
there yet, to a file that is no configuration. -/
def lateConfiguration : Disk where
  entries := [(["a.py"], .file []), (["b.toml"], .file [120]),
    ([configurationName], .link ".modpack/../b.toml")]
  current := ⟨.root, []⟩

/-- The path of the configuration is looked up through the link. -/
theorem place_lateConfiguration {d : Disk}
    (hlink : d.get? [configurationName] = some (.link ".modpack/../b.toml")) :
    d.place ⟨.root, [configurationName]⟩ =
      d.locate 39 [] [".modpack", "..", "b.toml"] := by
  have hname : IsEntryName configurationName := ⟨isStepName_configurationName, by decide⟩
  have hsteps : Disk.steps [".modpack/../b.toml"] = [".modpack", "..", "b.toml"] := by
    decide
  have hstart : Disk.linkStart [] ".modpack/../b.toml" = [] := by
    unfold Disk.linkStart
    split <;> rfl
  rw [Disk.place, Disk.absoluteSteps_root hname, Disk.maxLinks,
    Disk.locate_link hname.ne_dot hname.ne_dots hlink, hsteps, hstart]
  rfl

/-- As long as there is no directory for artifacts, no configuration is found. -/
theorem holdsModule_lateConfiguration : lateConfiguration.HoldsModule where
  isProper := by
    refine Disk.isProper_of_root (by decide) (by decide) ?_ rfl
    intro x hx target htarget
    simp only [lateConfiguration, List.mem_cons, List.not_mem_nil, or_false] at hx
    rcases hx with rfl | rfl | rfl
    · cases htarget
    · cases htarget
    · cases htarget
      decide
  current := rfl
  module := rfl
  free := rfl
  unconfigured := by
    have hplace := place_lateConfiguration (d := lateConfiguration) rfl
    rw [Disk.locate_missing (by decide) (by decide) rfl, if_neg (by simp)] at hplace
    rw [Bool.eq_false_iff, ne_eq, Disk.isFile_iff]
    rintro ⟨_, bytes, hfind⟩
    obtain ⟨place, hplace', _⟩ := Disk.find_eq_ok.mp hfind
    rw [hplace] at hplace'
    cases hplace'

/-- A disk with an empty module, where verifications make their directories in the directory for
artifacts. -/
def scratchInside : Disk where
  entries := [(["a.py"], .file [])]
  current := ⟨.root, []⟩
  temporary := ⟨.root, [".modpack"]⟩

/-- The disk holds the module and no configuration. -/
theorem holdsModule_scratchInside : scratchInside.HoldsModule where
  isProper := by
    refine Disk.isProper_of_root (by decide) (by decide) ?_ rfl
    intro x hx target htarget
    obtain rfl := List.mem_singleton.mp hx
    cases htarget
  current := rfl
  module := rfl
  free := rfl
  unconfigured := by cbv

/-- Artifacts are generated where nothing stood and take the place of nothing that the build asks for, and
yet a verification with the same entry module and root does not accept them. -/
def Disk.RefusesGenerated (d : Disk) : Prop :=
  ∃ d', Succeeds d ["generate", "a.py"] d' ∧ Finds d "." ⟨.root, []⟩ {} ∧
    outputDirectory d ⟨.root, []⟩ ".modpack" = .ok ⟨.root, [".modpack"]⟩ ∧
    d.IsVacant ⟨.root, [".modpack"]⟩ ∧
    (∀ q, d.AsksFor ⟨.root, []⟩ (some "a.py") {} q ∨ q = ⟨.root, ["a.py"]⟩ →
      ∀ path ∈ artifactPaths ⟨.root, [".modpack"]⟩ "bundle.py", d'.place q ≠ d'.place path) ∧
    ∀ d'', ¬ Succeeds d' ["verify", "a.py"] d''

/-- Artifacts of the module are refused if the verification does not succeed, and the configuration
is elsewhere. -/
theorem Disk.HoldsModule.refusesGenerated {d d' : Disk} {written : List (List String)}
    (h : d.HoldsModule) (hgenerated : d.HasGenerated d' written)
    (hmodule : ∀ target, d.get? ["a.py"] ≠ some (.link target)) {place : List String}
    (hplace : d'.place ⟨.root, [configurationName]⟩ = .ok place) (hlength : place.length = 1)
    (hrefused : ∀ d'', ¬ Succeeds d' ["verify", "a.py"] d'') : d.RefusesGenerated := by
  refine ⟨d', hgenerated.succeeds, h.finds, h.outputDirectory_eq, h.isVacant_output, ?_, hrefused⟩
  intro q hq path hpath
  obtain ⟨name, hname⟩ := hgenerated.places path hpath
  rw [hname]
  rcases hq with hq | rfl
  · rw [h.eq_of_asksFor hq, hplace]
    intro heq
    obtain rfl := Except.ok.inj heq
    cases hlength
  · have hlink : ∀ target, d'.get? ["a.py"] ≠ some (.link target) := by
      intro target htarget
      exact hmodule target (hgenerated.grows.get?_link.mp htarget)
    have hfile : IsEntryName "a.py" := isEntryName_of_isPlainName (by decide) (by decide)
    rw [Disk.place_root_of_ne_link hfile hlink]
    simp

/-- Generating artifacts may bring a configuration to light that was out of reach. -/
theorem refusesGenerated_lateConfiguration : lateConfiguration.RefusesGenerated := by
  have hmodule := holdsModule_lateConfiguration
  obtain ⟨d', written, hgenerated⟩ := hmodule.exists_generated
  have hgrows := hgenerated.grows
  -- The link to the configuration leads to the file now, through the new directory and up again.
  have hfile : d'.get? ["b.toml"] = some (.file [120]) := by
    refine hgrows.kept _ _ (fun hmem => ?_) rfl
    cases hgenerated.free _ hmem
  have hplace : d'.place ⟨.root, [configurationName]⟩ = .ok ["b.toml"] := by
    rw [place_lateConfiguration (hgrows.get?_link.mpr rfl),
      Disk.locate_directory (by decide) (by decide) hgenerated.differsIn.directory, Disk.locate_dots,
      Disk.locate_file (by decide) (by decide) hfile, if_pos rfl]
    rfl
  refine hmodule.refusesGenerated hgenerated nofun hplace rfl ?_
  intro d'' hverify
  obtain ⟨base, settings, _, _, ⟨given, hgiven, hbase, hload⟩, _⟩ :=
    (succeeds_verify ofArguments_verify).mp hverify
  have hgiven' : d'.expandHome (.ofString ".") = .ok ⟨.relative, []⟩ := by cbv
  obtain rfl := Except.ok.inj (hgiven.symm.trans hgiven')
  have hsteps : d'.absoluteSteps ⟨.relative, []⟩ = [] := by
    rw [hgrows.absoluteSteps_eq, Disk.absoluteSteps, hmodule.current]
    rfl
  obtain ⟨_, rfl, _⟩ := Disk.real_eq_ok.mp hbase
  have hroot : d'.realCandidate ⟨.relative, []⟩ = ⟨.root, []⟩ := by
    rw [Disk.realCandidate, hsteps, Disk.realNames_nil]
    rfl
  have hconfiguration : (⟨.root, []⟩ : Path) / configurationName = ⟨.root, [configurationName]⟩ :=
    Path.div_eq_extend isStepName_configurationName.toIsName
  have hread : d'.read ⟨.root, [configurationName]⟩ = .ok [120] :=
    Disk.read_eq_ok_iff_place.mpr ⟨by decide, _, hplace, hfile⟩
  rw [hroot] at hload
  unfold Settings.load at hload
  dsimp only at hload
  rw [hconfiguration, if_pos (Disk.isFile_iff_read.mpr ⟨_, hread⟩)] at hload
  obtain ⟨bytes, hbytes, hload⟩ := bind_eq_ok.mp hload
  obtain ⟨text, htext, hload⟩ := bind_eq_ok.mp hload
  obtain rfl := Except.ok.inj (hread.symm.trans (mapError_eq_ok.mp hbytes))
  obtain rfl := Except.ok.inj ((by cbv : Text.Utf8.decode [120] = .ok "x").symm.trans
    (mapError_eq_ok.mp htext))
  have hfault : ∀ calls, (Toml.read calls "x").toOption = none := by
    intro calls
    cbv
  unfold Settings.ofToml at hload
  cases hread : Toml.read d'.nesting "x" with
  | error e =>
    rw [hread] at hload
    cases e <;> cases hload
  | ok members =>
    have hnone := hfault d'.nesting
    rw [hread] at hnone
    cases hnone

/-- A verification that makes its directory among the artifacts lists what it has built itself. -/
theorem refusesGenerated_scratchInside : scratchInside.RefusesGenerated := by
  have hmodule := holdsModule_scratchInside
  obtain ⟨d', written, hgenerated⟩ := hmodule.exists_generated
  have hgrows := hgenerated.grows
  have hname : IsEntryName configurationName := ⟨isStepName_configurationName, by decide⟩
  have hlink : ∀ target, d'.get? [configurationName] ≠ some (.link target) := by
    intro target htarget
    rw [hgrows.get?_link] at htarget
    cases htarget
  have hplace : d'.place ⟨.root, [configurationName]⟩ = .ok [configurationName] :=
    Disk.place_root_of_ne_link hname hlink
  refine hmodule.refusesGenerated hgenerated nofun hplace rfl ?_
  intro d'' hverify
  obtain ⟨base, settings, artifacts, c, hfound, hreal, ⟨events, hc⟩, hequal⟩ :=
    (succeeds_verify ofArguments_verify).mp hverify
  -- The project is the same, since there is still no configuration file.
  have hfile : (⟨.root, []⟩ : Path) / configurationName = ⟨.root, [configurationName]⟩ :=
    Path.div_eq_extend isStepName_configurationName.toIsName
  have hold : Disk.StaysOnOld scratchInside d' ⟨.root, [configurationName]⟩ := by
    intro place hplace
    rw [Disk.ascents_root hname hlink] at hplace
    cases hplace
  have hsame : d'.isFile ⟨.root, [configurationName]⟩ =
      scratchInside.isFile ⟨.root, [configurationName]⟩ := by
    refine hgrows.isFile_eq hmodule.isProper hold ?_
    intro place hmem hfound
    obtain rfl := Except.ok.inj (hplace.symm.trans hfound)
    obtain ⟨bytes, hbytes⟩ := hgrows.wrote _ hmem
    rw [hgenerated.differsIn.outside _ (by decide)] at hbytes
    cases hbytes
  have hfinds := finds_of_grows hmodule.isProper hgrows hgenerated.free (hfile ▸ hold)
    (hfile ▸ hsame) hmodule.finds
  obtain ⟨rfl, rfl⟩ := hfinds.unique hfound
  have hreal' : d'.real ⟨.root, [".modpack"]⟩ = .ok ⟨.root, [".modpack"]⟩ := by
    refine hgrows.real hmodule.real_output ?_
    rw [hgenerated.differsIn.place_eq]
    nofun
  obtain rfl := Except.ok.inj (hreal'.symm.trans hreal)
  -- The new directory is among the artifacts.
  obtain ⟨hdirectory, d₁, made, after, hmake, hmade, _⟩ := Project.verify_eq_ok.mp hc
  have hnext := (Disk.grows_makeDirectory hmake).1
  have hscratchName : IsStepName "modpack-verify-_" := isStepName_of_isPlainName (by decide)
  have hscratch : d'.scratch = (⟨.root, [".modpack"]⟩ : Path).extend ["modpack-verify-_"] := by
    rw [Disk.scratch, hgrows.surroundings]
    decide
  have hinside : d₁.StandsIn d'.scratch ⟨.root, [".modpack"]⟩ := by
    have hscratchPlace := Disk.place_extend hgenerated.differsIn.place_eq
      hgenerated.differsIn.directory hscratchName (hgenerated.differsIn.noLinks _)
    rw [← hscratch] at hscratchPlace
    exact ⟨_, _, hnext.place_eq_ok hgenerated.differsIn.place_eq, hnext.place_eq_ok hscratchPlace,
      List.prefix_append _ _⟩
  have hvalid : ∀ given, (some {} : Option Settings) = some given → given.IsValid := by
    intro given hgiven
    cases hgiven
    exact Settings.isValid_default
  obtain ⟨c', events', hc', hdiffer⟩ := Project.verify_of_standsIn hgenerated.isProper hvalid hdirectory
    hmake hinside hmade
  cases hc'.symm.trans hc
  rw [hequal] at hdiffer
  cases hdiffer

/-- Generated artifacts may be refused, although none of them took the place of anything: because of a
configuration that has come to light, and because the verification makes its directory among them. -/
theorem verify_refuses_generated :
    lateConfiguration.RefusesGenerated ∧ scratchInside.RefusesGenerated :=
  ⟨refusesGenerated_lateConfiguration, refusesGenerated_scratchInside⟩

end Bundler
