import Bundler.Proofs.CommandLine.Calls
import Bundler.Proofs.Verification.Acceptance
import Bundler.Proofs.Verification.Scratch

/-!
# What a call changes

A call that does not succeed leaves the disk as it was: what is wrong with a project is found before
anything is made or written. A call that succeeds changes what it is asked to write, and makes missing
directories on the way; verifying changes nothing.
-/

set_option autoImplicit false

namespace Bundler.CommandLine

open Bundler.Disk (ChangesAtMost DiffersIn)

variable {ε : Type} {d d' : Disk} {w w' : Workspace} {r : Report}

/-! ## Paths on the command line -/

/-- Finding the path of a text looks only. -/
theorem looksOnly_expandedPath (text : String) : (expandedPath text : Work ε Path).LooksOnly :=
  Work.looksOnly_get.bind fun _ => Work.looksOnly_requireOk _ _

/-- Finding the path of a text never refuses. -/
theorem neverRefuses_expandedPath (text : String) : (expandedPath text : Work ε Path).NeverRefuses :=
  Work.neverRefuses_get.bind fun _ => Work.neverRefuses_requireOk _ _

/-- Finding a real path looks only. -/
theorem looksOnly_realPath (p : Path) : (realPath p : Work ε Path).LooksOnly :=
  Work.looksOnly_get.bind fun _ => Work.looksOnly_requireOk _ _

/-- The real path that a text on the command line stands for. -/
def StandsFor (d : Disk) (text : String) (p : Path) : Prop :=
  ∃ given, d.expandHome (.ofString text) = .ok given ∧ d.real given = .ok p

/-- The directory that is given on the command line, if any. -/
def chosenDirectory (directory : Option String) : Work ε (Option Path) :=
  directory.mapM fun text => do realPath (← expandedPath text)

/-- Finding the given directory looks only. -/
theorem looksOnly_chosenDirectory (directory : Option String) :
    (chosenDirectory directory : Work ε _).LooksOnly := by
  cases directory with
  | none => exact Work.looksOnly_pure none
  | some text =>
    have hpath : (expandedPath text >>= realPath : Work ε Path).LooksOnly :=
      (looksOnly_expandedPath text).bind fun given => looksOnly_realPath given
    exact hpath.bind fun _ => Work.looksOnly_pure _

/-- The given directory is the real path that its text stands for. -/
theorem chosenDirectory_eq_ok {directory : Option String} {chosen : Option Path} :
    (chosenDirectory directory : Work ε _) w = .ok chosen w' ↔
      Option.Rel (StandsFor w.disk) directory chosen ∧ w' = w := by
  cases directory with
  | none =>
    refine pure_eq_ok.trans (and_congr_left fun _ => ?_)
    constructor
    · rintro rfl
      exact .none
    · rintro ⟨⟩
      rfl
  | some text =>
    have hmap : (chosenDirectory (some text) : Work ε _) =
        (expandedPath text >>= realPath) >>= fun p => pure (some p) := rfl
    simp only [hmap, stateful_bind_eq_ok, expandedPath_eq_ok, realPath_eq_ok, pure_eq_ok]
    constructor
    · rintro ⟨p, _, ⟨given, _, ⟨hgiven, rfl⟩, hp, rfl⟩, rfl, rfl⟩
      exact ⟨.some ⟨given, hgiven, hp⟩, rfl⟩
    · rintro ⟨⟨⟨given, hgiven, hp⟩⟩, rfl⟩
      exact ⟨_, _, ⟨given, _, ⟨hgiven, rfl⟩, hp, rfl⟩, rfl, rfl⟩

/-! ## One command after the other -/

section Commands

variable {p : Project} {settings : Settings} {output : String} {directory : Option String}

/-- Bundling refuses before anything has changed. -/
theorem refusesFirst_executeBundle (p : Project) (output : String) :
    (executeBundle p output).RefusesFirst := by
  refine .bind p.looksOnly_bundle fun text => ?_
  apply Work.NeverRefuses.refusesFirst
  split
  · exact Work.neverRefuses_pure _
  · refine (neverRefuses_expandedPath _).bind fun _ => ?_
    refine (Work.neverRefuses_change _).bind fun _ => ?_
    exact (Work.neverRefuses_change _).bind fun _ => Work.neverRefuses_pure _

/-- Generating refuses before anything has changed. -/
theorem refusesFirst_executeGenerate (p : Project) (directory : Option String) :
    (executeGenerate p directory).RefusesFirst := by
  refine .bind (looksOnly_chosenDirectory directory) fun chosen => ?_
  have hgenerate : (discard (p.generate chosen)).RefusesFirst :=
    (p.refusesFirst_generate chosen).bind_neverRefuses fun _ => Work.neverRefuses_pure _
  exact hgenerate.bind_neverRefuses fun _ => Work.neverRefuses_pure _

/-- Bundling shows the bundle, or writes it to the file and makes the directories above. -/
theorem executeBundle_changes (h : executeBundle p output w = .ok r w') : r.code = 0 ∧
    if output = "-" then w'.disk = w.disk
    else ∃ file, w.disk.expandHome (.ofString output) = .ok file ∧
      ChangesAtMost [file] file.parent w.disk w'.disk := by
  obtain ⟨text, between, htext, h⟩ := stateful_bind_eq_ok.mp h
  have hlooks := p.looksOnly_bundle.of_ok htext
  split at h
  · rename_i hshown
    obtain ⟨rfl, rfl⟩ := pure_eq_ok.mp h
    rw [if_pos hshown]
    exact ⟨rfl, hlooks⟩
  · rename_i hwritten
    rw [if_neg hwritten]
    simp only [stateful_bind_eq_ok, expandedPath_eq_ok, Work.change_eq_ok, Disk.writeFile_eq_ok,
      pure_eq_ok] at h
    obtain ⟨file, _, ⟨hfile, rfl⟩, _, _, ⟨made, hmade, rfl⟩, _, _, ⟨written, hwrite, rfl⟩, rfl, rfl⟩ := h
    rw [hlooks] at hfile hmade
    refine ⟨rfl, file, hfile, ?_⟩
    obtain ⟨_, place, _, hfree, hput⟩ := Disk.write_eq_ok.mp hwrite
    exact (Disk.changesAtMost_makeDirectoriesUpTo hmade).trans (hput ▸ Disk.grows_put_file hfree)
      (Disk.changesAtMost_write _ hwrite)

/-- Generating writes the artifacts into their directory, which is made along with those above it. -/
theorem executeGenerate_changes (h : executeGenerate p directory w = .ok r w') : r.code = 0 ∧
    ∃ chosen settings out, Option.Rel (StandsFor w.disk) directory chosen ∧
      p.IsConfigured w.disk settings ∧ p.IsStoredIn w.disk settings chosen out ∧
      ChangesAtMost (artifactPaths out settings.bundleName) out w.disk w'.disk := by
  obtain ⟨chosen, s, hchosen, hrest⟩ := stateful_bind_eq_ok.mp h
  obtain ⟨hgiven, rfl⟩ := chosenDirectory_eq_ok.mp hchosen
  obtain ⟨_, _, hgenerate, hend⟩ := stateful_bind_eq_ok.mp hrest
  obtain ⟨rfl, rfl⟩ := pure_eq_ok.mp hend
  obtain ⟨made, hmade⟩ := discard_eq_ok.mp hgenerate
  obtain ⟨generation⟩ := Project.generate_yields.mp ⟨made, w'.events, hmade⟩
  exact ⟨rfl, chosen, generation.settings, generation.out, hgiven, generation.isConfigured,
    generation.isStoredIn, Disk.changesAtMost_store generation.stored⟩

/-- Verifying artifacts sets the disk back. -/
theorem looksOnly_verify (p : Project) (artifacts : Path) : (p.verify artifacts).LooksOnly := by
  intro w
  unfold Project.verify
  rw [stateAfter_get_bind]
  cases w.disk.isPresent artifacts with
  | false => rfl
  | true =>
    cases w.disk.isDirectory artifacts with
    | false => rfl
    | true =>
      simp only [Bool.not_true, Bool.false_eq_true, if_false]
      cases w.disk.makeDirectory w.disk.scratch with
      | error e => rfl
      | ok made =>
        dsimp only
        cases p.generate (some w.disk.scratch) { w with disk := made } <;> rfl

/-- Reporting on work that looks only does so as well. -/
theorem looksOnly_reporting {report : ε → Report} {work : Work ε Report} (h : work.LooksOnly) :
    (reporting report work).LooksOnly := by
  intro w
  have hw := h w
  unfold reporting stateAfter at *
  cases hwork : work w with
  | ok r w' => simpa [hwork] using hw
  | error failure w' => cases failure <;> simpa [hwork] using hw

/-- Verifying changes nothing, whatever it finds. -/
theorem looksOnly_executeVerify (p : Project) (settings : Settings) (artifacts : Option String) :
    (executeVerify p settings artifacts).LooksOnly := by
  have hreport : ∀ path, (reporting (.ofVerificationError path) do
      return Report.ofComparison (← p.verify path)).LooksOnly :=
    fun path => looksOnly_reporting ((looksOnly_verify p path).bind fun _ => Work.looksOnly_pure _)
  cases artifacts with
  | none =>
    dsimp only [executeVerify]
    exact (looksOnly_realPath _).bind hreport
  | some text =>
    dsimp only [executeVerify]
    exact (looksOnly_expandedPath text).bind fun _ => (looksOnly_realPath _).bind hreport

end Commands

/-! ## A whole call -/

/-- A call that ends normally has executed its invocation. -/
theorem run_eq_finished {arguments : List String} (h : run d arguments = (d', .finished r)) :
    ∃ i report events, Invocation.ofArguments arguments = .ok i ∧
      i.execute ⟨d, []⟩ = .ok report ⟨d', events⟩ ∧ r.code = report.code := by
  unfold run at h
  cases harguments : Invocation.ofArguments arguments with
  | error halt =>
    rw [harguments] at h
    cases h
  | ok i =>
    rw [harguments] at h
    dsimp only at h
    cases hexecute : i.execute ⟨d, []⟩ with
    | ok report w =>
      rw [hexecute] at h
      cases h
      exact ⟨i, report, w.events, rfl, hexecute, rfl⟩
    | error failure w =>
      rw [hexecute] at h
      cases failure with
      | refused e => cases e
      | crash c => cases h

/-- Building a project in the directory that a verification has made changes nothing outside, however it
ends: the directory is new, and no links lead out of it. -/
def BuildsInScratch (d made : Disk) (base : Path) (entry : Option String) (settings : Settings)
    (events : List Event) : Prop :=
  ∃ place, d.get? place = none ∧ DiffersIn d.scratch place d
    (stateAfter (Project.generate ⟨base, entry, some settings⟩ (some d.scratch)) ⟨made, events⟩).disk

/-- What a call may change that ends with a code. -/
structure ChangesAsAsked (d d' : Disk) (i : Invocation) (code : Nat) : Prop where
  /-- A call that does not succeed changes nothing. -/
  failed : code ≠ 0 → d' = d
  /-- A bundle that is shown changes nothing; one that is written changes its file, and missing
  directories above are made. -/
  bundled : ∀ overrides output, i.action = .bundle overrides output →
    if output = "-" then d' = d
    else code = 0 → ∃ file, d.expandHome (.ofString output) = .ok file ∧
      ChangesAtMost [file] file.parent d d'
  /-- Generating changes the three artifacts, and missing directories on the way are made. -/
  generated : ∀ overrides directory, i.action = .generate overrides directory → code = 0 →
    ∃ base settings chosen out, Finds d i.root base settings ∧
      Option.Rel (StandsFor d) directory chosen ∧
      Project.IsStoredIn ⟨base, i.entry, some settings⟩ d settings chosen out ∧
      ChangesAtMost (artifactPaths out settings.bundleName) out d d'
  /-- Verifying changes nothing, and what is built again stays in a directory of its own. -/
  verified : ∀ artifacts, i.action = .verify artifacts → d' = d ∧
    ∀ base settings events made, d.IsProper → Finds d i.root base settings →
      d.makeDirectory d.scratch = .ok made → BuildsInScratch d made base i.entry settings events

/-- A verification that has found a project builds it in the directory that it has made. -/
theorem buildsInScratch_of_finds {made : Disk} {root : String} {base : Path} {settings : Settings}
    (hproper : d.IsProper) (h : Finds d root base settings)
    (hmake : d.makeDirectory d.scratch = .ok made) (entry : Option String) (events : List Event) :
    BuildsInScratch d made base entry settings events := by
  obtain ⟨_, _, _, hload⟩ := h
  obtain ⟨place, hnew, hdiffers⟩ := hproper.exists_differsIn hmake
  have hvalid : ∀ given, (some settings : Option Settings) = some given → given.IsValid := by
    rintro given ⟨⟩
    exact Settings.isValid_of_load hload
  exact ⟨place, hnew, Project.differsIn_generate hvalid hdiffers events⟩

/-- A call that does not succeed may leave the disk as it was. -/
theorem changesAsAsked_refl {code : Nat} (d : Disk) (i : Invocation) (hcode : code ≠ 0) :
    ChangesAsAsked d d i code where
  failed := fun _ => rfl
  bundled := by
    intro overrides output _
    split
    · rfl
    · exact fun hzero => absurd hzero hcode
  generated := fun _ _ _ hzero => absurd hzero hcode
  verified := by
    intro artifacts _
    refine ⟨rfl, ?_⟩
    intro base settings events made hproper hfinds hmake
    exact buildsInScratch_of_finds hproper hfinds hmake i.entry events

/-- A call that ends normally changes what it is asked to change only, and nothing if it does not
succeed. -/
theorem run_changesAsAsked (d d' : Disk) (arguments : List String) (r : Report)
    (h : run d arguments = (d', .finished r)) :
    ∃ i, Invocation.ofArguments arguments = .ok i ∧ ChangesAsAsked d d' i r.code := by
  obtain ⟨i, report, events, harguments, hexecute, hcode⟩ := run_eq_finished h
  rw [hcode]
  refine ⟨i, harguments, ?_⟩
  rcases finds_or_refuses hexecute with ⟨base, settings, hfinds⟩ | ⟨hw, e, rfl⟩
  · rw [execute_of_finds hfinds] at hexecute
    cases haction : i.action with
    | bundle overrides output =>
      rw [haction] at hexecute
      rcases reporting_eq_ok.mp hexecute with hdone | ⟨e, hrefused, rfl⟩
      · obtain ⟨hzero, hchanges⟩ := executeBundle_changes hdone
        refine ⟨fun hne => absurd hzero hne, ?_, by rw [haction]; nofun, by rw [haction]; nofun⟩
        rw [haction]
        rintro _ _ ⟨⟩
        split at hchanges
        · rwa [if_pos ‹_›]
        · rw [if_neg ‹_›]
          exact fun _ => hchanges
      · cases refusesFirst_executeBundle _ _ _ _ _ hrefused
        exact changesAsAsked_refl _ i (code_ofProjectError e)
    | generate overrides directory =>
      rw [haction] at hexecute
      rcases reporting_eq_ok.mp hexecute with hdone | ⟨e, hrefused, rfl⟩
      · obtain ⟨hzero, chosen, _, out, hchosen, rfl, hstored, hchanges⟩ := executeGenerate_changes hdone
        refine ⟨fun hne => absurd hzero hne, by rw [haction]; nofun, ?_, by rw [haction]; nofun⟩
        rw [haction]
        rintro _ _ ⟨⟩ _
        exact ⟨base, settings, chosen, out, hfinds, hchosen, hstored, hchanges⟩
      · cases refusesFirst_executeGenerate _ _ _ _ _ hrefused
        exact changesAsAsked_refl _ i (code_ofProjectError e)
    | verify artifacts =>
      rw [haction] at hexecute
      have hlooks : d' = d := (looksOnly_executeVerify _ _ _).of_ok hexecute
      refine ⟨fun _ => hlooks, by rw [haction]; nofun, by rw [haction]; nofun, ?_⟩
      intro _ _
      refine ⟨hlooks, ?_⟩
      intro base settings events made hproper hfinds hmake
      exact buildsInScratch_of_finds hproper hfinds hmake i.entry events
  · cases hw
    exact changesAsAsked_refl _ i (code_ofProjectError (.config e))

/-- Generating the artifacts of a module at the root changes the three artifacts in their directory. -/
theorem run_changesAsAsked_oneModule : ∃ d' r i,
    run moduleAndDirectory ["generate", "a.py"] = (d', .finished r) ∧ r.code = 0 ∧
    Invocation.ofArguments ["generate", "a.py"] = .ok i ∧
    ChangesAsAsked moduleAndDirectory d' i r.code ∧
    ChangesAtMost (artifactPaths ⟨.root, [".modpack"]⟩ "bundle.py") ⟨.root, [".modpack"]⟩
      moduleAndDirectory d' := by
  have hmodule := holdsModule_moduleAndDirectory
  obtain ⟨d', _, hgenerated⟩ := hmodule.exists_generated
  obtain ⟨r, hrun, hcode⟩ := hgenerated.succeeds
  obtain ⟨i, harguments, hchanges⟩ := run_changesAsAsked moduleAndDirectory d' ["generate", "a.py"] r hrun
  obtain rfl := Except.ok.inj (ofArguments_generate.symm.trans harguments)
  refine ⟨d', r, _, hrun, hcode, harguments, hchanges, ?_⟩
  obtain ⟨base, settings, _, out, hfinds, ⟨⟩, hstored, hplaces⟩ := hchanges.generated _ _ rfl hcode
  obtain ⟨rfl, rfl⟩ := hfinds.unique hmodule.finds
  obtain rfl := Except.ok.inj (hstored.symm.trans hmodule.outputDirectory_eq)
  exact hplaces

end Bundler.CommandLine
