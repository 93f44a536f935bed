import Bundler.Proofs.CommandLine.Changes
import Bundler.Proofs.Settings.Failure

/-!
# Calls with a faulty configuration

A call of the program for a project whose configuration is refused shows what is wrong with it, ends
with code two, and does nothing else.
-/

set_option autoImplicit false

namespace Bundler

variable {w : Workspace} {p : Project} {settings : Settings} {chosen : Option Path}
  {artifacts : Path} {e : ConfigError}

/-! ## Projects -/

/-- What is required of a configuration is refused as it is there. -/
theorem Work.require_of_refused {x : Except (Failure ConfigError) Path}
    (h : x = .error (.refused e)) :
    (Work.require (x.mapError (·.map .config)) : Work ProjectError Path) w =
      .error (.refused (.config e)) w := by
  rw [h]
  rfl

namespace Project

/-- No graph is built without an entry module. -/
theorem buildGraph_of_refused (h : entryPath w.disk p.root p.entry settings = .error (.refused e)) :
    p.buildGraph settings w = .error (.refused (.config e)) w := by
  have hget : (get : Work ProjectError Workspace) w = .ok w w := rfl
  unfold buildGraph
  rw [stateful_bind_of_ok hget]
  exact stateful_bind_of_error (Work.require_of_refused h)

/-- Nothing is bundled without an entry module. -/
theorem bundle_of_refused (hsettings : p.IsConfigured w.disk settings)
    (h : entryPath w.disk p.root p.entry settings = .error (.refused e)) :
    p.bundle w = .error (.refused (.config e)) w := by
  have heffective : p.effectiveSettings w = .ok settings w :=
    effectiveSettings_eq_ok.mpr ⟨hsettings, rfl⟩
  unfold bundle
  rw [stateful_bind_of_ok heffective]
  exact stateful_bind_of_error (buildGraph_of_refused h)

/-- Nothing is generated without an entry module. -/
theorem generate_of_refused {out : Path}
    (hsettings : p.IsConfigured w.disk settings) (hstored : p.IsStoredIn w.disk settings chosen out)
    (h : entryPath w.disk p.root p.entry settings = .error (.refused e)) :
    p.generate chosen w = .error (.refused (.config e)) w := by
  have heffective : p.effectiveSettings w = .ok settings w :=
    effectiveSettings_eq_ok.mpr ⟨hsettings, rfl⟩
  have hdirectory : p.artifactsDirectory settings chosen w = .ok out w :=
    artifactsDirectory_eq_ok.mpr ⟨hstored, rfl⟩
  unfold generate
  rw [stateful_bind_of_ok heffective, stateful_bind_of_ok hdirectory]
  exact stateful_bind_of_error (buildGraph_of_refused h)

/-- Nothing is generated if the settings name no directory for it. -/
theorem generate_of_refused_output (hsettings : p.IsConfigured w.disk settings)
    (h : outputDirectory w.disk p.root settings.outputDir = .error (.refused e)) :
    p.generate none w = .error (.refused (.config e)) w := by
  have heffective : p.effectiveSettings w = .ok settings w :=
    effectiveSettings_eq_ok.mpr ⟨hsettings, rfl⟩
  have hget : (get : Work ProjectError Workspace) w = .ok w w := rfl
  have hdirectory : p.artifactsDirectory settings none w = .error (.refused (.config e)) w := by
    unfold artifactsDirectory
    dsimp only
    rw [stateful_bind_of_ok hget]
    exact Work.require_of_refused h
  unfold generate
  rw [stateful_bind_of_ok heffective]
  exact stateful_bind_of_error hdirectory

/-- Nothing is verified without an entry module. -/
theorem verify_of_refused {made : Disk} (hsettings : p.settings = some settings)
    (hartifacts : w.disk.isDirectory artifacts = true)
    (hmake : w.disk.makeDirectory w.disk.scratch = .ok made)
    (h : entryPath w.disk p.root p.entry settings = .error (.refused e)) :
    p.verify artifacts w = .error (.refused (.project (.config e))) w := by
  have hpresent : w.disk.isPresent artifacts = true := by
    obtain ⟨hnull, hfind⟩ := Disk.isDirectory_iff.mp hartifacts
    exact Disk.isPresent_iff.mpr ⟨hnull, _, hfind⟩
  have hconfigured : p.IsConfigured made settings := by
    unfold IsConfigured
    rw [hsettings]
  have hentry : entryPath made p.root p.entry settings = .error (.refused e) :=
    (entryPath_congr (Disk.grows_makeDirectory hmake).1.surroundings _ _ _).trans h
  have hgenerate : p.generate (some w.disk.scratch) { w with disk := made } =
      .error (.refused (.config e)) { w with disk := made } :=
    generate_of_refused hconfigured rfl hentry
  have hget : (get : Work VerificationError Workspace) w = .ok w w := rfl
  unfold verify
  rw [stateful_bind_of_ok hget]
  simp only [hpresent, hartifacts, hmake, hgenerate, Bool.not_true, Bool.false_eq_true, if_false]
  rfl

end Project

namespace CommandLine

variable {d : Disk} {arguments : List String} {i : Invocation}

/-- What is done for a project needs its entry module, and nothing before is refused. -/
inductive Builds (d : Disk) (p : Project) (settings : Settings) : Action → Prop where
  /-- A bundle is made. -/
  | bundle {overrides : Overrides} {output : String} : Builds d p settings (.bundle overrides output)
  /-- Artifacts are generated in a directory that can be found. -/
  | generate {overrides : Overrides} {directory : Option String} {chosen : Option Path} {out : Path}
      (given : Option.Rel (StandsFor d) directory chosen)
      (stored : p.IsStoredIn d settings chosen out) :
      Builds d p settings (.generate overrides directory)
  /-- Artifacts are verified that are there, and the directory for this can be made. -/
  | verify {artifacts : Path} {made : Disk}
      (real : d.real (p.root / settings.outputDir) = .ok artifacts)
      (there : d.isDirectory artifacts = true) (made : d.makeDirectory d.scratch = .ok made) :
      Builds d p settings (.verify none)
  /-- Artifacts in some directory are verified. -/
  | verifyIn {text : String} {artifacts : Path} {made : Disk} (given : StandsFor d text artifacts)
      (there : d.isDirectory artifacts = true) (made : d.makeDirectory d.scratch = .ok made) :
      Builds d p settings (.verify (some text))

/-- The configuration of a project is refused in the course of a call. -/
inductive Refuses (d : Disk) (i : Invocation) : ConfigError → Prop where
  /-- The settings are refused. -/
  | settings {base : Path} {e : ConfigError} (root : StandsFor d i.root base)
      (failed : Settings.load d base = .error (.refused e)) : Refuses d i e
  /-- The directory that the settings name for the artifacts is refused. -/
  | output {base : Path} {settings : Settings} {overrides : Overrides} {e : ConfigError}
      (finds : Finds d i.root base settings) (action : i.action = .generate overrides none)
      (failed : outputDirectory d base settings.outputDir = .error (.refused e)) : Refuses d i e
  /-- No entry module is named. -/
  | entry {base : Path} {settings : Settings} {e : ConfigError} (finds : Finds d i.root base settings)
      (builds : Builds d ⟨base, i.entry, some settings⟩ settings i.action)
      (failed : entryPath d base i.entry settings = .error (.refused e)) : Refuses d i e

/-- A call does not generate what is refused. -/
theorem executeGenerate_of_refused {directory : Option String}
    (hchosen : Option.Rel (StandsFor w.disk) directory chosen)
    (h : p.generate chosen w = .error (.refused (.config e)) w) :
    executeGenerate p directory w = .error (.refused (.config e)) w := by
  have hdirectory : (chosenDirectory directory : Work ProjectError _) w = .ok chosen w :=
    chosenDirectory_eq_ok.mpr ⟨hchosen, rfl⟩
  have hgenerate : (discard (p.generate chosen)) w = .error (.refused (.config e)) w :=
    stateful_bind_of_error h
  unfold executeGenerate
  rw [show (directory.mapM fun text => do realPath (← expandedPath text) : Work ProjectError _) =
    chosenDirectory directory from rfl, stateful_bind_of_ok hdirectory]
  exact stateful_bind_of_error hgenerate

/-- A call reports a configuration that is refused while artifacts are verified. -/
theorem reporting_verify_of_refused
    (h : p.verify artifacts w = .error (.refused (.project (.config e))) w) :
    reporting (.ofVerificationError artifacts) (do
      return .ofComparison (← p.verify artifacts)) w = .ok (.ofProjectError (.config e)) w := by
  refine reporting_eq_ok.mpr (.inr ⟨.project (.config e), ?_, rfl⟩)
  exact stateful_bind_of_error h

/-- A call reports a configuration that is refused. -/
theorem execute_of_refuses (h : Refuses d i e) :
    i.execute ⟨d, []⟩ = .ok (.ofProjectError (.config e)) ⟨d, []⟩ := by
  cases h with
  | @settings base _ root failed =>
    obtain ⟨given, hgiven, hbase⟩ := root
    have hexpanded : (expandedPath i.root : Work Empty Path) ⟨d, []⟩ = .ok given ⟨d, []⟩ :=
      expandedPath_eq_ok.mpr ⟨hgiven, rfl⟩
    have hreal : (realPath given : Work Empty Path) ⟨d, []⟩ = .ok base ⟨d, []⟩ :=
      realPath_eq_ok.mpr ⟨hbase, rfl⟩
    have hget : (get : Work Empty Workspace) ⟨d, []⟩ = .ok ⟨d, []⟩ ⟨d, []⟩ := rfl
    unfold Invocation.execute
    rw [stateful_bind_of_ok hexpanded, stateful_bind_of_ok hreal, stateful_bind_of_ok hget]
    dsimp only
    rw [failed]
    rfl
  | @output base settings overrides _ finds action failed =>
    rw [execute_of_finds finds, action]
    have hgenerate := Project.generate_of_refused_output
      (w := ⟨d, []⟩) (p := ⟨base, i.entry, some (overrides.apply settings)⟩) rfl failed
    exact reporting_eq_ok.mpr (.inr ⟨_, executeGenerate_of_refused .none hgenerate, rfl⟩)
  | @entry base settings _ finds builds failed =>
    rw [execute_of_finds finds]
    generalize i.action = action at builds
    cases builds with
    | bundle =>
      refine reporting_eq_ok.mpr (.inr ⟨_, ?_, rfl⟩)
      exact stateful_bind_of_error (Project.bundle_of_refused rfl failed)
    | generate given stored =>
      refine reporting_eq_ok.mpr (.inr ⟨_, ?_, rfl⟩)
      exact executeGenerate_of_refused given (Project.generate_of_refused rfl stored failed)
    | @verify artifacts _ real there made =>
      have hverify := Project.verify_of_refused (w := ⟨d, []⟩)
        (p := ⟨base, i.entry, some settings⟩) rfl there made failed
      have hreal : (realPath (base / settings.outputDir) : Work Empty Path) ⟨d, []⟩ =
          .ok artifacts ⟨d, []⟩ := realPath_eq_ok.mpr ⟨real, rfl⟩
      exact (stateful_bind_of_ok hreal).trans (reporting_verify_of_refused hverify)
    | @verifyIn text artifacts _ given there made =>
      obtain ⟨path, hpath, real⟩ := given
      have hverify := Project.verify_of_refused (w := ⟨d, []⟩)
        (p := ⟨base, i.entry, some settings⟩) rfl there made failed
      have hexpanded : (expandedPath text : Work Empty Path) ⟨d, []⟩ = .ok path ⟨d, []⟩ :=
        expandedPath_eq_ok.mpr ⟨hpath, rfl⟩
      have hreal : (realPath path : Work Empty Path) ⟨d, []⟩ = .ok artifacts ⟨d, []⟩ :=
        realPath_eq_ok.mpr ⟨real, rfl⟩
      refine (stateful_bind_of_ok hexpanded).trans ?_
      exact (stateful_bind_of_ok hreal).trans (reporting_verify_of_refused hverify)

/-- A call that a configuration is refused for ends with code two and shows what is wrong with it. -/
theorem run_of_refuses (hi : Invocation.ofArguments arguments = .ok i)
    (h : Refuses d i e) :
    run d arguments = (d, .finished { code := 2, lines := ["error: " ++ e.message] }) := by
  unfold run
  rw [hi]
  dsimp only
  rw [execute_of_refuses h]
  cases i.verbose <;> rfl

end CommandLine

/-- Finding the settings, the output directory and the entry module of a project fails in an unannounced
way only if the configuration file is no text, holds an integer with too many digits or is nested too
deeply, if the output directory is a relative path without a real path, or if the entry module is in a
home directory that cannot be found. Whatever else is wrong with a configuration is refused, and a call
that comes upon it shows it, ends with code two and changes nothing. -/
theorem configuration_failures (d : Disk) (root : Path) :
    (∀ c, Settings.load d root = .error (.crash c) ↔ Settings.Unreadable d root c) ∧
    (∀ output c, outputDirectory d root output = .error (.crash c) ↔
      IsRelativeOutput output ∧ OutputUnresolvable d root output c) ∧
    (∀ entry settings c, entryPath d root entry settings = .error (.crash c) ↔
      ∃ chosen e, entry.or settings.entry = some chosen ∧ d.HasNoHome (.ofString chosen) e ∧
        c = .home e) ∧
    ∀ arguments i e, CommandLine.Invocation.ofArguments arguments = .ok i →
      CommandLine.Refuses d i e →
      CommandLine.run d arguments =
        (d, .finished { code := 2, lines := ["error: " ++ e.message] }) := by
  refine ⟨?_, ?_, ?_, ?_⟩
  · intro c
    exact Settings.load_eq_crash
  · intro output c
    exact outputDirectory_eq_crash
  · intro entry settings c
    exact entryPath_eq_crash
  · intro arguments i e harguments hrefuses
    exact CommandLine.run_of_refuses harguments hrefuses

/-- A disk with a project whose configuration file is no text and in which a link leads back to itself.
The current directory is outside the project. -/
def misconfigured : Disk where
  entries :=
    [(["p"], .directory), (["p", "modpack.toml"], .file [0xff]), (["p", "l"], .link "l"),
      (["q"], .directory)]
  current := ⟨.root, ["q"]⟩

/-- The configuration file of the project is no text. -/
theorem unreadable_misconfigured : Settings.Unreadable misconfigured ⟨.root, ["p"]⟩
    (.undecodable ⟨.invalidStart, 0xff, 0, 1⟩) := by
  have hplace : misconfigured.place ⟨.root, ["p", configurationName]⟩ =
      .ok ["p", configurationName] := by cbv
  have hread : misconfigured.read ⟨.root, ["p", configurationName]⟩ = .ok [0xff] :=
    Disk.read_eq_ok_iff_place.mpr ⟨by decide, _, hplace, rfl⟩
  have hfile : (⟨.root, ["p"]⟩ : Path) / configurationName = ⟨.root, ["p", configurationName]⟩ := by
    decide
  refine .undecodable (hfile ▸ hread) rfl

/-- A file that is no text, a NUL character, a link that leads back to itself and the home directory of
somebody else are not refused. -/
theorem configuration_not_refused :
    (∃ c, Settings.load misconfigured ⟨.root, ["p"]⟩ = .error (.crash c)) ∧
    outputDirectory misconfigured ⟨.root, ["p"]⟩ "x\x00y" = .error (.crash (.realPath .nullByte)) ∧
    outputDirectory misconfigured ⟨.root, ["p"]⟩ "l" =
      .error (.crash (.realPath (.loop ⟨.root, ["p", "l"]⟩))) ∧
    entryPath misconfigured ⟨.root, ["p"]⟩ (some "~~/x.py") {} =
      .error (.crash (.home .unknown)) := by
  refine ⟨?_, ?_, ?_, ?_⟩
  · exact ⟨_, Settings.load_eq_crash.mpr unreadable_misconfigured⟩
  · cbv
  · cbv
  · cbv

end Bundler
