import Bundler.CommandLine.Execution
import Bundler.Proofs.Artifact.Writing

/-!
# Calls that succeed

A call of the program succeeds if it ends with code zero. Then the project was found, and what was to be
done with it was done: nothing else is reported with that code.
-/

set_option autoImplicit false

namespace Bundler.CommandLine

variable {ε : Type} {d d' : Disk} {w w' : Workspace} {arguments : List String} {verbose : Bool}
  {root : String} {entry : Option String}

/-- A call ends with code zero and leaves a disk behind. -/
def Succeeds (d : Disk) (arguments : List String) (d' : Disk) : Prop :=
  ∃ r, run d arguments = (d', .finished r) ∧ r.code = 0

/-- The project that a call finds: the real path of the root, and the settings there. -/
def Finds (d : Disk) (root : String) (base : Path) (settings : Settings) : Prop :=
  ∃ given, d.expandHome (.ofString root) = .ok given ∧ d.real given = .ok base ∧
    Settings.load d base = .ok settings

/-- A call finds one project. -/
theorem Finds.unique {base base' : Path} {settings settings' : Settings}
    (h : Finds d root base settings) (h' : Finds d root base' settings') :
    base = base' ∧ settings = settings' := by
  obtain ⟨given, hgiven, hbase, hsettings⟩ := h
  obtain ⟨given', hgiven', hbase', hsettings'⟩ := h'
  obtain rfl := Except.ok.inj (hgiven.symm.trans hgiven')
  obtain rfl := Except.ok.inj (hbase.symm.trans hbase')
  exact ⟨rfl, Except.ok.inj (hsettings.symm.trans hsettings')⟩

/-- A report is made by the work, or on what it refuses. -/
theorem reporting_eq_ok {report : ε → Report} {work : Work ε Report} {r : Report} :
    reporting report work w = .ok r w' ↔
      work w = .ok r w' ∨ ∃ e, work w = .error (.refused e) w' ∧ r = report e := by
  unfold reporting
  cases work w with
  | ok r' w'' => simp
  | error failure w'' =>
    cases failure with
    | refused e => simp [eq_comm, and_comm]
    | crash c => simp

/-- A call that reports a faulty project does not end with code zero. -/
theorem code_ofProjectError (e : ProjectError) : (Report.ofProjectError e).code ≠ 0 := by
  cases e <;> simp [Report.ofProjectError]

/-- A call that reports a verification that is not possible does not end with code zero. -/
theorem code_ofVerificationError (artifacts : Path) (e : VerificationError) :
    (Report.ofVerificationError artifacts e).code ≠ 0 := by
  cases e with
  | project e => exact code_ofProjectError e
  | missing directory => simp [Report.ofVerificationError]
  | notDirectory path => simp [Report.ofVerificationError]

/-- A call that reports a comparison ends with code zero if there is no difference. -/
theorem code_ofComparison (c : Comparison) :
    (Report.ofComparison c).code = 0 ↔ c.isEqual = true := by
  unfold Report.ofComparison
  split <;> simp_all

/-- The path of a text is found by way of the home directory and changes nothing. -/
theorem expandedPath_eq_ok {text : String} {p : Path} :
    (expandedPath text : Work ε Path) w = .ok p w' ↔
      w.disk.expandHome (.ofString text) = .ok p ∧ w' = w := by
  simp only [expandedPath, stateful_bind_eq_ok, get_eq_ok, Work.requireOk_eq_ok]
  constructor
  · rintro ⟨_, _, ⟨rfl, rfl⟩, hp, rfl⟩
    exact ⟨hp, rfl⟩
  · rintro ⟨hp, rfl⟩
    exact ⟨_, _, ⟨rfl, rfl⟩, hp, rfl⟩

/-- The real path of a path is found on the disk and changes nothing. -/
theorem realPath_eq_ok {p q : Path} :
    (realPath p : Work ε Path) w = .ok q w' ↔ w.disk.real p = .ok q ∧ w' = w := by
  simp only [realPath, stateful_bind_eq_ok, get_eq_ok, Work.requireOk_eq_ok]
  constructor
  · rintro ⟨_, _, ⟨rfl, rfl⟩, hq, rfl⟩
    exact ⟨hq, rfl⟩
  · rintro ⟨hq, rfl⟩
    exact ⟨_, _, ⟨rfl, rfl⟩, hq, rfl⟩

/-- A call succeeds if its invocation is executed and reports code zero. -/
theorem succeeds_iff {i : Invocation} (h : Invocation.ofArguments arguments = .ok i) :
    Succeeds d arguments d' ↔
      ∃ r events, i.execute { disk := d } = .ok r ⟨d', events⟩ ∧ r.code = 0 := by
  unfold Succeeds run
  rw [h]
  dsimp only
  cases hexecute : i.execute { disk := d } with
  | ok r w =>
    constructor
    · rintro ⟨_, hrun, hcode⟩
      cases hrun
      exact ⟨r, w.events, rfl, hcode⟩
    · rintro ⟨r', events, hr, hcode⟩
      cases hr
      exact ⟨_, rfl, hcode⟩
  | error failure w =>
    constructor
    · rintro ⟨_, hrun, _⟩
      cases failure with
      | refused e => cases e
      | crash c => cases hrun
    · rintro ⟨_, _, hr, _⟩
      cases hr

/-- A call that is carried out has found a project, unless its settings are faulty. -/
theorem finds_or_refuses {i : Invocation} {r : Report} (h : i.execute w = .ok r w') :
    (∃ base settings, Finds w.disk i.root base settings) ∨
      w' = w ∧ ∃ e, r = .ofProjectError (.config e) := by
  simp only [Invocation.execute, stateful_bind_eq_ok, expandedPath_eq_ok, realPath_eq_ok,
    get_eq_ok] at h
  obtain ⟨given, s, ⟨hgiven, hs⟩, base, t, ⟨hbase, ht⟩, u, v, ⟨hu, hv⟩, h⟩ := h
  subst u v t s
  cases hsettings : Settings.load w.disk base with
  | ok settings => exact .inl ⟨base, settings, given, hgiven, hbase, hsettings⟩
  | error failure =>
    rw [hsettings] at h
    cases failure with
    | crash c => cases h
    | refused e =>
      cases h
      exact .inr ⟨rfl, e, rfl⟩

/-- A call that succeeds has found a project. -/
theorem exists_finds {i : Invocation} {r : Report} (h : i.execute w = .ok r w') (hcode : r.code = 0) :
    ∃ base settings, Finds w.disk i.root base settings := by
  rcases finds_or_refuses h with hfinds | ⟨_, e, rfl⟩
  · exact hfinds
  · exact absurd hcode (code_ofProjectError (.config e))

/-- What is done for a project that a call finds. -/
theorem execute_of_finds {i : Invocation} {base : Path} {settings : Settings}
    (h : Finds w.disk i.root base settings) :
    i.execute w = match i.action with
      | .bundle overrides output => reporting .ofProjectError
          (executeBundle ⟨base, i.entry, some (overrides.apply settings)⟩ output) w
      | .generate overrides directory => reporting .ofProjectError
          (executeGenerate ⟨base, i.entry, some (overrides.apply settings)⟩ directory) w
      | .verify artifacts => executeVerify ⟨base, i.entry, some settings⟩ settings artifacts w := by
  obtain ⟨given, hgiven, hbase, hsettings⟩ := h
  have hexpanded : (expandedPath i.root : Work Empty Path) w = .ok given w :=
    expandedPath_eq_ok.mpr ⟨hgiven, rfl⟩
  have hreal : (realPath given : Work Empty Path) w = .ok base w :=
    realPath_eq_ok.mpr ⟨hbase, rfl⟩
  simp only [Invocation.execute, bind, EStateM.bind, hexpanded, hreal, get, getThe,
    MonadStateOf.get, EStateM.get, hsettings]
  cases i.action <;> rfl

section Found

variable {base : Path} {settings : Settings}

/-- Generating is done for the project that a call finds. -/
theorem execute_generate (h : Finds w.disk root base settings) (overrides : Overrides)
    (directory : Option String) :
    (⟨verbose, root, entry, .generate overrides directory⟩ : Invocation).execute w =
      reporting .ofProjectError
        (executeGenerate ⟨base, entry, some (overrides.apply settings)⟩ directory) w :=
  execute_of_finds h

/-- Verifying is done for the project that a call finds. -/
theorem execute_verify (h : Finds w.disk root base settings) (artifacts : Option String) :
    (⟨verbose, root, entry, .verify artifacts⟩ : Invocation).execute w =
      executeVerify ⟨base, entry, some settings⟩ settings artifacts w :=
  execute_of_finds h

end Found

/-- Generating reports nothing. -/
theorem executeGenerate_eq_ok {p : Project} {r : Report} :
    executeGenerate p none w = .ok r w' ↔ r = {} ∧ ∃ made, p.generate none w = .ok made w' := by
  have hnone : (none : Option String).mapM (fun text => do
      realPath (← expandedPath text) : String → Work ProjectError Path) = pure none := rfl
  simp only [executeGenerate, hnone, stateful_bind_eq_ok, discard_eq_ok, pure_eq_ok]
  constructor
  · rintro ⟨_, _, ⟨rfl, rfl⟩, _, _, hmade, rfl, rfl⟩
    exact ⟨rfl, hmade⟩
  · rintro ⟨rfl, hmade⟩
    exact ⟨_, _, ⟨rfl, rfl⟩, (), _, hmade, rfl, rfl⟩

/-- Verifying reports code zero only on a comparison of artifacts that are there. -/
theorem executeVerify_eq_ok {p : Project} {settings : Settings} {r : Report} (hcode : r.code = 0) :
    executeVerify p settings none w = .ok r w' ↔ ∃ artifacts c,
      w.disk.real (p.root / settings.outputDir) = .ok artifacts ∧ p.verify artifacts w = .ok c w' ∧
      r = .ofComparison c := by
  simp only [executeVerify, stateful_bind_eq_ok, realPath_eq_ok, reporting_eq_ok, pure_eq_ok]
  constructor
  · rintro ⟨artifacts, _, ⟨hreal, rfl⟩, ⟨c, _, hc, rfl, rfl⟩ | ⟨e, _, rfl⟩⟩
    · exact ⟨artifacts, c, hreal, hc, rfl⟩
    · exact absurd hcode (code_ofVerificationError artifacts e)
  · rintro ⟨artifacts, c, hreal, hc, rfl⟩
    exact ⟨artifacts, _, ⟨hreal, rfl⟩, .inl ⟨c, _, hc, rfl, rfl⟩⟩

/-- A call that generates artifacts succeeds if it finds a project whose artifacts can be generated. -/
theorem succeeds_generate {overrides : Overrides}
    (h : Invocation.ofArguments arguments = .ok ⟨verbose, root, entry, .generate overrides none⟩) :
    Succeeds d arguments d' ↔ ∃ base settings made, Finds d root base settings ∧
      ((⟨base, entry, some (overrides.apply settings)⟩ : Project).generate none).Yields ⟨d, []⟩
        made d' := by
  rw [succeeds_iff h]
  constructor
  · rintro ⟨r, events, hr, hcode⟩
    obtain ⟨base, settings, hfinds⟩ := exists_finds hr hcode
    rw [execute_generate hfinds, reporting_eq_ok] at hr
    rcases hr with hr | ⟨e, _, rfl⟩
    · obtain ⟨_, made, hmade⟩ := executeGenerate_eq_ok.mp hr
      exact ⟨base, settings, made, hfinds, events, hmade⟩
    · exact absurd hcode (code_ofProjectError e)
  · rintro ⟨base, settings, made, hfinds, events, hmade⟩
    refine ⟨{}, events, ?_, rfl⟩
    rw [execute_generate hfinds, reporting_eq_ok]
    exact .inl (executeGenerate_eq_ok.mpr ⟨rfl, made, hmade⟩)

/-- A call that verifies artifacts succeeds if it finds a project with artifacts that do not differ from
those that are generated again. -/
theorem succeeds_verify
    (h : Invocation.ofArguments arguments = .ok ⟨verbose, root, entry, .verify none⟩) :
    Succeeds d arguments d' ↔ ∃ base settings artifacts c, Finds d root base settings ∧
      d.real (base / settings.outputDir) = .ok artifacts ∧
      ((⟨base, entry, some settings⟩ : Project).verify artifacts).Yields ⟨d, []⟩ c d' ∧
      c.isEqual = true := by
  rw [succeeds_iff h]
  constructor
  · rintro ⟨r, events, hr, hcode⟩
    obtain ⟨base, settings, hfinds⟩ := exists_finds hr hcode
    rw [execute_verify hfinds, executeVerify_eq_ok hcode] at hr
    obtain ⟨artifacts, c, hreal, hc, rfl⟩ := hr
    exact ⟨base, settings, artifacts, c, hfinds, hreal, ⟨events, hc⟩, (code_ofComparison c).mp hcode⟩
  · rintro ⟨base, settings, artifacts, c, hfinds, hreal, ⟨events, hc⟩, hequal⟩
    have hcode := (code_ofComparison c).mpr hequal
    refine ⟨_, events, ?_, hcode⟩
    rw [execute_verify hfinds, executeVerify_eq_ok hcode]
    exact ⟨artifacts, c, hreal, hc, rfl⟩

end Bundler.CommandLine
