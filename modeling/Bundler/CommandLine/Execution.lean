import Bundler.CommandLine.Invocation
import Bundler.Verification

/-!
# Executing invocations

A call of the program ends with an exit code, a text for standard output and lines for standard
error. The code is zero for success, one for a failed build or artifacts that differ, and two for a
faulty configuration or call.
-/

set_option autoImplicit false

namespace Bundler.CommandLine

/-- How an action ends. -/
structure Report where
  /-- The exit code. -/
  code : Nat := 0
  /-- What is shown on standard output. -/
  output : String := ""
  /-- The lines on standard error. -/
  lines : List String := []
deriving DecidableEq, Repr

namespace Report

/-- The report on a project that something is wrong with. -/
def ofProjectError : ProjectError → Report
  | .config e => { code := 2, lines := ["error: " ++ e.message] }
  | .build e => { code := 1, lines := ["error: " ++ e.message] }

/-- The report on artifacts in a directory that cannot be verified. -/
def ofVerificationError (artifacts : Path) : VerificationError → Report
  | .project e => ofProjectError e
  | e => { code := 2, lines := ["artifacts-dir: " ++ artifacts.toString, "error: " ++ e.message] }

/-- The report on a comparison. -/
def ofComparison (c : Comparison) : Report :=
  if c.isEqual then {}
  else
    let labelled := fun label => List.map fun path => label ++ ": " ++ path
    { code := 1
      lines := labelled "missing" c.missing ++ labelled "extra" c.extra ++
        labelled "mismatches" c.mismatches }

end Report

variable {ε : Type}

/-- The path that a text on the command line stands for, with the home directory put in. -/
def expandedPath (text : String) : Work ε Path := do
  Work.requireOk .home ((← get).disk.expandHome (.ofString text))

/-- The real path that a path stands for. -/
def realPath (p : Path) : Work ε Path := do
  Work.requireOk .realPath ((← get).disk.real p)

/-- Does work and reports an announced error. -/
def reporting (report : ε → Report) (work : Work ε Report) : Work Empty Report := fun w =>
  match work w with
  | .ok r w => .ok r w
  | .error (.refused e) w => .ok (report e) w
  | .error (.crash c) w => .error (.crash c) w

/-- Bundles a project. -/
def executeBundle (p : Project) (output : String) : Work ProjectError Report := do
  let text ← p.bundle
  if output = "-" then return { output := text }
  else
    let file ← expandedPath output
    Work.change (Disk.makeDirectories file.parent)
    Work.change (Disk.writeFile file (Text.Utf8.encode text))
    return {}

/-- Generates the artifacts of a project. -/
def executeGenerate (p : Project) (directory : Option String) : Work ProjectError Report := do
  let directory ← directory.mapM fun text => do realPath (← expandedPath text)
  discard (p.generate directory)
  return {}

/-- Verifies the artifacts of a project. -/
def executeVerify (p : Project) (settings : Settings) (artifacts : Option String) :
    Work Empty Report := do
  let artifacts ← match artifacts with
    | some text => do realPath (← expandedPath text)
    | none => realPath (p.root / settings.outputDir)
  reporting (.ofVerificationError artifacts) do
    return .ofComparison (← p.verify artifacts)

/-- Does what a call asks for. -/
def Invocation.execute (i : Invocation) : Work Empty Report := do
  let root ← realPath (← expandedPath i.root)
  match Settings.load (← get).disk root with
  | .error (.crash c) => throw (.crash c)
  | .error (.refused e) => return .ofProjectError (.config e)
  | .ok settings =>
    let project := fun settings => { root, entry := i.entry, settings := some settings : Project }
    match i.action with
    | .bundle overrides output =>
      reporting .ofProjectError (executeBundle (project (overrides.apply settings)) output)
    | .generate overrides directory =>
      reporting .ofProjectError (executeGenerate (project (overrides.apply settings)) directory)
    | .verify artifacts => executeVerify (project settings) settings artifacts

/-- How a call of the program ends. -/
inductive Outcome where
  /-- Nothing was done. -/
  | halted (h : Halt)
  /-- Something was done. -/
  | finished (r : Report)
  /-- Something was done and failed in an unannounced way. -/
  | crashed (c : Crash)

/-- Runs the program on a disk. Returns the disk afterwards, and how the call ended. -/
def run (d : Disk) (arguments : List String) : Disk × Outcome :=
  match Invocation.ofArguments arguments with
  | .error h => (d, .halted h)
  | .ok i =>
    match i.execute { disk := d } with
    | .ok r w =>
      let log := if i.verbose then w.events.filterMap Event.line? else []
      (w.disk, .finished { r with lines := log ++ r.lines })
    | .error (.crash c) w => (w.disk, .crashed c)

/-- The exit code of a call that was not carried out. -/
def Halt.code : Halt → Nat
  | .help => 0
  | .misuse _ _ => 2

/-- The line on standard error for a call that was not carried out. -/
def Halt.line : Halt → String
  | .help => ""
  | .misuse name e => name ++ ": error: " ++ e.message

end Bundler.CommandLine
