import Bundler.CommandLine.Usage
import Bundler.Settings

/-!
# Invocations

The program has three commands: one writes the bundle of a project, one generates the bundle and the
artifacts that describe its graph, and one verifies what has been generated.
-/

set_option autoImplicit false

namespace Bundler.CommandLine

/-- Settings that are given on the command line. -/
structure Overrides where
  /-- When two references share a record. -/
  policy : Option IdentityPolicy := none
  /-- Whether a module runs only once in the bundle, in any case. -/
  cacheExports : Bool := false
deriving DecidableEq, Repr

/-- Settings with those from the command line put in. -/
def Overrides.apply (o : Overrides) (s : Settings) : Settings :=
  { s with policy := o.policy.getD s.policy, cacheExports := o.cacheExports || s.cacheExports }

/-- What is to be done. -/
inductive Action where
  /-- The bundle is written to a file, or shown if the file is a dash. -/
  | bundle (overrides : Overrides) (output : String)
  /-- The bundle and the artifacts are generated, perhaps in a directory other than the settings
  say. -/
  | generate (overrides : Overrides) (directory : Option String)
  /-- Artifacts are verified, perhaps in a directory other than the settings say. -/
  | verify (artifacts : Option String)
deriving DecidableEq, Repr

/-- A call of the program. -/
structure Invocation where
  /-- Whether what happens is logged. -/
  verbose : Bool
  /-- The root of the project. -/
  root : String
  /-- The entry module. -/
  entry : Option String
  /-- What is to be done. -/
  action : Action
deriving DecidableEq, Repr

/-- The option that asks for help. -/
def helpOption : OptionSpec := ⟨["-h", "--help"], .help⟩

/-- The option for the root of the project. -/
def rootOption : OptionSpec := ⟨["--root"], .value none⟩

/-- The options for a build. -/
def buildOptions : List OptionSpec :=
  [⟨["--identity-policy"], .value (some (IdentityPolicy.choices.map Prod.fst))⟩,
    ⟨["--cache-exports"], .flag⟩]

/-- The program. -/
def program : Usage where
  name := "modpack"
  options := [helpOption, ⟨["-v", "--verbose"], .flag⟩]
  takesCommand := true

/-- A command of the program. -/
def command (name : String) (options : List OptionSpec) : Usage where
  name := program.name ++ " " ++ name
  options := helpOption :: rootOption :: options

/-- The settings that the options of a command give. -/
def overridesOf (r : Reading) : Overrides where
  policy := (r.value? "--identity-policy").bind fun name => IdentityPolicy.choices.lookup name
  cacheExports := r.has "--cache-exports"

/-- The commands with what they do. -/
def commands : List (String × Usage × (Reading → Action)) :=
  [("bundle", command "bundle" (buildOptions ++ [⟨["-o", "--output"], .value none⟩]),
      fun r => .bundle (overridesOf r) ((r.value? "--output").getD "-")),
    ("generate", command "generate" (buildOptions ++ [⟨["--out-dir"], .value none⟩]),
      fun r => .generate (overridesOf r) (r.value? "--out-dir")),
    ("verify", command "verify" [⟨["--artifacts-dir"], .value none⟩],
      fun r => .verify (r.value? "--artifacts-dir"))]

/-- The call that arguments denote. -/
def Invocation.ofArguments (arguments : List String) : Except Halt Invocation := do
  let (outer, action, inner) ← program.readCommand commands arguments
  return {
    verbose := outer.has "--verbose"
    root := (inner.value? "--root").getD "."
    entry := inner.plain
    action := action inner }

end Bundler.CommandLine
