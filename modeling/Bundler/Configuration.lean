import Bundler.Crash
import Bundler.Settings
import Bundler.Toml.Document

/-!
# Configuration of a project

A project may have a configuration file at its root. Without one, the settings have their defaults.

The output directory of a project is given relative to the root and has to stay below it, also when
links are followed. The entry module is named by the caller or else by the settings.
-/

set_option autoImplicit false

namespace Bundler

/-- What is wrong with the configuration of a project. -/
inductive ConfigError where
  /-- The configuration file is no TOML document. -/
  | notToml (file : Path) (fault : Toml.Fault) (place : String)
  /-- The configuration file gives invalid settings. -/
  | invalid (file : Path) (e : Invalid)
  /-- No output directory is named. -/
  | emptyOutput
  /-- The output directory does not begin at the root of the project. -/
  | absoluteOutput
  /-- The output directory is not below the root of the project. -/
  | escapingOutput (output : String)
  /-- No entry module is named. -/
  | noEntryModule
deriving DecidableEq, Repr

/-- The name of the configuration file. -/
def configurationName : String := "modpack.toml"

/-- The description of what is wrong with a configuration. -/
def ConfigError.message : ConfigError → String
  | .notToml file fault place =>
    "Invalid TOML in " ++ file.toString ++ ": " ++ fault.message ++ " (at " ++ place ++ ")"
  | .invalid file e => "Invalid config in " ++ file.toString ++ ": " ++ e.message
  | .emptyOutput => "output_dir must be a non-empty relative path"
  | .absoluteOutput => "output_dir must be a relative path within the project root"
  | .escapingOutput output => "output_dir '" ++ output ++ "' escapes the project root"
  | .noEntryModule => "no entry module given and none configured in " ++ configurationName

/-- The settings that the text of a configuration file gives, which is read with at most so many calls
nested in each other. -/
def Settings.ofToml (calls : Nat) (file : Path) (text : String) :
    Except (Failure ConfigError) Settings :=
  match Toml.read calls text with
  | .error (.fault fault place) => .error (.refused (.notToml file fault place))
  | .error (.integerDigits digits) => .error (.crash (.integerDigits digits))
  | .error .nesting => .error (.crash .nesting)
  | .ok members => (Settings.ofMembers members).mapError fun e => .refused (.invalid file e)

/-- The settings of the project with the given root. -/
def Settings.load (d : Disk) (root : Path) : Except (Failure ConfigError) Settings := do
  let file := root / configurationName
  if d.isFile file then
    let bytes ← Failure.crashOn .disk (d.read file)
    let text ← Failure.crashOn .undecodable (Text.Utf8.decode bytes)
    Settings.ofToml d.nesting file text
  else return {}

/-- Whether a path is another one continued by names. -/
def Path.isBelow (p root : Path) : Bool :=
  p.anchor == root.anchor && root.names.isPrefixOf p.names

/-- The real path of the output directory of a project. -/
def outputDirectory (d : Disk) (root : Path) (output : String) :
    Except (Failure ConfigError) Path := do
  if output = "" then throw (.refused .emptyOutput)
  if output.startsWith "~" || (Path.ofString output).isAbsolute then
    throw (.refused .absoluteOutput)
  let root ← Failure.crashOn .realPath (d.real root)
  let directory ← Failure.crashOn .realPath (d.real (root / output))
  if directory.isBelow root then return directory else throw (.refused (.escapingOutput output))

/-- The path of the entry module of a project. A name given by the caller comes before the one in the
settings. -/
def entryPath (d : Disk) (root : Path) (entry : Option String) (settings : Settings) :
    Except (Failure ConfigError) Path := do
  match entry.or settings.entry with
  | none => throw (.refused .noEntryModule)
  | some chosen => return root.join (← Failure.crashOn .home (d.expandHome (.ofString chosen)))

end Bundler
