import Bundler.Configuration
import Bundler.Disk.Change
import Bundler.Graph.Builder

/-!
# Work on a disk

A piece of work changes a disk and notes what happens. When it fails, what has been changed and noted
until then remains.
-/

set_option autoImplicit false

namespace Bundler

/-- What happens while a project is worked on. -/
inductive Event where
  /-- Something happens during a build. -/
  | build (e : BuildEvent)
  /-- A bundle has been assembled. -/
  | assembled (modules : Nat) (cacheExports : Bool)
  /-- Artifacts have been written. -/
  | wrote (artifacts : Nat) (directory : Path)
deriving DecidableEq, Repr

/-- The log line of an event of a build, if it has one. -/
def BuildEvent.line? : BuildEvent → Option String
  | .compiling _ => none
  | .created identity location => some ("module " ++ toString identity ++ ": " ++ location)
  | .linked identity reference target seen =>
    some ("module " ++ toString identity ++ ": " ++ Text.quoted reference ++ " -> " ++
      toString target ++ if seen then " (seen)" else "")
  | .built size location =>
    some ("built graph of " ++ toString size ++ " modules from " ++ location)

/-- The log line of an event, if it has one. -/
def Event.line? : Event → Option String
  | .build e => e.line?.map ("graph.builder: " ++ ·)
  | .assembled modules cacheExports =>
    some ("bundle.assembler: assembled bundle of " ++ toString modules ++
      " modules (cache_exports=" ++ (if cacheExports then "True" else "False") ++ ")")
  | .wrote artifacts directory =>
    some ("artifacts.write: wrote " ++ toString artifacts ++ " artifacts to " ++
      directory.toString)

/-- What is wrong with a project. -/
inductive ProjectError where
  /-- Its configuration. -/
  | config (e : ConfigError)
  /-- Its modules. -/
  | build (e : BuildError)
deriving DecidableEq, Repr

/-- The description of what is wrong with a project. -/
def ProjectError.message : ProjectError → String
  | .config e => e.message
  | .build e => e.message

/-- A disk that is worked on. -/
structure Workspace where
  /-- The disk. -/
  disk : Disk
  /-- What has happened, in order. -/
  events : List Event := []

/-- Work on a disk, which may fail with an announced error or crash. -/
abbrev Work (ε : Type) := EStateM (Failure ε) Workspace

namespace Work

variable {ε δ α : Type}

/-- Notes an event. -/
def note (e : Event) : Work ε Unit :=
  modify fun w => { w with events := w.events ++ [e] }

/-- Goes on with the value of an outcome. -/
def require (x : Except (Failure ε) α) : Work ε α :=
  match x with
  | .ok a => pure a
  | .error e => throw e

/-- Goes on with the value of an outcome, of which every failure is a crash. -/
def requireOk (cause : δ → Crash) (x : Except δ α) : Work ε α :=
  require (Failure.crashOn cause x)

/-- Changes the disk. -/
def change (c : Disk.Changing α) : Work ε α := fun w =>
  match c w.disk with
  | .ok a d => .ok a { w with disk := d }
  | .error e d => .error (.crash (.disk e)) { w with disk := d }

end Work

end Bundler
