import Bundler.Artifact.Writing

/-!
# Projects

A project is a directory with an entry module. Its graph can be built into a bundle, which is either
returned or written along with the artifacts that describe the graph.
-/

set_option autoImplicit false

namespace Bundler

/-- What is to be built. -/
structure Project where
  /-- The root directory. -/
  root : Path
  /-- The entry module, if the settings do not name it. -/
  entry : Option String := none
  /-- The settings, if they are not in the configuration file. -/
  settings : Option Settings := none

/-- The number of top modules in a summary. -/
def topModuleCount : Int := 10

/-- What has been generated. -/
structure Generated where
  /-- The number of records. -/
  modules : Nat
  /-- The number of distinct edges. -/
  edges : Nat
  /-- The number of references. -/
  references : Nat
  /-- The paths of the artifacts. -/
  artifacts : List Path
deriving DecidableEq, Repr

namespace Project

/-- The settings of a project. -/
def effectiveSettings (p : Project) : Work ProjectError Settings := do
  match p.settings with
  | some settings => return settings
  | none => Work.require ((Settings.load (← get).disk p.root).mapError (·.map .config))

/-- Builds the graph of a project. -/
def buildGraph (p : Project) (settings : Settings) : Work ProjectError ModuleGraph := do
  let d := (← get).disk
  let entry ← Work.require ((entryPath d p.root p.entry settings).mapError (·.map .config))
  let run := (Builder.ofDisk d settings).run entry.toString
  run.events.forM fun e => Work.note (.build e)
  Work.require (run.outcome.mapError (·.map .build))

/-- Builds the bundle of a project. -/
def bundle (p : Project) : Work ProjectError String := do
  let settings ← p.effectiveSettings
  let g ← p.buildGraph settings
  assembleBundle p.root settings.cacheExports g

/-- The directory for the artifacts of a project. -/
def artifactsDirectory (p : Project) (settings : Settings) : Option Path → Work ProjectError Path
  | some directory => return directory
  | none => do
    let directory := outputDirectory (← get).disk p.root settings.outputDir
    Work.require (directory.mapError (·.map .config))

/-- Builds a project and writes its artifacts. -/
def generate (p : Project) (directory : Option Path) : Work ProjectError Generated := do
  let settings ← p.effectiveSettings
  let directory ← p.artifactsDirectory settings directory
  let g ← p.buildGraph settings
  writeBundle p.root directory settings.bundleName settings.cacheExports g
  discard (writeListing p.root directory g)
  let summary ← writeSummary p.root directory (.ok settings.policy) (some topModuleCount) g
  let names := settings.bundleName :: ArtifactKind.all.map fun (_, kind) => kind.fileName
  Work.note (.wrote names.length directory)
  return ⟨summary.modules, summary.edges, summary.references, names.map (directory / ·)⟩

end Project

end Bundler
