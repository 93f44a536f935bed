import Bundler.Artifact.Listing
import Bundler.Artifact.Summary
import Bundler.Workspace

/-!
# Writing artifacts

Every artifact is written into a directory, which is made first if it is missing.
-/

set_option autoImplicit false

namespace Bundler

variable {ε : Type}

/-- Assembles the bundle of a graph. -/
def assembleBundle (root : Path) (cacheExports : Bool) (g : ModuleGraph) : Work ε String := do
  let text ← Work.requireOk id (assemble (← get).disk.current root cacheExports g)
  Work.note (.assembled g.size cacheExports)
  return text

/-- Writes the bundle of a graph. -/
def writeBundle (root directory : Path) (name : String) (cacheExports : Bool) (g : ModuleGraph) :
    Work ε Unit := do
  Work.change (Disk.makeDirectories directory)
  let text ← assembleBundle root cacheExports g
  Work.change (Disk.writeFile (directory / name) (Text.Utf8.encode text))

/-- Writes the listing of a graph. If a line cannot be written, those before it are. -/
def writeListing (root directory : Path) (g : ModuleGraph) : Work ε (List ListedModule) := do
  Work.change (Disk.makeDirectories directory)
  let modules ← Work.requireOk .path (g.listing (← get).disk.current root)
  let (text, refused) := jsonLines (modules.map ListedModule.toJson)
  Work.change (Disk.writeFile (directory / ArtifactKind.modules.fileName) (Text.Utf8.encode text))
  match refused with
  | none => return modules
  | some e => throw (.crash (.json e))

/-- Writes the summary of a graph. -/
def writeSummary (root directory : Path) (policy : Except Invalid IdentityPolicy)
    (bound : Option Int) (g : ModuleGraph) : Work ε GraphSummary := do
  Work.change (Disk.makeDirectories directory)
  let summary ← Work.requireOk id (GraphSummary.ofGraph (← get).disk.current root policy bound g)
  let text ← Work.requireOk .json (summary.toJson.write .document)
  Work.change (Disk.writeFile (directory / ArtifactKind.summary.fileName) (Text.Utf8.encode text))
  return summary

end Bundler
