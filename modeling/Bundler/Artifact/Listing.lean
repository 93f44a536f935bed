import Bundler.Artifact.Format
import Bundler.Bundle.Assembly

/-!
# The listing of modules

The listing has a line for each record of a graph, in the order of identities. A line tells
everything about the record but its code, and names its file relative to a root.
-/

set_option autoImplicit false

namespace Bundler

/-- A record as the listing shows it. -/
structure ListedModule where
  /-- The identity of the module. -/
  identity : Nat
  /-- The file of the module, relative to the root. -/
  path : String
  /-- The name under which the module runs. -/
  name : String
  /-- The references in the module, in order and with repetitions. -/
  references : List String
  /-- The identities that the references lead to. -/
  referenceMap : List (String × Int)
deriving DecidableEq, Repr

namespace ListedModule

/-- A record as the listing shows it. -/
def ofRecord (cwd root : Path) (r : ModuleRecord) : Except PathError ListedModule := do
  let path ← relativeText cwd r.location root
  return ⟨r.identity, path, r.moduleName cwd root, r.references, r.referenceMap⟩

/-- A line of the listing as a value. -/
def toJson (m : ListedModule) : Json :=
  .object
    [("schema_version", .int schemaVersion),
    ("identity", .int m.identity),
    ("path", .string m.path),
    ("module", .string m.name),
    ("dependency_references", .array (m.references.map .string)),
    ("reference_map", .object (m.referenceMap.map fun (reference, n) => (reference, .int n)))]

end ListedModule

/-- The modules of a graph as the listing shows them. -/
def ModuleGraph.listing (g : ModuleGraph) (cwd root : Path) : Except PathError (List ListedModule) :=
  g.records.mapM (ListedModule.ofRecord cwd root)

/-- The lines for values, up to the first value that has no line, and why it has none. -/
def jsonLines : List Json → String × Option Json.WriteError
  | [] => ("", none)
  | value :: rest =>
    match value.write .line with
    | .error e => ("", some e)
    | .ok line =>
      match jsonLines rest with
      | (text, e) => (line ++ "\n" ++ text, e)

end Bundler
