import Bundler.Bundle.Loader
import Bundler.Graph.Record
import Bundler.ModuleName

/-!
# Assembling a bundle

A bundle is one script: a few comments, the loader, and a call that passes the table of modules to
it. The table has a row for each record, with the code, the name and the file of the module and the
identities that its references lead to. Files are named relative to a root.
-/

set_option autoImplicit false

namespace Bundler

/-- The name under which the module of a record runs. The entry is the main module, and a module
whose path gives no name is named by its identity. -/
def ModuleRecord.moduleName (cwd root : Path) (r : ModuleRecord) : String :=
  let numbered := "module_" ++ toString r.identity
  if r.identity = 0 then "__main__"
  else
    match relativeText cwd r.location root with
    | .error _ => numbered
    | .ok path =>
      match Bundler.moduleName path with
      | .error _ => numbered
      | .ok name => name

/-- A row of the table of modules. -/
structure BundleRow where
  /-- The identity of the module. -/
  identity : Nat
  /-- The code of the module. -/
  code : String
  /-- The name of the module. -/
  name : String
  /-- The file of the module, relative to the root. -/
  file : String
  /-- The identities that the references of the module lead to. -/
  referenceMap : List (String × Int)
deriving DecidableEq, Repr

namespace BundleRow

/-- The row of a record. -/
def ofRecord (cwd root : Path) (r : ModuleRecord) : Except PathError BundleRow := do
  let file ← relativeText cwd r.location root
  return ⟨r.identity, r.code, r.moduleName cwd root, file, r.referenceMap⟩

/-- The references of a row as a dictionary. -/
def mapping (row : BundleRow) : Json :=
  .object (row.referenceMap.map fun (reference, target) => (reference, .int target))

/-- The names that the code of a row finds when it runs. -/
def nameTable (row : BundleRow) : String :=
  "\x7b\"__name__\": " ++ Text.quoted row.name ++ ", \"__file__\": " ++ Text.quoted row.file ++
    ", \"require\": require, \"module\": module, \"exports\": exports\x7d"

/-- The text of a row. -/
def text (row : BundleRow) : Except Json.WriteError String := do
  let mapping ← Json.write .compact row.mapping
  return "    " ++ toString row.identity ++ ": (\n" ++
    "        lambda require, module, exports: exec(\n" ++
    "            compile(" ++ Text.quoted row.code ++ ", " ++ Text.quoted row.file ++
    ", 'exec'),\n" ++
    "            " ++ row.nameTable ++ ",\n" ++
    "        ),\n" ++
    "        " ++ mapping ++ ",\n" ++
    "    ),\n"

end BundleRow

/-- The lines at the top of a bundle that say what it is. -/
def banner : String :=
  "# DO NOT EDIT! This script was generated by modpack.\n" ++
  "# Manual edits may just break it.\n"

/-- The text of the row of a record. -/
def recordText (cwd root : Path) (r : ModuleRecord) : Except Crash String := do
  let row ← (BundleRow.ofRecord cwd root r).mapError .path
  row.text.mapError .json

/-- The bundle of a graph, with files named relative to a root. -/
def assemble (cwd root : Path) (cacheExports : Bool) (g : ModuleGraph) : Except Crash String := do
  let entry ← (relativeText cwd g.entry.location root).mapError .path
  let rows ← g.records.mapM (recordText cwd root)
  return "#!/usr/bin/env python3\n" ++
    banner ++
    "# Entry: " ++ entry ++ "\n" ++
    "# Modules: " ++ toString g.size ++ "\n" ++
    "\n" ++
    loaderText cacheExports ++
    "\n\n" ++
    "_bundle(\x7b\n" ++
    String.join rows ++
    "\x7d)\n"

/-- The directory of the entry, which files are named relative to if nothing else is given. -/
def ModuleGraph.defaultRoot (g : ModuleGraph) : Path :=
  (Path.ofString g.entry.location).parent

end Bundler
