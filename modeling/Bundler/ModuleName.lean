import Bundler.Path

/-!
# Module names

The dotted name of a module is read off its path relative to the project: the names on the path, the
last one up to its first dot, without a final `__init__`. Backslashes count as slashes. A path that
leaves the project has no package above it and is named by its last name alone.
-/

set_option autoImplicit false

namespace Bundler

/-- The path names no module. -/
structure NamelessPath where
  /-- The text of the path. -/
  path : String
deriving DecidableEq, Repr

/-- The description of a path that names no module. -/
def NamelessPath.message (e : NamelessPath) : String :=
  "cannot derive a non-empty module name from " ++ Text.quoted e.path

/-- A file name up to its first dot, or all of it if nothing is before the dot. -/
def fileStem (name : String) : String :=
  match Text.splitOn '.' name with
  | [] => name
  | stem :: _ => if stem = "" then name else stem

/-- The parts of a module name for the names on a path. -/
def moduleParts (names : List String) : List String :=
  let names := if names.contains ".." then names.drop (names.length - 1) else names
  let parts := names.dropLast ++ (names.getLast?.map fileStem).toList
  if 1 < parts.length ∧ parts.getLast? = some "__init__" then parts.dropLast else parts

/-- The dotted name of the module at a path. -/
def moduleName (path : String) : Except NamelessPath String :=
  let slashed := path.map fun c => if c = '\\' then '/' else c
  match moduleParts (Path.namesOf slashed) with
  | [] => .error ⟨path⟩
  | parts => .ok (".".intercalate parts)

end Bundler
