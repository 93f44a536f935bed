import Bundler.Disk

/-!
# Listing a disk

The files below a directory are listed by their paths relative to it. Directories that are links are
not entered, but a link to a file counts as one.
-/

set_option autoImplicit false

namespace Bundler.Disk

/-- The paths of the files below a directory, relative to it. -/
def filesBelow (d : Disk) (directory : Path) : List (List String) :=
  match d.locate maxLinks [] (d.absoluteSteps directory) with
  | .error _ => []
  | .ok base =>
    d.entries.filterMap fun (names, _) =>
      let rest := names.drop base.length
      if base.isPrefixOf names ∧ base.length < names.length ∧
          d.isFile { directory with names := directory.names ++ rest } then
        some rest
      else none

end Bundler.Disk
