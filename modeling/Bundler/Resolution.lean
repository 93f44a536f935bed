import Bundler.Crash
import Bundler.Graph.Error
import Bundler.Reference

/-!
# Resolving references

A reference leads to the first of its candidates that is a file.
-/

set_option autoImplicit false

namespace Bundler

/-- The file that a reference from a directory leads to. -/
def resolve (d : Disk) (directory : Path) (reference referrer : String)
    (suffixes : List String) : Except (Failure ResolutionError) Path := do
  let tried ← Failure.crashOn .path (candidates d.current directory reference suffixes)
  match tried.find? d.isFile with
  | some location => return location.normalize d.current
  | none => throw (.refused ⟨reference, referrer, tried.map Path.toString⟩)

end Bundler
