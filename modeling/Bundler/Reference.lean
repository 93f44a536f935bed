import Bundler.Path
import Bundler.Text.WordCharacter

/-!
# References

A module names another one by a reference. A dotted reference consists of dots and of names between
dots: the first dot stands for the directory of the referring module, and every further one for the
directory above. Any other reference is a path.

The candidates of a reference are the files that it may name, in the order in which they are tried:
the file with each suffix, then the initializer of the package of that name. A path is also tried
as it is.
-/

set_option autoImplicit false

namespace Bundler

/-- A reference made of dots and names. -/
structure DottedReference where
  /-- How many dots come first. -/
  dots : Nat
  /-- The names after the dots. -/
  names : List String
deriving DecidableEq, Repr

/-- Whether a text is a name in a dotted reference. The first letter is ASCII. -/
def isReferenceName (name : List Char) : Bool :=
  match name with
  | [] => false
  | c :: cs => Text.isWordStart c && cs.all Text.isWordCharacter

/-- Drops one line feed at the end. -/
def dropFinalLineFeed (cs : List Char) : List Char :=
  if cs.getLast? = some '\n' then cs.dropLast else cs

/-- The dotted reference that a text denotes. A line feed at the end is passed over. -/
def DottedReference.ofString? (s : String) : Option DottedReference :=
  let dots := s.toList.takeWhile (· == '.')
  let rest := dropFinalLineFeed (s.toList.dropWhile (· == '.'))
  let names := if rest.isEmpty then [] else Text.splitChars '.' rest
  if 0 < dots.length && names.all isReferenceName then
    some ⟨dots.length, names.map String.ofList⟩
  else none

/-- Whether a reference is dotted. -/
def isDotted (reference : String) : Bool :=
  (DottedReference.ofString? reference).isSome

/-- The suffixes that are tried by default. -/
def defaultSuffixes : List String := [".py"]

/-- The initializers of a package. -/
def initializers (directory : Path) (suffixes : List String) : List Path :=
  suffixes.map fun suffix => directory / ("__init__" ++ suffix)

/-- A directory climbed a number of times. -/
def climb (directory : Path) : Nat → Path
  | 0 => directory
  | n + 1 => climb directory.parent n

/-- The candidates of a dotted reference. -/
def DottedReference.candidates (directory : Path) (r : DottedReference)
    (suffixes : List String) : Except PathError (List Path) := do
  let base := climb directory (r.dots - 1)
  match r.names with
  | [] => return initializers base suffixes
  | names =>
    let target := { base with names := base.names ++ names }
    return (← suffixes.mapM target.withSuffix) ++ initializers target suffixes

/-- The candidates of a reference from a directory. -/
def candidates (cwd directory : Path) (reference : String) (suffixes : List String) :
    Except PathError (List Path) :=
  if reference = "" then .ok []
  else
    match DottedReference.ofString? reference with
    | some r => r.candidates directory suffixes
    | none => do
      let target := (directory / reference).normalize cwd
      return target :: (← suffixes.mapM target.withSuffix) ++ initializers target suffixes

end Bundler
