import Bundler.Text.Quoted
import Bundler.Text.Split

/-!
# Paths

A path is an anchor and a list of names. It is read by splitting a text at slashes and dropping the
empty pieces and those that are a single dot; names `..` are kept. Three or more leading slashes are
the same as one, but exactly two are kept apart.

Normalizing a path makes it absolute and lets every `..` cancel the name before it. It looks at no
file system.
-/

set_option autoImplicit false

namespace Bundler

/-- Where a path begins. -/
inductive Anchor where
  /-- At the current directory. -/
  | relative
  /-- At the root. -/
  | root
  /-- At the root, written with two slashes. -/
  | doubleRoot
deriving DecidableEq, Repr

/-- The slashes that an anchor is written with. -/
def Anchor.text : Anchor → String
  | .relative => ""
  | .root => "/"
  | .doubleRoot => "//"

/-- The anchor of a text with that many leading slashes. -/
def Anchor.ofSlashes : Nat → Anchor
  | 0 => .relative
  | 2 => .doubleRoot
  | _ => .root

/-- A path. -/
structure Path where
  /-- Where the path begins. -/
  anchor : Anchor
  /-- The names on the path. -/
  names : List String
deriving DecidableEq, Repr

/-- Why no path can be formed. -/
inductive PathError where
  /-- The last name of a path without names was to be replaced. -/
  | emptyName (path : Path)
  /-- A text was to be the last name of a path but is no name. -/
  | invalidName (name : String)
  /-- An empty text was to be made relative. -/
  | noPath
deriving DecidableEq, Repr

namespace Path

/-- The pieces of a text between slashes that are names. -/
def namesOf (s : String) : List String :=
  (Text.splitOn '/' s).filter fun name => name != "" && name != "."

/-- The path that a text denotes. -/
def ofString (s : String) : Path where
  anchor := .ofSlashes (s.toList.takeWhile (· == '/')).length
  names := namesOf s

/-- The text of a path; the empty relative path is written as a dot. -/
def toString (p : Path) : String :=
  let text := p.anchor.text ++ "/".intercalate p.names
  if text = "" then "." else text

/-- A path is shown as its text. -/
instance : ToString Path := ⟨toString⟩

/-- Whether a path begins at the root. -/
def isAbsolute (p : Path) : Bool :=
  p.anchor != .relative

/-- A path continued by another one, which replaces it if it is absolute. -/
def join (p q : Path) : Path :=
  if q.isAbsolute then q else { p with names := p.names ++ q.names }

/-- A path is continued by the path of a text. -/
instance : HDiv Path String Path := ⟨fun p s => p.join (ofString s)⟩

/-- The path without its last name. -/
def parent (p : Path) : Path :=
  { p with names := p.names.dropLast }

/-- The last name of a path; a path without names has the empty one. -/
def name (p : Path) : String :=
  p.names.getLastD ""

/-- A path with its last name replaced. The new name may hold slashes only before pieces that are
no names, and not at its end. -/
def withName (p : Path) (name : String) : Except PathError Path :=
  if p.name = "" then .error (.emptyName p)
  else if name.startsWith "/" || name.endsWith "/" || (namesOf name).length != 1 then
    .error (.invalidName name)
  else .ok { p with names := p.names.dropLast ++ [name] }

/-- Appends a text to the last name. -/
def withSuffix (p : Path) (suffix : String) : Except PathError Path :=
  p.withName (p.name ++ suffix)

/-- The names that are left when every `..` cancels the name before it; `done` holds the names left
so far in reverse order. Nothing is above the root. -/
def collapseFrom (absolute : Bool) (done : List String) : List String → List String
  | [] => done.reverse
  | name :: rest =>
    if name = ".." then
      match done with
      | [] => collapseFrom absolute (if absolute then [] else [".."]) rest
      | last :: before =>
        if last = ".." then collapseFrom absolute (".." :: done) rest
        else collapseFrom absolute before rest
    else collapseFrom absolute (name :: done) rest

/-- The path without names `..`, made absolute at the current directory. -/
def normalize (p cwd : Path) : Path :=
  let q := cwd.join p
  { q with names := collapseFrom q.isAbsolute [] (q.names.flatMap namesOf) }

/-- What is left of two lists after their common beginning. -/
def dropCommon : List String → List String → List String × List String
  | a :: as, b :: bs => if a = b then dropCommon as bs else (a :: as, b :: bs)
  | as, bs => (as, bs)

/-- The path that leads from a directory to a location. -/
def relativeTo (location directory cwd : Path) : Path :=
  let (down, up) := dropCommon (location.normalize cwd).names (directory.normalize cwd).names
  { anchor := .relative, names := List.replicate up.length ".." ++ down }

end Path

/-- The path of a location relative to a directory, as text. -/
def relativeText (cwd : Path) (location : String) (directory : Path) : Except PathError String :=
  if location = "" then .error .noPath
  else .ok ((Path.ofString location).relativeTo directory cwd).toString

/-- The description of a failure to form a path. -/
def PathError.message : PathError → String
  | .emptyName path => "PosixPath(" ++ Text.quoted path.toString ++ ") has an empty name"
  | .invalidName name => "Invalid name " ++ Text.quoted name
  | .noPath => "no path specified"

end Bundler
