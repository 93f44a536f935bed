import Bundler.Disk.Listing
import Bundler.Project

/-!
# Verifying artifacts

Artifacts are verified by building the project again, into a directory that is made for it, and comparing
the files. In the end this directory is removed with all that is in it. Since nothing is made or written
elsewhere, the disk is as it was before.
-/

set_option autoImplicit false

namespace Bundler

/-- The files in a directory: their paths and their bytes. -/
abbrev Contents := List (String × List UInt8)

/-- The files below a directory, under their paths relative to it. -/
def Disk.contents (d : Disk) (directory : Path) : Contents :=
  (d.filesBelow directory).filterMap fun names =>
    match d.read { directory with names := directory.names ++ names } with
    | .ok bytes => some ("/".intercalate names, bytes)
    | .error _ => none

/-- How artifacts differ from those that were built again. -/
structure Comparison where
  /-- The files that were not built again. -/
  missing : List String := []
  /-- The files that are only there after building again. -/
  extra : List String := []
  /-- The files that have other bytes after building again. -/
  mismatches : List String := []
deriving DecidableEq, Repr

namespace Comparison

/-- Whether there is no difference. -/
def isEqual (c : Comparison) : Bool :=
  c.missing.isEmpty && c.extra.isEmpty && c.mismatches.isEmpty

/-- Paths in their order. -/
def sortPaths (contents : Contents) : List String :=
  (contents.map Prod.fst).mergeSort (· ≤ ·)

/-- How artifacts differ from those that were built again. -/
def ofContents (artifacts rebuilt : Contents) : Comparison where
  missing := sortPaths (artifacts.filter fun x => (rebuilt.lookup x.1).isNone)
  extra := sortPaths (rebuilt.filter fun x => (artifacts.lookup x.1).isNone)
  mismatches := sortPaths (artifacts.filter fun x =>
    match rebuilt.lookup x.1 with
    | some bytes => bytes != x.2
    | none => false)

end Comparison

/-- What is wrong with artifacts or their project. -/
inductive VerificationError where
  /-- There is no directory with artifacts. -/
  | missing (directory : Path)
  /-- There is something else than a directory with artifacts. -/
  | notDirectory (path : Path)
  /-- The project cannot be built. -/
  | project (e : ProjectError)
deriving DecidableEq, Repr

/-- The description of what is wrong with artifacts or their project. -/
def VerificationError.message : VerificationError → String
  | .missing directory => "Artifacts directory does not exist: " ++ directory.toString
  | .notDirectory path => "Artifacts path is not a directory: " ++ path.toString
  | .project e => e.message

/-- The directory that a verification makes for what it builds. -/
def Disk.scratch (d : Disk) : Path :=
  d.temporary / ("modpack-verify-" ++ d.token)

/-- Builds a project again and compares what is generated with the artifacts in a directory. These are
listed while what has been built is still there. -/
def Project.verify (p : Project) (artifacts : Path) : Work VerificationError Comparison := do
  let w ← get
  if !w.disk.isPresent artifacts then throw (.refused (.missing artifacts))
  if !w.disk.isDirectory artifacts then throw (.refused (.notDirectory artifacts))
  let scratch := w.disk.scratch
  match w.disk.makeDirectory scratch with
  | .error e => throw (.crash (.disk e))
  | .ok made =>
    match p.generate (some scratch) { w with disk := made } with
    | .ok _ rebuilt =>
      set { rebuilt with disk := w.disk }
      return .ofContents (rebuilt.disk.contents artifacts) (rebuilt.disk.contents scratch)
    | .error e failed =>
      set { failed with disk := w.disk }
      throw (e.map .project)

end Bundler
