import Bundler.Path
import Bundler.Text.Utf8

/-!
# Disks

A disk is a tree of directories, files and symbolic links, kept as a list of entries under their
absolute paths, together with what the system around it tells: the current directory, the home
directories of users, where temporary directories are made, and how deep calls may be nested. The
root is always there.

A path is looked up name by name. A link is followed where it stands, and at most forty are followed
in one look-up.

Disks leave out what a system may forbid, and what may be too much for it: everything on a disk may be
looked up, read and written, names and paths may have any length, and there is room for everything. So
a look-up fails only at a missing entry, at a file on the way, at a loop of links and at a NUL
character, and a test for a file answers no then. A system that refuses a look-up for another reason
is not a disk.
-/

set_option autoImplicit false

namespace Bundler

/-- What stands on a disk under a path. -/
inductive Entry where
  /-- A file with its bytes. -/
  | file (bytes : List UInt8)
  /-- A directory. -/
  | directory
  /-- A symbolic link with the path that it leads to. -/
  | link (target : String)
deriving DecidableEq, Repr

/-- What the system around a disk tells. -/
structure Surroundings where
  /-- The current directory. -/
  current : Path
  /-- The texts of the home directories of the users that are known, under the names of the users. One's
  own home directory stands under the empty name. -/
  homes : List (String × String) := []
  /-- The directory in which temporary directories are made. -/
  temporary : Path := ⟨.root, []⟩
  /-- The end of the name of the next temporary directory. -/
  token : String := "_"
  /-- The number of calls that may be nested while a document is read. -/
  nesting : Nat := 988
deriving DecidableEq, Repr

/-- A disk. -/
structure Disk extends Surroundings where
  /-- The entries under the names on their absolute paths. -/
  entries : List (List String × Entry)
deriving DecidableEq, Repr

/-- Why the system refuses an operation. -/
inductive SystemError where
  | noEntry | fileExists | notDirectory | isDirectory | linkLoop
deriving DecidableEq, Repr

namespace SystemError

/-- The number of a system error. -/
def number : SystemError → Nat
  | .noEntry => 2
  | .fileExists => 17
  | .notDirectory => 20
  | .isDirectory => 21
  | .linkLoop => 40

/-- The description of a system error. -/
def text : SystemError → String
  | .noEntry => "No such file or directory"
  | .fileExists => "File exists"
  | .notDirectory => "Not a directory"
  | .isDirectory => "Is a directory"
  | .linkLoop => "Too many levels of symbolic links"

end SystemError

/-- Why an operation on a disk failed. -/
inductive DiskError where
  /-- The system refused it for a path. -/
  | system (error : SystemError) (path : Path)
  /-- A path holds a NUL character. -/
  | nullByte
deriving DecidableEq, Repr

/-- The description of a failed operation. -/
def DiskError.message : DiskError → String
  | .system error path =>
    "[Errno " ++ toString error.number ++ "] " ++ error.text ++ ": " ++ Text.quoted path.toString
  | .nullByte => "embedded null byte"

/-- Whether a name holds a NUL character, which the system takes for its end. -/
def holdsNull (name : String) : Bool :=
  name.toList.contains (Char.ofNat 0)

/-- Whether a path holds a NUL character. -/
def Path.hasNull (p : Path) : Bool :=
  p.names.any holdsNull

namespace Disk

/-- The number of links that one look-up follows at most. -/
def maxLinks : Nat := 40

/-- The entry under absolute names, without following a link there. -/
def get? (d : Disk) (names : List String) : Option Entry :=
  if names = [] then some .directory else d.entries.lookup names

/-- The names on a path, those included that are single dots. -/
def steps (names : List String) : List String :=
  names.flatMap fun name => (Text.splitOn '/' name).filter (· != "")

/-- Where the names lead from a directory, and the entry there. Every link is followed, and only
the last name may be missing. -/
def locate (d : Disk) (links : Nat) (here : List String) :
    List String → Except SystemError (List String)
  | [] => .ok here
  | name :: rest =>
    if name = "." then locate d links here rest
    else if name = ".." then locate d links here.dropLast rest
    else
      match d.get? (here ++ [name]) with
      | none => if rest = [] then .ok (here ++ [name]) else .error .noEntry
      | some (.file _) => if rest = [] then .ok (here ++ [name]) else .error .notDirectory
      | some .directory => locate d links (here ++ [name]) rest
      | some (.link target) =>
        match links with
        | 0 => .error .linkLoop
        | links + 1 =>
          let start := if target.startsWith "/" then [] else here
          locate d links start (steps [target] ++ rest)
termination_by names => (links, names.length)

/-- The names on the absolute path that a path stands for. -/
def absoluteSteps (d : Disk) (p : Path) : List String :=
  steps (d.current.join p).names

/-- What a path leads to, links followed. -/
def find (d : Disk) (p : Path) : Except SystemError Entry := do
  let names ← d.locate maxLinks [] (d.absoluteSteps p)
  match d.get? names with
  | none => .error .noEntry
  | some e => .ok e

/-- Whether a path leads to a file. -/
def isFile (d : Disk) (p : Path) : Bool :=
  !p.hasNull &&
    match d.find p with
    | .ok (.file _) => true
    | _ => false

/-- Whether a path leads to a directory. -/
def isDirectory (d : Disk) (p : Path) : Bool :=
  !p.hasNull &&
    match d.find p with
    | .ok .directory => true
    | _ => false

/-- Whether a path leads to anything. -/
def isPresent (d : Disk) (p : Path) : Bool :=
  !p.hasNull && (d.find p).isOk

/-- The bytes of the file that a path leads to. -/
def read (d : Disk) (p : Path) : Except DiskError (List UInt8) :=
  if p.hasNull then .error .nullByte
  else
    match d.find p with
    | .error e => .error (.system e p)
    | .ok (.file bytes) => .ok bytes
    | .ok _ => .error (.system .isDirectory p)

end Disk

end Bundler
