import Bundler.Disk

/-!
# Real paths

The real path of a path has no links in it. Names that do not exist are kept, and so is a link that
leads back to itself, along with everything after it, which is not looked up. A path is refused if a
name that is looked up holds a NUL character, and if its real path still runs into a loop of links or
still holds a NUL character.
-/

set_option autoImplicit false

namespace Bundler

/-- Why a path has no real path. -/
inductive RealPathError where
  /-- Looking the real path up runs into a loop of links. -/
  | loop (path : Path)
  /-- A name that is looked up holds a NUL character. -/
  | nullByte
deriving DecidableEq, Repr

/-- The description of a path without real path. -/
def RealPathError.message : RealPathError → String
  | .loop path => "Symlink loop from " ++ Text.quoted path.toString
  | .nullByte => DiskError.nullByte.message

namespace Disk

/-- The path that the link under absolute names leads to, if a link stands there. -/
def link? (d : Disk) (names : List String) : Option String :=
  match d.get? names with
  | some (.link target) => some target
  | _ => none

/-- How far the links on a path are followed. -/
inductive Following where
  /-- To the end. -/
  | complete
  /-- Up to a link that leads back to itself. -/
  | stopped
  /-- Up to a name that holds a NUL character. -/
  | nullByte
deriving DecidableEq, Repr

/-- How far links are followed, and the names without the links that have been. The links being
followed are `active`; each is entered once, so the number of entries bounds the depth. -/
def realNames (d : Disk) (depth : Nat) (active : List (List String)) (here : List String) :
    List String → Following × List String
  | [] => (.complete, here)
  | name :: rest =>
    if name = "." then realNames d depth active here rest
    else if name = ".." then realNames d depth active here.dropLast rest
    else if holdsNull name then (.nullByte, here ++ name :: rest)
    else
      let link := here ++ [name]
      match d.link? link with
      | none => realNames d depth active link rest
      | some target =>
        if active.contains link then (.stopped, link ++ rest)
        else
          match depth with
          | 0 => (.stopped, link ++ rest)
          | depth + 1 =>
            let start := if target.startsWith "/" then [] else here
            match realNames d depth (link :: active) start (steps [target]) with
            | (.complete, here) => realNames d (depth + 1) active here rest
            | (following, names) => (following, names ++ rest)
termination_by names => (depth, names.length)

/-- The real path of a path. -/
def real (d : Disk) (p : Path) : Except RealPathError Path :=
  let (following, names) := d.realNames d.entries.length [] [] (d.absoluteSteps p)
  let q : Path := { anchor := .root, names := Path.collapseFrom true [] (names.filter (· != ".")) }
  if following = .nullByte ∨ q.hasNull then .error .nullByte
  else
    match d.find q with
    | .error .linkLoop => .error (.loop q)
    | _ => .ok q

end Disk

/-- Why `~` cannot be replaced by a home directory. -/
inductive HomeError where
  /-- The home directory is unknown. -/
  | unknown
  /-- The name of the user holds a NUL character. -/
  | nullByte
deriving DecidableEq, Repr

/-- The description of a failure to find a home directory. -/
def HomeError.message : HomeError → String
  | .unknown => "Could not determine home directory."
  | .nullByte => DiskError.nullByte.message

/-- The user whose home directory a path begins at, as a tilde says: the name behind it, which is
empty for one's own home directory. -/
def Path.user? (p : Path) : Option String :=
  match p.isAbsolute, p.names with
  | false, first :: _ =>
    match first.toList with
    | '~' :: user => some (String.ofList user)
    | _ => none
  | _, _ => none

/-- The home directory of a user. One that begins with a tilde itself is none, and slashes only are the
root. -/
def Surroundings.home (s : Surroundings) (user : String) : Except HomeError Path :=
  if holdsNull user then .error .nullByte
  else
    match s.homes.lookup user with
    | none => .error .unknown
    | some home =>
      if home.startsWith "~" then .error .unknown
      else .ok (.ofString (if home.toList.all (· == '/') then "/" else home))

/-- A path with a leading `~` replaced by a home directory. -/
def Disk.expandHome (d : Disk) (p : Path) : Except HomeError Path :=
  match p.user? with
  | none => .ok p
  | some user => do
    let home ← d.home user
    return { home with names := home.names ++ p.names.tail }

end Bundler
