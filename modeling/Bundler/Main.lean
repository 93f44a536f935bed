import Bundler.CommandLine.Execution

/-!
# The program

The program reads a part of the disk, runs on what it has read, and writes down what has changed. It
reads the current directory and the places that the command line speaks of, each with everything
below it and everything that links there lead to, and the way to the directory for temporary
directories. What cannot be read is left out.
-/

set_option autoImplicit false

namespace Bundler.Main

/-- The entries of the places read so far. -/
abbrev Entries := List (List String × Entry)

/-- The text of the absolute path with the given names. -/
def pathText (names : List String) : String :=
  Path.toString ⟨.root, names⟩

/-- Adds an entry, unless its place has one. -/
def Entries.add (entries : Entries) (names : List String) (entry : Entry) : Entries :=
  if entries.any (·.1 == names) then entries else (names, entry) :: entries

/-- Reads one place, and everything below it if `deep` is set. A link is read along with the place
that it leads to. -/
partial def readPlace (deep : Bool) (entries : Entries) (names : List String) : IO Entries := do
  try
    let path := System.mkFilePath [pathText names]
    match (← path.symlinkMetadata).type with
    | .dir =>
      let entries := entries.add names .directory
      if deep then
        (← path.readDir).foldlM (fun entries child =>
          readPlace true entries (names ++ [child.fileName])) entries
      else return entries
    | .file =>
      if entries.any (·.1 == names) then return entries
      else return entries.add names (.file (← IO.FS.readBinFile path).toList)
    | .symlink =>
      if entries.any (·.1 == names) then return entries
      else
        let target := (← IO.FS.realPath path).toString
        let place := Path.ofString target
        readPlace deep (← (List.range place.names.length).foldlM (fun entries n =>
          readPlace false entries (place.names.take n)) (entries.add names (.link target)))
          place.names
    | .other => return entries
  catch _ => return entries

/-- Reads a place with the directories above it. -/
def readFromRoot (entries : Entries) (place : Path) : IO Entries := do
  let entries ← (List.range place.names.length).foldlM (fun entries n =>
    readPlace false entries (place.names.take n)) entries
  readPlace true entries place.names

/-- The texts on the command line that may stand for places. -/
def places (i : CommandLine.Invocation) : List String :=
  i.root :: match i.action with
    | .bundle _ output => [output]
    | .generate _ directory => directory.toList
    | .verify artifacts => artifacts.toList

/-- The home directories in the lines of a list of users. -/
def homesOf (lines : List String) : List (String × String) :=
  lines.filterMap fun line =>
    match (Text.splitOn ':' line)[0]?, (Text.splitOn ':' line)[5]? with
    | some user, some home => some (user, home)
    | _, _ => none

/-- The home directories of all users, one's own under the empty name. -/
def readHomes : IO (List (String × String)) := do
  let own := (← IO.getEnv "HOME").getD "/"
  let lines ← try pure (← IO.FS.lines "/etc/passwd").toList catch _ => pure []
  return ("", own) :: homesOf lines

/-- The directory for temporary directories. -/
def readTemporary (current : Path) : IO Path := do
  for name in ["TMPDIR", "TEMP", "TMP"] do
    if let some directory ← IO.getEnv name then
      if ← (System.mkFilePath [directory]).isDir then
        return (Path.ofString directory).normalize current
  return .ofString "/tmp"

/-- The disk, as far as a call of the program needs it. -/
def readDisk (arguments : List String) : IO Disk := do
  let current := Path.ofString (← IO.currentDir).toString
  let temporary ← readTemporary current
  let token := toString (← IO.monoNanosNow)
  let bare : Disk := { entries := [], current, homes := ← readHomes, temporary, token }
  let texts := match CommandLine.Invocation.ofArguments arguments with
    | .error _ => []
    | .ok i => "." :: places i
  let paths := texts.filterMap fun text =>
    (bare.expandHome (.ofString text)).toOption.map fun p => p.normalize current
  let around ← (List.range (temporary.names.length + 1)).foldlM (fun entries n =>
    readPlace false entries (temporary.names.take n)) []
  return { bare with entries := (← paths.foldlM readFromRoot around).reverse }

/-- Writes down the entries of a disk that another one has not. -/
def writeChanges (before after : Disk) : IO Unit :=
  after.entries.forM fun (names, entry) => do
    if before.get? names ≠ some entry then
      match entry with
      | .directory => IO.FS.createDirAll (pathText names)
      | .file bytes => IO.FS.writeBinFile (pathText names) ⟨bytes.toArray⟩
      | .link _ => pure ()

/-- Shows how a call ended, and returns the exit code. -/
def report : CommandLine.Outcome → IO UInt32
  | .halted h => do
    unless h.line = "" do IO.eprintln h.line
    return h.code.toUInt32
  | .finished r => do
    IO.print r.output
    r.lines.forM fun line => IO.eprintln line
    return r.code.toUInt32
  | .crashed c => do
    IO.eprintln c.message
    return 1

end Bundler.Main

open Bundler in
/-- Runs the program on the arguments of the command line. -/
def main (arguments : List String) : IO UInt32 := do
  let before ← Main.readDisk arguments
  let (after, outcome) := CommandLine.run before arguments
  Main.writeChanges before after
  Main.report outcome
