import Bundler.Disk
import Bundler.Entries

/-!
# Changing a disk

Files are written through links: a link that leads to nothing yet makes the file it leads to. Making
a directory also makes the directories above it, and is no error where a directory stands already.
-/

set_option autoImplicit false

namespace Bundler.Disk

/-- The disk with an entry under absolute names put in or replaced. -/
def put (d : Disk) (names : List String) (e : Entry) : Disk :=
  { d with entries := (d.entries.filter fun x => x.1 != names) ++ [(names, e)] }

/-- Leaving out the entries of one place changes nothing elsewhere. -/
theorem lookup_filter_ne {names other : List String} (h : other ≠ names)
    (entries : List (List String × Entry)) :
    (entries.filter fun x => x.1 != names).lookup other = entries.lookup other := by
  induction entries with
  | nil => rfl
  | cons x rest ih =>
    obtain ⟨k, v⟩ := x
    by_cases hk : k = names
    · simp [hk, lookup_cons_ite, h, ih]
    · simp [hk, lookup_cons_ite, ih]

/-- An entry that is put in is found at its place, and nothing changes elsewhere. The root is no
place to put an entry. -/
theorem get?_put {d : Disk} {names : List String} (h : names ≠ []) (other : List String)
    (e : Entry) :
    (d.put names e).get? other = if other = names then some e else d.get? other := by
  by_cases ho : other = names
  · subst ho
    have hf : (d.entries.filter fun x => x.1 != other).lookup other = none := by
      rw [List.lookup_eq_none_iff]
      intro x hx
      have := (List.mem_filter.1 hx).2
      simp only [bne_iff_ne] at this
      exact bne_iff_ne.2 this.symm
    simp [put, get?, h, List.lookup_append, hf]
  · by_cases hn : other = []
    · simp [get?, hn, h]
    · simp [put, get?, hn, ho, List.lookup_append, lookup_filter_ne ho, lookup_cons_ite]

/-- The disk with a file written. -/
def write (d : Disk) (p : Path) (bytes : List UInt8) : Except DiskError Disk :=
  if p.hasNull then .error .nullByte
  else
    match d.locate maxLinks [] (d.absoluteSteps p) with
    | .error e => .error (.system e p)
    | .ok names =>
      match d.get? names with
      | some .directory | some (.link _) => .error (.system .isDirectory p)
      | _ => .ok (d.put names (.file bytes))

/-- The disk with one directory made, in a directory that is there. -/
def makeDirectory (d : Disk) (p : Path) : Except DiskError Disk :=
  if p.hasNull then .error .nullByte
  else
    let names := d.absoluteSteps p
    let refuse := fun e => .error (.system e p)
    match d.locate maxLinks [] names.dropLast with
    | .error e => refuse e
    | .ok directory =>
      match d.get? directory, names.getLast? with
      | none, _ => refuse .noEntry
      | some .directory, some name =>
        if name = "." ∨ name = ".." then refuse .fileExists
        else
          match d.get? (directory ++ [name]) with
          | none => .ok (d.put (directory ++ [name]) .directory)
          | some _ => refuse .fileExists
      | some .directory, none => refuse .fileExists
      | some _, _ => refuse .notDirectory

/-- A change to a disk, which may fail and keeps what it has changed until then. -/
abbrev Changing := EStateM DiskError Disk

/-- Makes a directory, unless one stands there already. -/
def ensureDirectory (p : Path) : Changing Unit := do
  let d ← get
  match d.makeDirectory p with
  | .ok d => set d
  | .error (.system e q) =>
    if e = .noEntry ∨ !d.isDirectory p then throw (.system e q)
  | .error e => throw e

/-- Makes a directory, `above` times along with the one above it. -/
def makeDirectoriesUpTo (p : Path) : (above : Nat) → Changing Unit
  | 0 => ensureDirectory p
  | above + 1 => do
    match (← get).makeDirectory p with
    | .error (.system .noEntry q) =>
      if p.names = [] then throw (.system .noEntry q)
      makeDirectoriesUpTo p.parent above
      ensureDirectory p
    | _ => ensureDirectory p

/-- Makes a directory, along with those above it that are missing. -/
def makeDirectories (p : Path) : Changing Unit :=
  makeDirectoriesUpTo p (p.names.length + 1)

/-- Writes a file. -/
def writeFile (p : Path) (bytes : List UInt8) : Changing Unit := do
  match (← get).write p bytes with
  | .ok d => set d
  | .error e => throw e

/-- The disk without the entry under absolute names and everything below it. -/
def remove (d : Disk) (names : List String) : Disk :=
  { d with entries := d.entries.filter fun x => !names.isPrefixOf x.1 }

end Bundler.Disk
