import Bundler.Disk.Change
import Bundler.Proofs.Outcome
import Bundler.Proofs.Path.Extension

/-!
# Looking paths up

A look-up that leads to a directory can be continued there: looking up more names is looking them up
from that directory, with the links that are left. On the way to a place every directory is passed
from the root on, so that going up leads to a directory again.
-/

set_option autoImplicit false

namespace Bundler

/-- A name that leads down. -/
structure IsStepName (name : String) : Prop extends Path.IsName name where
  /-- Two dots lead up. -/
  ne_dots : name ≠ ".."

/-- A name holds a NUL character if there is one in it. -/
theorem holdsNull_eq_true {name : String} :
    holdsNull name = true ↔ Char.ofNat 0 ∈ name.toList :=
  List.contains_iff_mem

/-- A name holds no NUL character if there is none in it. -/
theorem holdsNull_eq_false {name : String} :
    holdsNull name = false ↔ Char.ofNat 0 ∉ name.toList := by
  simp [holdsNull]

/-- A path holds no NUL character if none of its names does. -/
theorem Path.hasNull_eq_false {p : Path} :
    p.hasNull = false ↔ ∀ name ∈ p.names, Char.ofNat 0 ∉ name.toList := by
  simp [hasNull, holdsNull]

/-- A longer path holds a NUL character if one of its two parts does. -/
theorem Path.hasNull_extend (p : Path) (names : List String) :
    (p.extend names).hasNull = (p.hasNull || (Path.mk p.anchor names).hasNull) := by
  simp [Path.hasNull, Path.extend]

namespace Disk

variable {d : Disk}

/-! ## Steps of a look-up -/

section Steps

variable {name : String} {names : List String}

/-- Names are steps themselves. -/
theorem steps_of_isName (h : ∀ name ∈ names, Path.IsName name) : steps names = names := by
  induction names with
  | nil => rfl
  | cons name names ih =>
    have hname : Path.IsName name := h name List.mem_cons_self
    have hsplit : Text.splitOn '/' name = [name] := by
      rw [Text.splitOn, Text.splitChars_of_not_mem hname.no_slash, List.map_singleton,
        String.ofList_toList]
    have hrest := ih fun other hother => h other (List.mem_cons_of_mem _ hother)
    rw [steps, List.flatMap_cons, hsplit]
    simp only [steps] at hrest
    simp [hrest, hname.ne_empty]

/-- The steps of names behind names. -/
theorem steps_append (names more : List String) : steps (names ++ more) = steps names ++ steps more :=
  List.flatMap_append

/-- The names on an absolute path that holds names only. -/
theorem absoluteSteps_eq {p : Path} (habsolute : p.isAbsolute = true) (h : p.IsCanonical) :
    d.absoluteSteps p = p.names := by
  rw [absoluteSteps, Path.join, if_pos habsolute, steps_of_isName h]

/-- Names behind a path are the last steps. -/
theorem absoluteSteps_extend (d : Disk) (p : Path) (h : ∀ name ∈ names, Path.IsName name) :
    d.absoluteSteps (p.extend names) = d.absoluteSteps p ++ names := by
  have hjoin : (d.current.join (p.extend names)).names = (d.current.join p).names ++ names := by
    unfold Path.join Path.isAbsolute
    cases hanchor : p.anchor <;> simp [hanchor]
  rw [absoluteSteps, absoluteSteps, hjoin, steps_append, steps_of_isName h]

end Steps

/-! ## One step after the other -/

section Locate

variable {links : Nat} {here rest : List String} {name : String}

/-- A look-up of no names stays where it is. -/
theorem locate_nil : d.locate links here [] = .ok here := by
  rw [locate]

/-- A dot is skipped. -/
theorem locate_dot : d.locate links here ("." :: rest) = d.locate links here rest := by
  rw [locate, if_pos rfl]

/-- Two dots lead up. -/
theorem locate_dots : d.locate links here (".." :: rest) = d.locate links here.dropLast rest := by
  rw [locate, if_neg (by decide), if_pos rfl]

/-- A missing entry is a place if no names follow. -/
theorem locate_missing (hdot : name ≠ ".") (hdots : name ≠ "..")
    (h : d.get? (here ++ [name]) = none) :
    d.locate links here (name :: rest) =
      if rest = [] then .ok (here ++ [name]) else .error .noEntry := by
  rw [locate, if_neg hdot, if_neg hdots, h]

/-- A file is a place if no names follow. -/
theorem locate_file {bytes : List UInt8} (hdot : name ≠ ".") (hdots : name ≠ "..")
    (h : d.get? (here ++ [name]) = some (.file bytes)) :
    d.locate links here (name :: rest) =
      if rest = [] then .ok (here ++ [name]) else .error .notDirectory := by
  rw [locate, if_neg hdot, if_neg hdots, h]

/-- A directory is entered. -/
theorem locate_directory (hdot : name ≠ ".") (hdots : name ≠ "..")
    (h : d.get? (here ++ [name]) = some .directory) :
    d.locate links here (name :: rest) = d.locate links (here ++ [name]) rest := by
  rw [locate, if_neg hdot, if_neg hdots, h]

/-- Where following a link starts. -/
def linkStart (here : List String) (target : String) : List String :=
  if target.startsWith "/" then [] else here

/-- A link is followed, and its names come first. -/
theorem locate_link {target : String} (hdot : name ≠ ".") (hdots : name ≠ "..")
    (h : d.get? (here ++ [name]) = some (.link target)) :
    d.locate (links + 1) here (name :: rest) =
      d.locate links (linkStart here target) (steps [target] ++ rest) := by
  rw [locate, if_neg hdot, if_neg hdots, h]
  rfl

/-- No link is followed after the last one that is allowed. -/
theorem locate_link_zero {target : String} (hdot : name ≠ ".") (hdots : name ≠ "..")
    (h : d.get? (here ++ [name]) = some (.link target)) :
    d.locate 0 here (name :: rest) = .error .linkLoop := by
  rw [locate, if_neg hdot, if_neg hdots, h]

end Locate

/-- Looking up names case by case: what a look-up finds is shown for all names by showing it for none
and for one more, which is a dot, two dots, missing, a file, a directory or a link. -/
theorem locate_induction (d : Disk) {motive : Nat → List String → List String → Prop}
    (nil : ∀ links here, motive links here [])
    (dot : ∀ links here rest, motive links here rest → motive links here ("." :: rest))
    (dots : ∀ links here rest, motive links here.dropLast rest → motive links here (".." :: rest))
    (missing : ∀ links here name rest, name ≠ "." → name ≠ ".." →
      d.get? (here ++ [name]) = none → motive links here (name :: rest))
    (file : ∀ links here name rest bytes, name ≠ "." → name ≠ ".." →
      d.get? (here ++ [name]) = some (.file bytes) → motive links here (name :: rest))
    (directory : ∀ links here name rest, name ≠ "." → name ≠ ".." →
      d.get? (here ++ [name]) = some .directory → motive links (here ++ [name]) rest →
      motive links here (name :: rest))
    (stuck : ∀ here name rest target, name ≠ "." → name ≠ ".." →
      d.get? (here ++ [name]) = some (.link target) → motive 0 here (name :: rest))
    (link : ∀ links here name rest target, name ≠ "." → name ≠ ".." →
      d.get? (here ++ [name]) = some (.link target) →
      motive links (linkStart here target) (steps [target] ++ rest) →
      motive (links + 1) here (name :: rest))
    (links : Nat) (here names : List String) : motive links here names := by
  induction links, here, names using locate.induct d with
  | case1 links here => exact nil links here
  | case2 links here rest ih => exact dot links here rest ih
  | case3 links here rest _ ih => exact dots links here rest ih
  | case4 links here name hdot hdots hget => exact missing links here name [] hdot hdots hget
  | case5 links here name rest hdot hdots hget => exact missing links here name rest hdot hdots hget
  | case6 links here name hdot hdots bytes hget => exact file links here name [] bytes hdot hdots hget
  | case7 links here name rest hdot hdots bytes hget =>
    exact file links here name rest bytes hdot hdots hget
  | case8 links here name rest hdot hdots hget ih =>
    exact directory links here name rest hdot hdots hget ih
  | case9 here name rest hdot hdots target hget =>
    exact stuck here name rest target hdot hdots hget
  | case10 here name rest hdot hdots target hget links start ih =>
    exact link links here name rest target hdot hdots hget ih

/-! ## Directories on the way -/

/-- Every directory from the root to a place is there. -/
def IsOpen (d : Disk) (here : List String) : Prop :=
  ∀ n, d.get? (here.take n) = some .directory

/-- Nothing stands above the root. -/
theorem isOpen_nil (d : Disk) : d.IsOpen [] := by
  intro n
  rw [List.take_nil]
  rfl

/-- There is a directory at the end of directories. -/
theorem IsOpen.get? {here : List String} (h : d.IsOpen here) : d.get? here = some .directory := by
  have hall := h here.length
  rwa [List.take_length] at hall

/-- Directories above a place are above the last one, too. -/
theorem IsOpen.dropLast {here : List String} (h : d.IsOpen here) : d.IsOpen here.dropLast := by
  intro n
  rw [List.dropLast_eq_take, List.take_take]
  exact h _

/-- A directory in a directory has directories above. -/
theorem IsOpen.concat {here : List String} {name : String} (h : d.IsOpen here)
    (hget : d.get? (here ++ [name]) = some .directory) : d.IsOpen (here ++ [name]) := by
  intro n
  by_cases hn : n ≤ here.length
  · rw [List.take_append_of_le_length hn]
    exact h n
  · rw [List.take_of_length_le (by simp; omega)]
    exact hget

/-- A link is followed from a directory. -/
theorem IsOpen.linkStart {here : List String} (h : d.IsOpen here) (target : String) :
    d.IsOpen (linkStart here target) := by
  unfold Disk.linkStart
  split
  · exact isOpen_nil d
  · exact h

/-- Where a look-up leads, the directory above is there, and all directories above that one. -/
theorem isOpen_of_locate {links : Nat} {here names place : List String} (hopen : d.IsOpen here)
    (h : d.locate links here names = .ok place) : d.IsOpen place.dropLast := by
  induction links, here, names using d.locate_induction with
  | nil links here =>
    rw [locate_nil] at h
    cases h
    exact hopen.dropLast
  | dot links here rest ih =>
    rw [locate_dot] at h
    exact ih hopen h
  | dots links here rest ih =>
    rw [locate_dots] at h
    exact ih hopen.dropLast h
  | missing links here name rest hdot hdots hget =>
    rw [locate_missing hdot hdots hget] at h
    split at h
    · cases h
      rw [List.dropLast_concat]
      exact hopen
    · cases h
  | file links here name rest bytes hdot hdots hget =>
    rw [locate_file hdot hdots hget] at h
    split at h
    · cases h
      rw [List.dropLast_concat]
      exact hopen
    · cases h
  | directory links here name rest hdot hdots hget ih =>
    rw [locate_directory hdot hdots hget] at h
    exact ih (hopen.concat hget) h
  | stuck here name rest target hdot hdots hget =>
    rw [locate_link_zero hdot hdots hget] at h
    cases h
  | link links here name rest target hdot hdots hget ih =>
    rw [locate_link hdot hdots hget] at h
    exact ih (hopen.linkStart target) h

/-! ## Continuing a look-up -/

/-- A look-up that leads to a directory is continued from there, with the links that are left. -/
theorem locate_append {links : Nat} {here names place : List String}
    (h : d.locate links here names = .ok place) (hplace : d.get? place = some .directory) :
    ∃ left ≤ links, ∀ rest, d.locate links here (names ++ rest) = d.locate left place rest := by
  induction links, here, names using d.locate_induction with
  | nil links here =>
    rw [locate_nil] at h
    cases h
    exact ⟨links, Nat.le_refl _, fun rest => rfl⟩
  | dot links here names ih =>
    rw [locate_dot] at h
    obtain ⟨left, hleft, hrest⟩ := ih h
    refine ⟨left, hleft, fun rest => ?_⟩
    rw [List.cons_append, locate_dot, hrest]
  | dots links here names ih =>
    rw [locate_dots] at h
    obtain ⟨left, hleft, hrest⟩ := ih h
    refine ⟨left, hleft, fun rest => ?_⟩
    rw [List.cons_append, locate_dots, hrest]
  | missing links here name names hdot hdots hget =>
    rw [locate_missing hdot hdots hget] at h
    split at h
    · cases h
      rw [hget] at hplace
      cases hplace
    · cases h
  | file links here name names bytes hdot hdots hget =>
    rw [locate_file hdot hdots hget] at h
    split at h
    · cases h
      rw [hget] at hplace
      cases hplace
    · cases h
  | directory links here name names hdot hdots hget ih =>
    rw [locate_directory hdot hdots hget] at h
    obtain ⟨left, hleft, hrest⟩ := ih h
    refine ⟨left, hleft, fun rest => ?_⟩
    rw [List.cons_append, locate_directory hdot hdots hget, hrest]
  | stuck here name names target hdot hdots hget =>
    rw [locate_link_zero hdot hdots hget] at h
    cases h
  | link links here name names target hdot hdots hget ih =>
    rw [locate_link hdot hdots hget] at h
    obtain ⟨left, hleft, hrest⟩ := ih h
    refine ⟨left, Nat.le_succ_of_le hleft, fun rest => ?_⟩
    rw [List.cons_append, locate_link hdot hdots hget, ← List.append_assoc, hrest]

/-- A look-up beyond some names leads through the directory that they lead to. -/
theorem exists_locate_of_append {links : Nat} {here names rest place : List String}
    (hopen : d.IsOpen here) (hrest : rest ≠ [])
    (h : d.locate links here (names ++ rest) = .ok place) :
    ∃ base, d.locate links here names = .ok base ∧ d.IsOpen base := by
  induction links, here, names using d.locate_induction with
  | nil links here => exact ⟨here, locate_nil, hopen⟩
  | dot links here names ih =>
    rw [List.cons_append, locate_dot] at h
    rw [locate_dot]
    exact ih hopen h
  | dots links here names ih =>
    rw [List.cons_append, locate_dots] at h
    rw [locate_dots]
    exact ih hopen.dropLast h
  | missing links here name names hdot hdots hget =>
    rw [List.cons_append, locate_missing hdot hdots hget, if_neg (by simp [hrest])] at h
    cases h
  | file links here name names bytes hdot hdots hget =>
    rw [List.cons_append, locate_file hdot hdots hget, if_neg (by simp [hrest])] at h
    cases h
  | directory links here name names hdot hdots hget ih =>
    rw [List.cons_append, locate_directory hdot hdots hget] at h
    rw [locate_directory hdot hdots hget]
    exact ih (hopen.concat hget) h
  | stuck here name names target hdot hdots hget =>
    rw [List.cons_append, locate_link_zero hdot hdots hget] at h
    cases h
  | link links here name names target hdot hdots hget ih =>
    rw [List.cons_append, locate_link hdot hdots hget, ← List.append_assoc] at h
    rw [locate_link hdot hdots hget]
    exact ih (hopen.linkStart target) h

/-- Where a look-up fails, it also fails for names with more behind them. -/
theorem locate_append_of_error {links : Nat} {here names : List String} {e : SystemError}
    (h : d.locate links here names = .error e) (rest : List String) :
    d.locate links here (names ++ rest) = .error e := by
  induction links, here, names using d.locate_induction with
  | nil links here =>
    rw [locate_nil] at h
    cases h
  | dot links here names ih =>
    rw [locate_dot] at h
    rw [List.cons_append, locate_dot]
    exact ih h
  | dots links here names ih =>
    rw [locate_dots] at h
    rw [List.cons_append, locate_dots]
    exact ih h
  | missing links here name names hdot hdots hget =>
    rw [locate_missing hdot hdots hget] at h
    rw [List.cons_append, locate_missing hdot hdots hget]
    split at h
    · cases h
    · rename_i hnames
      rwa [if_neg (by simp [hnames])]
  | file links here name names bytes hdot hdots hget =>
    rw [locate_file hdot hdots hget] at h
    rw [List.cons_append, locate_file hdot hdots hget]
    split at h
    · cases h
    · rename_i hnames
      rwa [if_neg (by simp [hnames])]
  | directory links here name names hdot hdots hget ih =>
    rw [locate_directory hdot hdots hget] at h
    rw [List.cons_append, locate_directory hdot hdots hget]
    exact ih h
  | stuck here name names target hdot hdots hget =>
    rw [locate_link_zero hdot hdots hget] at h
    rw [List.cons_append, locate_link_zero hdot hdots hget]
    exact h
  | link links here name names target hdot hdots hget ih =>
    rw [locate_link hdot hdots hget] at h
    rw [List.cons_append, locate_link hdot hdots hget, ← List.append_assoc]
    exact ih h

/-- Names that lead down, with a directory at every step, are followed as they are. -/
theorem locate_of_isOpen {links : Nat} {here names rest : List String}
    (hnames : ∀ name ∈ names, IsStepName name) (hopen : d.IsOpen (here ++ names)) :
    d.locate links here (names ++ rest) = d.locate links (here ++ names) rest := by
  induction names generalizing here with
  | nil => rw [List.nil_append, List.append_nil]
  | cons name names ih =>
    have hname : IsStepName name := hnames name List.mem_cons_self
    have hget : d.get? (here ++ [name]) = some .directory := by
      have htake := hopen (here.length + 1)
      rwa [List.take_append, List.take_of_length_le (by omega), Nat.add_sub_cancel_left,
        List.take_succ_cons, List.take_zero] at htake
    rw [List.append_cons] at hopen
    rw [List.cons_append, locate_directory hname.ne_dot hname.ne_dots hget,
      ih (fun other hother => hnames other (List.mem_cons_of_mem _ hother)) hopen,
      List.append_assoc, List.singleton_append]

/-! ## What a path leads to -/

section Find

variable {p : Path} {e : Entry}

/-- Where a path leads, all links followed. -/
def place (d : Disk) (p : Path) : Except SystemError (List String) :=
  d.locate maxLinks [] (d.absoluteSteps p)

/-- What a path leads to is the entry at its place. -/
theorem find_eq_ok :
    d.find p = .ok e ↔ ∃ place, d.place p = .ok place ∧ d.get? place = some e := by
  unfold find Disk.place
  rw [bind_eq_ok]
  constructor
  · rintro ⟨place, hplace, h⟩
    cases hget : d.get? place with
    | none =>
      rw [hget] at h
      cases h
    | some other =>
      rw [hget] at h
      cases h
      exact ⟨place, hplace, hget⟩
  · rintro ⟨place, hplace, hget⟩
    refine ⟨place, hplace, ?_⟩
    rw [hget]

/-- A path leads to a file if it can be looked up and there is one. -/
theorem isFile_iff :
    d.isFile p = true ↔ p.hasNull = false ∧ ∃ bytes, d.find p = .ok (.file bytes) := by
  unfold isFile
  cases hfind : d.find p with
  | error e => simp
  | ok e => cases e <;> simp

/-- A path leads to a directory if it can be looked up and there is one. -/
theorem isDirectory_iff :
    d.isDirectory p = true ↔ p.hasNull = false ∧ d.find p = .ok .directory := by
  unfold isDirectory
  cases hfind : d.find p with
  | error e => simp
  | ok e => cases e <;> simp

/-- A path leads to something if it can be looked up and there is an entry. -/
theorem isPresent_iff :
    d.isPresent p = true ↔ p.hasNull = false ∧ ∃ e, d.find p = .ok e := by
  unfold isPresent
  cases hfind : d.find p <;> simp [Except.isOk, Except.toBool]

/-- Bytes are read from the file that a path leads to. -/
theorem read_eq_ok {bytes : List UInt8} :
    d.read p = .ok bytes ↔ p.hasNull = false ∧ d.find p = .ok (.file bytes) := by
  unfold read
  cases hnull : p.hasNull with
  | true => simp
  | false =>
    cases hfind : d.find p with
    | error e => simp
    | ok e => cases e <;> simp

/-- A path leads to a file if there is one at its place. -/
theorem isFile_iff_place : d.isFile p = true ↔
    p.hasNull = false ∧ ∃ place bytes, d.place p = .ok place ∧ d.get? place = some (.file bytes) := by
  rw [isFile_iff, exists_comm]
  simp only [find_eq_ok]

/-- A path leads to a directory if there is one at its place. -/
theorem isDirectory_iff_place : d.isDirectory p = true ↔
    p.hasNull = false ∧ ∃ place, d.place p = .ok place ∧ d.get? place = some .directory := by
  rw [isDirectory_iff, find_eq_ok]

/-- A path leads to something if there is an entry at its place. -/
theorem isPresent_iff_place : d.isPresent p = true ↔
    p.hasNull = false ∧ ∃ place e, d.place p = .ok place ∧ d.get? place = some e := by
  rw [isPresent_iff, exists_comm]
  simp only [find_eq_ok]

/-- Bytes are read from the file at the place of a path. -/
theorem read_eq_ok_iff_place {bytes : List UInt8} : d.read p = .ok bytes ↔
    p.hasNull = false ∧ ∃ place, d.place p = .ok place ∧ d.get? place = some (.file bytes) := by
  rw [read_eq_ok, find_eq_ok]

/-- A path leads to a file if and only if it can be read. -/
theorem isFile_iff_read : d.isFile p = true ↔ ∃ bytes, d.read p = .ok bytes := by
  rw [isFile_iff]
  simp only [read_eq_ok, exists_and_left]

end Find

end Disk

end Bundler
