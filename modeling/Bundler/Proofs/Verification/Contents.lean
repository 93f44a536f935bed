import Bundler.Proofs.Disk.Ascent
import Bundler.Proofs.Disk.Vacant
import Bundler.Proofs.Path.Canonical

/-!
# What a directory contains

The contents of a directory are listed under the paths of the files in it. On a proper disk no path is
listed twice, so that the contents are a map. Where files have been stored in an empty directory, this
map gives the bytes that were stored last under a name, and nothing else. The contents of a directory stay
while something new is made in a place apart.
-/

set_option autoImplicit false

namespace Bundler

/-- Names are read back from the path that they make. -/
theorem Path.intercalate_inj {names other : List String} (h : ∀ name ∈ names, Path.IsName name)
    (h' : ∀ name ∈ other, Path.IsName name)
    (heq : "/".intercalate names = "/".intercalate other) : names = other := by
  rw [← Path.namesOf_intercalate h, heq, Path.namesOf_intercalate h']

/-- A path of several names is no name itself. -/
theorem Path.not_isName_intercalate {names : List String} (h : ∀ name ∈ names, Path.IsName name)
    (hlength : names.length ≠ 1) : ¬ Path.IsName ("/".intercalate names) := by
  intro hname
  have hsingle : ∀ name ∈ ["/".intercalate names], Path.IsName name := by
    simpa using hname
  have hnames := Path.intercalate_inj h hsingle String.intercalate_singleton.symm
  exact hlength (congrArg List.length hnames)

namespace Disk

variable {d d' : Disk} {p : Path} {base names : List String} {files : List (String × List UInt8)}

/-- Listed are the names of the entries below a directory that are those of files. -/
theorem mem_filesBelow (hplace : d.place p = .ok base) :
    names ∈ d.filesBelow p ↔ names ≠ [] ∧ (∃ e, (base ++ names, e) ∈ d.entries) ∧
      d.isFile (p.extend names) = true := by
  have hlocate : d.locate maxLinks [] (d.absoluteSteps p) = .ok base := hplace
  unfold filesBelow
  rw [hlocate]
  simp only [List.mem_filterMap]
  constructor
  · rintro ⟨⟨place, e⟩, hmem, h⟩
    split at h
    · rename_i hbelow
      obtain ⟨hstart, hlength, hfile⟩ := hbelow
      obtain ⟨rest, rfl⟩ := List.isPrefixOf_iff_prefix.mp hstart
      rw [List.drop_left] at hfile
      rw [List.drop_left, Option.some.injEq] at h
      subst h
      refine ⟨?_, ⟨e, hmem⟩, hfile⟩
      rintro rfl
      simp at hlength
    · cases h
  · rintro ⟨hne, ⟨e, hmem⟩, hfile⟩
    refine ⟨_, hmem, ?_⟩
    have hlength : base.length < (base ++ names).length := by
      rw [List.length_append]
      exact Nat.lt_add_of_pos_right (List.length_pos_iff.mpr hne)
    rw [List.drop_left]
    exact if_pos ⟨List.isPrefixOf_iff_prefix.mpr (List.prefix_append _ _), hlength, hfile⟩

/-- The files in a directory are listed with their bytes. -/
theorem mem_contents (hplace : d.place p = .ok base) {path : String} {bytes : List UInt8} :
    (path, bytes) ∈ d.contents p ↔ ∃ names, path = "/".intercalate names ∧ names ≠ [] ∧
      (∃ e, (base ++ names, e) ∈ d.entries) ∧ d.read (p.extend names) = .ok bytes := by
  unfold contents
  rw [List.mem_filterMap]
  refine exists_congr fun names => ?_
  rw [mem_filesBelow hplace]
  rw [show (⟨p.anchor, p.names ++ names⟩ : Path) = p.extend names from rfl]
  cases hread : d.read (p.extend names) with
  | error e => simp
  | ok read =>
    rw [Option.some.injEq, Prod.mk.injEq, Except.ok.injEq]
    constructor
    · rintro ⟨⟨hne, hmem, _⟩, rfl, rfl⟩
      exact ⟨rfl, hne, hmem, rfl⟩
    · rintro ⟨rfl, hne, hmem, rfl⟩
      have hfile := isFile_iff_read.mpr ⟨_, hread⟩
      exact ⟨⟨hne, hmem, hfile⟩, rfl, rfl⟩

/-- Files are listed by names. -/
theorem IsProper.isName_of_mem_filesBelow (h : d.IsProper) (hplace : d.place p = .ok base)
    (hnames : names ∈ d.filesBelow p) : ∀ name ∈ names, Path.IsName name := by
  obtain ⟨_, ⟨e, hmem⟩, _⟩ := (mem_filesBelow hplace).mp hnames
  intro name hname
  exact (h.names _ hmem name (List.mem_append_right _ hname)).toIsName

/-- No file is listed twice. -/
theorem IsProper.nodup_filesBelow (h : d.IsProper) (p : Path) : (d.filesBelow p).Nodup := by
  unfold filesBelow
  cases d.locate maxLinks [] (d.absoluteSteps p) with
  | error e => exact .nil
  | ok base =>
    refine (List.pairwise_map.mp h.keys).filterMap _ ?_
    intro entry other hne names hnames names' hnames'
    simp only [Option.ite_none_right_eq_some, Option.some.injEq] at hnames hnames'
    obtain ⟨⟨hstart, _⟩, rfl⟩ := hnames
    obtain ⟨⟨hstart', _⟩, rfl⟩ := hnames'
    obtain ⟨rest, hrest⟩ := List.isPrefixOf_iff_prefix.mp hstart
    obtain ⟨rest', hrest'⟩ := List.isPrefixOf_iff_prefix.mp hstart'
    rw [← hrest, ← hrest', List.drop_left, List.drop_left]
    rintro rfl
    exact hne (hrest.symm.trans hrest')

/-- No path is listed twice. -/
theorem IsProper.nodup_contents (h : d.IsProper) (hplace : d.place p = .ok base) :
    ((d.contents p).map Prod.fst).Nodup := by
  have hpaths : (d.filesBelow p).Pairwise fun names other =>
      "/".intercalate names ≠ "/".intercalate other := by
    refine List.Pairwise.imp_of_mem ?_ (h.nodup_filesBelow p)
    intro names other hnames hother hne heq
    exact hne (Path.intercalate_inj (h.isName_of_mem_filesBelow hplace hnames)
      (h.isName_of_mem_filesBelow hplace hother) heq)
  refine List.pairwise_map.mpr (hpaths.filterMap _ ?_)
  intro names other hne file hfile file' hfile'
  split at hfile
  · split at hfile'
    · cases hfile
      cases hfile'
      exact hne
    · cases hfile'
  · cases hfile

/-- What is listed under a path is found there. -/
theorem IsProper.lookup_contents (h : d.IsProper) (hplace : d.place p = .ok base) {path : String}
    {bytes : List UInt8} :
    (d.contents p).lookup path = some bytes ↔ (path, bytes) ∈ d.contents p :=
  lookup_eq_some_iff_mem (h.nodup_contents hplace)

/-- The path of a directory leads to it. -/
theorem IsProper.place_root (h : d.IsProper) (hbase : d.get? base = some .directory) :
    d.place ⟨.root, base⟩ = .ok base := by
  have hnames := h.isEntryName hbase
  have hsteps : d.absoluteSteps ⟨.root, base⟩ = base :=
    absoluteSteps_eq rfl fun name hname => (hnames name hname).toIsName
  have hlocate : d.locate maxLinks [] (base ++ []) = d.locate maxLinks base [] :=
    locate_of_isOpen (fun name hname => (hnames name hname).toIsStepName) (h.isOpen hbase)
  rw [place, hsteps]
  rwa [List.append_nil, locate_nil] at hlocate

/-- A file in a directory is read under its name. -/
theorem IsProper.read_extend (h : d.IsProper) (hnull : p.hasNull = false)
    (hplace : d.place p = .ok base) {name : String} {bytes : List UInt8}
    (hget : d.get? (base ++ [name]) = some (.file bytes)) : d.read (p.extend [name]) = .ok bytes := by
  have hname : IsEntryName name := h.isEntryName hget name (by simp)
  have hplace' : d.place (p.extend [name]) = .ok (base ++ [name]) :=
    place_extend hplace (h.get?_parent hget) hname.toIsStepName (by simp [hget])
  refine read_eq_ok_iff_place.mpr ⟨?_, _, hplace', hget⟩
  rw [Path.hasNull_extend, hnull, Bool.false_or]
  exact hasNull_of_isEntryName (by simpa using hname)

/-- What is stored is a file under its name. -/
theorem storedAt_eq_some {e : Entry} :
    storedAt files names = some e ↔ ∃ name bytes, names = [name] ∧
      files.reverse.lookup name = some bytes ∧ e = .file bytes := by
  rcases names with _ | ⟨first, _ | ⟨next, rest⟩⟩
  · simp [storedAt]
  · simp [storedAt, eq_comm]
  · simp [storedAt]

/-- A directory contains the files that were stored in it. -/
theorem Contains.mem_contents_iff (h : d.Contains base files) (hproper : d.IsProper)
    (hnull : p.hasNull = false) (hplace : d.place p = .ok base) {path : String}
    {bytes : List UInt8} :
    (path, bytes) ∈ d.contents p ↔ files.reverse.lookup path = some bytes := by
  rw [mem_contents hplace]
  constructor
  · rintro ⟨names, rfl, hne, ⟨e, hmem⟩, hread⟩
    have hget := hproper.get?_of_mem hmem
    have hbelow := h.below names hne
    rw [hget, eq_comm, storedAt_eq_some] at hbelow
    obtain ⟨name, stored, rfl, hlookup, rfl⟩ := hbelow
    have hstored := hproper.read_extend hnull hplace hget
    rw [hread, Except.ok.injEq] at hstored
    rw [String.intercalate_singleton, hlookup, hstored]
  · intro hlookup
    have hget : d.get? (base ++ [path]) = some (.file bytes) := by
      rw [h.below [path] (by simp), storedAt, hlookup, Option.map_some]
    exact ⟨[path], String.intercalate_singleton.symm, by simp, ⟨_, mem_of_get? (by simp) hget⟩,
      hproper.read_extend hnull hplace hget⟩

/-- What is found under a path in a directory that files were stored in. -/
theorem Contains.lookup_contents (h : d.Contains base files) (hproper : d.IsProper)
    (hnull : p.hasNull = false) (hplace : d.place p = .ok base) (path : String) :
    (d.contents p).lookup path = files.reverse.lookup path := by
  apply Option.ext
  intro bytes
  rw [hproper.lookup_contents hplace, h.mem_contents_iff hproper hnull hplace]

/-- What is found under a path in a directory that files were stored in, where nothing stood before. -/
theorem IsProper.lookup_contents_of_store (h : d.IsProper) (hvacant : d.IsVacant p)
    (hnames : d.isPresent p = false → ∀ name ∈ p.names, IsStepName name) (hne : files ≠ [])
    (hfiles : ∀ file ∈ files, IsStepName file.1) (hstore : Disk.store p files d = .ok () d') :
    ((d'.contents p).map Prod.fst).Nodup ∧
      ∀ path, (d'.contents p).lookup path = files.reverse.lookup path := by
  have hproper : d'.IsProper := h.store hstore
  obtain ⟨base, hplace, hcontains⟩ := h.contains_of_store hvacant hnames hne hfiles hstore
  obtain ⟨file, hfile⟩ := List.exists_mem_of_ne_nil _ hne
  have hnull := hasNull_of_store hstore file hfile
  rw [Path.div_eq_extend (hfiles file hfile).toIsName, Path.hasNull_extend,
    Bool.or_eq_false_iff] at hnull
  exact ⟨hproper.nodup_contents hplace, hcontains.lookup_contents hproper hnull.1 hplace⟩

/-! ## A directory in another one -/

/-- What a path leads to is a directory or something in it. -/
def StandsIn (d : Disk) (p directory : Path) : Prop :=
  ∃ base place, d.place directory = .ok base ∧ d.place p = .ok place ∧ base <+: place

/-- A directory in another one is found from there. -/
theorem IsProper.place_extend_directory (h : d.IsProper) (hplace : d.place p = .ok base)
    (hget : d.get? (base ++ names) = some .directory) :
    d.place (p.extend names) = .ok (base ++ names) := by
  have hopen : d.IsOpen (base ++ names) := h.isOpen hget
  have hbase : d.get? base = some .directory := by
    have htake := hopen base.length
    rwa [List.take_left] at htake
  have hnames : ∀ name ∈ names, IsStepName name :=
    fun name hname => (h.isEntryName hget name (List.mem_append_right _ hname)).toIsStepName
  obtain ⟨left, _, hrest⟩ := locate_append hplace hbase
  have hlocate : d.locate left base (names ++ []) = d.locate left (base ++ names) [] :=
    locate_of_isOpen hnames hopen
  rw [List.append_nil, locate_nil] at hlocate
  rw [place, absoluteSteps_extend d p fun name hname => (hnames name hname).toIsName, hrest, hlocate]

/-- The files that were stored in a directory are listed in one above it, under longer paths. -/
theorem Contains.lookup_contents_above {rest : List String} {name : String} {bytes : List UInt8}
    (h : d.Contains (base ++ rest) files) (hproper : d.IsProper) (hnull : p.hasNull = false)
    (hplace : d.place p = .ok base) (hlookup : files.reverse.lookup name = some bytes) :
    (d.contents p).lookup ("/".intercalate (rest ++ [name])) = some bytes := by
  have hget : d.get? (base ++ rest ++ [name]) = some (.file bytes) := by
    rw [h.below [name] (by simp), storedAt, hlookup, Option.map_some]
  have hrest : (p.extend rest).hasNull = false := by
    rw [Path.hasNull_extend, hnull, Bool.false_or]
    exact hasNull_of_isEntryName fun other hother =>
      hproper.isEntryName h.directory other (List.mem_append_right _ hother)
  have hread := hproper.read_extend hrest (hproper.place_extend_directory hplace h.directory) hget
  have hextend : (p.extend rest).extend [name] = p.extend (rest ++ [name]) := by
    simp [Path.extend]
  rw [hextend] at hread
  rw [List.append_assoc] at hget
  rw [hproper.lookup_contents hplace, mem_contents hplace]
  exact ⟨_, rfl, by simp, ⟨_, mem_of_get? (by simp) hget⟩, hread⟩

/-! ## Something new in a place apart -/

/-- What stands in a directory is not in a new place elsewhere, since neither is above the other. -/
theorem IsProper.not_prefix_of_directory {place : List String} (h : d.IsProper)
    (hbase : d.get? base = some .directory) (hnew : d.get? place = none) (hout : ¬ base <+: place)
    (names : List String) : ¬ place <+: base ++ names := by
  intro hprefix
  rcases List.prefix_or_prefix_of_prefix hprefix (List.prefix_append base names) with hup | hdown
  · obtain ⟨rest, rfl⟩ := hup
    by_cases hrest : rest = []
    · rw [hrest, List.append_nil, hnew] at hbase
      cases hbase
    · rw [h.get?_append hrest (by simp [hnew])] at hbase
      cases hbase
  · exact hout hdown

/-- A directory keeps the files that were stored in it if all that changes is in a new place elsewhere. -/
theorem Contains.of_outside {place : List String} (h : d.Contains base files) (hproper : d.IsProper)
    (hnew : d.get? place = none) (hout : ¬ base <+: place)
    (hsame : ∀ names, ¬ place <+: names → d'.get? names = d.get? names) : d'.Contains base files where
  directory := by
    have hbase := hproper.not_prefix_of_directory h.directory hnew hout []
    rw [List.append_nil] at hbase
    exact (hsame base hbase).trans h.directory
  below := by
    intro rest hrest
    have hbelow := hproper.not_prefix_of_directory h.directory hnew hout rest
    exact (hsame _ hbelow).trans (h.below rest hrest)

/-- A place is apart from a directory: it is not in it, and no path of what stands in the directory leads
into the place, or up out of something new. -/
structure IsApart (before after : Disk) (directory : Path) (place : List String) : Prop where
  /-- The place is not in the directory. -/
  outside : ∀ base, before.place directory = .ok base → ¬ base <+: place
  /-- What stands in the directory is looked up without going up out of something new. -/
  staysOnOld : ∀ base names, before.place directory = .ok base → before.get? (base ++ names) ≠ none →
    StaysOnOld before after (directory.extend names)
  /-- What stands in the directory does not lead into the place. -/
  leadsOut : ∀ base names found, before.place directory = .ok base →
    before.get? (base ++ names) ≠ none → after.place (directory.extend names) = .ok found →
    ¬ place <+: found

/-- The contents of a directory stay if everything that is new is in a place apart. -/
theorem IsApart.lookup_contents {written : List (List String)} {place : List String}
    (h : IsApart d d' p place) (hgrows : Grows written d d') (hproper : d.IsProper)
    (hproper' : d'.IsProper) (hdirectory : d.isDirectory p = true) (hnew : d.get? place = none)
    (hsame : ∀ names, ¬ place <+: names → d'.get? names = d.get? names)
    (hwritten : ∀ other ∈ written, place <+: other ∧ d.get? other = none) (path : String) :
    (d'.contents p).lookup path = (d.contents p).lookup path := by
  obtain ⟨_, base, hplace, hbase⟩ := isDirectory_iff_place.mp hdirectory
  have hplace' : d'.place p = .ok base := hgrows.place_eq_ok hplace
  have hfree : ∀ other ∈ written, d.get? other = none := fun other hmem => (hwritten other hmem).2
  apply Option.ext
  intro bytes
  rw [hproper'.lookup_contents hplace', hproper.lookup_contents hplace, mem_contents hplace',
    mem_contents hplace]
  refine exists_congr fun names => and_congr_right fun _ => and_congr_right fun hne => ?_
  have hbelow : base ++ names ≠ [] := by simp [hne]
  constructor
  · rintro ⟨⟨e, hmem⟩, hread⟩
    have hapart := hproper.not_prefix_of_directory hbase hnew (h.outside base hplace) names
    have hget : d.get? (base ++ names) = some e := by
      rw [← hsame _ hapart]
      exact hproper'.get?_of_mem hmem
    have hthere : d.get? (base ++ names) ≠ none := by simp [hget]
    refine ⟨⟨e, mem_of_get? hbelow hget⟩, ?_⟩
    have hstays := h.staysOnOld base names hplace hthere
    obtain ⟨hnull, found, hfound, hbytes⟩ := read_eq_ok_iff_place.mp hread
    have hout := h.leadsOut base names found hplace hthere hfound
    rw [hsame found hout] at hbytes
    refine read_eq_ok_iff_place.mpr ⟨hnull, found, ?_, hbytes⟩
    rcases hgrows.place_eq_or hproper hstays with heq | ⟨_, _, hnone⟩
    · rwa [← heq]
    · rw [hnone found hfound] at hbytes
      cases hbytes
  · rintro ⟨⟨e, hmem⟩, hread⟩
    have hget := hproper.get?_of_mem hmem
    have hkept : base ++ names ∉ written := by
      intro hnames
      rw [hfree _ hnames] at hget
      cases hget
    exact ⟨⟨e, mem_of_get? hbelow (hgrows.kept _ _ hkept hget)⟩, hgrows.read hfree hread⟩

end Disk

end Bundler
