import Bundler.Proofs.Graph.Edges
import Bundler.Proofs.Graph.Sources
import Bundler.Proofs.Path.Location
import Bundler.Proofs.Reference.Below

/-!
# Two spellings of a reference

A dotted reference with names can be spelled as a path: one dot, two dots for every further dot, and
the names between slashes. Both spellings climb alike, no further than to the root, and have the same
candidates, except that the path is also tried as it is. All candidates are locations, so that
resolving returns the very candidate that is a file, and both spellings lead to one record.
-/

set_option autoImplicit false

namespace Bundler

variable {cwd directory : Path} {suffixes : List String}

namespace DottedReference

variable {r : DottedReference}

/-- A dotted reference spelled as a path. -/
def pathSpelling (r : DottedReference) : String :=
  "/".intercalate ("." :: (List.replicate (r.dots - 1) ".." ++ r.names))

/-- The place that a dotted reference names, without a suffix. -/
def bare (r : DottedReference) (directory : Path) : Path :=
  (r.base directory).extend r.names

/-! ## The path -/

/-- The steps of a reference are names. -/
theorem IsReadable.isName_climb (h : r.IsReadable) :
    ∀ name ∈ List.replicate (r.dots - 1) ".." ++ r.names, Path.IsName name := by
  intro name hname
  rcases List.mem_append.mp hname with hdots | hmem
  · rw [List.eq_of_mem_replicate hdots]
    exact Path.isName_dots
  · exact (h.isStepName name hmem).toIsName

/-- The path is read as names `..` and the names of the reference; the single dot is passed over. -/
theorem IsReadable.ofString_pathSpelling (h : r.IsReadable) (hne : r.names ≠ []) :
    Path.ofString r.pathSpelling = ⟨.relative, List.replicate (r.dots - 1) ".." ++ r.names⟩ := by
  have hnames := h.isName_climb
  have hclimb : List.replicate (r.dots - 1) ".." ++ r.names ≠ [] := by simp [hne]
  generalize hlist : List.replicate (r.dots - 1) ".." ++ r.names = names at hnames hclimb
  have hsplit : Text.splitChars '/' r.pathSpelling.toList = ("." :: names).map String.toList := by
    rw [pathSpelling, hlist, String.toList_intercalate]
    refine Text.splitChars_intercalate (by simp) ?_
    rw [List.forall_mem_map, List.forall_mem_cons]
    exact ⟨by decide, fun name hname => (hnames name hname).no_slash⟩
  have hpieces : Path.namesOf r.pathSpelling = names := by
    have hback : names.map (String.ofList ∘ String.toList) = names := by simp
    rw [Path.namesOf, Text.splitOn, hsplit, List.map_map, List.map_cons, hback,
      List.filter_cons_of_neg (by decide), List.filter_eq_self]
    intro name hname
    simp [(hnames name hname).ne_empty, (hnames name hname).ne_dot]
  have hanchor : r.pathSpelling.toList.takeWhile (· == '/') = [] := by
    rw [pathSpelling, hlist, String.toList_intercalate]
    cases names with
    | nil => exact absurd rfl hclimb
    | cons name names => rfl
  rw [Path.ofString, hpieces, hanchor]
  rfl

/-- The path leads from a location to the place that the reference names. -/
theorem IsReadable.normalize_pathSpelling (h : r.IsReadable) (hne : r.names ≠ [])
    (hdirectory : directory.IsLocation) (cwd : Path) :
    (directory / r.pathSpelling).normalize cwd = r.bare directory := by
  have hdiv : directory / r.pathSpelling =
      directory.extend (List.replicate (r.dots - 1) ".." ++ r.names) := by
    change directory.join (Path.ofString r.pathSpelling) = _
    rw [h.ofString_pathSpelling hne]
    rfl
  rw [hdiv, hdirectory.normalize_climb _ h.isStepName]
  rfl

/-- No slash stands in a dotted reference. -/
theorem IsReadable.slash_not_mem_text (h : r.IsReadable) : '/' ∉ r.text.toList := by
  rw [text_eq, String.toList_ofList, List.mem_append]
  rintro (hdot | hjoined)
  · exact absurd (List.eq_of_mem_replicate hdot) (by decide)
  · rcases mem_joined hjoined with hdot | ⟨name, hname, hslash⟩
    · exact absurd hdot (by decide)
    · exact (h.isStepName name hname).no_slash hslash

/-- A reference with names is spelled as a path with a slash. -/
theorem slash_mem_pathSpelling (hne : r.names ≠ []) : '/' ∈ r.pathSpelling.toList := by
  obtain ⟨name, names, hnames⟩ :=
    List.exists_cons_of_ne_nil (List.append_ne_nil_of_right_ne_nil
      (List.replicate (r.dots - 1) "..") hne)
  rw [pathSpelling, hnames, String.toList_intercalate]
  simp [List.intercalate]

/-- The path is not read as a dotted reference. -/
theorem ofString?_pathSpelling (hne : r.names ≠ []) : ofString? r.pathSpelling = none := by
  have hslash := slash_mem_pathSpelling hne
  rw [Option.eq_none_iff_forall_ne_some]
  intro other hother
  obtain ⟨hreadable, htext | htext⟩ := isReadable_of_ofString? hother
  · rw [htext] at hslash
    exact hreadable.slash_not_mem_text hslash
  · rw [htext, String.toList_append, List.mem_append] at hslash
    rcases hslash with hslash | hslash
    · exact hreadable.slash_not_mem_text hslash
    · exact absurd hslash (by decide)

/-! ## Candidates -/

/-- The files of the place that a reference names: with every suffix, and in the package there. -/
theorem candidates_eq_map (hne : r.names ≠ []) (directory : Path) (suffixes : List String) :
    r.candidates directory suffixes =
      (suffixes.mapM (r.bare directory).withSuffix).map
        (· ++ initializers (r.bare directory) suffixes) := by
  have hbase : climb directory (r.dots - 1) = r.base directory := Path.climb_eq directory _
  unfold DottedReference.candidates
  rw [hbase]
  split
  · exact absurd ‹_› hne
  · change (suffixes.mapM (r.bare directory).withSuffix >>= fun files =>
      .ok (files ++ initializers (r.bare directory) suffixes)) = _
    cases suffixes.mapM (r.bare directory).withSuffix <;> rfl

/-- The candidates of the path are those of the dotted reference, behind the bare path; where the
former cannot be formed, neither can the latter. -/
theorem IsReadable.candidates_pathSpelling (h : r.IsReadable) (hne : r.names ≠ [])
    (hdirectory : directory.IsLocation) (cwd : Path) (suffixes : List String) :
    Bundler.candidates cwd directory r.pathSpelling suffixes =
      (Bundler.candidates cwd directory r.text suffixes).map (r.bare directory :: ·) := by
  have hspelling : r.pathSpelling ≠ "" := by
    intro hempty
    have hslash := slash_mem_pathSpelling hne
    rw [hempty] at hslash
    cases hslash
  rw [Bundler.candidates, if_neg hspelling, ofString?_pathSpelling hne,
    Bundler.candidates, if_neg h.text_ne_empty, h.ofString?_text]
  dsimp only
  rw [h.normalize_pathSpelling hne hdirectory, candidates_eq_map hne]
  cases suffixes.mapM (r.bare directory).withSuffix <;> rfl

/-- All candidates of a dotted reference are locations, and so is the bare path. -/
theorem IsReadable.isLocation_files (h : r.IsReadable) (hdirectory : directory.IsLocation)
    (hsuffixes : ∀ x ∈ suffixes, '/' ∉ x.toList) :
    ∀ file ∈ r.bare directory :: r.files directory suffixes, file.IsLocation := by
  have hbase : (r.base directory).IsLocation := hdirectory.take _
  rw [List.forall_mem_cons]
  refine ⟨hbase.extend h.isStepName, ?_⟩
  intro file hfile
  rw [r.files_eq, List.mem_map] at hfile
  obtain ⟨tail, htail, rfl⟩ := hfile
  exact hbase.extend (h.isStepName_of_mem_tails hsuffixes tail htail)

end DottedReference

/-- A reference whose candidates can be formed and are locations, so that resolving it returns the
first of them that is a file, as it has been tried. -/
structure TriesLocations (directory : Path) (reference : String) (suffixes : List String) : Prop where
  /-- The candidates are locations. -/
  isLocation : ∀ cwd, ∃ tried, candidates cwd directory reference suffixes = .ok tried ∧
    ∀ file ∈ tried, file.IsLocation
  /-- What resolving returns is a candidate. -/
  resolve_iff : ∀ (d : Disk) (referrer : String) (tried : List Path) (location : Path),
    candidates d.current directory reference suffixes = .ok tried →
    (resolve d directory reference referrer suffixes = .ok location ↔
      tried.find? d.isFile = some location)

/-- A reference whose candidates are locations tries locations. -/
theorem triesLocations_of_candidates {reference : String}
    (h : ∀ cwd, ∃ tried, candidates cwd directory reference suffixes = .ok tried ∧
      ∀ file ∈ tried, file.IsLocation) : TriesLocations directory reference suffixes where
  isLocation := h
  resolve_iff := by
    intro d referrer tried location htried
    obtain ⟨other, hother, hlocations⟩ := h d.current
    obtain rfl := Except.ok.inj (htried.symm.trans hother)
    rw [resolve_eq_ok]
    constructor
    · rintro ⟨tried', file, htried', hfile, rfl⟩
      obtain rfl := Except.ok.inj (htried.symm.trans htried')
      rw [(hlocations file (List.mem_of_find?_eq_some hfile)).normalize_eq, hfile]
    · intro hfile
      refine ⟨tried, location, htried, hfile, ?_⟩
      exact ((hlocations location (List.mem_of_find?_eq_some hfile)).normalize_eq _).symm

/-! ## Records -/

/-- Where the bare path is no file, both spellings resolve to the same location. -/
theorem DottedReference.IsReadable.resolve_eq {d : Disk} {r : DottedReference} (h : r.IsReadable)
    (hne : r.names ≠ []) (hdirectory : directory.IsLocation)
    (hbare : d.isFile (r.bare directory) = false) {referrer referrer' : String} {location other : Path}
    (hdotted : resolve d directory r.text referrer suffixes = .ok location)
    (hpath : resolve d directory r.pathSpelling referrer' suffixes = .ok other) :
    location = other := by
  obtain ⟨tried, file, htried, hfile, rfl⟩ := resolve_eq_ok.mp hdotted
  obtain ⟨tried', file', htried', hfile', rfl⟩ := resolve_eq_ok.mp hpath
  rw [h.candidates_pathSpelling hne hdirectory, htried] at htried'
  obtain rfl := Except.ok.inj htried'
  rw [List.find?_cons_of_neg (by simp [hbare]), hfile] at hfile'
  rw [Option.some.inj hfile']

/-- Two references of records of a graph that resolve to the same location lead to the same record, if
there is one record for each file. -/
theorem Builder.eq_of_resolve_eq {b : Builder} {entry : String} {g : ModuleGraph}
    (hpolicy : b.settings.policy = .perLocation) (h : (b.run entry).outcome = .ok g)
    {x y : ModuleRecord} (hx : x ∈ g.records) (hy : y ∈ g.records) {reference other : String}
    {i j : Int} (hi : (reference, i) ∈ x.referenceMap) (hj : (other, j) ∈ y.referenceMap)
    (hresolve : ∀ location location',
      resolve b.disk (Path.ofString x.location).parent reference x.location b.settings.suffixes =
        .ok location →
      resolve b.disk (Path.ofString y.location).parent other y.location b.settings.suffixes =
        .ok location' → location = location') : i = j := by
  obtain ⟨target, htarget, location, rfl, hlocation, hleads⟩ := exists_target_of_run h hx hi
  obtain ⟨target', htarget', location', rfl, hlocation', hleads'⟩ := exists_target_of_run h hy hj
  obtain rfl := hresolve _ _ hleads hleads'
  have hsame := List.inj_on_of_nodup_map (nodup_locations_of_run hpolicy h) htarget htarget'
    (hlocation.trans hlocation'.symm)
  rw [hsame]

/-- The dotted and the path spelling of a reference with names, from any location, have the same
candidates but for the bare path, which the path spelling tries first. If no suffix holds a slash,
all of them are locations, so that resolving either spelling returns the first candidate that is a
file. With one record for each file, both spellings lead to the same record, unless the bare path is
a file itself. -/
theorem spellings_agree (r : DottedReference) (directory : Path) (suffixes : List String)
    (hr : r.IsReadable) (hnames : r.names ≠ []) (hdirectory : directory.IsLocation) :
    (∀ cwd, candidates cwd directory r.pathSpelling suffixes =
      (candidates cwd directory r.text suffixes).map (r.bare directory :: ·)) ∧
    ((∀ suffix ∈ suffixes, '/' ∉ suffix.toList) →
      TriesLocations directory r.text suffixes ∧
      TriesLocations directory r.pathSpelling suffixes) ∧
    ∀ (b : Builder) (entry : String) (g : ModuleGraph), b.settings.policy = .perLocation →
      b.settings.suffixes = suffixes → (b.run entry).outcome = .ok g →
      b.disk.isFile (r.bare directory) = false →
      ∀ x ∈ g.records, ∀ y ∈ g.records, (Path.ofString x.location).parent = directory →
      (Path.ofString y.location).parent = directory →
      ∀ i j, (r.text, i) ∈ x.referenceMap → (r.pathSpelling, j) ∈ y.referenceMap → i = j := by
  have hcandidates := fun cwd => hr.candidates_pathSpelling hnames hdirectory cwd suffixes
  refine ⟨hcandidates, ?_, ?_⟩
  · intro hsuffixes
    have hlocations := hr.isLocation_files hdirectory hsuffixes
    have hdotted := fun cwd => hr.candidates_text cwd directory hsuffixes
    constructor <;> apply triesLocations_of_candidates
    · intro cwd
      exact ⟨_, hdotted cwd, (List.forall_mem_cons.mp hlocations).2⟩
    · intro cwd
      refine ⟨_, ?_, hlocations⟩
      rw [hcandidates, hdotted]
      rfl
  · rintro b entry g hpolicy rfl hg hbare x hx y hy hparent hparent' i j hi hj
    refine Builder.eq_of_resolve_eq hpolicy hg hx hy hi hj ?_
    rw [hparent, hparent']
    intro location location'
    exact hr.resolve_eq hnames hdirectory hbare

/-- A module that refers to a package above its directory in both spellings. -/
def bothSpellings : Builder where
  frontend := fun location =>
    if location.name = "m.py" then .ok ⟨["..a.b", "./../a/b"], "x = 1"⟩ else .ok ⟨[], "y = 2"⟩
  disk :=
    { entries := [(["w"], .directory), (["w", "a"], .directory), (["w", "a", "b"], .directory),
        (["w", "a", "b", "__init__.x.py"], .file [])]
      current := ⟨.root, []⟩ }
  settings := { suffixes := [".x.py"] }

/-- The reference of the module to the package. -/
theorem isReadable_bothSpellings : (DottedReference.mk 2 ["a", "b"]).IsReadable :=
  ⟨by decide, by decide⟩

/-- The directory is a location. -/
theorem isLocation_bothSpellings : (⟨.root, ["w", "p.q"]⟩ : Path).IsLocation := by
  have hfirst : IsStepName "w" := ⟨⟨by decide, by decide, by decide⟩, by decide⟩
  have hsecond : IsStepName "p.q" := ⟨⟨by decide, by decide, by decide⟩, by decide⟩
  have hstep : ∀ name ∈ ["w", "p.q"], IsStepName name := by
    simp only [List.forall_mem_cons]
    exact ⟨hfirst, hsecond, nofun⟩
  exact Path.isLocation_iff.mpr ⟨rfl, hstep⟩

/-- Both spellings have these candidates. -/
theorem candidates_bothSpellings :
    candidates ⟨.root, []⟩ ⟨.root, ["w", "p.q"]⟩ "..a.b" [".x.py"] =
      .ok [⟨.root, ["w", "a", "b.x.py"]⟩, ⟨.root, ["w", "a", "b", "__init__.x.py"]⟩] :=
  isReadable_bothSpellings.candidates_text _ _ (by decide)

/-- The graph of the module has two records, and both spellings lead to the second one. -/
theorem exists_run_bothSpellings :
    ∃ g, (bothSpellings.run "/w/p.q/m.py").outcome = .ok g ∧ g.records =
      [⟨0, "/w/p.q/m.py", ["..a.b", "./../a/b"], "x = 1", [("..a.b", 1), ("./../a/b", 1)]⟩,
        ⟨1, "/w/a/b/__init__.x.py", [], "y = 2", []⟩] := by
  have hx : bothSpellings.Explores "/w/p.q/m.py"
      ⟨[⟨⟨.root, ["w", "p.q", "m.py"]⟩, []⟩], [],
        [⟨0, ⟨.root, ["w", "p.q", "m.py"]⟩, [0], "..a.b"⟩,
          ⟨0, ⟨.root, ["w", "p.q", "m.py"]⟩, [1], "./../a/b"⟩]⟩ :=
    ⟨by decide, ⟨⟨["..a.b", "./../a/b"], "x = 1"⟩, by cbv⟩, .refl⟩
  have hdotted : bothSpellings.target ⟨.root, ["w", "p.q", "m.py"]⟩ "..a.b" =
      .ok ⟨.root, ["w", "a", "b", "__init__.x.py"]⟩ :=
    resolve_eq_ok.mpr ⟨_, _, candidates_bothSpellings, by cbv, by decide⟩
  have hpath : bothSpellings.target ⟨.root, ["w", "p.q", "m.py"]⟩ "./../a/b" =
      .ok ⟨.root, ["w", "a", "b", "__init__.x.py"]⟩ := by
    refine resolve_eq_ok.mpr ⟨_, _, (isReadable_bothSpellings.candidates_pathSpelling (by decide)
      isLocation_bothSpellings _ _).trans (congrArg _ candidates_bothSpellings), by cbv, by decide⟩
  have hcompiled : bothSpellings.frontend ⟨.root, ["w", "a", "b", "__init__.x.py"]⟩ =
      .ok ⟨[], "y = 2"⟩ := by cbv
  have hknown : bothSpellings.known? [⟨⟨.root, ["w", "p.q", "m.py"]⟩, []⟩,
      ⟨⟨.root, ["w", "a", "b", "__init__.x.py"]⟩, [0]⟩]
      ⟨.root, ["w", "a", "b", "__init__.x.py"]⟩ = some 1 := by decide
  have hfirst := hx.step (.fresh hdotted (by decide) (by decide) hcompiled)
  obtain ⟨g, hg, hrecords⟩ := (hfirst.step (.seen hpath hknown)).run_complete rfl
  exact ⟨g, hg, hrecords⟩

/-- The bare path `/w/a/b` is a directory, and both references of the module obtain the record of the
package there. -/
theorem spellings_agree_package :
    (DottedReference.mk 2 ["a", "b"]).text = "..a.b" ∧
    (DottedReference.mk 2 ["a", "b"]).pathSpelling = "./../a/b" ∧
    candidates ⟨.root, []⟩ ⟨.root, ["w", "p.q"]⟩ "./../a/b" [".x.py"] =
      .ok [⟨.root, ["w", "a", "b"]⟩, ⟨.root, ["w", "a", "b.x.py"]⟩,
        ⟨.root, ["w", "a", "b", "__init__.x.py"]⟩] ∧
    TriesLocations ⟨.root, ["w", "p.q"]⟩ "./../a/b" [".x.py"] ∧
    ∃ g, (bothSpellings.run "/w/p.q/m.py").outcome = .ok g ∧
      ∃ x ∈ g.records, ("..a.b", 1) ∈ x.referenceMap ∧
        ∀ j, ("./../a/b", j) ∈ x.referenceMap → 1 = j := by
  obtain ⟨hcandidates, htries, hsame⟩ := spellings_agree ⟨2, ["a", "b"]⟩ ⟨.root, ["w", "p.q"]⟩
    [".x.py"] isReadable_bothSpellings (by decide) isLocation_bothSpellings
  obtain ⟨g, hg, hrecords⟩ := exists_run_bothSpellings
  have hmem := hrecords ▸ List.mem_cons_self
  refine ⟨by decide, by decide, ?_, (htries (by decide)).2, g, hg, _, hmem, ?_, ?_⟩
  · exact (hcandidates ⟨.root, []⟩).trans (congrArg _ candidates_bothSpellings)
  · exact List.mem_cons_self
  · exact fun j hj => hsame bothSpellings _ g rfl rfl hg (by cbv) _ hmem _ hmem (by decide)
      (by decide) 1 j List.mem_cons_self hj

end Bundler
