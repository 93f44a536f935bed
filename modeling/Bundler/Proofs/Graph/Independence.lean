import Bundler.Proofs.Artifact.Writing
import Bundler.Proofs.Disk.Editing
import Bundler.Proofs.Graph.Probes
import Bundler.Proofs.Import.Closure

/-!
# What a build does not depend on

The build of a graph has read the files of its records, and it has asked which candidates are files. On
a disk with the same files and the same answers the same graph is built, with the same artifacts. In
particular a file may be created, edited or deleted, unless the path of a record or a candidate that has
been tried leads to it. A path leads to a file also through links, so what counts is the place of the
file and not the text of a path.
-/

set_option autoImplicit false

namespace Bundler

/-- The file of a record has been read at a path. -/
def ModuleGraph.IsRead (g : ModuleGraph) (p : Path) : Prop :=
  ∃ r ∈ g.records, p = Path.ofString r.location

/-- A path has been tried as a candidate: of a reference of a record, or of a name that its module
imports and that may be a module. -/
def ModuleGraph.IsProbed (g : ModuleGraph) (d : Disk) (suffixes : List String) (p : Path) : Prop :=
  ∃ r ∈ g.records, ∃ reference, d.LooksFor suffixes (Path.ofString r.location) reference ∧
    d.Tries suffixes (Path.ofString r.location).parent reference p

/-- The graph of an entry module is built on a disk, and its artifacts have certain texts. -/
def Disk.Shows (d : Disk) (settings : Settings) (entry : String) (root : Path)
    (texts : ArtifactTexts) : Prop :=
  ∃ g, ((Builder.ofDisk d settings).run entry).outcome = .ok g ∧
    g.IsShownBy d.current root settings texts

/-- A graph is built on a disk, and its artifacts have the same texts as those from another disk. -/
structure Disk.BuildsAlike (d d' : Disk) (settings : Settings) (entry : String) (g : ModuleGraph) :
    Prop where
  graph : ((Builder.ofDisk d' settings).run entry).outcome = .ok g
  artifacts : ∀ root texts, d'.Shows settings entry root texts ↔ d.Shows settings entry root texts

variable {d d' : Disk} {settings : Settings} {entry : String} {g : ModuleGraph}

/-- Where a graph is built, every location that can be reached has a record. -/
theorem Builder.exists_record_of_reaches {b : Builder} (h : (b.run entry).outcome = .ok g)
    {location : Path} (hreaches : b.Reaches entry location) :
    ∃ r ∈ g.records, Path.ofString r.location = location := by
  obtain ⟨x, hx, hp, hrecords, _, _⟩ := exists_explores_of_ok h
  obtain ⟨v, hv, rfl⟩ := List.mem_map.mp ((hx.mem_locations_iff hp).mpr hreaches)
  obtain ⟨i, hi⟩ := List.getElem?_of_mem hv
  have hget : g.records[i]? = some (b.recordAt i v (x.mapOf i)) := by
    rw [hrecords, getElem?_recordsFrom, hi, Option.map_some, Nat.zero_add]
  exact ⟨_, List.mem_of_getElem? hget, Path.ofString_toString hreaches.isCanonical⟩

/-- A record is at a location that can be reached. -/
theorem Builder.reaches_of_record {b : Builder} (h : (b.run entry).outcome = .ok g)
    {r : ModuleRecord} (hr : r ∈ g.records) : b.Reaches entry (Path.ofString r.location) := by
  obtain ⟨x, hx, _, hrecords, _, _⟩ := exists_explores_of_ok h
  rw [hrecords] at hr
  obtain ⟨i, v, hv, rfl⟩ := exists_visit_of_mem_recordsFrom hr
  have hreaches := hx.reaches (List.mem_of_getElem? hv)
  rw [recordAt, Path.ofString_toString hreaches.isCanonical]
  exact hreaches

/-- A graph is built alike where its files are the same and the candidates that have been tried are. -/
theorem buildsAlike_of_agree
    (h : ((Builder.ofDisk d settings).run entry).outcome = .ok g)
    (hcurrent : d'.current = d.current)
    (hread : ∀ p bytes, g.IsRead p → d.read p = .ok bytes → d'.read p = .ok bytes)
    (hprobed : ∀ p, g.IsProbed d settings.suffixes p → d'.isFile p = d.isFile p) :
    d.BuildsAlike d' settings entry g := by
  have hgraph : ((Builder.ofDisk d' settings).run entry).outcome = .ok g := by
    refine Builder.run_ofDisk_eq hcurrent ?_ ?_ h
    · intro location bytes hreaches hbytes
      obtain ⟨r, hr, hlocation⟩ := Builder.exists_record_of_reaches h hreaches
      exact hread location bytes ⟨r, hr, hlocation.symm⟩ hbytes
    · rintro p ⟨location, reference, hreaches, hlooks, htries⟩
      obtain ⟨r, hr, rfl⟩ := Builder.exists_record_of_reaches h hreaches
      exact hprobed p ⟨r, hr, reference, hlooks, htries⟩
  refine ⟨hgraph, fun root texts => ?_⟩
  constructor
  · rintro ⟨g', hg', hshown⟩
    obtain rfl := Except.ok.inj (hgraph.symm.trans hg')
    exact ⟨g, h, hcurrent ▸ hshown⟩
  · rintro ⟨g', hg', hshown⟩
    obtain rfl := Except.ok.inj (h.symm.trans hg')
    exact ⟨g, hgraph, hcurrent.symm ▸ hshown⟩

/-- A graph is built alike after a change of a file that no path leads to which has been read or
tried. -/
theorem buildsAlike_of_changesFile
    (h : ((Builder.ofDisk d settings).run entry).outcome = .ok g) {place : List String}
    (hchanges : Disk.ChangesFile place d d')
    (helsewhere : ∀ p, g.IsRead p ∨ g.IsProbed d settings.suffixes p → d.place p ≠ .ok place) :
    d.BuildsAlike d' settings entry g := by
  refine buildsAlike_of_agree h hchanges.current ?_ ?_
  · intro p bytes hp hbytes
    exact (hchanges.read_eq_ok (helsewhere p (.inl hp))).mpr hbytes
  · intro p hp
    exact hchanges.isFile_eq (helsewhere p (.inr hp))

/-- A build depends on the files of its records and on the candidates that it has tried. Elsewhere a
file may be created, edited or deleted. -/
theorem run_depends_on_reads
    (h : ((Builder.ofDisk d settings).run entry).outcome = .ok g) :
    (∀ d', d'.current = d.current →
      (∀ p bytes, g.IsRead p → d.read p = .ok bytes → d'.read p = .ok bytes) →
      (∀ p, g.IsProbed d settings.suffixes p → d'.isFile p = d.isFile p) →
      d.BuildsAlike d' settings entry g) ∧
    (∀ place d', Disk.ChangesFile place d d' →
      (∀ p, g.IsRead p ∨ g.IsProbed d settings.suffixes p → d.place p ≠ .ok place) →
      d.BuildsAlike d' settings entry g) ∧
    (∀ file bytes d', d.write file bytes = .ok d' →
      (∀ p, g.IsRead p ∨ g.IsProbed d settings.suffixes p → d.place p ≠ d.place file) →
      d.BuildsAlike d' settings entry g) ∧
    ∀ place bytes, d.IsProper → d.get? place = some (.file bytes) →
      (∀ p, g.IsRead p ∨ g.IsProbed d settings.suffixes p → d.place p ≠ .ok place) →
      d.BuildsAlike (d.remove place) settings entry g := by
  refine ⟨fun d' => buildsAlike_of_agree h, fun place d' => buildsAlike_of_changesFile h, ?_, ?_⟩
  · intro file bytes d' hwrite helsewhere
    obtain ⟨place, hplace, hchanges⟩ := Disk.changesFile_write hwrite
    rw [hplace] at helsewhere
    exact buildsAlike_of_changesFile h hchanges helsewhere
  · intro place bytes hproper hfile helsewhere
    exact buildsAlike_of_changesFile h (hproper.changesFile_remove hfile) helsewhere

/-! ## A module that requires itself -/

/-- Only the module itself can be reached. -/
theorem eq_of_reaches_importingItself {location : Path}
    (h : (Builder.ofDisk importingItself {}).Reaches "a.py" location) :
    location = ⟨.root, ["a.py"]⟩ := by
  induction h with
  | refl => cbv
  | tail _ hrefers ih =>
    subst ih
    obtain ⟨compiled, hcompiled, reference, hreference, htarget⟩ := hrefers
    obtain ⟨code, hcode⟩ := compile_importingItself
    obtain rfl := Except.ok.inj (hcode.symm.trans hcompiled)
    obtain rfl := List.mem_singleton.mp hreference
    have hself : (Builder.ofDisk importingItself {}).target ⟨.root, ["a.py"]⟩ ".a" =
        .ok ⟨.root, ["a.py"]⟩ := by
      cbv
    exact (Except.ok.inj (hself.symm.trans htarget)).symm

/-- The module is looked for, and the name that it imports is, too. -/
theorem mem_of_looksFor_importingItself {reference : String}
    (h : importingItself.LooksFor [".py"] ⟨.root, ["a.py"]⟩ reference) :
    reference ∈ [".a", ".a.a"] := by
  rcases h with ⟨compiled, hcompiled, hreference⟩ | ⟨text, tree, htext, htree, i, hi, hprobe⟩
  · obtain ⟨code, hcode⟩ := compile_importingItself
    obtain rfl := Except.ok.inj (hcode.symm.trans hcompiled)
    exact List.mem_cons.mpr (.inl (List.mem_singleton.mp hreference))
  · have hsource : readSource importingItself ⟨.root, ["a.py"]⟩ = .ok importingSource := by
      cbv
    obtain rfl := Except.ok.inj (hsource.symm.trans htext)
    obtain rfl := Except.ok.inj (parseSource_importing.symm.trans htree)
    obtain rfl := List.mem_singleton.mp hi
    exact List.mem_cons_of_mem _ hprobe

/-- Creating a file beside the module changes nothing, since only candidates of other names have been
tried. -/
theorem run_depends_on_reads_importingItself : ∃ g d',
    ((Builder.ofDisk importingItself {}).run "a.py").outcome = .ok g ∧
      importingItself.write ⟨.root, ["b.py"]⟩ [1] = .ok d' ∧
      importingItself.BuildsAlike d' {} "a.py" g := by
  obtain ⟨g, hg, _⟩ := Builder.run_importingItself
  have hwrite : importingItself.write ⟨.root, ["b.py"]⟩ [1] =
      .ok (importingItself.put ["b.py"] (.file [1])) := by
    cbv
  have hplace : importingItself.place ⟨.root, ["b.py"]⟩ = .ok ["b.py"] := by
    cbv
  refine ⟨g, _, hg, hwrite, (run_depends_on_reads hg).2.2.1 _ _ _ hwrite ?_⟩
  have hrecord : ∀ r ∈ g.records, Path.ofString r.location = ⟨.root, ["a.py"]⟩ :=
    fun r hr => eq_of_reaches_importingItself (Builder.reaches_of_record hg hr)
  rw [hplace]
  rintro p (⟨r, hr, rfl⟩ | ⟨r, hr, reference, hlooks, before, after, hcandidates, _⟩)
  · have hself : importingItself.place ⟨.root, ["a.py"]⟩ = .ok ["a.py"] := by
      cbv
    rw [hrecord r hr, hself]
    simp
  · rw [hrecord r hr] at hlooks hcandidates
    -- None of the four candidates leads to the new file.
    have helsewhere : ∀ q ∈ [Path.mk .root ["a.py"], ⟨.root, ["a", "__init__.py"]⟩,
        ⟨.root, ["a", "a.py"]⟩, ⟨.root, ["a", "a", "__init__.py"]⟩],
        importingItself.place q ≠ .ok ["b.py"] := by
      simp only [List.forall_mem_cons, List.not_mem_nil, IsEmpty.forall_iff, implies_true, and_true]
      refine ⟨?_, ?_, ?_, ?_⟩ <;> cbv <;> simp
    have hmem : p ∈ before ++ p :: after := by simp
    rcases List.mem_pair.mp (mem_of_looksFor_importingItself hlooks) with rfl | rfl
    · have hformed : candidates importingItself.current ⟨.root, []⟩ ".a" [".py"] =
          .ok [⟨.root, ["a.py"]⟩, ⟨.root, ["a", "__init__.py"]⟩] := by
        cbv
      rw [← Except.ok.inj (hformed.symm.trans hcandidates)] at hmem
      exact helsewhere p (List.mem_append_left [_, _] hmem)
    · have hformed : candidates importingItself.current ⟨.root, []⟩ ".a.a" [".py"] =
          .ok [⟨.root, ["a", "a.py"]⟩, ⟨.root, ["a", "a", "__init__.py"]⟩] := by
        cbv
      rw [← Except.ok.inj (hformed.symm.trans hcandidates)] at hmem
      exact helsewhere p (List.mem_append_right [_, _] hmem)

end Bundler
