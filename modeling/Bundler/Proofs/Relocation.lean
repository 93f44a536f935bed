import Bundler.Artifact.Summary
import Bundler.Artifact.Listing
import Bundler.Proofs.Disk.Copy
import Bundler.Proofs.Graph.Sources
import Bundler.Proofs.Graph.Transfer
import Bundler.Proofs.Graph.Walk
import Bundler.Proofs.Import.Closure
import Bundler.Proofs.Reference.Below

/-!
# Builds are relocatable

A project in a directory without links may be copied elsewhere. If no import climbs out of the
directory, the build of the copy gives the same graph with its locations moved, and artifacts that
are the same to the last byte.
-/

set_option autoImplicit false

namespace Bundler

open Bundler.Import (RelativeImport relativeImports)

variable {d d' : Disk} {original copy : Path} {settings : Settings} {suffixes names : List String}

/-- No relative import of the module at a location in a directory climbs out of the directory: one
dot stands for the directory of the module, and every further one leads up. -/
def Disk.StaysBelow (d : Disk) (directory : Path) (location : Path) : Prop :=
  ∀ names text tree, location = directory.extend names → readSource d location = .ok text →
    parseSource text = .ok tree →
    ∀ i ∈ relativeImports tree, i.level - 1 ≤ names.dropLast.length

/-- Where a location in a directory is in another directory. -/
def Path.moved (original copy location : Path) : Path :=
  copy.extend (location.names.drop original.names.length)

/-- What is below a directory is moved along with it. -/
theorem Path.moved_extend (names : List String) :
    Path.moved original copy (original.extend names) = copy.extend names := by
  rw [moved, names_extend, List.drop_left]

/-- A record is another one moved from a directory to another directory. -/
def ModuleRecord.IsMoved (original copy : Path) (r r' : ModuleRecord) : Prop :=
  ∃ names, (∀ name ∈ names, IsStepName name) ∧ r.location = (original.extend names).toString ∧
    r' = { r with location := (copy.extend names).toString }

/-- The directory above a longer path has one name less. -/
theorem Path.parent_extend {p : Path} (h : names ≠ []) :
    (p.extend names).parent = p.extend names.dropLast := by
  rw [Path.parent, Path.extend, Path.extend, List.dropLast_append_of_ne_nil h]

/-- A relative import has a level. -/
theorem Import.level_ne_zero {i : RelativeImport} {tree : Syntax.Module}
    (h : i ∈ relativeImports tree) : i.level ≠ 0 := by
  obtain ⟨head, _, hi⟩ := List.mem_filterMap.mp h
  unfold import? at hi
  split at hi
  · split at hi
    · cases hi
    · cases hi
      assumption
  · cases hi

/-! ## Modules in a copied directory -/

section Copy

variable (horiginal : original.IsNormal) (hcopy : copy.IsNormal) (h : d.IsCopied d' original copy)
  (hsuffixes : ∀ x ∈ suffixes, '/' ∉ x.toList)

include horiginal hcopy h hsuffixes

/-- A reference of an import that stays below a directory leads to the same place in a copy, and it
names a module there if it does so in the directory. -/
theorem resolve_extend {i : RelativeImport} (hplain : i.IsPlain) (hlevel : i.level ≠ 0)
    (hclimb : i.level - 1 ≤ names.length) (hnames : ∀ name ∈ names, IsStepName name)
    {found : String → Bool} {reference : String}
    (hreference : reference ∈ i.references found ∨ reference ∈ i.probes) :
    isModule d' suffixes (copy.extend names) reference =
        isModule d suffixes (original.extend names) reference ∧
      ∀ referrer referrer' other,
        resolve d (original.extend names) reference referrer suffixes = .ok other →
        ∃ file, (∀ name ∈ file, IsStepName name) ∧ other = original.extend file ∧
          resolve d' (copy.extend names) reference referrer' suffixes = .ok (copy.extend file) := by
  obtain ⟨files, hfiles, hcandidates⟩ :=
    hplain.exists_candidates hlevel hclimb hnames hreference hsuffixes
  have htried := hcandidates d.current original horiginal
  have htried' := hcandidates d'.current copy hcopy
  have hisFile : ∀ file ∈ files, d'.isFile (copy.extend file) = d.isFile (original.extend file) :=
    fun file hfile => h.isFile_extend (hfiles file hfile)
  refine ⟨?_, ?_⟩
  · unfold isModule
    rw [htried, htried']
    have hany : (files.map copy.extend).any d'.isFile = (files.map original.extend).any d.isFile := by
      rw [List.any_map, List.any_map, Bool.eq_iff_iff, List.any_eq_true, List.any_eq_true]
      refine exists_congr fun file => and_congr_right fun hfile => ?_
      rw [Function.comp, Function.comp, hisFile file hfile]
    simp only [bind, Except.bind, hany]
  · intro referrer referrer' other hother
    obtain ⟨tried, location, htried₁, hfind, rfl⟩ := resolve_eq_ok.mp hother
    obtain rfl := Except.ok.inj (htried.symm.trans htried₁)
    rw [List.find?_map, Option.map_eq_some_iff] at hfind
    obtain ⟨file, hfind, rfl⟩ := hfind
    have hfile := hfiles file (List.mem_of_find?_eq_some hfind)
    refine ⟨file, hfile, (horiginal.extend hfile).normalize_eq _, ?_⟩
    refine resolve_eq_ok.mpr ⟨_, copy.extend file, htried', ?_,
      ((hcopy.extend hfile).normalize_eq _).symm⟩
    rw [List.find?_map, Option.map_eq_some_iff]
    refine ⟨file, ?_, rfl⟩
    rw [← hfind]
    exact List.find?_congr hisFile

/-- A module in a directory is compiled alike in a copy, if its imports stay below the directory; and
its references lead to the same places there. -/
theorem compile_extend (hnames : ∀ name ∈ names, IsStepName name)
    (hstays : d.StaysBelow original (original.extend names)) {compiled : CompiledModule}
    (hcompiled : compile d suffixes (original.extend names) = .ok compiled) :
    compile d' suffixes (copy.extend names) = .ok compiled ∧
      ∀ reference ∈ compiled.references, ∀ referrer referrer' other,
        resolve d (original.extend names).parent reference referrer suffixes = .ok other →
        ∃ file, (∀ name ∈ file, IsStepName name) ∧ other = original.extend file ∧
          resolve d' (copy.extend names).parent reference referrer' suffixes =
            .ok (copy.extend file) := by
  obtain ⟨text, tree, result, body, htext, htree, hresult, hbody, rfl⟩ := compile_eq_ok.mp hcompiled
  obtain ⟨bytes, decoded, hread, hdecode, htext₁⟩ := readSource_eq_ok.mp htext
  have hne : names ≠ [] := h.ne_nil_of_read hread
  have hdirectory : ∀ name ∈ names.dropLast, IsStepName name :=
    fun name hname => hnames name (List.mem_of_mem_dropLast hname)
  have himports := hstays names text tree rfl htext htree
  have hplain := isPlain_of_parseSource htree
  rw [Path.parent_extend hne] at hresult ⊢
  rw [Path.parent_extend hne]
  have hscoped : Import.scopeImports (isModule d' suffixes (copy.extend names.dropLast)) tree =
      .ok result := by
    rw [← hresult]
    apply Import.scopeImports_congr
    intro i hi reference hreference
    have hasked : reference ∈ i.references (fun _ => false) ∨ reference ∈ i.probes := .inr hreference
    exact (resolve_extend horiginal hcopy h hsuffixes (hplain i hi) (Import.level_ne_zero hi)
      (himports i hi) hdirectory hasked).1
  refine ⟨?_, ?_⟩
  · refine compile_eq_ok.mpr ⟨text, tree, result, body, ?_, htree, ?_, hbody, rfl⟩
    · exact readSource_eq_ok.mpr ⟨bytes, decoded, h.read_extend hnames hread, hdecode, htext₁⟩
    · rwa [Path.parent_extend hne]
  · intro reference hreference referrer referrer' other hother
    rw [(Import.scopeImports_ok hresult).2] at hreference
    obtain ⟨i, hi, hreference⟩ := List.mem_flatMap.mp hreference
    exact (resolve_extend horiginal hcopy h hsuffixes (hplain i hi) (Import.level_ne_zero hi)
      (himports i hi) hdirectory (.inl hreference)).2 referrer referrer' other hother

end Copy

/-! ## Builds in a copied directory -/

section Build

variable {entry entry' : String} (horiginal : original.IsNormal) (hcopy : copy.IsNormal)
  (h : d.IsCopied d' original copy) (hsuffixes : ∀ x ∈ settings.suffixes, '/' ∉ x.toList)
  (hstart : (Path.ofString entry).normalize d.current = original.extend names)
  (hstart' : (Path.ofString entry').normalize d'.current = copy.extend names)
  (hstays : ∀ location, (Builder.ofDisk d settings).Reaches entry location →
    d.StaysBelow original location)

include horiginal hcopy h hsuffixes hstart hstays

/-- Everything that is reached from a module in a directory is in the directory. -/
theorem Builder.Reaches.exists_extend {location : Path}
    (hreached : (Builder.ofDisk d settings).Reaches entry location) :
    ∃ names, (∀ name ∈ names, IsStepName name) ∧ location = original.extend names := by
  induction hreached with
  | refl =>
    refine ⟨names, ?_, hstart⟩
    have hnormal : (original.extend names).IsNormal := by
      rw [← hstart]
      apply Path.isNormal_normalize
      rw [hstart]
      exact horiginal.anchor
    exact fun name hname => hnormal.names name (List.mem_append_right _ hname)
  | @tail location other hreached hrefers ih =>
    obtain ⟨names, hnames, rfl⟩ := ih
    obtain ⟨compiled, hcompiled, reference, hreference, hother⟩ := hrefers
    obtain ⟨_, hresolve⟩ := compile_extend horiginal hcopy h hsuffixes hnames
      (hstays _ hreached) hcompiled
    obtain ⟨file, hfile, rfl, _⟩ := hresolve reference hreference _ "" other hother
    exact ⟨file, hfile, rfl⟩

include hstart'

/-- The build of a copy mirrors the build in the directory. -/
theorem Builder.mirrors_copy : (Builder.ofDisk d settings).Mirrors (Builder.ofDisk d' settings)
    entry entry' (Path.moved original copy) where
  settings := rfl
  start := by
    change (Path.ofString entry').normalize d'.current =
      Path.moved original copy ((Path.ofString entry).normalize d.current)
    rw [hstart, hstart', Path.moved_extend]
  compiles := by
    intro location compiled hreached hcompiled
    obtain ⟨names, hnames, rfl⟩ :=
      hreached.exists_extend horiginal hcopy h hsuffixes hstart hstays
    rw [Path.moved_extend]
    exact (compile_extend horiginal hcopy h hsuffixes hnames (hstays _ hreached) hcompiled).1
  targets := by
    intro location compiled reference other hreached hcompiled hreference hother
    obtain ⟨names, hnames, rfl⟩ :=
      hreached.exists_extend horiginal hcopy h hsuffixes hstart hstays
    obtain ⟨file, _, rfl, hother'⟩ := (compile_extend horiginal hcopy h hsuffixes hnames
      (hstays _ hreached) hcompiled).2 reference hreference _ (copy.extend names).toString other hother
    rw [Path.moved_extend, Path.moved_extend]
    exact hother'
  separate := by
    intro location other hreached hreached' heq
    obtain ⟨names, _, rfl⟩ := hreached.exists_extend horiginal hcopy h hsuffixes hstart hstays
    obtain ⟨names', _, rfl⟩ := hreached'.exists_extend horiginal hcopy h hsuffixes hstart hstays
    rw [Path.moved_extend, Path.moved_extend, Path.extend_inj] at heq
    rw [heq]

end Build

/-! ## Artifacts of moved graphs -/

/-- Items that are turned into the same outcomes give the same list of outcomes. -/
theorem mapM_eq_of_forall₂ {ε α β γ : Type} {f : α → Except ε γ} {f' : β → Except ε γ} {l : List α}
    {l' : List β} (h : List.Forall₂ (fun a b => f' b = f a) l l') : l'.mapM f' = l.mapM f := by
  induction h with
  | nil => rfl
  | cons hab _ ih => rw [List.mapM_cons, List.mapM_cons, hab, ih]

section Moved

variable {g g' : ModuleGraph}
  (h : List.Forall₂ (ModuleRecord.IsMoved original copy) g.records g'.records)

include h

/-- The entry has been moved. -/
theorem ModuleGraph.entry_isMoved : g.entry.IsMoved original copy g'.entry := by
  unfold ModuleGraph.records at h
  cases h
  assumption

/-- There are as many records. -/
theorem ModuleGraph.size_moved : g'.size = g.size := h.length_eq.symm

/-- The edges are the same. -/
theorem ModuleGraph.edges_moved : g'.edges = g.edges := by
  unfold ModuleGraph.edges
  generalize g.records = records at h
  generalize g'.records = records' at h
  induction h with
  | nil => rfl
  | cons hr _ ih =>
    obtain ⟨_, _, _, rfl⟩ := hr
    rw [List.flatMap_cons, List.flatMap_cons, ih]

/-- There are as many references. -/
theorem ModuleGraph.references_moved :
    g'.records.foldl (fun n r => n + r.references.length) 0 =
      g.records.foldl (fun n r => n + r.references.length) 0 := by
  generalize g.records = records at h
  generalize g'.records = records' at h
  generalize 0 = n
  induction h generalizing n with
  | nil => rfl
  | cons hr _ ih =>
    obtain ⟨_, _, _, rfl⟩ := hr
    exact ih _

end Moved

section Artifacts

variable {cwd cwd' root root' : Path} (horiginal : original.IsNormal) (hcopy : copy.IsNormal)
  (hroot : root.normalize cwd = original.extend names)
  (hroot' : root'.normalize cwd' = copy.extend names)

include horiginal hcopy hroot hroot'

/-- The path of a record relative to the root is the same. -/
theorem ModuleRecord.IsMoved.relativeText_eq {r r' : ModuleRecord} (h : r.IsMoved original copy r') :
    relativeText cwd' r'.location root' = relativeText cwd r.location root := by
  obtain ⟨names, hnames, hlocation, rfl⟩ := h
  rw [hlocation, Path.relativeText_extend horiginal hnames hroot,
    Path.relativeText_extend hcopy hnames hroot']

/-- The module name of a record is the same. -/
theorem ModuleRecord.IsMoved.moduleName_eq {r r' : ModuleRecord} (h : r.IsMoved original copy r') :
    r'.moduleName cwd' root' = r.moduleName cwd root := by
  have hfile := h.relativeText_eq horiginal hcopy hroot hroot'
  obtain ⟨_, _, _, rfl⟩ := h
  unfold ModuleRecord.moduleName
  rw [hfile]

/-- The text of a record in a bundle is the same. -/
theorem ModuleRecord.IsMoved.recordText_eq {r r' : ModuleRecord} (h : r.IsMoved original copy r') :
    recordText cwd' root' r' = recordText cwd root r := by
  have hfile := h.relativeText_eq horiginal hcopy hroot hroot'
  have hname := h.moduleName_eq horiginal hcopy hroot hroot'
  obtain ⟨_, _, _, rfl⟩ := h
  unfold recordText BundleRow.ofRecord
  rw [hfile, hname]

/-- The entry of a record in a listing is the same. -/
theorem ModuleRecord.IsMoved.listed_eq {r r' : ModuleRecord} (h : r.IsMoved original copy r') :
    ListedModule.ofRecord cwd' root' r' = ListedModule.ofRecord cwd root r := by
  have hfile := h.relativeText_eq horiginal hcopy hroot hroot'
  have hname := h.moduleName_eq horiginal hcopy hroot hroot'
  obtain ⟨_, _, _, rfl⟩ := h
  unfold ListedModule.ofRecord
  rw [hfile, hname]

variable {g g' : ModuleGraph}
  (h : List.Forall₂ (ModuleRecord.IsMoved original copy) g.records g'.records)

include h

/-- The bundle of a moved graph is the same. -/
theorem assemble_moved (cacheExports : Bool) :
    assemble cwd' root' cacheExports g' = assemble cwd root cacheExports g := by
  have hentry := (ModuleGraph.entry_isMoved h).relativeText_eq
    horiginal hcopy hroot hroot'
  have hrows : g'.records.mapM (recordText cwd' root') = g.records.mapM (recordText cwd root) :=
    mapM_eq_of_forall₂ (h.imp fun _ _ hr => hr.recordText_eq horiginal hcopy hroot hroot')
  unfold assemble
  rw [hentry, hrows, ModuleGraph.size_moved h]

/-- The listing of a moved graph is the same. -/
theorem ModuleGraph.listing_moved : g'.listing cwd' root' = g.listing cwd root :=
  mapM_eq_of_forall₂ (h.imp fun _ _ hr => hr.listed_eq horiginal hcopy hroot hroot')

/-- The summary of a moved graph is the same. -/
theorem GraphSummary.ofGraph_moved (policy : Except Invalid IdentityPolicy) (bound : Option Int) :
    GraphSummary.ofGraph cwd' root' policy bound g' = GraphSummary.ofGraph cwd root policy bound g := by
  have hentry := (ModuleGraph.entry_isMoved h).relativeText_eq
    horiginal hcopy hroot hroot'
  have hothers : g'.others.mapM (fun r => (relativeText cwd' r.location root').mapError Crash.path) =
      g.others.mapM (fun r => (relativeText cwd r.location root).mapError Crash.path) := by
    apply mapM_eq_of_forall₂
    have hrecords : List.Forall₂ (ModuleRecord.IsMoved original copy) g.others g'.others := by
      unfold ModuleGraph.records at h
      cases h
      assumption
    exact hrecords.imp fun _ _ hr => by rw [hr.relativeText_eq horiginal hcopy hroot hroot']
  unfold GraphSummary.ofGraph
  simp only [hentry, hothers, ModuleGraph.size_moved h,
    ModuleGraph.edges_moved h,
    ModuleGraph.references_moved h]

end Artifacts

/-! ## Main result -/

/-- Let a directory without links stand again elsewhere, and let a build from an entry in it return a
graph of which no module has an import that climbs out of the directory. Then the build from the
entry in the copy returns the same records with their locations moved, and the bundle, the listing
and the summary of the two graphs are the same, each for a root at the same place. -/
theorem run_relocated (d d' : Disk) (original copy root root' : Path) (settings : Settings)
    (entry entry' : String) (place up : List String) (g : ModuleGraph)
    (horiginal : original.IsNormal) (hcopy : copy.IsNormal) (hcopied : d.IsCopied d' original copy)
    (hsuffixes : ∀ x ∈ settings.suffixes, '/' ∉ x.toList)
    (hentry : (Path.ofString entry).normalize d.current = original.extend place)
    (hentry' : (Path.ofString entry').normalize d'.current = copy.extend place)
    (hroot : root.normalize d.current = original.extend up)
    (hroot' : root'.normalize d'.current = copy.extend up)
    (hrun : ((Builder.ofDisk d settings).run entry).outcome = .ok g)
    (hstays : ∀ r ∈ g.records, d.StaysBelow original (Path.ofString r.location)) :
    ∃ g', ((Builder.ofDisk d' settings).run entry').outcome = .ok g' ∧
      List.Forall₂ (ModuleRecord.IsMoved original copy) g.records g'.records ∧
      (∀ cacheExports, assemble d'.current root' cacheExports g' =
        assemble d.current root cacheExports g) ∧
      (g'.listing d'.current root').map (fun modules => jsonLines (modules.map ListedModule.toJson)) =
        (g.listing d.current root).map (fun modules => jsonLines (modules.map ListedModule.toJson)) ∧
      ∀ policy bound,
        (GraphSummary.ofGraph d'.current root' policy bound g').map (·.toJson.write .document) =
          (GraphSummary.ofGraph d.current root policy bound g).map (·.toJson.write .document) := by
  -- What is reached has records, so the condition on the records is one on what is reached.
  have hreached : ∀ location, (Builder.ofDisk d settings).Reaches entry location →
      d.StaysBelow original location := by
    intro location hlocation
    obtain ⟨x, hx, hpending, hrecords, _, _⟩ := Builder.exists_explores_of_ok hrun
    have hmem : location.toString ∈ g.records.map ModuleRecord.location := by
      rw [hrecords, Builder.map_location_recordsFrom]
      exact List.mem_map_of_mem ((hx.mem_locations_iff hpending).mpr hlocation)
    obtain ⟨r, hr, hrlocation⟩ := List.mem_map.mp hmem
    have hbelow := hstays r hr
    rwa [hrlocation, Path.ofString_toString hlocation.isCanonical] at hbelow
  have hmirrors :=
    Builder.mirrors_copy horiginal hcopy hcopied hsuffixes hentry hentry' hreached
  obtain ⟨g', hrun', hrecords⟩ := hmirrors.run hrun
  have hmoved : List.Forall₂ (ModuleRecord.IsMoved original copy) g.records g'.records := by
    refine hrecords.imp ?_
    rintro r r' ⟨location, hlocation, hr, hr'⟩
    obtain ⟨names, hnames, rfl⟩ :=
      hlocation.exists_extend horiginal hcopy hcopied hsuffixes hentry hreached
    rw [Path.moved_extend] at hr'
    exact ⟨names, hnames, hr, hr'⟩
  refine ⟨g', hrun', hmoved, ?_, ?_, ?_⟩
  · exact assemble_moved horiginal hcopy hroot hroot' hmoved
  · rw [ModuleGraph.listing_moved horiginal hcopy hroot hroot' hmoved]
  · intro policy bound
    rw [GraphSummary.ofGraph_moved horiginal hcopy hroot hroot' hmoved]

/-- The disk on which the module that imports from itself stands in a directory. -/
def importingCopy : Disk where
  entries := [(["w"], .directory),
    (["w", "a.py"], .file (importingSource.toList.map fun c => UInt8.ofNat c.toNat))]
  current := ⟨.root, []⟩

/-- The module stands in another directory on the second disk. -/
theorem isCopied_importing :
    importingItself.IsCopied importingCopy ⟨.root, []⟩ ⟨.root, ["w"]⟩ where
  stands := by
    cbv
  standsAgain := by
    cbv
  linkless := by
    intro base _ names target hget
    unfold Disk.get? importingItself importing at hget
    split at hget
    · cases hget
    · simp only [lookup_cons_ite, List.lookup_nil] at hget
      split at hget <;> cases hget
  same := by
    intro base base' hbase hbase' names hne
    have hroot : importingItself.place ⟨.root, []⟩ = .ok [] := by
      cbv
    have hcopy : importingCopy.place ⟨.root, ["w"]⟩ = .ok ["w"] := by
      cbv
    obtain rfl := Except.ok.inj (hroot.symm.trans hbase)
    obtain rfl := Except.ok.inj (hcopy.symm.trans hbase')
    simp [Disk.get?, hne, importingCopy, importingItself, importing, lookup_cons_ite]

/-- One dot leads nowhere up. -/
theorem staysBelow_importing (directory location : Path) :
    importingItself.StaysBelow directory location := by
  intro names text tree _ htext htree i hi
  obtain ⟨bytes, decoded, hread, hdecode, htext⟩ := readSource_eq_ok.mp htext
  obtain ⟨_, place, _, hget⟩ := Disk.read_eq_ok_iff_place.mp hread
  have hbytes : bytes = importingSource.toList.map fun c => UInt8.ofNat c.toNat := by
    unfold Disk.get? importingItself importing at hget
    split at hget
    · cases hget
    · simp only [lookup_cons_ite, List.lookup_nil] at hget
      split at hget <;> cases hget
      rfl
  -- There is one file only, so its tree is the one that was read.
  have hsource : readSource importingItself ⟨.root, ["a.py"]⟩ = .ok importingSource := by
    cbv
  obtain ⟨bytes', decoded', hread', hdecode', htext'⟩ := readSource_eq_ok.mp hsource
  have hsame : importingItself.read ⟨.root, ["a.py"]⟩ = .ok bytes := by
    rw [hbytes]
    cbv
  obtain rfl := Except.ok.inj (hsame.symm.trans hread')
  obtain rfl := Except.ok.inj (hdecode.symm.trans hdecode')
  rw [htext, ← htext'] at htree
  obtain rfl := Except.ok.inj (parseSource_importing.symm.trans htree)
  have hlevel : ∀ i ∈ relativeImports importingTree, i.level = 1 := by
    decide
  rw [hlevel i hi]
  exact Nat.zero_le _

/-- The module that imports from itself is built alike in a directory. -/
theorem run_relocated_importing : ∃ g g',
    ((Builder.ofDisk importingItself {}).run "a.py").outcome = .ok g ∧
    ((Builder.ofDisk importingCopy {}).run "/w/a.py").outcome = .ok g' ∧
    List.Forall₂ (ModuleRecord.IsMoved ⟨.root, []⟩ ⟨.root, ["w"]⟩) g.records g'.records := by
  obtain ⟨g, hg, _⟩ := Builder.run_importingItself
  have hnormal : (Path.mk .root []).IsNormal := ⟨rfl, nofun⟩
  have hnormal' : (Path.mk .root ["w"]).IsNormal := by
    refine ⟨rfl, ?_⟩
    intro name hname
    rw [List.mem_singleton.mp hname]
    exact ⟨⟨by decide, by decide, by decide⟩, by decide⟩
  obtain ⟨g', hg', hmoved, _⟩ := run_relocated importingItself importingCopy ⟨.root, []⟩
    ⟨.root, ["w"]⟩ ⟨.root, []⟩ ⟨.root, ["w"]⟩ {} "a.py" "/w/a.py" ["a.py"] [] g hnormal hnormal'
    isCopied_importing (by decide) (by decide +kernel) (by decide +kernel) (by decide +kernel) (by decide +kernel) hg
    fun r _ => staysBelow_importing _ _
  exact ⟨g, g', hg, hg', hmoved⟩

end Bundler
