import Bundler.Proofs.Bundle.Table
import Bundler.Proofs.Disk.Storing
import Bundler.Proofs.Graph.Limit
import Bundler.Proofs.Graph.Sources
import Bundler.Proofs.Import.Closure
import Bundler.Proofs.Json.Words
import Bundler.Proofs.Settings.Validity

/-!
# Artifacts are kept apart

The main result: when artifacts have been generated and their paths lead to different places, each of
them is read back. The bundle is the one that bundling the project on the disk before gives, the
listing and the summary are those of the same graph. The paths lead to different places if the bundle
has a name of its own and no links stand in the way.

A bundle may be named like the listing, which then takes its place.
-/

set_option autoImplicit false

namespace Bundler

/-- The paths of the artifacts in a directory. -/
def artifactPaths (out : Path) (bundleName : String) : List Path :=
  [out / bundleName, out / ArtifactKind.modules.fileName, out / ArtifactKind.summary.fileName]

/-- A plain name is looked up as one name. -/
theorem isStepName_of_isPlainName {name : String} (h : Settings.isPlainName name = true) :
    IsStepName name := by
  obtain ⟨hempty, hslash, hdot, hdots⟩ := Settings.ne_of_isPlainName h
  exact ⟨⟨hempty, hdot, hslash⟩, hdots⟩

/-- The listing has a plain name. -/
theorem isStepName_modules : IsStepName ArtifactKind.modules.fileName :=
  isStepName_of_isPlainName (by decide)

/-- The summary has a plain name. -/
theorem isStepName_summary : IsStepName ArtifactKind.summary.fileName :=
  isStepName_of_isPlainName (by decide)

namespace Disk

variable {d : Disk} {out : Path} {base : List String}

/-- Different names in one directory lead to different places, unless links stand there. -/
theorem place_ne_of_ne {name other : String} (hplace : d.place out = .ok base)
    (hbase : d.get? base = some .directory)
    (hlink : ∀ name target, d.get? (base ++ [name]) ≠ some (.link target))
    (hname : IsStepName name) (hother : IsStepName other) (hne : name ≠ other) :
    d.place (out / name) ≠ d.place (out / other) := by
  rw [Path.div_eq_extend hname.toIsName, Path.div_eq_extend hother.toIsName,
    place_extend hplace hbase hname (hlink name), place_extend hplace hbase hother (hlink other)]
  simpa using hne

end Disk

/-- A stored directory is there. -/
theorem isDirectory_of_store {out : Path} {files : List (String × List UInt8)} {d d' : Disk}
    (hne : files ≠ []) (h : Disk.store out files d = .ok () d') : d'.isDirectory out = true := by
  cases files with
  | nil => exact absurd rfl hne
  | cons file files =>
    obtain ⟨made, between, hmade, hwrite, hrest⟩ := Disk.store_cons_eq_ok.mp h
    obtain ⟨_, place, _, hfree, rfl⟩ := Disk.write_eq_ok.mp hwrite
    obtain ⟨_, hgrows, _⟩ := Disk.grows_store hrest
    have hput : Disk.Grows [place] made (made.put place (.file file.2)) :=
      Disk.grows_put_file hfree
    exact hgrows.isDirectory (hput.isDirectory (Disk.grows_makeDirectories hmade).2)

/-- What relates the paths of artifacts relates those of the files. -/
theorem pairwise_files {texts : ArtifactTexts} {out : Path} {bundleName : String}
    {R : Path → Path → Prop} (h : (artifactPaths out bundleName).Pairwise R) :
    (texts.files bundleName).Pairwise fun file other => R (out / file.1) (out / other.1) := by
  have hpaths : artifactPaths out bundleName = (texts.files bundleName).map (out / ·.1) := rfl
  rw [hpaths, List.pairwise_map] at h
  exact h

/-- Generated artifacts are read back if their paths lead to different places. The bundle is what
bundling the project before gives, the listing and the summary show the same graph. The paths lead
to different places if the bundle has a name of its own and the directory holds no links. -/
theorem generate_reads_back (p : Project) (chosen : Option Path) (w w' : Workspace)
    (made : Generated) (h : p.generate chosen w = .ok made w') :
    ∃ settings out g texts, p.IsConfigured w.disk settings ∧
      p.IsStoredIn w.disk settings chosen out ∧ p.IsBuilt w.disk settings g ∧
      (∃ v, p.bundle w = .ok texts.bundle v) ∧ g.IsShownBy w.disk.current p.root settings texts ∧
      ((artifactPaths out settings.bundleName).Pairwise
          (fun path other => w'.disk.place path ≠ w'.disk.place other) →
        w'.disk.read (out / settings.bundleName) = .ok (Text.Utf8.encode texts.bundle) ∧
        w'.disk.read (out / ArtifactKind.modules.fileName) =
          .ok (Text.Utf8.encode texts.listing) ∧
        w'.disk.read (out / ArtifactKind.summary.fileName) =
          .ok (Text.Utf8.encode texts.summary)) ∧
      (settings.IsValid → settings.bundleName ≠ ArtifactKind.modules.fileName →
        settings.bundleName ≠ ArtifactKind.summary.fileName →
        (∀ base name target, w'.disk.place out = .ok base →
          w'.disk.get? (base ++ [name]) ≠ some (.link target)) →
        (artifactPaths out settings.bundleName).Pairwise
          (fun path other => w'.disk.place path ≠ w'.disk.place other)) := by
  obtain ⟨settings, out, g, texts, hsettings, hout, hbuilt, hshown, hstored⟩ :=
    (Project.generate_yields.mp ⟨made, w'.events, h⟩).some
  obtain ⟨events, hbundle⟩ := Project.bundle_yields.mpr
    ⟨settings, g, hsettings, hbuilt, hshown.bundle, rfl⟩
  refine ⟨settings, out, g, texts, hsettings, hout, hbuilt, ⟨_, hbundle⟩, hshown, ?_, ?_⟩
  · intro hplaces
    have hread := Disk.read_store hstored (pairwise_files hplaces)
    exact ⟨hread (settings.bundleName, _) (.head _),
      hread (ArtifactKind.modules.fileName, _) (.tail _ (.head _)),
      hread (ArtifactKind.summary.fileName, _) (.tail _ (.tail _ (.head _)))⟩
  · intro hvalid hmodules hsummary hlink
    have hdirectory := isDirectory_of_store (List.cons_ne_nil _ _) hstored
    obtain ⟨_, base, hbase, hget⟩ := Disk.isDirectory_iff_place.mp hdirectory
    have hname := isStepName_of_isPlainName hvalid.bundleName
    have hapart : ∀ name other, IsStepName name → IsStepName other → name ≠ other →
        w'.disk.place (out / name) ≠ w'.disk.place (out / other) := fun name other =>
      Disk.place_ne_of_ne hbase hget fun name target => hlink base name target hbase
    simp only [artifactPaths, List.pairwise_cons, List.mem_cons, List.not_mem_nil, or_false,
      forall_eq_or_imp, forall_eq, List.Pairwise.nil, and_true, false_imp_iff, implies_true]
    exact ⟨⟨hapart _ _ hname isStepName_modules hmodules,
      hapart _ _ hname isStepName_summary hsummary⟩,
      hapart _ _ isStepName_modules isStepName_summary (by decide)⟩

/-! ## An example -/

/-- A disk with one module, which is empty, and an empty directory. -/
def moduleAndDirectory : Disk where
  entries := [(["a.py"], .file []), (["o"], .directory)]
  current := ⟨.root, []⟩

/-- The project of that module, with a name for the bundle. -/
def oneModule (bundleName : String) : Project where
  root := ⟨.root, []⟩
  entry := some "a.py"
  settings := some { bundleName }

/-- An empty file is an empty source. -/
theorem readSource_empty {d : Disk} {location : Path} (hread : d.read location = .ok []) :
    readSource d location = .ok "" :=
  readSource_eq_ok.mpr ⟨[], "", hread, by cbv, by cbv⟩

set_option maxRecDepth 10000 in
/-- An empty source is an empty module. -/
theorem parseSource_empty : parseSource "" = .ok [] := by
  cbv

/-- An empty module compiles, and it has no references. -/
theorem exists_compile_empty {d : Disk} {location : Path} (hread : d.read location = .ok [])
    (suffixes : List String) : ∃ code, compile d suffixes location = .ok ⟨[], code⟩ :=
  exists_compile (readSource_empty hread) parseSource_empty rfl (by cbv)

/-- The graph of a module without references. -/
def singleGraph (code : String) : ModuleGraph :=
  ⟨⟨0, "/a.py", [], code, []⟩, [], rfl⟩

/-- An entry module without references is the only one in its graph. -/
theorem Builder.run_single {b : Builder} {e code : String} (hroom : 0 < b.settings.maxModules)
    (hcompile : b.frontend (b.start e) = .ok ⟨[], code⟩) :
    ∃ g, (b.run e).outcome = .ok g ∧ g.records = [⟨0, (b.start e).toString, [], code, []⟩] := by
  have hcompiled : b.compiledAt (b.start e) = ⟨[], code⟩ := compiledAt_eq hcompile
  have hx : b.Explores e (b.outset e) := ⟨hroom, ⟨_, hcompile⟩, .refl⟩
  have hpending : (b.outset e).pending = [] := by
    rw [outset, tasksAt, hcompiled]
    rfl
  obtain ⟨g, hg, hrecords⟩ := hx.run_complete hpending
  have hsingle : g.records = [⟨0, (b.start e).toString, (b.compiledAt (b.start e)).references,
      (b.compiledAt (b.start e)).code, []⟩] := hrecords
  rw [hcompiled] at hsingle
  exact ⟨g, hg, hsingle⟩

/-- The build of the module begins at its file. -/
theorem Builder.start_oneModule {d : Disk} (hcurrent : d.current = ⟨.root, []⟩)
    (settings : Settings) : (Builder.ofDisk d settings).start "/a.py" = ⟨.root, ["a.py"]⟩ := by
  change (Path.ofString "/a.py").normalize d.current = _
  rw [hcurrent]
  cbv

/-- The module is built from every disk on which it stands at the root. -/
theorem isBuilt_oneModule {d : Disk} (hcurrent : d.current = ⟨.root, []⟩)
    (hread : d.read ⟨.root, ["a.py"]⟩ = .ok []) (bundleName : String) :
    ∃ code, (oneModule bundleName).IsBuilt d { bundleName } (singleGraph code) := by
  obtain ⟨code, hcompile⟩ := exists_compile_empty hread [".py"]
  refine ⟨code, ⟨.root, ["a.py"]⟩, by cbv, ?_⟩
  have hstart := Builder.start_oneModule hcurrent { bundleName }
  obtain ⟨g, hg, hrecords⟩ := Builder.run_single (b := .ofDisk d { bundleName }) (e := "/a.py")
    (Nat.zero_lt_succ _) (by rw [hstart]; exact hcompile)
  have hgraph : g = singleGraph code := by
    apply ModuleGraph.eq_of_records_eq
    rw [hrecords, hstart]
    rfl
  rw [← hgraph]
  exact hg

/-- The graph of a single module can be shown. -/
theorem isShownBy_singleGraph (code bundleName : String) :
    ∃ texts, (singleGraph code).IsShownBy ⟨.root, []⟩ ⟨.root, []⟩ { bundleName } texts := by
  have hwritable : ∀ r ∈ (singleGraph code).records, r.IsWritable := by
    intro r hr
    rw [List.mem_singleton.mp hr]
    exact ⟨(by decide : "/a.py" ≠ ""), nofun⟩
  obtain ⟨bundle, hbundle⟩ := exists_assemble ⟨.root, []⟩ ⟨.root, []⟩ false hwritable
  have hlisting : (singleGraph code).listing ⟨.root, []⟩ ⟨.root, []⟩ =
      .ok [⟨0, "a.py", "__main__", [], []⟩] := by
    cbv
  have hsummary : GraphSummary.ofGraph ⟨.root, []⟩ ⟨.root, []⟩ (.ok .perLocation)
      (some topModuleCount) (singleGraph code) =
      .ok ⟨"a.py", .perLocation, 1, 0, 0, [], [], []⟩ := by
    cbv
  obtain ⟨line, hline⟩ := Json.exists_write .line
    (j := (ListedModule.mk 0 "a.py" "__main__" [] []).toJson) (by decide)
  obtain ⟨summary, hsummaryText⟩ := Json.exists_write .document
    (j := (GraphSummary.mk "a.py" .perLocation 1 0 0 [] [] []).toJson) (by decide)
  refine ⟨⟨bundle, line ++ "\n" ++ "", summary⟩, hbundle, ⟨_, hlisting, ?_⟩, _, hsummary, hsummaryText⟩
  rw [List.map_singleton, jsonLines, hline]
  rfl

/-- The bytes of an array in their order. -/
theorem toList_eq_data (bytes : ByteArray) : bytes.toList = bytes.data.toList := by
  have hloop : ∀ i done, ByteArray.toList.loop bytes i done =
      done.reverse ++ bytes.data.toList.drop i := by
    intro i done
    induction i, done using ByteArray.toList.loop.induct bytes with
    | case1 i done hi ih =>
      have hlength : i < bytes.data.toList.length := by
        simpa using hi
      rw [ByteArray.toList.loop, if_pos hi, ih, List.reverse_cons, List.append_assoc,
        List.drop_eq_getElem_cons hlength]
      have hget : bytes.get! i = bytes.data.toList[i] := by
        change bytes.data[i]! = _
        rw [getElem!_pos bytes.data i hi, Array.getElem_toList]
      rw [hget, List.singleton_append]
    | case2 i done hi =>
      rw [ByteArray.toList.loop, if_neg hi, List.drop_eq_nil_of_le (by simpa using hi), List.append_nil]
  rw [ByteArray.toList, hloop]
  rfl

/-- Texts with the same bytes are the same. -/
theorem encode_inj {s t : String} : Text.Utf8.encode s = Text.Utf8.encode t ↔ s = t := by
  rw [Text.Utf8.encode, Text.Utf8.encode, toList_eq_data, toList_eq_data, Array.toList_inj,
    ← ByteArray.ext_iff, String.toUTF8_eq_toByteArray, String.toUTF8_eq_toByteArray,
    String.toByteArray_inj]

/-- A bundle begins with a comment. -/
theorem head?_assemble {cwd root : Path} {cacheExports : Bool} {g : ModuleGraph} {text : String}
    (h : assemble cwd root cacheExports g = .ok text) : text.toList.head? = some '#' := by
  obtain ⟨entry, _, h⟩ := bind_eq_ok.mp h
  obtain ⟨rows, _, h⟩ := bind_eq_ok.mp h
  cases h
  simp only [String.toList_append]
  rfl

/-- An object begins with a brace. -/
theorem head?_write_object {layout : Json.Layout} {members : List (String × Json)} {text : String}
    (h : (Json.object members).write layout = .ok text) : text.toList.head? = some '\x7b' := by
  rw [Json.write, Json.textAt] at h
  obtain ⟨texts, _, h⟩ := bind_eq_ok.mp h
  cases h
  unfold Json.enclose
  split
  · rfl
  · split <;> simp only [String.toList_append] <;> rfl

/-- A listing begins with the brace of its first line, since a graph has a record. -/
theorem head?_listing {g : ModuleGraph} {cwd root : Path} {modules : List ListedModule}
    {text : String} (hmodules : g.listing cwd root = .ok modules)
    (htext : jsonLines (modules.map ListedModule.toJson) = (text, none)) :
    text.toList.head? = some '\x7b' := by
  cases forall₂_of_mapM hmodules with
  | cons _ _ =>
    obtain ⟨line, rest, hline, _, rfl⟩ := jsonLines_cons_eq htext
    rw [String.toList_append, String.toList_append, List.append_assoc, List.head?_append,
      head?_write_object hline]
    rfl

/-- Nothing stands in the directory. -/
theorem contains_moduleAndDirectory : moduleAndDirectory.Contains ["o"] [] := by
  refine ⟨rfl, ?_⟩
  intro rest hrest
  cases rest with
  | nil => exact absurd rfl hrest
  | cons first rest => cases rest <;> simp [Disk.get?, moduleAndDirectory, Disk.storedAt]

/-- The path of the directory leads to it. -/
theorem place_moduleAndDirectory : moduleAndDirectory.place ⟨.root, ["o"]⟩ = .ok ["o"] := by
  cbv

/-- The artifacts of the module can be generated in the directory, under every plain name. -/
theorem exists_generate_oneModule {name : String} (hname : IsStepName name)
    (hnull : (Path.mk .root ["o", name]).hasNull = false) :
    ∃ made w' g texts,
      (oneModule name).generate (some ⟨.root, ["o"]⟩) ⟨moduleAndDirectory, []⟩ = .ok made w' ∧
      (∃ v, (oneModule name).bundle ⟨moduleAndDirectory, []⟩ = .ok texts.bundle v) ∧
      (g : ModuleGraph).IsShownBy ⟨.root, []⟩ ⟨.root, []⟩ { bundleName := name } texts ∧
      w'.disk.place ⟨.root, ["o"]⟩ = .ok ["o"] ∧ w'.disk.Contains ["o"] (texts.files name) := by
  have hread : moduleAndDirectory.read ⟨.root, ["a.py"]⟩ = .ok [] := by
    cbv
  obtain ⟨code, hbuilt⟩ := isBuilt_oneModule rfl hread name
  obtain ⟨texts, hshown⟩ := isShownBy_singleGraph code name
  have hfiles : ∀ file ∈ texts.files name, IsStepName file.1 ∧
      ((Path.mk .root ["o"]).extend [file.1]).hasNull = false := by
    intro file hfile
    simp only [ArtifactTexts.files, List.mem_cons, List.not_mem_nil, or_false] at hfile
    rcases hfile with rfl | rfl | rfl
    · exact ⟨hname, hnull⟩
    · exact ⟨isStepName_modules, (by decide : (Path.mk .root ["o", "modules.jsonl"]).hasNull = false)⟩
    · exact ⟨isStepName_summary,
        (by decide : (Path.mk .root ["o", "graph_summary.json"]).hasNull = false)⟩
  obtain ⟨d', hstore, hplace', hcontains'⟩ := contains_moduleAndDirectory.exists_store
    place_moduleAndDirectory hfiles
  let w : Workspace := ⟨moduleAndDirectory, []⟩
  have hgeneration : Project.Generation (oneModule name) (some ⟨.root, ["o"]⟩) w.disk d' :=
    { settings := { bundleName := name }, out := ⟨.root, ["o"]⟩, graph := singleGraph code, texts
      isConfigured := rfl, isStoredIn := rfl, isBuilt := hbuilt, isShownBy := hshown
      stored := hstore }
  obtain ⟨made, events, hmade⟩ := Project.generate_yields.mpr ⟨hgeneration⟩
  obtain ⟨_, hbundle⟩ := (Project.bundle_yields (p := oneModule name) (w := w)).mpr
    ⟨{ bundleName := name }, singleGraph code, rfl, hbuilt, hshown.bundle, rfl⟩
  exact ⟨made, ⟨d', events⟩, singleGraph code, texts, hmade, ⟨_, hbundle⟩, hshown, hplace',
    hcontains'⟩

/-- The artifacts of the module are read back from the directory. -/
theorem generate_reads_back_oneModule : ∃ made w' texts,
    (oneModule "b.py").generate (some ⟨.root, ["o"]⟩) ⟨moduleAndDirectory, []⟩ = .ok made w' ∧
    (∃ v, (oneModule "b.py").bundle ⟨moduleAndDirectory, []⟩ = .ok (texts : ArtifactTexts).bundle v) ∧
    w'.disk.read ((Path.mk .root ["o"]) / "b.py") = .ok (Text.Utf8.encode texts.bundle) ∧
    w'.disk.read ((Path.mk .root ["o"]) / ArtifactKind.modules.fileName) =
      .ok (Text.Utf8.encode texts.listing) ∧
    w'.disk.read ((Path.mk .root ["o"]) / ArtifactKind.summary.fileName) =
      .ok (Text.Utf8.encode texts.summary) := by
  have hplain : Settings.isPlainName "b.py" = true := by decide
  obtain ⟨made, w', _, _, hmade, _, _, hplace, hcontains⟩ :=
    exists_generate_oneModule (isStepName_of_isPlainName hplain) (by decide)
  obtain ⟨settings, out, g, texts, hsettings, hout, _, hbundle, _, hread, hapart⟩ :=
    generate_reads_back _ _ _ _ _ hmade
  obtain rfl : settings = { bundleName := "b.py" } := hsettings
  obtain rfl : out = ⟨.root, ["o"]⟩ := hout
  have hvalid : ({ bundleName := "b.py" } : Settings).IsValid :=
    { Settings.isValid_default with bundleName := hplain }
  have hlink : ∀ base name target, w'.disk.place ⟨.root, ["o"]⟩ = .ok base →
      w'.disk.get? (base ++ [name]) ≠ some (.link target) := by
    intro base name target hbase
    obtain rfl := Except.ok.inj (hplace.symm.trans hbase)
    exact hcontains.ne_link name target
  have hreads := hread (hapart hvalid (by decide) (by decide) hlink)
  exact ⟨made, w', texts, hmade, hbundle, hreads⟩

/-- A bundle that is named like the listing is replaced by it. -/
theorem generate_replaces_bundle : ∃ made w' bundle,
    (oneModule "modules.jsonl").generate (some ⟨.root, ["o"]⟩) ⟨moduleAndDirectory, []⟩ =
      .ok made w' ∧
    (∃ v, (oneModule "modules.jsonl").bundle ⟨moduleAndDirectory, []⟩ = .ok bundle v) ∧
    w'.disk.read ((Path.mk .root ["o"]) / "modules.jsonl") ≠ .ok (Text.Utf8.encode bundle) := by
  obtain ⟨made, w', g, texts, hmade, hbundle, hshown, hplace, hcontains⟩ :=
    exists_generate_oneModule isStepName_modules (by decide)
  refine ⟨made, w', texts.bundle, hmade, hbundle, ?_⟩
  have hread : w'.disk.read ((Path.mk .root ["o"]) / "modules.jsonl") =
      .ok (Text.Utf8.encode texts.listing) := by
    have hname : IsStepName "modules.jsonl" := isStepName_modules
    rw [Path.div_eq_extend hname.toIsName]
    refine Disk.read_eq_ok_iff_place.mpr ⟨by decide, ["o", "modules.jsonl"], ?_, ?_⟩
    · exact Disk.place_extend hplace hcontains.directory hname (hcontains.ne_link _)
    · exact hcontains.below ["modules.jsonl"] (by simp)
  rw [hread]
  intro hsame
  have htexts := encode_inj.mp (Except.ok.inj hsame)
  obtain ⟨modules, hmodules, hlines⟩ := hshown.listing
  have hbundleHead := head?_assemble hshown.bundle
  rw [← htexts, head?_listing hmodules hlines] at hbundleHead
  cases hbundleHead

end Bundler
