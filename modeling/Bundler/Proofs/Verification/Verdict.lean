import Bundler.Proofs.Artifact.Separation
import Bundler.Proofs.Disk.Vacant
import Bundler.Proofs.Verification.Contents

/-!
# The verdict of a verification

Artifacts are compared with those of another build as maps from paths to bytes. A verification gives
the comparison with what generating into an empty directory leaves there: it does not matter into
which one.
-/

set_option autoImplicit false

namespace Bundler

/-! ## Comparing maps -/

namespace Comparison

/-- A comparison tells how two maps differ, and lists paths in their order. -/
structure IsExact (c : Comparison) (artifacts rebuilt : Contents) : Prop where
  /-- There is no difference if and only if the maps are the same. -/
  isEqual : c.isEqual = true ↔ ∀ path, artifacts.lookup path = rebuilt.lookup path
  /-- These paths are in the first map only. -/
  missing : ∀ path, path ∈ c.missing ↔
    (∃ bytes, artifacts.lookup path = some bytes) ∧ rebuilt.lookup path = none
  /-- These paths are in the second map only. -/
  extra : ∀ path, path ∈ c.extra ↔
    artifacts.lookup path = none ∧ ∃ bytes, rebuilt.lookup path = some bytes
  /-- These paths have different bytes in the maps. -/
  mismatches : ∀ path, path ∈ c.mismatches ↔ ∃ bytes other,
    artifacts.lookup path = some bytes ∧ rebuilt.lookup path = some other ∧ bytes ≠ other
  /-- Every list is strictly increasing. -/
  increasing : c.missing.Pairwise (· < ·) ∧ c.extra.Pairwise (· < ·) ∧
    c.mismatches.Pairwise (· < ·)

variable {artifacts rebuilt contents : Contents} {path : String}

/-- The sorted paths are those of the files. -/
theorem mem_sortPaths : path ∈ sortPaths contents ↔ ∃ bytes, (path, bytes) ∈ contents := by
  simp [sortPaths]

/-- Sorted paths increase. -/
theorem pairwise_sortPaths (h : (contents.map Prod.fst).Nodup) :
    (sortPaths contents).Pairwise (· < ·) := by
  have hsorted : (sortPaths contents).Pairwise (· ≤ ·) := by
    have hle : ∀ s t u : String, decide (s ≤ t) → decide (t ≤ u) → decide (s ≤ u) := by
      simpa using fun s t u => le_trans
    have htotal : ∀ s t : String, (decide (s ≤ t) || decide (t ≤ s)) = true := by
      simpa using le_total
    have hmerge := List.pairwise_mergeSort hle htotal (contents.map Prod.fst)
    simp only [decide_eq_true_eq] at hmerge
    exact hmerge
  have hnodup : (sortPaths contents).Nodup := (List.mergeSort_perm _ _).nodup_iff.mpr h
  exact (hsorted.and hnodup).imp fun hpaths => lt_of_le_of_ne hpaths.1 hpaths.2

/-- A comparison is exact for another map with the same bytes under every path. -/
theorem IsExact.congr {c : Comparison} {other : Contents} (h : c.IsExact artifacts rebuilt)
    (hother : ∀ path, other.lookup path = rebuilt.lookup path) : c.IsExact artifacts other where
  isEqual := by simpa only [hother] using h.isEqual
  missing := by simpa only [hother] using h.missing
  extra := by simpa only [hother] using h.extra
  mismatches := by simpa only [hother] using h.mismatches
  increasing := h.increasing

/-- The same for the first map. -/
theorem IsExact.congr_left {c : Comparison} {other : Contents} (h : c.IsExact artifacts rebuilt)
    (hother : ∀ path, other.lookup path = artifacts.lookup path) : c.IsExact other rebuilt where
  isEqual := by simpa only [hother] using h.isEqual
  missing := by simpa only [hother] using h.missing
  extra := by simpa only [hother] using h.extra
  mismatches := by simpa only [hother] using h.mismatches
  increasing := h.increasing

/-- Comparing contents in which no path is listed twice is exact. -/
theorem isExact_ofContents (ha : (artifacts.map Prod.fst).Nodup)
    (hr : (rebuilt.map Prod.fst).Nodup) : (ofContents artifacts rebuilt).IsExact artifacts rebuilt := by
  have hmissing : ∀ path, path ∈ (ofContents artifacts rebuilt).missing ↔
      (∃ bytes, artifacts.lookup path = some bytes) ∧ rebuilt.lookup path = none := by
    intro path
    simp [ofContents, mem_sortPaths, lookup_eq_some_iff_mem ha]
  have hextra : ∀ path, path ∈ (ofContents artifacts rebuilt).extra ↔
      artifacts.lookup path = none ∧ ∃ bytes, rebuilt.lookup path = some bytes := by
    intro path
    simp [ofContents, mem_sortPaths, lookup_eq_some_iff_mem hr, and_comm]
  have hmismatches : ∀ path, path ∈ (ofContents artifacts rebuilt).mismatches ↔ ∃ bytes other,
      artifacts.lookup path = some bytes ∧ rebuilt.lookup path = some other ∧ bytes ≠ other := by
    intro path
    simp only [ofContents, mem_sortPaths, List.mem_filter, lookup_eq_some_iff_mem ha]
    refine exists_congr fun bytes => ?_
    cases hlookup : rebuilt.lookup path with
    | none => simp
    | some other => simp [ne_comm]
  refine ⟨?_, hmissing, hextra, hmismatches, pairwise_sortPaths ?_, pairwise_sortPaths ?_,
    pairwise_sortPaths ?_⟩
  · have hempty : (ofContents artifacts rebuilt).isEqual = true ↔
        ∀ path, path ∉ (ofContents artifacts rebuilt).missing ∧
          path ∉ (ofContents artifacts rebuilt).extra ∧
          path ∉ (ofContents artifacts rebuilt).mismatches := by
      simp [isEqual, List.eq_nil_iff_forall_not_mem, forall_and, and_assoc]
    rw [hempty]
    refine forall_congr' fun path => ?_
    rw [hmissing, hextra, hmismatches]
    cases artifacts.lookup path <;> cases rebuilt.lookup path <;> simp
  · exact ha.sublist (List.filter_sublist.map _)
  · exact hr.sublist (List.filter_sublist.map _)
  · exact ha.sublist (List.filter_sublist.map _)

end Comparison

/-! ## Building again -/

/-- The artifacts have plain names. -/
theorem isStepName_of_mem_files (texts : ArtifactTexts) {bundleName : String}
    (h : Settings.isPlainName bundleName = true) :
    ∀ file ∈ texts.files bundleName, IsStepName file.1 := by
  intro file hfile
  simp only [ArtifactTexts.files, List.mem_cons, List.not_mem_nil, or_false] at hfile
  rcases hfile with rfl | rfl | rfl
  · exact isStepName_of_isPlainName h
  · exact isStepName_modules
  · exact isStepName_summary

/-- There are artifacts. -/
theorem ArtifactTexts.files_ne_nil (texts : ArtifactTexts) (bundleName : String) :
    texts.files bundleName ≠ [] :=
  List.cons_ne_nil _ _

namespace Project

variable {p : Project} {d d' : Disk} {w w' : Workspace} {chosen : Option Path}

/-- The settings of a project are valid if given ones are. -/
theorem IsConfigured.isValid {settings : Settings} (h : p.IsConfigured d settings)
    (hvalid : ∀ given, p.settings = some given → given.IsValid) : settings.IsValid := by
  unfold IsConfigured at h
  cases hgiven : p.settings with
  | some given =>
    rw [hgiven] at h
    exact h ▸ hvalid given hgiven
  | none =>
    rw [hgiven] at h
    exact Settings.isValid_of_load h

/-- The files that have been generated have entry names. -/
theorem Generation.isEntryName (h : Generation p chosen d d') (hvalid : h.settings.IsValid) :
    ∀ file ∈ h.texts.files h.settings.bundleName, IsEntryName file.1 := by
  intro file hfile
  have hname := isStepName_of_mem_files h.texts hvalid.bundleName file hfile
  have hnull := Disk.hasNull_of_store h.stored file hfile
  rw [Path.div_eq_extend hname.toIsName, Path.hasNull_extend, Bool.or_eq_false_iff] at hnull
  exact ⟨hname, Path.hasNull_eq_false.mp hnull.2 file.1 List.mem_cons_self⟩

section Verify

variable {artifacts e : Path} {made : Generated} {d₁ : Disk}

/-- A verification compares artifacts with those that are generated in its own directory, while these are
there. -/
theorem verify_eq_ok {c : Comparison} : p.verify artifacts w = .ok c w' ↔
    w.disk.isDirectory artifacts = true ∧ ∃ d₁ made after,
      w.disk.makeDirectory w.disk.scratch = .ok d₁ ∧
      p.generate (some w.disk.scratch) { w with disk := d₁ } = .ok made after ∧
      c = .ofContents (after.disk.contents artifacts) (after.disk.contents w.disk.scratch) ∧
      w' = { after with disk := w.disk } := by
  unfold verify
  simp only [stateful_bind_eq_ok, get_eq_ok]
  constructor
  · rintro ⟨s, t, ⟨hs, ht⟩, h⟩
    subst s t
    split at h
    · cases h
    split at h
    · cases h
    rename_i hdirectory
    cases hmake : w.disk.makeDirectory w.disk.scratch with
    | error e =>
      simp only [hmake] at h
      cases h
    | ok d₁ =>
      simp only [hmake] at h
      cases hmade : p.generate (some w.disk.scratch) { w with disk := d₁ } with
      | error e failed =>
        simp only [hmade] at h
        cases h
      | ok made after =>
        simp only [hmade] at h
        cases h
        exact ⟨by simpa using hdirectory, d₁, made, after, rfl, hmade, rfl, rfl⟩
  · rintro ⟨hdirectory, d₁, made, after, hmake, hmade, rfl, rfl⟩
    have hpresent : w.disk.isPresent artifacts = true := by
      obtain ⟨hnull, hfind⟩ := Disk.isDirectory_iff.mp hdirectory
      exact Disk.isPresent_iff.mpr ⟨hnull, _, hfind⟩
    refine ⟨w, w, ⟨rfl, rfl⟩, ?_⟩
    simp only [hpresent, hdirectory, hmake, hmade, Bool.not_true, Bool.false_eq_true, if_false]
    rfl

/-- A project that is generated in some directory can be generated in an empty one. -/
theorem Generation.exists_generate {out : Path} (generation : p.Generation chosen d d')
    (hvalid : generation.settings.IsValid) (hempty : d.IsEmptyDirectory out) (events : List Event) :
    ∃ rebuilt made' events', p.generate (some out) ⟨d, events⟩ = .ok made' ⟨rebuilt, events'⟩ ∧
      Disk.store out (generation.texts.files generation.settings.bundleName) d = .ok () rebuilt := by
  obtain ⟨rebuilt, hstore⟩ := hempty.exists_store (generation.isEntryName hvalid)
  have hagain : p.Generation (some out) d rebuilt :=
    { generation with out, isStoredIn := rfl, stored := hstore }
  obtain ⟨made', events', hmade⟩ := (generate_yields (w := ⟨d, events⟩)).mpr ⟨hagain⟩
  exact ⟨rebuilt, made', events', hmade, hstore⟩

/-- A verification gives the exact difference between artifacts and what generating into an empty
directory leaves there. Its own directory is as good as any other one. -/
theorem exists_verify (hproper : w.disk.IsProper)
    (hvalid : ∀ given, p.settings = some given → given.IsValid)
    (hdirectory : w.disk.isDirectory artifacts = true)
    (hmake : w.disk.makeDirectory w.disk.scratch = .ok d₁) (hempty : d₁.IsEmptyDirectory e)
    (h : p.generate (some e) { w with disk := d₁ } = .ok made w') :
    ∃ c rebuilt made' events,
      p.generate (some w.disk.scratch) { w with disk := d₁ } = .ok made' ⟨rebuilt, events⟩ ∧
      p.verify artifacts w = .ok c ⟨w.disk, events⟩ ∧
      c.IsExact (rebuilt.contents artifacts) (w'.disk.contents e) := by
  obtain ⟨generation⟩ := generate_yields.mp ⟨made, w'.events, h⟩
  have hsettings := generation.isConfigured.isValid hvalid
  have hnames := isStepName_of_mem_files generation.texts hsettings.bundleName
  have hne := ArtifactTexts.files_ne_nil generation.texts generation.settings.bundleName
  have hproper₁ : d₁.IsProper := hproper.makeDirectory hmake
  have hscratch : d₁.IsEmptyDirectory w.disk.scratch :=
    hproper.isEmptyDirectory_of_makeDirectory hmake
  obtain ⟨rebuilt, made', events, hmade, hstore⟩ :=
    generation.exists_generate hsettings hscratch w.events
  have hverify := verify_eq_ok.mpr ⟨hdirectory, d₁, made', _, hmake, hmade, rfl, rfl⟩
  refine ⟨_, rebuilt, made', events, hmade, hverify, ?_⟩
  -- Both directories were empty, and the same files have been stored in them.
  have hlookup : ∀ {out : Path} {after : Disk}, d₁.IsEmptyDirectory out →
      Disk.store out (generation.texts.files generation.settings.bundleName) d₁ = .ok () after →
      ((after.contents out).map Prod.fst).Nodup ∧ ∀ path, (after.contents out).lookup path =
        (generation.texts.files generation.settings.bundleName).reverse.lookup path := by
    intro out after hout hstored
    refine hproper₁.lookup_contents_of_store (.inr hout) (fun habsent => ?_) hne hnames hstored
    rw [hout.isPresent] at habsent
    cases habsent
  have hstored := generation.stored
  rw [show generation.out = e from generation.isStoredIn] at hstored
  have hrebuilt : ∀ path, (w'.disk.contents e).lookup path =
      (rebuilt.contents w.disk.scratch).lookup path := by
    intro path
    rw [(hlookup hempty hstored).2, (hlookup hscratch hstore).2]
  obtain ⟨_, base, hplace, _⟩ := Disk.isDirectory_iff_place.mp hdirectory
  obtain ⟨_, hgrows, _⟩ := Disk.grows_store hstore
  have hplace' : rebuilt.place artifacts = .ok base :=
    hgrows.place_eq_ok ((Disk.grows_makeDirectory hmake).1.place_eq_ok hplace)
  have hexact := Comparison.isExact_ofContents ((hproper₁.store hstore).nodup_contents hplace')
    (hlookup hscratch hstore).1
  exact hexact.congr hrebuilt

end Verify

end Project

end Bundler
