import Bundler.Project
import Bundler.Proofs.Disk.Growth
import Bundler.Proofs.Outcome

/-!
# What is written for a project

Generating artifacts builds the graph of a project, from which the texts of the artifacts follow, and
stores these texts in a directory, one after the other. The disk plays a part in the first step only
before anything is written, and events play none.
-/

set_option autoImplicit false

namespace Bundler

/-! ## Work step by step -/

namespace Work

variable {ε δ α : Type} {w w' : Workspace} {a : α}

/-- What is required succeeds if it is there. -/
theorem require_eq_ok {x : Except (Failure ε) α} :
    require x w = .ok a w' ↔ x = .ok a ∧ w' = w := by
  cases x with
  | error e => exact ⟨nofun, nofun⟩
  | ok b =>
    constructor
    · intro h
      cases h
      exact ⟨rfl, rfl⟩
    · rintro ⟨h, rfl⟩
      cases h
      rfl

/-- What is required succeeds if it is there, whatever a failure would mean. -/
theorem requireOk_eq_ok {cause : δ → Crash} {x : Except δ α} :
    (requireOk cause x : Work ε α) w = .ok a w' ↔ x = .ok a ∧ w' = w := by
  rw [requireOk, require_eq_ok, Failure.crashOn, mapError_eq_ok]

/-- A change of the workspace is one of its disk. -/
theorem change_eq_ok {c : Disk.Changing α} :
    (change c : Work ε α) w = .ok a w' ↔
      ∃ d, c w.disk = .ok a d ∧ w' = { w with disk := d } := by
  unfold change
  cases hc : c w.disk with
  | error e d => simp
  | ok b d =>
    constructor
    · intro h
      cases h
      exact ⟨d, rfl, rfl⟩
    · rintro ⟨d, h, rfl⟩
      cases h
      rfl

/-- Noting an event adds it. -/
theorem note_eq_ok {e : Event} {u : Unit} :
    (note e : Work ε Unit) w = .ok u w' ↔ w' = { w with events := w.events ++ [e] } := by
  constructor
  · intro h
    cases h
    rfl
  · rintro rfl
    rfl

end Work

/-! ## Storing files -/

namespace Disk

/-- Stores files in a directory, which is made first if it is missing. -/
def store (directory : Path) : List (String × List UInt8) → Changing Unit
  | [] => pure ()
  | (name, bytes) :: rest => do
    makeDirectories directory
    writeFile (directory / name) bytes
    store directory rest

/-- Writing a file succeeds as on the disk. -/
theorem writeFile_eq_ok {p : Path} {bytes : List UInt8} {d d' : Disk} {u : Unit} :
    writeFile p bytes d = .ok u d' ↔ d.write p bytes = .ok d' := by
  rw [writeFile, stateful_bind_eq_ok]
  simp only [get_eq_ok]
  constructor
  · rintro ⟨t, s, ⟨ht, hs⟩, h⟩
    subst t s
    cases hwrite : d.write p bytes with
    | ok written =>
      rw [hwrite] at h
      cases h
      rfl
    | error e =>
      rw [hwrite] at h
      cases h
  · intro hwrite
    refine ⟨d, d, ⟨rfl, rfl⟩, ?_⟩
    rw [hwrite]
    rfl

/-- Files are stored one after the other, each after its directory has been made. -/
theorem store_cons_eq_ok {directory : Path} {file : String × List UInt8}
    {rest : List (String × List UInt8)} {d d' : Disk} {u : Unit} :
    store directory (file :: rest) d = .ok u d' ↔ ∃ made written,
      makeDirectories directory d = .ok () made ∧
      made.write (directory / file.1) file.2 = .ok written ∧
      store directory rest written = .ok u d' := by
  rw [store, stateful_bind_eq_ok]
  constructor
  · rintro ⟨_, made, hmade, h⟩
    obtain ⟨_, written, hwritten, hrest⟩ := stateful_bind_eq_ok.mp h
    exact ⟨made, written, hmade, writeFile_eq_ok.mp hwritten, hrest⟩
  · rintro ⟨made, written, hmade, hwritten, hrest⟩
    have hfile : writeFile (directory / file.1) file.2 made = .ok () written :=
      writeFile_eq_ok.mpr hwritten
    refine ⟨(), made, hmade, ?_⟩
    rw [stateful_bind_of_ok hfile]
    exact hrest

/-- One file is stored after its directory has been made. -/
theorem store_singleton_eq_ok {directory : Path} {file : String × List UInt8} {d d' : Disk} :
    store directory [file] d = .ok () d' ↔ ∃ made, makeDirectories directory d = .ok () made ∧
      made.write (directory / file.1) file.2 = .ok d' := by
  rw [store_cons_eq_ok]
  constructor
  · rintro ⟨made, written, hmade, hwritten, h⟩
    cases h
    exact ⟨made, hmade, hwritten⟩
  · rintro ⟨made, hmade, hwritten⟩
    exact ⟨made, d', hmade, hwritten, rfl⟩

/-- Files are stored one by one. -/
theorem store_cons_iff {directory : Path} {file : String × List UInt8}
    {rest : List (String × List UInt8)} {d d' : Disk} :
    store directory (file :: rest) d = .ok () d' ↔ ∃ between,
      store directory [file] d = .ok () between ∧ store directory rest between = .ok () d' := by
  rw [store_cons_eq_ok]
  simp only [store_singleton_eq_ok]
  constructor
  · rintro ⟨made, between, hmade, hwritten, h⟩
    exact ⟨between, ⟨made, hmade, hwritten⟩, h⟩
  · rintro ⟨between, ⟨made, hmade, hwritten⟩, h⟩
    exact ⟨made, between, hmade, hwritten, h⟩

/-- Storing files lets a disk grow, by files at the places that their paths lead to. -/
theorem grows_store {directory : Path} {files : List (String × List UInt8)} {d d' : Disk}
    (h : store directory files d = .ok () d') : ∃ written, Grows written d d' ∧
      ∀ place, place ∈ written ↔ ∃ file ∈ files, d'.place (directory / file.1) = .ok place := by
  induction files generalizing d with
  | nil =>
    obtain ⟨_, rfl⟩ := pure_eq_ok.mp h
    exact ⟨[], .refl _, by simp⟩
  | cons file files ih =>
    obtain ⟨made, between, hmade, hwrite, hrest⟩ := store_cons_eq_ok.mp h
    obtain ⟨written, hgrows, hplaces⟩ := ih hrest
    obtain ⟨_, first, hfirst, hfree, rfl⟩ := write_eq_ok.mp hwrite
    have hput : Grows [first] made (made.put first (.file file.2)) := grows_put_file hfree
    have hlater : d'.place (directory / file.1) = .ok first :=
      hgrows.place_eq_ok (hput.place_eq_ok hfirst)
    refine ⟨first :: written, ((grows_makeDirectories hmade).1.trans hput).trans hgrows, ?_⟩
    intro place
    rw [List.mem_cons, hplaces, List.exists_mem_cons_iff, hlater, Except.ok.injEq, eq_comm]

/-- Files that are stored at different places are read back. -/
theorem read_store {directory : Path} {files : List (String × List UInt8)} {d d' : Disk}
    (h : store directory files d = .ok () d')
    (hplaces : files.Pairwise fun file other =>
      d'.place (directory / file.1) ≠ d'.place (directory / other.1)) :
    ∀ file ∈ files, d'.read (directory / file.1) = .ok file.2 := by
  induction files generalizing d with
  | nil => exact nofun
  | cons file files ih =>
    obtain ⟨made, between, hmade, hwrite, hrest⟩ := store_cons_eq_ok.mp h
    obtain ⟨written, hgrows, hwritten⟩ := grows_store hrest
    rw [List.pairwise_cons] at hplaces
    intro other hother
    rcases List.mem_cons.mp hother with rfl | hother
    · -- The files that are written later lie elsewhere.
      obtain ⟨hnull, place, hplace, hget⟩ := read_eq_ok_iff_place.mp (read_write hwrite)
      have hlater := hgrows.place_eq_ok hplace
      have hnot : place ∉ written := by
        intro hmem
        obtain ⟨later, hmem, hplace⟩ := (hwritten place).mp hmem
        exact hplaces.1 later hmem (hlater.trans hplace.symm)
      have hkept := hgrows.kept _ _ hnot hget
      exact read_eq_ok_iff_place.mpr ⟨hnull, place, hlater, hkept⟩
    · exact ih hrest hplaces.2 other hother

end Disk

/-! ## Texts of artifacts -/

/-- The texts of the artifacts of a graph. -/
structure ArtifactTexts where
  /-- The bundle. -/
  bundle : String
  /-- The listing of the modules. -/
  listing : String
  /-- The summary. -/
  summary : String

/-- The files that texts are stored in, in the order of writing. -/
def ArtifactTexts.files (t : ArtifactTexts) (bundleName : String) : List (String × List UInt8) :=
  [(bundleName, Text.Utf8.encode t.bundle),
    (ArtifactKind.modules.fileName, Text.Utf8.encode t.listing),
    (ArtifactKind.summary.fileName, Text.Utf8.encode t.summary)]

/-- The texts of the artifacts of a graph for a root and settings. -/
structure ModuleGraph.IsShownBy (g : ModuleGraph) (cwd root : Path) (settings : Settings)
    (t : ArtifactTexts) : Prop where
  /-- The bundle is that of the graph. -/
  bundle : assemble cwd root settings.cacheExports g = .ok t.bundle
  /-- The listing has a line for every record. -/
  listing : ∃ modules, g.listing cwd root = .ok modules ∧
    jsonLines (modules.map ListedModule.toJson) = (t.listing, none)
  /-- The summary is that of the graph. -/
  summary : ∃ s, GraphSummary.ofGraph cwd root (.ok settings.policy) (some topModuleCount) g = .ok s ∧
    s.toJson.write .document = .ok t.summary

/-! ## Writing one artifact -/

section Artifacts

variable {ε : Type} {root directory : Path} {g : ModuleGraph} {w : Workspace} {d' : Disk}

/-- What work returns on a disk, whatever events it notes. -/
def Work.Yields {α : Type} (work : Work ε α) (w : Workspace) (a : α) (d' : Disk) : Prop :=
  ∃ events, work w = .ok a ⟨d', events⟩

/-- A bundle is assembled for the current directory of the disk, and this is noted. -/
theorem assembleBundle_eq_ok {cacheExports : Bool} {text : String} {w' : Workspace} :
    (assembleBundle root cacheExports g : Work ε String) w = .ok text w' ↔
      assemble w.disk.current root cacheExports g = .ok text ∧
        w' = { w with events := w.events ++ [.assembled g.size cacheExports] } := by
  simp only [assembleBundle, stateful_bind_eq_ok, get_eq_ok, Work.requireOk_eq_ok,
    Work.note_eq_ok, pure_eq_ok]
  constructor
  · rintro ⟨_, _, ⟨rfl, rfl⟩, _, _, ⟨htext, rfl⟩, _, _, rfl, rfl, rfl⟩
    exact ⟨htext, rfl⟩
  · rintro ⟨htext, rfl⟩
    exact ⟨_, _, ⟨rfl, rfl⟩, _, _, ⟨htext, rfl⟩, (), _, rfl, rfl, rfl⟩

/-- Writing a bundle stores its text. -/
theorem writeBundle_yields {name : String} {cacheExports : Bool} :
    (writeBundle root directory name cacheExports g : Work ε Unit).Yields w () d' ↔ ∃ text,
      assemble w.disk.current root cacheExports g = .ok text ∧
      Disk.store directory [(name, Text.Utf8.encode text)] w.disk = .ok () d' := by
  simp only [Work.Yields, writeBundle, stateful_bind_eq_ok, Work.change_eq_ok, assembleBundle_eq_ok,
    Disk.store_singleton_eq_ok, Disk.writeFile_eq_ok]
  constructor
  · rintro ⟨events, _, _, ⟨made, hmade, rfl⟩, text, _, ⟨htext, rfl⟩, written, hwritten, h⟩
    cases h
    have hcurrent := (Disk.grows_makeDirectories hmade).1.current
    exact ⟨text, by rwa [← hcurrent], made, hmade, hwritten⟩
  · rintro ⟨text, htext, made, hmade, hwritten⟩
    have hcurrent := (Disk.grows_makeDirectories hmade).1.current
    refine ⟨_, (), _, ⟨made, hmade, rfl⟩, text, _, ⟨?_, rfl⟩, d', hwritten, rfl⟩
    rwa [hcurrent]

/-- The lines for values begin with that of the first value. -/
theorem jsonLines_cons_eq {value : Json} {values : List Json} {text : String}
    (h : jsonLines (value :: values) = (text, none)) : ∃ line rest,
      value.write .line = .ok line ∧ jsonLines values = (rest, none) ∧ text = line ++ "\n" ++ rest := by
  rw [jsonLines] at h
  cases hline : value.write .line with
  | error e =>
    rw [hline] at h
    cases h
  | ok line =>
    rw [hline] at h
    cases hrest : jsonLines values with
    | mk rest refused =>
      rw [hrest] at h
      cases h
      exact ⟨line, rest, rfl, rfl, rfl⟩

/-- Writing a listing stores its lines. -/
theorem writeListing_yields {modules : List ListedModule} :
    (writeListing root directory g : Work ε _).Yields w modules d' ↔
      g.listing w.disk.current root = .ok modules ∧ ∃ text,
        jsonLines (modules.map ListedModule.toJson) = (text, none) ∧
        Disk.store directory [(ArtifactKind.modules.fileName, Text.Utf8.encode text)] w.disk =
          .ok () d' := by
  simp only [Work.Yields, writeListing, stateful_bind_eq_ok, Work.change_eq_ok, get_eq_ok,
    Work.requireOk_eq_ok, Disk.store_singleton_eq_ok, Disk.writeFile_eq_ok]
  constructor
  · rintro ⟨events, _, _, ⟨made, hmade, rfl⟩, _, _, ⟨rfl, rfl⟩, listed, _, ⟨hlisted, rfl⟩, h⟩
    cases hlines : jsonLines (listed.map ListedModule.toJson) with
    | mk text refused =>
      simp only [hlines] at h
      obtain ⟨_, _, ⟨written, hwritten, rfl⟩, h⟩ := h
      cases refused with
      | some e => cases h
      | none =>
        cases h
        have hcurrent := (Disk.grows_makeDirectories hmade).1.current
        exact ⟨by rwa [← hcurrent], text, hlines, made, hmade, hwritten⟩
  · rintro ⟨hlisted, text, hlines, made, hmade, hwritten⟩
    have hcurrent := (Disk.grows_makeDirectories hmade).1.current
    refine ⟨w.events, (), _, ⟨made, hmade, rfl⟩, _, _, ⟨rfl, rfl⟩, modules, _, ⟨?_, rfl⟩, ?_⟩
    · rwa [hcurrent]
    · simp only [hlines]
      exact ⟨(), _, ⟨d', hwritten, rfl⟩, rfl⟩

/-- Writing a summary stores its text. -/
theorem writeSummary_yields {policy : Except Invalid IdentityPolicy} {bound : Option Int}
    {s : GraphSummary} :
    (writeSummary root directory policy bound g : Work ε _).Yields w s d' ↔
      GraphSummary.ofGraph w.disk.current root policy bound g = .ok s ∧ ∃ text,
        s.toJson.write .document = .ok text ∧
        Disk.store directory [(ArtifactKind.summary.fileName, Text.Utf8.encode text)] w.disk =
          .ok () d' := by
  simp only [Work.Yields, writeSummary, stateful_bind_eq_ok, Work.change_eq_ok, get_eq_ok,
    Work.requireOk_eq_ok, Disk.store_singleton_eq_ok, Disk.writeFile_eq_ok, pure_eq_ok]
  constructor
  · rintro ⟨events, _, _, ⟨made, hmade, rfl⟩, _, _, ⟨rfl, rfl⟩, _, _, ⟨hsummary, rfl⟩, text, _,
      ⟨htext, rfl⟩, _, _, ⟨written, hwritten, rfl⟩, rfl, h⟩
    cases h
    rw [(Disk.grows_makeDirectories hmade).1.current] at hsummary
    exact ⟨hsummary, text, htext, made, hmade, hwritten⟩
  · rintro ⟨hsummary, text, htext, made, hmade, hwritten⟩
    rw [← (Disk.grows_makeDirectories hmade).1.current] at hsummary
    exact ⟨w.events, (), _, ⟨made, hmade, rfl⟩, _, _, ⟨rfl, rfl⟩, s, _, ⟨hsummary, rfl⟩, text, _,
      ⟨htext, rfl⟩, (), _, ⟨d', hwritten, rfl⟩, rfl, rfl⟩

end Artifacts

/-! ## Building a project -/

namespace Project

variable {p : Project} {d d' : Disk} {w w' : Workspace}

/-- The settings of a project on a disk. -/
def IsConfigured (p : Project) (d : Disk) (settings : Settings) : Prop :=
  match p.settings with
  | some given => settings = given
  | none => Settings.load d p.root = .ok settings

/-- The graph of a project on a disk. -/
def IsBuilt (p : Project) (d : Disk) (settings : Settings) (g : ModuleGraph) : Prop :=
  ∃ entry, entryPath d p.root p.entry settings = .ok entry ∧
    ((Builder.ofDisk d settings).run entry.toString).outcome = .ok g

/-- The directory for the artifacts of a project on a disk. -/
def IsStoredIn (p : Project) (d : Disk) (settings : Settings) (chosen : Option Path) (out : Path) :
    Prop :=
  match chosen with
  | some directory => out = directory
  | none => outputDirectory d p.root settings.outputDir = .ok out

/-- The settings are those that a project is configured with. -/
theorem effectiveSettings_eq_ok {settings : Settings} :
    p.effectiveSettings w = .ok settings w' ↔ p.IsConfigured w.disk settings ∧ w' = w := by
  unfold effectiveSettings IsConfigured
  cases p.settings with
  | some given => exact pure_eq_ok
  | none =>
    simp only [stateful_bind_eq_ok, get_eq_ok, Work.require_eq_ok, mapError_eq_ok]
    constructor
    · rintro ⟨_, _, ⟨rfl, rfl⟩, hload, rfl⟩
      exact ⟨hload, rfl⟩
    · rintro ⟨hload, rfl⟩
      exact ⟨_, _, ⟨rfl, rfl⟩, hload, rfl⟩

/-- The directory for artifacts is the one that they are to be stored in. -/
theorem artifactsDirectory_eq_ok {settings : Settings} {chosen : Option Path} {out : Path} :
    p.artifactsDirectory settings chosen w = .ok out w' ↔
      p.IsStoredIn w.disk settings chosen out ∧ w' = w := by
  cases chosen with
  | some directory => exact pure_eq_ok
  | none =>
    simp only [artifactsDirectory, IsStoredIn, stateful_bind_eq_ok, get_eq_ok, Work.require_eq_ok,
      mapError_eq_ok]
    constructor
    · rintro ⟨_, _, ⟨rfl, rfl⟩, hout, rfl⟩
      exact ⟨hout, rfl⟩
    · rintro ⟨hout, rfl⟩
      exact ⟨_, _, ⟨rfl, rfl⟩, hout, rfl⟩

/-- The events of a build are noted in their order. -/
theorem forM_note {ε : Type} (events : List BuildEvent) (w : Workspace) :
    (events.forM fun e => Work.note (.build e) : Work ε Unit) w =
      .ok () { w with events := w.events ++ events.map .build } := by
  induction events generalizing w with
  | nil => simp [List.forM_nil, pure, EStateM.pure]
  | cons e events ih =>
    change (Work.note (.build e) >>= fun _ => events.forM fun e => Work.note (.build e) : Work ε Unit)
      w = _
    refine stateful_bind_eq_ok.mpr ⟨(), _, rfl, ?_⟩
    rw [ih]
    simp

/-- Building gives the graph of a project and changes nothing on the disk. -/
theorem buildGraph_yields {settings : Settings} {g : ModuleGraph} :
    (p.buildGraph settings).Yields w g d' ↔ p.IsBuilt w.disk settings g ∧ d' = w.disk := by
  simp only [Work.Yields, buildGraph, stateful_bind_eq_ok, get_eq_ok, Work.require_eq_ok,
    mapError_eq_ok, forM_note]
  constructor
  · rintro ⟨events, _, _, ⟨rfl, rfl⟩, entry, _, ⟨hentry, rfl⟩, _, _, h, hrun, hw⟩
    cases h
    cases hw
    exact ⟨⟨entry, hentry, hrun⟩, rfl⟩
  · rintro ⟨⟨entry, hentry, hrun⟩, rfl⟩
    exact ⟨_, _, _, ⟨rfl, rfl⟩, entry, _, ⟨hentry, rfl⟩, (), _, rfl, hrun, rfl⟩

/-- Bundling assembles the graph of a project. -/
theorem bundle_yields {text : String} :
    p.bundle.Yields w text d' ↔ ∃ settings g, p.IsConfigured w.disk settings ∧
      p.IsBuilt w.disk settings g ∧
      assemble w.disk.current p.root settings.cacheExports g = .ok text ∧ d' = w.disk := by
  simp only [Work.Yields, bundle, stateful_bind_eq_ok, effectiveSettings_eq_ok,
    assembleBundle_eq_ok]
  constructor
  · rintro ⟨events, settings, _, ⟨hsettings, rfl⟩, g, ⟨d₁, events₁⟩, hg, htext, h⟩
    obtain ⟨hbuilt, rfl⟩ := buildGraph_yields.mp ⟨events₁, hg⟩
    cases h
    exact ⟨settings, g, hsettings, hbuilt, htext, rfl⟩
  · rintro ⟨settings, g, hsettings, hbuilt, htext, rfl⟩
    obtain ⟨events₁, hg⟩ := buildGraph_yields.mpr ⟨hbuilt, rfl⟩
    exact ⟨_, settings, _, ⟨hsettings, rfl⟩, g, _, hg, htext, rfl⟩

/-- What it takes to generate the artifacts of a project. -/
structure Generation (p : Project) (chosen : Option Path) (before after : Disk) where
  /-- The settings. -/
  settings : Settings
  /-- The directory for the artifacts. -/
  out : Path
  /-- The graph. -/
  graph : ModuleGraph
  /-- The texts of the artifacts. -/
  texts : ArtifactTexts
  /-- The settings are those of the project. -/
  isConfigured : p.IsConfigured before settings
  /-- The directory is the chosen one or that of the project. -/
  isStoredIn : p.IsStoredIn before settings chosen out
  /-- The graph is that of the project. -/
  isBuilt : p.IsBuilt before settings graph
  /-- The texts are those of the graph. -/
  isShownBy : graph.IsShownBy before.current p.root settings texts
  /-- The texts are stored in the directory. -/
  stored : Disk.store out (texts.files settings.bundleName) before = .ok () after

/-- Generating artifacts succeeds if and only if there are settings, a directory, a graph and texts,
and the texts can be stored. -/
theorem generate_yields {chosen : Option Path} :
    (∃ generated, (p.generate chosen).Yields w generated d') ↔
      Nonempty (Generation p chosen w.disk d') := by
  simp only [generate, Work.Yields, stateful_bind_eq_ok, effectiveSettings_eq_ok,
    artifactsDirectory_eq_ok, discard_eq_ok, Work.note_eq_ok, pure_eq_ok]
  constructor
  · rintro ⟨_, events, settings, _, ⟨hsettings, rfl⟩, out, _, ⟨hout, rfl⟩, g, ⟨d₁, events₁⟩, hg,
      _, ⟨d₂, events₂⟩, hbundle, _, ⟨d₃, events₃⟩, ⟨modules, hlisting⟩, s, ⟨d₄, events₄⟩, hsummary, _,
      _, rfl, _, h⟩
    obtain ⟨hbuilt, rfl⟩ := buildGraph_yields.mp ⟨events₁, hg⟩
    obtain ⟨bundle, hbundle, hstored⟩ := writeBundle_yields.mp ⟨events₂, hbundle⟩
    obtain ⟨hmodules, listing, hlines, hstored'⟩ := writeListing_yields.mp ⟨events₃, hlisting⟩
    obtain ⟨hs, summary, hsummary, hstored''⟩ := writeSummary_yields.mp ⟨events₄, hsummary⟩
    cases h
    obtain ⟨_, hgrows, _⟩ := Disk.grows_store hstored
    obtain ⟨_, hgrows', _⟩ := Disk.grows_store hstored'
    rw [hgrows.current] at hmodules
    rw [hgrows'.current, hgrows.current] at hs
    have hrest := Disk.store_cons_iff.mpr ⟨d₃, hstored', hstored''⟩
    have hstores := Disk.store_cons_iff.mpr ⟨d₂, hstored, hrest⟩
    exact ⟨settings, out, g, ⟨bundle, listing, summary⟩, hsettings, hout, hbuilt,
      ⟨hbundle, ⟨modules, hmodules, hlines⟩, s, hs, hsummary⟩,
      hstores⟩
  · rintro ⟨settings, out, g, texts, hsettings, hout, hbuilt, hshown, hstored⟩
    obtain ⟨d₂, hstored, h⟩ := Disk.store_cons_iff.mp hstored
    obtain ⟨d₃, hstored', hstored''⟩ := Disk.store_cons_iff.mp h
    obtain ⟨_, hgrows, _⟩ := Disk.grows_store hstored
    obtain ⟨_, hgrows', _⟩ := Disk.grows_store hstored'
    obtain ⟨modules, hmodules, hlines⟩ := hshown.listing
    obtain ⟨s, hs, hsummary⟩ := hshown.summary
    rw [← hgrows.current] at hmodules
    rw [← hgrows.current, ← hgrows'.current] at hs
    obtain ⟨events₁, hg⟩ := buildGraph_yields.mpr ⟨hbuilt, rfl⟩
    obtain ⟨events₂, hbundle⟩ := (writeBundle_yields (w := ⟨w.disk, events₁⟩)).mpr
      ⟨texts.bundle, hshown.bundle, hstored⟩
    obtain ⟨events₃, hlisting⟩ := (writeListing_yields (w := ⟨d₂, events₂⟩)).mpr
      ⟨hmodules, texts.listing, hlines, hstored'⟩
    obtain ⟨events₄, hsummary⟩ := (writeSummary_yields (w := ⟨d₃, events₃⟩)).mpr
      ⟨hs, texts.summary, hsummary, hstored''⟩
    exact ⟨_, _, settings, _, ⟨hsettings, rfl⟩, out, _, ⟨hout, rfl⟩, g, _, hg, (), _, hbundle, (), _,
      ⟨modules, hlisting⟩, s, _, hsummary, (), _, rfl, rfl, rfl⟩

end Project

end Bundler
