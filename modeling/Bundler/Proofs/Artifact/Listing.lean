import Bundler.Proofs.Artifact.Separation
import Bundler.Proofs.Json.Reading
import Bundler.Proofs.Path.Normal

/-!
# Reading the listing back

The main result: a written listing loses nothing of its graph but the code. Split at line feeds it has
a line for each record and nothing behind the last one. A line is read as one object in the order of
its keys that tells the identity, the name and the references of its record. Its path leads from the
root to the location of the record, outside of the root too, so that different locations have different
paths.
-/

set_option autoImplicit false

namespace Bundler

/-! ## Lines -/

section Lines

variable {cwd root : Path} {r r' : ModuleRecord} {m : ListedModule} {value value' : Json}

/-- The keys of a line, in their order. -/
def ListedModule.keys : List String :=
  ["dependency_references", "identity", "module", "path", "reference_map", "schema_version"]

/-- A value that tells what a record holds, its code apart. -/
structure ModuleRecord.IsToldBy (cwd root : Path) (r : ModuleRecord) (value : Json) : Prop where
  /-- The members are in the order of their keys, those of the references too. -/
  ordered : value.IsOrdered
  /-- There are no other members. -/
  keys : ∃ members, value = .object members ∧ members.map Prod.fst = ListedModule.keys
  /-- The form of the listing is numbered. -/
  schema : value.get? "schema_version" = some (.int schemaVersion)
  /-- The identity is that of the record. -/
  identity : value.get? "identity" = some (.int r.identity)
  /-- The name is that of the record. -/
  name : value.get? "module" = some (.string (r.moduleName cwd root))
  /-- The references are those of the record, in order and with repetitions. -/
  references : value.get? "dependency_references" = some (.array (r.references.map .string))
  /-- The references lead where those of the record lead. -/
  referenceMap : ∃ targets, value.get? "reference_map" = some (.object targets) ∧
    ∀ reference, targets.lookup reference = (r.referenceMap.lookup reference).map .int
  /-- The path leads from the root to the location of the record. -/
  path : ∃ path, value.get? "path" = some (.string path) ∧
    ∀ start, ((root / path).normalize start).toString = r.location

/-- The path tells the location. -/
theorem ModuleRecord.IsToldBy.location_eq (h : r.IsToldBy cwd root value)
    (h' : r'.IsToldBy cwd root value') (hpath : value.get? "path" = value'.get? "path") :
    r.location = r'.location := by
  obtain ⟨path, hget, hlocation⟩ := h.path
  obtain ⟨path', hget', hlocation'⟩ := h'.path
  obtain rfl : path = path' := by
    rw [hget, hget'] at hpath
    cases hpath
    rfl
  rw [← hlocation cwd, ← hlocation' cwd]

namespace ListedModule

/-- The members of a line. -/
def members (m : ListedModule) : List (String × Json) :=
  [("schema_version", .int schemaVersion), ("identity", .int m.identity),
    ("path", .string m.path), ("module", .string m.name),
    ("dependency_references", .array (m.references.map .string)),
    ("reference_map", .object (m.referenceMap.map fun target => (target.1, .int target.2)))]

/-- A listed module has no key twice. -/
theorem nodup_keys_members (m : ListedModule) : (m.members.map Prod.fst).Nodup := by
  change ["schema_version", "identity", "path", "module", "dependency_references",
    "reference_map"].Nodup
  decide

/-- Numbers as data values stand under the same keys. -/
theorem nodup_keys_targets {entries : List (String × Int)} (h : (entries.map Prod.fst).Nodup) :
    ((entries.map fun entry => (entry.1, Json.int entry.2)).map Prod.fst).Nodup := by
  rwa [List.map_map]

/-- The data value of a listed module has no key twice, at any depth. -/
theorem isPlain_toJson (h : (m.referenceMap.map Prod.fst).Nodup) : m.toJson.IsPlain := by
  have hreferences : (Json.array (m.references.map .string)).IsPlain :=
    .array (List.forall_mem_map.mpr fun reference _ => .string reference)
  have htargets : (Json.object (m.referenceMap.map fun target => (target.1, .int target.2))).IsPlain :=
    .object (nodup_keys_targets h) (List.forall_mem_map.mpr fun target _ => .int target.2)
  refine .object m.nodup_keys_members ?_
  simp only [List.forall_mem_cons]
  exact ⟨.int _, .int _, .string _, .string _, hreferences, htargets, nofun⟩

/-- A member of the arranged value is the arranged member. -/
theorem get?_arranged (m : ListedModule) (key : String) :
    m.toJson.arranged.get? key = (m.members.lookup key).map Json.arranged :=
  Json.get?_arranged m.nodup_keys_members key

/-- The arranged value is an object with the keys in their order. -/
theorem exists_keys_arranged (m : ListedModule) :
    ∃ members, m.toJson.arranged = .object members ∧ members.map Prod.fst = keys := by
  refine ⟨_, Json.arranged_object m.members, ?_⟩
  rw [List.map_map]
  -- Both lists hold the keys in their order.
  refine List.Perm.eq_of_pairwise (fun a b _ _ => String.le_antisymm)
    ((Json.pairwise_keys_sortedMembers m.nodup_keys_members).imp le_of_lt) (by decide) ?_
  refine ((Json.sortedMembers_perm m.members).map Prod.fst).trans ?_
  change ["schema_version", "identity", "path", "module", "dependency_references",
    "reference_map"].Perm _
  decide

end ListedModule

/-- Texts are arranged already. -/
theorem arranged_strings (texts : List String) :
    Json.arranged (.array (texts.map .string)) = .array (texts.map .string) := by
  rw [Json.arranged, Json.arrangedItems_eq_map, List.map_map]
  rfl

/-- A line tells what its record holds. -/
theorem isToldBy_of_ofRecord {p : Path} (hroot : root.IsNormal) (hp : p.IsNormal)
    (hlocation : r.location = p.toString) (hkeys : (r.referenceMap.map Prod.fst).Nodup)
    (h : ListedModule.ofRecord cwd root r = .ok m) : r.IsToldBy cwd root m.toJson.arranged := by
  unfold ListedModule.ofRecord at h
  rw [hlocation, hp.relativeText_eq] at h
  cases h
  have hget := ListedModule.get?_arranged (m := ⟨r.identity, (p.relativeTo root cwd).toString,
    r.moduleName cwd root, r.references, r.referenceMap⟩)
  exact
    { ordered := (ListedModule.isPlain_toJson hkeys).isOrdered_arranged
      keys := ListedModule.exists_keys_arranged _
      schema := hget "schema_version"
      identity := hget "identity"
      name := hget "module"
      references := (hget "dependency_references").trans (congrArg some (arranged_strings _))
      referenceMap := by
        refine ⟨_, (hget "reference_map").trans (congrArg some (Json.arranged_object _)), ?_⟩
        intro reference
        have htarget := Json.get?_arranged (ListedModule.nodup_keys_targets hkeys) reference
        rw [Json.arranged_object, lookup_map_value, Option.map_map] at htarget
        exact htarget
      path := by
        refine ⟨_, hget "path", fun start => ?_⟩
        rw [hp.normalize_div_relativeTo hroot, hlocation] }

end Lines

/-! ## The file -/

section File

variable {ε : Type} {cwd root : Path}

/-- The path in a line. -/
def pathIn? (line : String) : Option Json :=
  (Json.read? line).bind (·.get? "path")

/-- A line is read as a value that tells what a record holds. -/
def ModuleRecord.IsReadFrom (cwd root : Path) (r : ModuleRecord) (line : String) : Prop :=
  ∃ value, Json.read? line = some value ∧ r.IsToldBy cwd root value

/-- The line that is written for a record is read back as it, and is a single line. -/
theorem isReadFrom_of_write {r : ModuleRecord} {m : ListedModule} {p : Path} {line : String}
    (hroot : root.IsNormal) (hp : p.IsNormal) (hlocation : r.location = p.toString)
    (hkeys : (r.referenceMap.map Prod.fst).Nodup) (h : ListedModule.ofRecord cwd root r = .ok m)
    (hwrite : m.toJson.write .line = .ok line) :
    r.IsReadFrom cwd root line ∧ '\n' ∉ line.toList := by
  have htold := isToldBy_of_ofRecord hroot hp hlocation hkeys h
  obtain ⟨path, _, h⟩ := bind_eq_ok.mp h
  cases h
  obtain ⟨hread, hbreak⟩ := (ListedModule.isPlain_toJson hkeys).read?_write rfl hwrite
  exact ⟨⟨_, hread, htold⟩, hbreak rfl⟩

/-- Each record has a line that tells what it holds. -/
theorem exists_lines {records : List ModuleRecord} {modules : List ListedModule} {text : String}
    (hroot : root.IsNormal)
    (hlocations : ∀ r ∈ records, ∃ p : Path, p.IsNormal ∧ r.location = p.toString)
    (hkeys : ∀ r ∈ records, (r.referenceMap.map Prod.fst).Nodup)
    (hmodules : List.Forall₂ (fun r m => ListedModule.ofRecord cwd root r = .ok m) records modules)
    (htext : jsonLines (modules.map ListedModule.toJson) = (text, none)) :
    ∃ lines, text.toList = (lines.flatMap fun line => line.toList ++ ['\n']) ∧
      (∀ line ∈ lines, '\n' ∉ line.toList) ∧
      List.Forall₂ (ModuleRecord.IsReadFrom cwd root) records lines := by
  induction hmodules generalizing text with
  | nil =>
    cases htext
    exact ⟨[], rfl, nofun, .nil⟩
  | @cons r m records modules hm _ ih =>
    rw [List.forall_mem_cons] at hlocations hkeys
    obtain ⟨p, hp, hlocation⟩ := hlocations.1
    obtain ⟨line, rest, hwrite, hrest, rfl⟩ := jsonLines_cons_eq htext
    obtain ⟨lines, hlines, hbreaks, hread⟩ := ih hlocations.2 hkeys.2 hrest
    obtain ⟨hline, hbreak⟩ := isReadFrom_of_write hroot hp hlocation hkeys.1 hm hwrite
    refine ⟨line :: lines, ?_, List.forall_mem_cons.mpr ⟨hbreak, hbreaks⟩, .cons hline hread⟩
    rw [String.toList_append, String.toList_append, hlines, List.flatMap_cons]
    rfl

/-- A listing that has been written loses nothing of its graph but the code. Split at line feeds it has
a line for each record, which is read as an object that tells what the record holds, and nothing behind
the last line. Lines with the same path are about the same location. -/
theorem writeListing_lossless (root directory : Path) (g : ModuleGraph) (w w' : Workspace)
    (modules : List ListedModule)
    (h : (writeListing root directory g : Work ε _) w = .ok modules w') (hg : g.HasDictionaries)
    (hroot : root.IsNormal)
    (hlocations : ∀ r ∈ g.records, ∃ p : Path, p.IsNormal ∧ r.location = p.toString) :
    ∃ text lines,
      w'.disk.read (directory / ArtifactKind.modules.fileName) = .ok (Text.Utf8.encode text) ∧
      Text.splitOn '\n' text = lines ++ [""] ∧ lines.length = g.size ∧
      List.Forall₂ (ModuleRecord.IsReadFrom w.disk.current root) g.records lines ∧
      ∀ a ∈ g.records.zip lines, ∀ b ∈ g.records.zip lines, pathIn? a.2 = pathIn? b.2 →
        a.1.location = b.1.location := by
  obtain ⟨hlisted, text, htext, hstore⟩ := writeListing_yields.mp ⟨w'.events, h⟩
  obtain ⟨lines, hchars, hbreaks, htold⟩ :=
    exists_lines hroot hlocations hg (forall₂_of_mapM hlisted) htext
  refine ⟨text, lines, ?_, ?_, htold.length_eq.symm, htold, ?_⟩
  · exact Disk.read_store hstore (List.pairwise_singleton _ _)
      (ArtifactKind.modules.fileName, _) List.mem_cons_self
  · have hsplit := Table.splitChars_flatMap hbreaks []
    rw [List.append_nil, ← hchars] at hsplit
    have hback : lines.map (String.ofList ∘ String.toList) = lines := by simp
    rw [Text.splitOn, hsplit, List.map_append, List.map_map, hback]
    rfl
  · rintro ⟨r, line⟩ hr ⟨r', line'⟩ hr' hpath
    obtain ⟨value, hread, hvalue⟩ := List.forall₂_zip htold hr
    obtain ⟨value', hread', hvalue'⟩ := List.forall₂_zip htold hr'
    refine hvalue.location_eq hvalue' ?_
    rwa [pathIn?, pathIn?, hread, hread'] at hpath

end File

/-- Two modules with control characters in their paths and references, one of them outside of the root
`/p`. -/
def controlGraph : ModuleGraph where
  entry :=
    { identity := 0, location := "/p/a\n\".py", references := ["..é\t", "..é\t"], code := "",
      referenceMap := [("..é\t", 1)] }
  others := [{ identity := 1, location := "/é\t.py", references := [], code := "" }]
  placed := by decide

/-- The locations in the graph are absolute paths. -/
theorem exists_isNormal_controlGraph :
    ∀ r ∈ controlGraph.records, ∃ p : Path, p.IsNormal ∧ r.location = p.toString := by
  have hstep : ∀ name : String, Settings.isPlainName name = true → IsStepName name :=
    fun _ => isStepName_of_isPlainName
  intro r hr
  rcases List.mem_cons.mp hr with rfl | hr
  · refine ⟨⟨.root, ["p", "a\n\".py"]⟩, ⟨rfl, ?_⟩, by decide⟩
    simp only [List.forall_mem_cons]
    exact ⟨hstep _ (by decide), hstep _ (by decide), nofun⟩
  · rw [List.mem_singleton.mp hr]
    refine ⟨⟨.root, ["é\t.py"]⟩, ⟨rfl, ?_⟩, by decide⟩
    simp only [List.forall_mem_cons]
    exact ⟨hstep _ (by decide), nofun⟩

/-- The two modules as the listing for the root `/p` shows them. -/
def controlModules : List ListedModule :=
  [⟨0, "a\n\".py", "__main__", ["..é\t", "..é\t"], [("..é\t", 1)]⟩,
    ⟨1, "../é\t.py", "é\t", [], []⟩]

/-- The listing of the graph can be written. -/
theorem exists_writeListing_controlGraph : ∃ w',
    (writeListing ⟨.root, ["p"]⟩ ⟨.root, ["o"]⟩ controlGraph : Work Empty _) ⟨moduleAndDirectory, []⟩ =
      .ok controlModules w' := by
  have hlisting : controlGraph.listing ⟨.root, []⟩ ⟨.root, ["p"]⟩ = .ok controlModules := by
    cbv
  have hlines : ∃ first second, jsonLines (controlModules.map ListedModule.toJson) =
      (first ++ "\n" ++ (second ++ "\n" ++ ""), none) := by
    obtain ⟨first, hfirst⟩ := Json.exists_write .line
      (j := (ListedModule.mk 0 "a\n\".py" "__main__" ["..é\t", "..é\t"] [("..é\t", 1)]).toJson)
      (by decide)
    obtain ⟨second, hsecond⟩ := Json.exists_write .line
      (j := (ListedModule.mk 1 "../é\t.py" "é\t" [] []).toJson) (by decide)
    refine ⟨first, second, ?_⟩
    simp only [controlModules, List.map_cons, List.map_nil, jsonLines, hfirst, hsecond]
  obtain ⟨first, second, hlines⟩ := hlines
  have hfile : ∀ file ∈ [(ArtifactKind.modules.fileName,
      Text.Utf8.encode (first ++ "\n" ++ (second ++ "\n" ++ "")))],
      IsStepName file.1 ∧ ((⟨.root, ["o"]⟩ : Path).extend [file.1]).hasNull = false := by
    intro file hmem
    rw [List.mem_singleton.mp hmem]
    exact ⟨isStepName_modules, (by decide : (Path.mk .root ["o", "modules.jsonl"]).hasNull = false)⟩
  obtain ⟨d', hstore, _⟩ := contains_moduleAndDirectory.exists_store place_moduleAndDirectory hfile
  have hyields : (writeListing ⟨.root, ["p"]⟩ ⟨.root, ["o"]⟩ controlGraph : Work Empty _).Yields
      ⟨moduleAndDirectory, []⟩ controlModules d' :=
    writeListing_yields.mpr ⟨hlisting, _, hlines, hstore⟩
  obtain ⟨events, hwritten⟩ := hyields
  exact ⟨_, hwritten⟩

/-- The listing of the two modules has two lines, which are read back. -/
theorem writeListing_lossless_controlGraph : ∃ w' text lines,
    (writeListing ⟨.root, ["p"]⟩ ⟨.root, ["o"]⟩ controlGraph : Work Empty _) ⟨moduleAndDirectory, []⟩ =
      .ok controlModules w' ∧ controlGraph.HasDictionaries ∧ (⟨.root, ["p"]⟩ : Path).IsNormal ∧
    w'.disk.read ((⟨.root, ["o"]⟩ : Path) / ArtifactKind.modules.fileName) =
      .ok (Text.Utf8.encode text) ∧
    Text.splitOn '\n' text = lines ++ [""] ∧ lines.length = 2 ∧
    List.Forall₂ (ModuleRecord.IsReadFrom ⟨.root, []⟩ ⟨.root, ["p"]⟩) controlGraph.records lines ∧
    ∀ a ∈ controlGraph.records.zip lines, ∀ b ∈ controlGraph.records.zip lines,
      pathIn? a.2 = pathIn? b.2 → a.1.location = b.1.location := by
  have hkeys : controlGraph.HasDictionaries := by
    intro r hr
    rcases List.mem_cons.mp hr with rfl | hr
    · exact List.nodup_singleton _
    · rw [List.mem_singleton.mp hr]
      exact List.nodup_nil
  have hroot : (⟨.root, ["p"]⟩ : Path).IsNormal :=
    ⟨rfl, List.forall_mem_singleton.mpr (isStepName_of_isPlainName (by decide))⟩
  obtain ⟨w', hwritten⟩ := exists_writeListing_controlGraph
  obtain ⟨text, lines, hread⟩ := writeListing_lossless _ _ _ _ _ _ hwritten hkeys hroot
    exists_isNormal_controlGraph
  exact ⟨w', text, lines, hwritten, hkeys, hroot, hread⟩

end Bundler
