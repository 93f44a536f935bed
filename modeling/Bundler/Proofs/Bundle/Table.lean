import Bundler.Bundle.Assembly
import Bundler.Proofs.Bundle.Reading
import Bundler.Proofs.Graph.Records
import Bundler.Proofs.Json.Reading
import Bundler.Proofs.Json.Words
import Bundler.Proofs.Outcome

/-!
# Reading a bundle back

What comes out when the table of modules in a bundle is read is an entry for each record of the graph,
with just what the record holds. Two encoders take part, the quoted form of texts and the form of data
values. Neither lets a text break out of its literal or its line, so no row can be taken for several
ones or for the beginning of a table, and the last line that begins a table is the one that the
assembly has written.
-/

set_option autoImplicit false

namespace Bundler

open Bundler.Syntax (IsQuote)

namespace Table

/-! ## What is written -/

/-- The members of a dictionary of identities are written one by one. -/
theorem memberTexts_int {layout : Json.Layout} {depth : Nat} {items : List (String × Int)}
    {written : List (String × String)}
    (h : Json.memberTexts layout depth (items.map fun item => (item.1, .int item.2)) =
      .ok written) :
    written = items.map fun item => (item.1, toString item.2) := by
  obtain ⟨rfl, htexts⟩ := Json.memberTexts_eq_map h
  rw [List.map_map]
  refine List.map_congr_left fun item hitem => ?_
  have htext := htexts _ (List.mem_map_of_mem hitem)
  rw [Json.textAt, Json.integerText] at htext
  split at htext
  · exact congrArg (item.1, ·) (Except.ok.inj htext).symm
  · cases htext

/-- A dictionary of identities is written item by item. -/
theorem toList_write_mapping {row : BundleRow} {text : String}
    (h : Json.write .compact row.mapping = .ok text) :
    text.toList = dictionaryChars row.referenceMap := by
  unfold BundleRow.mapping Json.write at h
  rw [Json.textAt] at h
  obtain ⟨written, hwritten, h⟩ := bind_eq_ok.mp h
  cases h
  rw [memberTexts_int hwritten]
  change (Json.enclose false 0 "\x7b" "\x7d" ((row.referenceMap.map fun item =>
    (item.1, toString item.2)).map fun item => Json.escaped item.1 ++ ":" ++ item.2)).toList = _
  rw [Json.toList_enclose, List.map_map, List.map_map, Function.comp_assoc]
  have hitem : (String.toList ∘
      (fun item : String × String => Json.escaped item.1 ++ ":" ++ item.2) ∘
      fun item : String × Int => (item.1, toString item.2)) = itemChars := by
    funext item
    exact (String.toList_append.trans (congrArg (· ++ _) String.toList_append)).trans
      (List.append_assoc _ _ _)
  rw [hitem]
  rfl

/-! ## The lines of a row -/

/-- The lines of a row whose references have been written. -/
def rowLines (row : BundleRow) (mapping : String) : List String :=
  ["    " ++ toString row.identity ++ ": (",
    "        lambda require, module, exports: exec(",
    "            compile(" ++ Text.quoted row.code ++ ", " ++ Text.quoted row.file ++ ", 'exec'),",
    "            " ++ row.nameTable ++ ",",
    "        ),",
    "        " ++ mapping ++ ",",
    "    ),"]

/-- The text of a row consists of its lines. -/
theorem exists_mapping {row : BundleRow} {text : String} (h : row.text = .ok text) :
    ∃ mapping, Json.write .compact row.mapping = .ok mapping ∧
      text.toList = (rowLines row mapping).flatMap fun line => line.toList ++ ['\n'] := by
  obtain ⟨mapping, hmapping, h⟩ := bind_eq_ok.mp h
  refine ⟨mapping, hmapping, ?_⟩
  rw [← Except.ok.inj h]
  have hopening : ": (\n" = ": (" ++ "\n" := rfl
  have hcall : "        lambda require, module, exports: exec(\n" =
      "        lambda require, module, exports: exec(" ++ "\n" := rfl
  have hcompile : ", 'exec'),\n" = ", 'exec')," ++ "\n" := rfl
  have hcomma : ",\n" = "," ++ "\n" := rfl
  have hclosing : "        ),\n" = "        )," ++ "\n" := rfl
  have hending : "    ),\n" = "    )," ++ "\n" := rfl
  have hend : "\n".toList = ['\n'] := rfl
  unfold rowLines
  simp only [hopening, hcall, hcompile, hcomma, hclosing, hending, hend, List.flatMap_cons,
    List.flatMap_nil, String.toList_append, List.append_assoc, List.append_nil]

/-- A comma is no quote. -/
theorem comma_ne_quote {quote : Char} (h : IsQuote quote) : some ',' ≠ some quote := by
  intro heq
  cases heq
  rcases h with h | h <;> cases h

/-- The identity of a record is read off its first line. -/
theorem readOpening_line (identity : Nat) :
    readOpening ("    " ++ toString identity ++ ": (").toList = some identity := by
  unfold readOpening
  rw [String.toList_append, String.toList_append, List.append_assoc, drop?_append]
  simp only [Option.bind_eq_bind, Option.bind_some]
  rw [takeNatural_toString identity fun _ h => by cases h; rfl]
  simp only [Option.bind_some, guard_true, Option.pure_def]

/-- The code of a record and the name of its file are read off their line. -/
theorem readCompile_line (code file : String) :
    readCompile ("            compile(" ++ Text.quoted code ++ ", " ++ Text.quoted file ++
      ", 'exec'),").toList = some (code, file) := by
  unfold readCompile
  simp only [String.toList_append, List.append_assoc, drop?_append, Option.bind_eq_bind,
    Option.bind_some]
  rw [takeText_quoted code fun _ => comma_ne_quote]
  simp only [Option.bind_some, drop?_append]
  rw [takeText_quoted file fun _ => comma_ne_quote]
  simp only [Option.bind_some, guard_true, Option.pure_def]

/-- The names of a record are read off their line. -/
theorem readNames_line (row : BundleRow) :
    readNames ("            " ++ row.nameTable ++ ",").toList = some (row.name, row.file) := by
  unfold readNames BundleRow.nameTable
  simp only [String.toList_append, List.append_assoc, drop?_append, Option.bind_eq_bind,
    Option.bind_some]
  rw [takeText_quoted row.name fun _ => comma_ne_quote]
  simp only [Option.bind_some, drop?_append]
  rw [takeText_quoted row.file fun _ => comma_ne_quote]
  simp only [Option.bind_some, drop?_append]
  rfl

/-- The mapping of a record is read off its line. -/
theorem readMapping_line {row : BundleRow} {mapping : String}
    (hkeys : (row.referenceMap.map Prod.fst).Nodup)
    (hmapping : Json.write .compact row.mapping = .ok mapping) :
    readMapping ("        " ++ mapping ++ ",").toList = some row.referenceMap := by
  unfold readMapping
  rw [String.toList_append, String.toList_append, List.append_assoc, drop?_append,
    toList_write_mapping hmapping]
  simp only [Option.bind_eq_bind, Option.bind_some]
  rw [takeDictionary_dictionaryChars hkeys]
  rfl

/-- The entry that stands for a row. -/
def entryOf (row : BundleRow) : TableEntry :=
  ⟨row.identity, row.code, row.file, row.name, row.file, row.referenceMap⟩

/-- The lines of a row are read as its entry. -/
theorem readRows_rowLines {row : BundleRow} {mapping : String}
    (hkeys : (row.referenceMap.map Prod.fst).Nodup)
    (hmapping : Json.write .compact row.mapping = .ok mapping) (rest : List (List Char)) :
    readRows ((rowLines row mapping).map String.toList ++ rest) =
      (readRows rest).map (entryOf row :: ·) := by
  unfold rowLines
  simp only [List.map_cons, List.map_nil, List.cons_append, List.nil_append]
  rw [readRows, readOpening_line, readCompile_line, readNames_line,
    readMapping_line hkeys hmapping]
  simp only [guard_true, Option.bind_eq_bind, Option.bind_some, Option.pure_def]
  cases readRows rest <;> rfl

/-! ## Splitting a bundle into lines -/

/-- A written dictionary is a single line. -/
theorem newline_not_mem_dictionaryChars (items : List (String × Int)) :
    '\n' ∉ dictionaryChars items := by
  have hitem : ∀ item, '\n' ∉ itemChars item := by
    intro item
    rw [itemChars, List.mem_append, List.mem_cons]
    rintro (h | h | h)
    · exact newline_not_mem_escaped _ h
    · cases h
    · exact newline_not_mem_integer _ h
  have hitems : '\n' ∉ [','].intercalate (items.map itemChars) := by
    induction items with
    | nil => exact List.not_mem_nil
    | cons item items ih =>
      cases items with
      | nil =>
        rw [List.map_singleton, List.intercalate_singleton]
        exact hitem item
      | cons next items =>
        rw [List.map_cons, List.map_cons, List.intercalate_cons_cons, ← List.map_cons,
          List.mem_append, List.mem_append, List.mem_singleton]
        rintro ((h | h) | h)
        · exact hitem item h
        · cases h
        · exact ih h
  rw [dictionaryChars, List.mem_cons, List.mem_append, List.mem_singleton]
  rintro (h | h | h)
  · cases h
  · exact hitems h
  · cases h

/-- The lines of a row are single lines. -/
theorem newline_not_mem_rowLines {row : BundleRow} {mapping : String}
    (hmapping : Json.write .compact row.mapping = .ok mapping) {line : String}
    (h : line ∈ rowLines row mapping) : '\n' ∉ line.toList := by
  have hnames : '\n' ∉ row.nameTable.toList := by
    simp +decide only [BundleRow.nameTable, newline_not_mem_append, newline_not_mem_quoted]
  simp only [rowLines, List.mem_cons, List.not_mem_nil, or_false] at h
  rcases h with rfl | rfl | rfl | rfl | rfl | rfl | rfl
  · simp +decide only [newline_not_mem_append, newline_not_mem_natural]
  · decide
  · simp +decide only [newline_not_mem_append, newline_not_mem_quoted]
  · simp +decide only [newline_not_mem_append, hnames]
  · decide
  · have hdictionary : '\n' ∉ mapping.toList := by
      rw [toList_write_mapping hmapping]
      exact newline_not_mem_dictionaryChars _
    simp +decide only [newline_not_mem_append, hdictionary]
  · decide

/-- The lines of a row are indented. -/
theorem head?_of_mem_rowLines {row : BundleRow} {mapping line : String}
    (h : line ∈ rowLines row mapping) : line.toList.head? = some ' ' := by
  simp only [rowLines, List.mem_cons, List.not_mem_nil, or_false] at h
  rcases h with rfl | rfl | rfl | rfl | rfl | rfl | rfl
  · simp only [String.toList_append, List.append_assoc]
    rfl
  · rfl
  · simp only [String.toList_append, List.append_assoc]
    rfl
  · simp only [String.toList_append, List.append_assoc]
    rfl
  · rfl
  · simp only [String.toList_append, List.append_assoc]
    rfl
  · rfl

/-- Lines that end with a line feed are split off one by one. -/
theorem splitChars_flatMap {lines : List String} (h : ∀ line ∈ lines, '\n' ∉ line.toList)
    (rest : List Char) :
    Text.splitChars '\n' ((lines.flatMap fun line => line.toList ++ ['\n']) ++ rest) =
      lines.map String.toList ++ Text.splitChars '\n' rest := by
  induction lines with
  | nil => rfl
  | cons line lines ih =>
    rw [List.flatMap_cons, List.append_assoc, List.append_assoc, List.singleton_append,
      Text.splitChars_append_cons (h line List.mem_cons_self),
      ih fun other hother => h other (List.mem_cons_of_mem _ hother), List.map_cons,
      List.cons_append]

/-- A text is split at a line feed in it. -/
theorem splitChars_append_newline (front rest : List Char) :
    Text.splitChars '\n' (front ++ '\n' :: rest) =
      Text.splitChars '\n' front ++ Text.splitChars '\n' rest := by
  induction front with
  | nil => exact if_pos rfl
  | cons c front ih =>
    by_cases hc : c = '\n'
    · rw [List.cons_append, Text.splitChars, if_pos hc, Text.splitChars, if_pos hc, ih,
        List.cons_append]
    · obtain ⟨piece, pieces, hpieces⟩ :=
        List.exists_cons_of_ne_nil (Text.splitChars_ne_nil '\n' front)
      rw [List.cons_append, Text.splitChars, if_neg hc, ih, Text.splitChars, if_neg hc, hpieces]
      rfl

/-- The lines behind a line that does not come again are those behind the last one. -/
theorem afterLast_append {line : List Char} {rest : List (List Char)} (h : line ∉ rest)
    (front : List (List Char)) : afterLast line (front ++ line :: rest) = some rest := by
  have hnone : ∀ lines : List (List Char), line ∉ lines → afterLast line lines = none := by
    intro lines hlines
    induction lines with
    | nil => rfl
    | cons first lines ih =>
      rw [List.mem_cons, not_or] at hlines
      rw [afterLast, ih hlines.2, if_neg (Ne.symm hlines.1)]
      rfl
  induction front with
  | nil =>
    rw [List.nil_append, afterLast, hnone rest h, if_pos rfl]
    rfl
  | cons first front ih =>
    rw [List.cons_append, afterLast, ih]
    rfl

/-! ## Reading a bundle -/

/-- An entry tells what a record holds. -/
structure Encodes (cwd root : Path) (r : ModuleRecord) (e : TableEntry) : Prop where
  identity : e.identity = r.identity
  code : e.code = r.code
  /-- The code is compiled as the file of the module, relative to the root. -/
  compiledAs : relativeText cwd r.location root = .ok e.compiledAs
  /-- The name is the one under which the module runs. -/
  name : e.name = r.moduleName cwd root
  /-- The file is that of the module, relative to the root. -/
  file : relativeText cwd r.location root = .ok e.file
  /-- The references are the same, in the same order. -/
  referenceMap : e.referenceMap = r.referenceMap

variable {cwd root : Path}

/-- The text of a record consists of indented lines, off which its entry is read. -/
theorem exists_lines_record {r : ModuleRecord} {text : String}
    (hkeys : (r.referenceMap.map Prod.fst).Nodup) (h : recordText cwd root r = .ok text) :
    ∃ (lines : List String) (e : TableEntry), Encodes cwd root r e ∧
      text.toList = lines.flatMap (fun line => line.toList ++ ['\n']) ∧
      (∀ line ∈ lines, '\n' ∉ line.toList ∧ line.toList.head? = some ' ') ∧
      ∀ rest, readRows (lines.map String.toList ++ rest) = (readRows rest).map (e :: ·) := by
  obtain ⟨row, hrow, htext⟩ := bind_eq_ok.mp h
  obtain ⟨file, hfile, hrow⟩ := bind_eq_ok.mp (mapError_eq_ok.mp hrow)
  cases hrow
  obtain ⟨mapping, hmapping, hlines⟩ := exists_mapping (mapError_eq_ok.mp htext)
  refine ⟨_, entryOf ⟨r.identity, r.code, r.moduleName cwd root, file, r.referenceMap⟩,
    ⟨rfl, rfl, hfile, rfl, hfile, rfl⟩, hlines, ?_, readRows_rowLines hkeys hmapping⟩
  intro line hline
  exact ⟨newline_not_mem_rowLines hmapping hline, head?_of_mem_rowLines hline⟩

/-- The texts of records consist of lines that are read as entries for them. -/
theorem exists_lines_records {records : List ModuleRecord} {texts : List String}
    (h : List.Forall₂ (fun r text => recordText cwd root r = .ok text) records texts)
    (hkeys : ∀ r ∈ records, (r.referenceMap.map Prod.fst).Nodup) :
    ∃ (lines : List String) (entries : List TableEntry),
      List.Forall₂ (Encodes cwd root) records entries ∧
      texts.flatMap String.toList = lines.flatMap (fun line => line.toList ++ ['\n']) ∧
      (∀ line ∈ lines, '\n' ∉ line.toList ∧ line.toList.head? = some ' ') ∧
      ∀ rest, readRows (lines.map String.toList ++ rest) =
        (readRows rest).map (entries ++ ·) := by
  induction h with
  | nil =>
    refine ⟨[], [], .nil, rfl, fun _ h => absurd h List.not_mem_nil, fun rest => ?_⟩
    exact Option.map_id'.symm
  | @cons r text records texts hr _ ih =>
    obtain ⟨lines, entries, hentries, hlines, hline, hread⟩ :=
      ih fun r hr => hkeys r (List.mem_cons_of_mem _ hr)
    obtain ⟨own, e, he, hown, hownLine, hownRead⟩ :=
      exists_lines_record (hkeys r List.mem_cons_self) hr
    refine ⟨own ++ lines, e :: entries, .cons he hentries, ?_, ?_, ?_⟩
    · rw [List.flatMap_cons, List.flatMap_append, hown, hlines]
    · intro line hmem
      exact (List.mem_append.mp hmem).elim (hownLine line) (hline line)
    · intro rest
      rw [List.map_append, List.append_assoc, hownRead, hread, Option.map_map]
      rfl

/-- A bundle is read as entries for the records of its graph. -/
theorem exists_read {cacheExports : Bool} {g : ModuleGraph} {text : String}
    (h : assemble cwd root cacheExports g = .ok text)
    (hkeys : ∀ r ∈ g.records, (r.referenceMap.map Prod.fst).Nodup) :
    ∃ entries, read text = some entries ∧ List.Forall₂ (Encodes cwd root) g.records entries := by
  obtain ⟨entry, _, h⟩ := bind_eq_ok.mp h
  obtain ⟨texts, htexts, h⟩ := bind_eq_ok.mp h
  obtain ⟨lines, entries, hentries, hlines, hline, hread⟩ :=
    exists_lines_records (forall₂_of_mapM htexts) hkeys
  refine ⟨entries, ?_, hentries⟩
  have hopening : ∀ front table : String,
      (front ++ "\n\n" ++ "_bundle(\x7b\n" ++ table ++ "\x7d)\n").toList =
        (front ++ "\n").toList ++ '\n' :: ("_bundle(\x7b".toList ++ '\n' ::
          (table.toList ++ ("\x7d)".toList ++ ['\n']))) := by
    intro front table
    simp only [String.toList_append, List.append_assoc]
    rfl
  have htext := Except.ok.inj h
  -- The rows begin with blanks, so the table begins behind the last line of this kind.
  have hlast : "_bundle(\x7b".toList ∉ lines.map String.toList ++ ["\x7d)".toList, []] := by
    rw [List.mem_append, List.mem_map]
    rintro (⟨line, hmem, heq⟩ | hmem)
    · have hhead := (hline line hmem).2
      rw [heq] at hhead
      cases hhead
    · simp only [List.mem_cons, List.not_mem_nil, or_false] at hmem
      rcases hmem with hmem | hmem <;> cases hmem
  have hend : Text.splitChars '\n' ("\x7d)".toList ++ ['\n']) = ["\x7d)".toList, []] :=
    have hseparator : '\n' ∉ "\x7d)".toList := by decide
    Text.splitChars_append_cons hseparator
  have hopen : '\n' ∉ "_bundle(\x7b".toList := by decide
  unfold read
  rw [← htext, hopening, splitChars_append_newline,
    Text.splitChars_append_cons hopen, String.toList_join, hlines,
    splitChars_flatMap fun line hmem => (hline line hmem).1, hend, afterLast_append hlast]
  simp only [Option.bind_eq_bind, Option.bind_some]
  rw [hread, readRows, if_pos rfl, Option.map_some, List.append_nil]

end Table

/-- A record can be written: it has a location, and its identities fit a word. -/
structure ModuleRecord.IsWritable (r : ModuleRecord) : Prop where
  location : r.location ≠ ""
  targets : ∀ item ∈ r.referenceMap, Number.fitsSomeWord item.2 = true

/-- A row has a text if the numbers in its mapping fit in a word. -/
theorem BundleRow.exists_text (row : BundleRow)
    (h : ∀ item ∈ row.referenceMap, Number.fitsSomeWord item.2 = true) :
    ∃ text, row.text = .ok text := by
  have hintegers : row.mapping.integers = row.referenceMap.map Prod.snd :=
    Json.memberIntegers_int row.referenceMap
  obtain ⟨mapping, hmapping⟩ := Json.exists_write .compact (j := row.mapping)
    (by rwa [hintegers, List.forall_mem_map])
  rw [BundleRow.text, bind_of_ok hmapping]
  exact ⟨_, rfl⟩

/-- A record that can be written has a text. -/
theorem exists_recordText (cwd root : Path) {r : ModuleRecord} (h : r.IsWritable) :
    ∃ text, recordText cwd root r = .ok text := by
  have hfile : relativeText cwd r.location root = .ok _ := if_neg h.location
  obtain ⟨row, hrow, hmap⟩ :
      ∃ row, BundleRow.ofRecord cwd root r = .ok row ∧ row.referenceMap = r.referenceMap := by
    rw [BundleRow.ofRecord, bind_of_ok hfile]
    exact ⟨_, rfl, rfl⟩
  obtain ⟨text, htext⟩ := row.exists_text (by rw [hmap]; exact h.targets)
  rw [recordText, bind_of_ok (mapError_eq_ok.mpr hrow)]
  exact ⟨text, mapError_eq_ok.mpr htext⟩

/-- A graph has a bundle if its records can be written. -/
theorem exists_assemble (cwd root : Path) (cacheExports : Bool) {g : ModuleGraph}
    (h : ∀ r ∈ g.records, r.IsWritable) : ∃ text, assemble cwd root cacheExports g = .ok text := by
  obtain ⟨rows, hrows⟩ := exists_mapM fun r hr => exists_recordText cwd root (h r hr)
  have hentry : relativeText cwd g.entry.location root = .ok _ :=
    if_neg (h g.entry List.mem_cons_self).location
  rw [assemble, bind_of_ok (mapError_eq_ok.mpr hentry), bind_of_ok hrows]
  exact ⟨_, rfl⟩

/-- Two records hold the same, as far as a bundle tells. -/
structure ModuleRecord.Agrees (cwd root : Path) (r r' : ModuleRecord) : Prop where
  identity : r.identity = r'.identity
  code : r.code = r'.code
  /-- The files are the same, relative to the root. -/
  file : relativeText cwd r.location root = relativeText cwd r'.location root
  /-- The modules run under the same name. -/
  name : r.moduleName cwd root = r'.moduleName cwd root
  /-- The references are the same, in the same order. -/
  referenceMap : r.referenceMap = r'.referenceMap

/-- Two records that one entry encodes agree. -/
theorem Table.Encodes.agrees {cwd root : Path} {r r' : ModuleRecord} {e : TableEntry}
    (h : Encodes cwd root r e) (h' : Encodes cwd root r' e) : r.Agrees cwd root r' where
  identity := h.identity.symm.trans h'.identity
  code := h.code.symm.trans h'.code
  file := h.file.trans h'.file.symm
  name := h.name.symm.trans h'.name
  referenceMap := h.referenceMap.symm.trans h'.referenceMap

/-- Entries have the identities of the records that they encode. -/
theorem Table.map_identity_of_encodes {cwd root : Path} {records : List ModuleRecord}
    {entries : List TableEntry} (h : List.Forall₂ (Encodes cwd root) records entries) :
    entries.map TableEntry.identity = records.map ModuleRecord.identity := by
  induction h with
  | nil => rfl
  | cons he _ ih => rw [List.map_cons, List.map_cons, he.identity, ih]

/-- Lists of records with the same entries hold the same. -/
theorem Table.forall₂_agrees {cwd root : Path} {records records' : List ModuleRecord}
    {entries : List TableEntry} (h : List.Forall₂ (Encodes cwd root) records entries)
    (h' : List.Forall₂ (Encodes cwd root) records' entries) :
    List.Forall₂ (ModuleRecord.Agrees cwd root) records records' := by
  induction h generalizing records' with
  | nil =>
    cases h'
    exact .nil
  | cons he _ ih =>
    cases h' with
    | cons he' hrest => exact .cons (he.agrees he') (ih hrest)

/-- Whether the references of every record of a graph are a dictionary: no reference comes twice. -/
def ModuleGraph.HasDictionaries (g : ModuleGraph) : Prop :=
  ∀ r ∈ g.records, (r.referenceMap.map Prod.fst).Nodup

/-- The references of a record that has been built are a dictionary. -/
theorem Builder.run_hasDictionaries {b : Builder} {entry : String} {g : ModuleGraph}
    (h : (b.run entry).outcome = .ok g) : g.HasDictionaries := by
  obtain ⟨x, hx, hp, hrecords, _⟩ := exists_explores_of_ok h
  intro r hr
  rw [hrecords] at hr
  obtain ⟨i, v, hv, rfl⟩ := exists_visit_of_mem_recordsFrom hr
  rw [(hx.describes hp hv).keys]
  exact nodup_eraseDups _

/-- A bundle is a faithful text of its graph. Its table is read back as one entry for each record, in
the order of the identities, which tells the code, the file, the name and the references of the
record. Graphs with the same bundle hold the same. -/
theorem assemble_faithful (cwd root : Path) (cacheExports : Bool) (g : ModuleGraph) (text : String)
    (h : assemble cwd root cacheExports g = .ok text) (hg : g.HasDictionaries) :
    (∃ entries, Table.read text = some entries ∧
      entries.map TableEntry.identity = List.range g.size ∧
      List.Forall₂ (Table.Encodes cwd root) g.records entries) ∧
    ∀ g' : ModuleGraph, assemble cwd root cacheExports g' = .ok text → g'.HasDictionaries →
      List.Forall₂ (ModuleRecord.Agrees cwd root) g.records g'.records := by
  obtain ⟨entries, hread, hentries⟩ := Table.exists_read h hg
  refine ⟨⟨entries, hread, ?_, hentries⟩, ?_⟩
  · rw [← g.map_identity_records, Table.map_identity_of_encodes hentries]
  · intro g' h' hg'
    obtain ⟨entries', hread', hentries'⟩ := Table.exists_read h' hg'
    cases hread.symm.trans hread'
    exact Table.forall₂_agrees hentries hentries'

/-- A module whose code and references hold every character that the encoders escape, and another one
that it refers to. -/
def escapingGraph : ModuleGraph where
  entry :=
    { identity := 0, location := "/p/a.py", references := ["'\"\\\n"]
      code := "x = '\\n' + \"\t\"\n_bundle(\x7b\n", referenceMap := [("'\"\\\n", 1), ("b", -1)] }
  others := [{ identity := 1, location := "/p/it's.py", references := [], code := "" }]
  placed := by decide

/-- The records of the graph can be written. -/
theorem escapingGraph_isWritable : ∀ r ∈ escapingGraph.records, r.IsWritable := by
  intro r hr
  rcases List.mem_cons.mp hr with rfl | hr
  · exact ⟨by decide, by decide⟩
  · rw [List.mem_singleton.mp hr]
    exact ⟨by decide, by decide⟩

/-- The bundle of the two modules is read back as two entries, and every graph with the same bundle
holds the same. -/
theorem assemble_faithful_escaping :
    ∃ text, assemble ⟨.root, []⟩ ⟨.root, ["p"]⟩ false escapingGraph = .ok text ∧
      escapingGraph.HasDictionaries ∧
      (∃ entries, Table.read text = some entries ∧ entries.map TableEntry.identity = [0, 1] ∧
        List.Forall₂ (Table.Encodes ⟨.root, []⟩ ⟨.root, ["p"]⟩) escapingGraph.records entries) ∧
      ∀ g' : ModuleGraph, assemble ⟨.root, []⟩ ⟨.root, ["p"]⟩ false g' = .ok text →
        g'.HasDictionaries →
        List.Forall₂ (ModuleRecord.Agrees ⟨.root, []⟩ ⟨.root, ["p"]⟩) escapingGraph.records
          g'.records := by
  have hkeys : escapingGraph.HasDictionaries := by
    intro r hr
    rcases List.mem_cons.mp hr with rfl | hr
    · exact List.nodup_cons.mpr ⟨by decide, List.nodup_singleton _⟩
    · rw [List.mem_singleton.mp hr]
      exact List.nodup_nil
  obtain ⟨text, htext⟩ :=
    exists_assemble ⟨.root, []⟩ ⟨.root, ["p"]⟩ false escapingGraph_isWritable
  exact ⟨text, htext, hkeys, assemble_faithful _ _ _ _ _ htext hkeys⟩

end Bundler
