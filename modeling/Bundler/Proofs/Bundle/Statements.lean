import Bundler.Proofs.Bundle.Script

/-!
# The statements of a bundle

Nothing that a project holds becomes a statement of its bundle, as long as the path of the entry has
no line break: the script has the statements of the loader and the call, and whatever the records hold
stands in literals. The path of the entry is the one text that is not written as a literal. It stands
in a comment, which a line break ends, so that what follows the break is read as code.
-/

set_option autoImplicit false

namespace Bundler

open Syntax (Piece SourceLine Lexeme layout statements)
open Syntax.Piece (plain)

/-! ## The lines before the loader -/

/-- The lines of a source, as the lexer takes them. -/
def sourceLines (source : String) : List (List Char) :=
  (Text.splitChars '\n' (Syntax.normalizeLines source.toList)).dropLast

/-- The text before the loader. -/
def openingText (entry : String) (size : Nat) : String :=
  "#!/usr/bin/env python3\n" ++ banner ++ "# Entry: " ++ entry ++ "\n" ++
    "# Modules: " ++ toString size ++ "\n" ++ "\n"

/-- The comments that the text before the loader is meant to consist of. -/
def openingComments (entry : String) (size : Nat) : List String :=
  ["!/usr/bin/env python3", " DO NOT EDIT! This script was generated by modpack.",
    " Manual edits may just break it.", " Entry: " ++ entry, " Modules: " ++ toString size]

/-- The lines that the text before the loader is meant to have: the comments and an empty line. -/
def openingLines (entry : String) (size : Nat) : List String :=
  (openingComments entry size).map ("#" ++ ·) ++ [""]

/-- The lexer takes no carriage return for a character of a line. -/
theorem return_not_mem_normalizeLines (source : List Char) :
    '\r' ∉ Syntax.normalizeLines source := by
  unfold Syntax.normalizeLines
  fun_induction Syntax.normalizeLines.go source with
  | case1 | case2 => decide
  | case3 rest ih =>
    rw [List.mem_cons, not_or]
    exact ⟨by decide, ih⟩
  | case4 rest _ ih =>
    rw [List.mem_cons, not_or]
    refine ⟨by decide, ?_⟩
    split
    · exact List.not_mem_nil
    · exact ih
  | case5 c rest _ _ hc ih =>
    rw [List.mem_cons, not_or]
    exact ⟨fun h => hc h.symm, ih⟩

/-- There is no line break in a line. -/
theorem not_mem_of_mem_sourceLines {source : String} {line : List Char}
    (h : line ∈ sourceLines source) : '\n' ∉ line ∧ '\r' ∉ line := by
  have hline := List.mem_of_mem_dropLast h
  exact ⟨Text.not_mem_of_mem_splitChars hline, fun hmem =>
    return_not_mem_normalizeLines _ (Text.mem_of_mem_splitChars hline hmem)⟩

variable {entry : String}

/-- The opening of a bundle is spelled by comments and an empty line. -/
theorem isSpelledBy_openingText (entry : String) (size : Nat) :
    IsSpelledBy (openingText entry size)
      ((openingComments entry size).map SourceLine.comment ++ [SourceLine.empty]) := by
  have hcommand : IsSpelledBy "#!/usr/bin/env python3\n"
      [SourceLine.comment "!/usr/bin/env python3"] := .comment rfl
  have hbanner : IsSpelledBy banner
      ([SourceLine.comment " DO NOT EDIT! This script was generated by modpack."] ++
        [SourceLine.comment " Manual edits may just break it."]) :=
    .append (.comment rfl) (.comment rfl)
  have hentry : IsSpelledBy ("# Entry: " ++ entry ++ "\n")
      [SourceLine.comment (" Entry: " ++ entry)] := by
    refine .comment ?_
    rw [← String.append_assoc]
    rfl
  have hsize : IsSpelledBy ("# Modules: " ++ toString size ++ "\n")
      [SourceLine.comment (" Modules: " ++ toString size)] := by
    refine .comment ?_
    rw [← String.append_assoc]
    rfl
  have hall := (((hcommand.append hbanner).append hentry).append hsize).append .empty
  unfold openingText
  simp only [String.append_assoc] at hall ⊢
  exact hall

/-- The comments stay within their lines if there is no line break in the path of the entry. -/
theorem break_not_mem_openingComments (size : Nat) (hline : '\n' ∉ entry.toList)
    (hreturn : '\r' ∉ entry.toList) :
    ∀ text ∈ openingComments entry size, '\n' ∉ text.toList ∧ '\r' ∉ text.toList := by
  have happend : ∀ {front back : String}, '\n' ∉ front.toList ∧ '\r' ∉ front.toList →
      '\n' ∉ back.toList ∧ '\r' ∉ back.toList →
        '\n' ∉ (front ++ back).toList ∧ '\r' ∉ (front ++ back).toList := by
    intro front back hfront hback
    rw [String.toList_append, List.mem_append, List.mem_append, not_or, not_or]
    exact ⟨⟨hfront.1, hback.1⟩, ⟨hfront.2, hback.2⟩⟩
  have hdigit : ∀ c ∈ (toString size).toList, c.isDigit = true := fun c => isDigit_of_mem_toString
  have hsize : '\n' ∉ (toString size).toList ∧ '\r' ∉ (toString size).toList :=
    ⟨fun h => absurd (hdigit _ h) (by decide), fun h => absurd (hdigit _ h) (by decide)⟩
  simp only [openingComments, List.forall_mem_cons]
  exact ⟨by decide, by decide, by decide, happend (by decide) ⟨hline, hreturn⟩,
    happend (by decide) hsize, fun _ h => absurd h List.not_mem_nil⟩

/-- The opening can be read as comments if the entry stays on its line. -/
theorem isReadable_openingText (size : Nat) (hline : '\n' ∉ entry.toList)
    (hreturn : '\r' ∉ entry.toList) :
    ∀ line ∈ (openingComments entry size).map SourceLine.comment ++ [SourceLine.empty],
      line.IsReadable := by
  rw [List.forall_mem_append, List.forall_mem_map, List.forall_mem_singleton]
  exact ⟨break_not_mem_openingComments size hline hreturn, trivial⟩

/-- Just the comments and an empty line come before the loader if and only if there is no line break in
the path of the entry. -/
theorem sourceLines_openingText (entry : String) (size : Nat) :
    sourceLines (openingText entry size) = (openingLines entry size).map String.toList ↔
      '\n' ∉ entry.toList ∧ '\r' ∉ entry.toList := by
  constructor
  · intro h
    have hmem : ("#" ++ (" Entry: " ++ entry)).toList ∈ sourceLines (openingText entry size) := by
      rw [h]
      refine List.mem_map_of_mem (List.mem_append_left _ (List.mem_map_of_mem ?_))
      simp [openingComments]
    obtain ⟨hline, hreturn⟩ := not_mem_of_mem_sourceLines hmem
    simp only [String.toList_append, List.mem_append, not_or] at hline hreturn
    exact ⟨hline.2.2, hreturn.2.2⟩
  · rintro ⟨hline, hreturn⟩
    have hchars : ((openingComments entry size).map SourceLine.comment ++
        [SourceLine.empty]).flatMap SourceLine.chars =
          (openingLines entry size).flatMap fun line => line.toList ++ ['\n'] := by
      rw [openingLines, List.flatMap_append, List.flatMap_append, List.flatMap_map,
        List.flatMap_map]
      simp only [SourceLine.chars, String.toList_append]
      rfl
    have hlines : ∀ line ∈ openingLines entry size, '\n' ∉ line.toList := by
      rw [openingLines, List.forall_mem_append, List.forall_mem_map, List.forall_mem_singleton]
      refine ⟨fun text htext => ?_, by decide⟩
      rw [String.toList_append, List.mem_append, not_or]
      exact ⟨by decide, (break_not_mem_openingComments size hline hreturn text htext).1⟩
    have hsplit := Table.splitChars_flatMap hlines []
    rw [List.append_nil] at hsplit
    rw [sourceLines, isSpelledBy_openingText entry size,
      Syntax.normalizeLines_lines (isReadable_openingText size hline hreturn)
        (List.append_ne_nil_of_right_ne_nil _ (List.cons_ne_nil _ _)), hchars, hsplit]
    exact List.dropLast_concat

/-! ## The statements of the script -/

/-- The text of the call. -/
def callText (rows : List BundleRow) : String :=
  String.ofList ((callPieces rows).flatMap Piece.chars)

/-- The tokens of the call. -/
def callTokens (rows : List BundleRow) : List Lexeme :=
  (callPieces rows).flatMap Piece.lexemes

/-- The opening opens no brackets and no blocks. -/
theorem layout_openingText (entry : String) (size : Nat) :
    layout [] ((openingComments entry size).map SourceLine.comment ++ [SourceLine.empty]) =
      some [] :=
  rfl

/-- A bundle has four parts. The rows of the call are those of the records. -/
theorem exists_parts {cwd root : Path} {cacheExports : Bool} {g : ModuleGraph} {text : String}
    (h : assemble cwd root cacheExports g = .ok text) :
    ∃ entry rows, relativeText cwd g.entry.location root = .ok entry ∧
      List.Forall₂ (fun r row => BundleRow.ofRecord cwd root r = .ok row) g.records rows ∧
      text = openingText entry g.size ++ loaderText cacheExports ++ "\n\n" ++ callText rows ++
        "\n" := by
  have hrecords : ∀ {records : List ModuleRecord} {texts : List String},
      List.Forall₂ (fun r text => recordText cwd root r = .ok text) records texts →
        ∃ rows, List.Forall₂ (fun r row => BundleRow.ofRecord cwd root r = .ok row) records rows ∧
          List.Forall₂ (fun row text => BundleRow.text row = .ok text) rows texts := by
    intro records texts h
    induction h with
    | nil => exact ⟨[], .nil, .nil⟩
    | cons hr _ ih =>
      obtain ⟨rows, hrows, htexts⟩ := ih
      obtain ⟨row, hrow, htext⟩ := bind_eq_ok.mp hr
      exact ⟨row :: rows, .cons (mapError_eq_ok.mp hrow) hrows,
        .cons (mapError_eq_ok.mp htext) htexts⟩
  obtain ⟨entry, hentry, h⟩ := bind_eq_ok.mp h
  obtain ⟨texts, htexts, h⟩ := bind_eq_ok.mp h
  obtain ⟨rows, hrows, hcall⟩ := hrecords (forall₂_of_mapM htexts)
  have htext : "_bundle(\x7b\n" ++ String.join texts ++ "\x7d)\n" = callText rows ++ "\n" := by
    refine String.toList_inj.mp ((chars_callPieces hcall).trans ?_)
    rw [String.toList_append, callText, String.toList_ofList, List.flatMap_singleton]
    rfl
  rw [String.append_assoc] at htext
  have hfront : ∀ front : String, front ++ "_bundle(\x7b\n" ++ String.join texts ++ "\x7d)\n" =
      front ++ callText rows ++ "\n" := by
    intro front
    rw [String.append_assoc, String.append_assoc, htext, String.append_assoc]
  exact ⟨entry, rows, mapError_eq_ok.mp hentry, hrows, (Except.ok.inj h).symm.trans (hfront _)⟩

/-- A loader begins with a line that is not indented. -/
theorem Loader.exists_lines_eq (cacheExports : Bool) :
    ∃ pieces more, Loader.lines cacheExports = SourceLine.code 0 pieces :: more := by
  cases cacheExports <;> exact ⟨_, _, rfl⟩

/-- A loader has the statements of its lines. -/
theorem Loader.statements_loaderText {cacheExports : Bool} {own : List Lexeme}
    (h : layout [] (Loader.lines cacheExports) = some own) :
    (Syntax.tokenize (loaderText cacheExports)).statements = statements own := by
  obtain ⟨pieces, more, hlines⟩ := Loader.exists_lines_eq cacheExports
  have hne : Loader.lines cacheExports ≠ [] := by
    rw [hlines]
    exact List.cons_ne_nil _ _
  exact (Syntax.statements_tokenize (Loader.isSpelledBy_lines cacheExports) hne
    (Loader.isReadable_lines cacheExports) h).2

/-- A text before the loader that consists of readable lines only adds its own statements to those of
the loader and to the call. -/
theorem statements_script {front : String} {lines : List SourceLine} {own : List Lexeme}
    (hfront : IsSpelledBy front lines) (hlines : ∀ line ∈ lines, line.IsReadable)
    (hlayout : layout [] lines = some own) (cacheExports : Bool) (rows : List BundleRow)
    {text : String}
    (htext : text = front ++ loaderText cacheExports ++ "\n\n" ++ callText rows ++ "\n") :
    (Syntax.tokenize text).failure = none ∧
      (Syntax.tokenize text).statements =
        statements own ++ (Syntax.tokenize (loaderText cacheExports)).statements ++
          [callTokens rows ++ [.newline]] := by
  obtain ⟨loader, hloader⟩ := Loader.exists_layout cacheExports
  obtain ⟨pieces, more, hfirst⟩ := Loader.exists_lines_eq cacheExports
  obtain ⟨hcall, hone⟩ := Syntax.layout_code (callPieces rows)
  -- Behind the loader come two empty lines and the call.
  have hspelled : IsSpelledBy text (lines ++ Loader.lines cacheExports ++
      ([SourceLine.empty] ++ [SourceLine.empty]) ++ [SourceLine.code 0 (callPieces rows)]) := by
    have hcallText : IsSpelledBy (callText rows ++ "\n") [SourceLine.code 0 (callPieces rows)] := by
      rw [IsSpelledBy, String.toList_append, callText, String.toList_ofList,
        List.flatMap_singleton]
      rfl
    have hempty : IsSpelledBy "\n\n" ([SourceLine.empty] ++ [SourceLine.empty]) := rfl
    rw [htext, String.append_assoc]
    exact ((hfront.append (Loader.isSpelledBy_lines cacheExports)).append hempty).append hcallText
  have hloader' : layout [] (Loader.lines cacheExports ++
      ([SourceLine.empty] ++ [SourceLine.empty])) = some loader := by
    rw [← List.append_assoc, Syntax.layout_append_empty, Syntax.layout_append_empty, hloader]
  have hscript := Syntax.layout_append_code (fun _ h => absurd h List.not_mem_nil) hloader' hcall
  have hlast := Syntax.statements_append_layout hloader' hcall
  rw [hfirst, List.cons_append, List.cons_append] at hscript
  have hall := Syntax.layout_append_code (fun _ h => absurd h List.not_mem_nil) hlayout hscript
  have hreadable : ∀ line ∈ lines ++ Loader.lines cacheExports ++
      ([SourceLine.empty] ++ [SourceLine.empty]) ++ [SourceLine.code 0 (callPieces rows)],
        line.IsReadable := by
    simp only [List.forall_mem_append, List.forall_mem_singleton]
    exact ⟨⟨⟨hlines, Loader.isReadable_lines cacheExports⟩, trivial, trivial⟩,
      isCode_callPieces rows⟩
  rw [← List.cons_append, ← List.cons_append, ← hfirst, ← List.append_assoc, ← List.append_assoc]
    at hall
  obtain ⟨hfailure, hstatements⟩ := Syntax.statements_tokenize hspelled
    (List.append_ne_nil_of_right_ne_nil _ (List.cons_ne_nil _ _)) hreadable hall
  refine ⟨hfailure, ?_⟩
  rw [hstatements, Syntax.statements_append_layout hlayout hscript, hlast, hone,
    Loader.statements_loaderText hloader, List.append_assoc]
  rfl

/-- A bundle is its opening, the loader as it is and the call, in which the texts of the records only
stand as literals. The opening consists of comments and an empty line if and only if there is no line
break in the path of the entry. Then the lexer reads the bundle without failure, and its statements are
those of the loader and the call. -/
theorem bundle_statements (cwd root : Path) (cacheExports : Bool) (g : ModuleGraph) (text : String)
    (h : assemble cwd root cacheExports g = .ok text) :
    ∃ entry rows, relativeText cwd g.entry.location root = .ok entry ∧
      List.Forall₂ (fun r row => BundleRow.ofRecord cwd root r = .ok row) g.records rows ∧
      text = openingText entry g.size ++ loaderText cacheExports ++ "\n\n" ++ callText rows ++
        "\n" ∧
      (∀ t ∈ callTokens rows,
        t.kind = .string ∨ t.kind = .number ∨ t.text ∈ BundleRow.frameTexts) ∧
      (sourceLines (openingText entry g.size) = (openingLines entry g.size).map String.toList ↔
        '\n' ∉ entry.toList ∧ '\r' ∉ entry.toList) ∧
      ('\n' ∉ entry.toList → '\r' ∉ entry.toList →
        (Syntax.tokenize text).failure = none ∧
        (Syntax.tokenize text).statements =
          (Syntax.tokenize (loaderText cacheExports)).statements ++
            [callTokens rows ++ [.newline]]) := by
  obtain ⟨entry, rows, hentry, hrows, htext⟩ := exists_parts h
  refine ⟨entry, rows, hentry, hrows, htext, fun t => framed_of_mem_callPieces,
    sourceLines_openingText entry g.size, fun hline hreturn => ?_⟩
  exact statements_script (isSpelledBy_openingText entry g.size)
    (isReadable_openingText g.size hline hreturn) (layout_openingText entry g.size) cacheExports
    rows htext

/-- The bundle of two modules that hold every character that the encoders escape has the statements of
the loader and the call. -/
theorem bundle_statements_escaping :
    ∃ text rows, assemble ⟨.root, []⟩ ⟨.root, ["p"]⟩ false escapingGraph = .ok text ∧
      List.Forall₂ (fun r row => BundleRow.ofRecord ⟨.root, []⟩ ⟨.root, ["p"]⟩ r = .ok row)
        escapingGraph.records rows ∧
      sourceLines (openingText "a.py" 2) = (openingLines "a.py" 2).map String.toList ∧
      (Syntax.tokenize text).failure = none ∧
      (Syntax.tokenize text).statements =
        (Syntax.tokenize (loaderText false)).statements ++ [callTokens rows ++ [.newline]] := by
  obtain ⟨text, htext⟩ :=
    exists_assemble ⟨.root, []⟩ ⟨.root, ["p"]⟩ false escapingGraph_isWritable
  obtain ⟨entry, rows, hentry, hrows, _, _, hlines, hstatements⟩ :=
    bundle_statements _ _ _ _ _ htext
  have hname : relativeText ⟨.root, []⟩ escapingGraph.entry.location ⟨.root, ["p"]⟩ = .ok "a.py" := by
    decide
  cases hentry.symm.trans hname
  have hline : '\n' ∉ "a.py".toList := by decide
  have hreturn : '\r' ∉ "a.py".toList := by decide
  exact ⟨text, rows, htext, hrows, hlines.mpr ⟨hline, hreturn⟩, hstatements hline hreturn⟩

/-- A module whose path has line breaks. -/
def breakingGraph : ModuleGraph where
  entry :=
    { identity := 0, location := "/p/a\nimport os\n#.py", references := [], code := "x = 1" }
  others := []
  placed := by decide

/-- The lines before the loader in the bundle of this module. -/
def breakingLines : List SourceLine :=
  [SourceLine.comment "!/usr/bin/env python3",
    SourceLine.comment " DO NOT EDIT! This script was generated by modpack.",
    SourceLine.comment " Manual edits may just break it.", SourceLine.comment " Entry: a",
    SourceLine.code 0 (plain "import os"), SourceLine.comment ".py",
    SourceLine.comment " Modules: 1", SourceLine.empty]

/-- A part of the path of the entry is a statement of this bundle, which comes before those of the
loader. -/
theorem bundle_statements_broken :
    ∃ text rows, assemble ⟨.root, []⟩ ⟨.root, ["p"]⟩ false breakingGraph = .ok text ∧
      List.Forall₂ (fun r row => BundleRow.ofRecord ⟨.root, []⟩ ⟨.root, ["p"]⟩ r = .ok row)
        breakingGraph.records rows ∧
      "import os".toList ∈ sourceLines (openingText "a\nimport os\n#.py" 1) ∧
      (Syntax.tokenize text).failure = none ∧
      (Syntax.tokenize text).statements =
        [[⟨.keyword, "import"⟩, ⟨.name, "os"⟩, .newline]] ++
          (Syntax.tokenize (loaderText false)).statements ++ [callTokens rows ++ [.newline]] := by
  have hwritable : ∀ r ∈ breakingGraph.records, r.IsWritable := by
    intro r hr
    rw [List.mem_singleton.mp hr]
    exact ⟨by decide, by decide⟩
  obtain ⟨text, htext⟩ := exists_assemble ⟨.root, []⟩ ⟨.root, ["p"]⟩ false hwritable
  obtain ⟨entry, rows, hentry, hrows, hparts⟩ := exists_parts htext
  have hname : relativeText ⟨.root, []⟩ breakingGraph.entry.location ⟨.root, ["p"]⟩ =
      .ok "a\nimport os\n#.py" := by decide
  cases hentry.symm.trans hname
  have hspelled : IsSpelledBy (openingText "a\nimport os\n#.py" 1) breakingLines := by
    unfold IsSpelledBy
    decide +kernel
  have hreadable : ∀ line ∈ breakingLines, line.IsReadable := by
    have hliterals : breakingLines.flatMap SourceLine.literals = [] := by decide
    refine SourceLine.isReadable_of_isEvident (by decide) ?_
    rw [hliterals]
    exact fun _ h => absurd h List.not_mem_nil
  have hlayout : layout [] breakingLines =
      some [⟨.keyword, "import"⟩, ⟨.name, "os"⟩, .newline] := by decide
  have hown : statements [⟨.keyword, "import"⟩, ⟨.name, "os"⟩, .newline] =
      [[⟨.keyword, "import"⟩, ⟨.name, "os"⟩, .newline]] := by decide
  have hscript := statements_script hspelled hreadable hlayout false rows hparts
  rw [hown] at hscript
  exact ⟨text, rows, htext, hrows, by decide +kernel, hscript⟩

end Bundler
