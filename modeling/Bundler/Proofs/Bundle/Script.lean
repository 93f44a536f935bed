import Bundler.Proofs.Bundle.Table
import Bundler.Proofs.Syntax.Statements

/-!
# The lines of a bundle

The loaders and the call behind them are put together from lines and pieces. A loader is one of two
fixed texts. The call has a row for each record, in which the texts and the references of the record
only stand as literals and its identities as numbers, so that each row fits among the others whatever
the record holds.
-/

set_option autoImplicit false

namespace Bundler

open Syntax (Piece SourceLine IsLiteral layout)
open Syntax.Piece (plain)

/-! ## Texts in lines -/

/-- A text consists of lines. -/
def IsSpelledBy (text : String) (lines : List SourceLine) : Prop :=
  text.toList = lines.flatMap SourceLine.chars

namespace IsSpelledBy

variable {front back line text : String} {lines others : List SourceLine}

/-- Lines behind lines are spelled one after the other. -/
theorem append (hfront : IsSpelledBy front lines) (hback : IsSpelledBy back others) :
    IsSpelledBy (front ++ back) (lines ++ others) := by
  rw [IsSpelledBy, String.toList_append, hfront, hback, List.flatMap_append]

/-- A line feed spells an empty line. -/
theorem empty : IsSpelledBy "\n" [.empty] :=
  rfl

/-- A comment is written behind its mark. -/
theorem comment (h : line = "#" ++ text ++ "\n") : IsSpelledBy line [.comment text] := by
  rw [IsSpelledBy, h, List.flatMap_singleton, SourceLine.chars, String.toList_append,
    String.toList_append, List.append_assoc]
  rfl

/-- A line of plain text is written as the text behind blanks. -/
theorem code {indent : Nat}
    (h : line = String.ofList (List.replicate indent ' ') ++ text ++ "\n") :
    IsSpelledBy line [.code indent (plain text)] := by
  rw [IsSpelledBy, h, List.flatMap_singleton, SourceLine.chars, Piece.chars_plain,
    String.toList_append, String.toList_append, String.toList_ofList, List.append_assoc]
  rfl

end IsSpelledBy

/-! ## The loader -/

namespace Loader

/-- The lines with which both loaders begin. -/
def openingLines : List SourceLine :=
  [SourceLine.code 0 (plain "import types as _types")] ++
  [SourceLine.empty] ++
  [SourceLine.empty] ++
  [SourceLine.code 0 (plain "def _bundle(modules):")]

/-- What a module is told that requires something unknown. -/
def missingMessage : String :=
  "f\"module \x7bidentity\x7d has no bundled dependency \x7breference!r\x7d\""

/-- The lines that refuse an unknown reference, which brackets hold together. -/
def raiseLine : SourceLine :=
  SourceLine.code 16 (plain "raise ImportError(" ++ [Piece.lineBreak 20,
    Piece.literal missingMessage, Piece.lineBreak 16, Piece.mark ')'])

/-- The lines of both loaders that define `require` for a module. -/
def requireLines : List SourceLine :=
  [SourceLine.code 8 (plain "def require(reference):")] ++
  [SourceLine.code 12 (plain "if reference not in mapping:")] ++
  [raiseLine] ++
  [SourceLine.code 12 (plain "return load(mapping[reference])")]

/-- The line with which both loaders make the state of a module. -/
def stateLines : List SourceLine :=
  [SourceLine.code 8 (plain "module = _types.SimpleNamespace(exports=_types.SimpleNamespace())")]

/-- The line that starts the first module. -/
def startLine : SourceLine :=
  SourceLine.code 4 (plain "return load(" ++ [Piece.number 0, Piece.mark ')'])

/-- The lines with which both loaders run a module and start the first one. -/
def closingLines : List SourceLine :=
  [SourceLine.code 8 (plain "body(require, module, module.exports)")] ++
  [SourceLine.code 8 (plain "return module.exports")] ++
  [SourceLine.empty] ++
  [startLine]

/-- The lines of the loader that runs a module whenever it is required. -/
def plainLines : List SourceLine :=
  openingLines ++
  [SourceLine.code 4 (plain "def load(identity):")] ++
  [SourceLine.code 8 (plain "body, mapping = modules[identity]")] ++
  [SourceLine.empty] ++
  requireLines ++
  [SourceLine.empty] ++
  stateLines ++
  closingLines

/-- The lines of the loader that runs a module once. -/
def cachingLines : List SourceLine :=
  openingLines ++
  [SourceLine.code 4 (plain "cache = \x7b\x7d")] ++
  [SourceLine.empty] ++
  [SourceLine.code 4 (plain "def load(identity):")] ++
  [SourceLine.code 8 (plain "if identity in cache:")] ++
  [SourceLine.code 12 (plain "return cache[identity].exports")] ++
  [SourceLine.code 8 (plain "body, mapping = modules[identity]")] ++
  [SourceLine.empty] ++
  requireLines ++
  [SourceLine.empty] ++
  stateLines ++
  [SourceLine.code 8 (plain "cache[identity] = module")] ++
  closingLines

/-- The lines of the loader of a bundle. -/
def lines (cacheExports : Bool) : List SourceLine :=
  if cacheExports then cachingLines else plainLines

/-- The opening of the loader is spelled by its lines. -/
theorem isSpelledBy_opening : IsSpelledBy loaderOpening openingLines := by
  have himport : IsSpelledBy "import types as _types\n"
      [SourceLine.code 0 (plain "import types as _types")] := .code rfl
  have hdef : IsSpelledBy "def _bundle(modules):\n"
      [SourceLine.code 0 (plain "def _bundle(modules):")] := .code rfl
  unfold loaderOpening openingLines
  exact ((himport.append .empty).append .empty).append hdef

/-- The statement that raises the error is spelled as one line. -/
theorem isSpelledBy_raise : IsSpelledBy ("                raise ImportError(\n" ++
    "                    f\"module \x7bidentity\x7d has no bundled dependency \x7breference!r\x7d\"\n" ++
    "                )\n") [raiseLine] := by
  have hfirst : "                raise ImportError(\n" =
      String.ofList (List.replicate 16 ' ') ++ "raise ImportError(" ++ "\n" := rfl
  have hsecond :
      "                    f\"module \x7bidentity\x7d has no bundled dependency \x7breference!r\x7d\"\n" =
        String.ofList (List.replicate 20 ' ') ++ missingMessage ++ "\n" := rfl
  have hthird : "                )\n".toList = List.replicate 16 ' ' ++ [')', '\n'] := rfl
  have hend : "\n".toList = ['\n'] := rfl
  unfold IsSpelledBy raiseLine
  rw [hfirst, hsecond]
  simp only [String.toList_append, String.toList_ofList, hthird, hend, SourceLine.chars,
    Piece.chars_plain, Piece.chars, List.flatMap_append, List.flatMap_cons, List.flatMap_nil,
    List.append_assoc, List.cons_append, List.nil_append]

/-- The function that requires modules is spelled by its lines. -/
theorem isSpelledBy_require : IsSpelledBy Bundler.requireLines requireLines := by
  have hdef : IsSpelledBy "        def require(reference):\n"
      [SourceLine.code 8 (plain "def require(reference):")] := .code rfl
  have hif : IsSpelledBy "            if reference not in mapping:\n"
      [SourceLine.code 12 (plain "if reference not in mapping:")] := .code rfl
  have hreturn : IsSpelledBy "            return load(mapping[reference])\n"
      [SourceLine.code 12 (plain "return load(mapping[reference])")] := .code rfl
  have hall := ((hdef.append hif).append isSpelledBy_raise).append hreturn
  unfold Bundler.requireLines requireLines
  simp only [String.append_assoc] at hall ⊢
  exact hall

/-- The closing of the loader is spelled by its lines. -/
theorem isSpelledBy_closing : IsSpelledBy loaderClosing closingLines := by
  have hbody : IsSpelledBy "        body(require, module, module.exports)\n"
      [SourceLine.code 8 (plain "body(require, module, module.exports)")] := .code rfl
  have hreturn : IsSpelledBy "        return module.exports\n"
      [SourceLine.code 8 (plain "return module.exports")] := .code rfl
  have hstart : IsSpelledBy "    return load(0)\n" [startLine] := by
    have htext : "    return load(0)\n".toList =
        List.replicate 4 ' ' ++ ("return load(".toList ++ ['0', ')', '\n']) := rfl
    unfold IsSpelledBy startLine
    rw [htext, List.flatMap_singleton, SourceLine.chars, List.flatMap_append, Piece.chars_plain]
    rfl
  unfold loaderClosing closingLines
  exact ((hbody.append hreturn).append .empty).append hstart

/-- The state of the loader is spelled by its lines. -/
theorem isSpelledBy_state : IsSpelledBy stateLine stateLines :=
  .code rfl

/-- The loader that runs modules again is spelled by its lines. -/
theorem isSpelledBy_plainLoader : IsSpelledBy plainLoader plainLines := by
  have hload : IsSpelledBy "    def load(identity):\n"
      [SourceLine.code 4 (plain "def load(identity):")] := .code rfl
  have hrow : IsSpelledBy "        body, mapping = modules[identity]\n"
      [SourceLine.code 8 (plain "body, mapping = modules[identity]")] := .code rfl
  unfold plainLoader plainLines
  have hfound := (isSpelledBy_opening.append hload).append hrow
  have hrequire := (hfound.append .empty).append isSpelledBy_require
  have hstate := (hrequire.append .empty).append isSpelledBy_state
  exact hstate.append isSpelledBy_closing

/-- The loader that keeps exports is spelled by its lines. -/
theorem isSpelledBy_cachingLoader : IsSpelledBy cachingLoader cachingLines := by
  have hcache : IsSpelledBy "    cache = \x7b\x7d\n"
      [SourceLine.code 4 (plain "cache = \x7b\x7d")] := .code rfl
  have hload : IsSpelledBy "    def load(identity):\n"
      [SourceLine.code 4 (plain "def load(identity):")] := .code rfl
  have hknown : IsSpelledBy "        if identity in cache:\n"
      [SourceLine.code 8 (plain "if identity in cache:")] := .code rfl
  have hreturn : IsSpelledBy "            return cache[identity].exports\n"
      [SourceLine.code 12 (plain "return cache[identity].exports")] := .code rfl
  have hrow : IsSpelledBy "        body, mapping = modules[identity]\n"
      [SourceLine.code 8 (plain "body, mapping = modules[identity]")] := .code rfl
  have hremember : IsSpelledBy "        cache[identity] = module\n"
      [SourceLine.code 8 (plain "cache[identity] = module")] := .code rfl
  unfold cachingLoader cachingLines
  have hkept := (isSpelledBy_opening.append hcache).append .empty
  have hfound := (((hkept.append hload).append hknown).append hreturn).append hrow
  have hrequire := (hfound.append .empty).append isSpelledBy_require
  have hstate := (hrequire.append .empty).append isSpelledBy_state
  exact (hstate.append hremember).append isSpelledBy_closing

/-- A loader is the text of its lines. -/
theorem isSpelledBy_lines (cacheExports : Bool) :
    IsSpelledBy (loaderText cacheExports) (lines cacheExports) := by
  cases cacheExports with
  | false => exact isSpelledBy_plainLoader
  | true => exact isSpelledBy_cachingLoader

/-- The message about a missing dependency is a literal. -/
theorem isLiteral_missingMessage : IsLiteral missingMessage := by
  have hplain : "module \x7bidentity\x7d has no bundled dependency \x7breference!r\x7d".toList.all
      (fun c => c ≠ '"' ∧ c ≠ '\\' ∧ c ≠ '\n') = true := by decide
  refine ⟨['f'], '"', "module \x7bidentity\x7d has no bundled dependency \x7breference!r\x7d".toList,
    _, .inl rfl, Syntax.isBody_plain fun c hc => ?_, fun _ => rfl, by decide, by decide⟩
  exact of_decide_eq_true (List.all_eq_true.mp hplain c hc)

/-- The message is the only literal of the loader. -/
theorem literals_lines (cacheExports : Bool) :
    (lines cacheExports).flatMap SourceLine.literals = [missingMessage] := by
  cases cacheExports <;> decide

/-- The lines of the loader can be read as they are. -/
theorem all_isEvident_lines (cacheExports : Bool) :
    (lines cacheExports).all SourceLine.isEvident = true := by
  cases cacheExports <;> decide

/-- The lines of a loader are read as they are meant. -/
theorem isReadable_lines (cacheExports : Bool) : ∀ line ∈ lines cacheExports, line.IsReadable := by
  refine SourceLine.isReadable_of_isEvident (all_isEvident_lines cacheExports) ?_
  rw [literals_lines, List.forall_mem_singleton]
  exact isLiteral_missingMessage

/-- The lines of a loader fit together. -/
theorem exists_layout (cacheExports : Bool) :
    ∃ lexemes, layout [] (lines cacheExports) = some lexemes := by
  rw [← Option.isSome_iff_exists]
  cases cacheExports <;> decide

end Loader

/-! ## The call -/

namespace BundleRow

/-- How an integer is written. -/
def integerPieces : Int → List Piece
  | .ofNat n => [Piece.number n]
  | .negSucc n => [Piece.mark '-', Piece.number (n + 1)]

/-- How a reference and its target are written. -/
def itemPieces (item : String × Int) : List Piece :=
  Piece.literal (Json.escaped item.1) :: Piece.mark ':' :: integerPieces item.2

/-- How a dictionary is written. -/
def mappingPieces (items : List (String × Int)) : List Piece :=
  Piece.mark '{' :: ([Piece.mark ','].intercalate (items.map itemPieces) ++ [Piece.mark '}'])

/-- The pieces of a row before its references. -/
def frontPieces (row : BundleRow) : List Piece :=
  [Piece.number row.identity] ++ plain ": (" ++
  [Piece.lineBreak 8] ++ plain "lambda require, module, exports: exec(" ++
  [Piece.lineBreak 12] ++ plain "compile(" ++ [Piece.literal (Text.quoted row.code)] ++
  plain ", " ++ [Piece.literal (Text.quoted row.file)] ++
  plain ", " ++ [Piece.literal (Text.quoted "exec")] ++ plain ")," ++
  [Piece.lineBreak 12] ++ plain "\x7b" ++ [Piece.literal (Json.escaped "__name__")] ++ plain ": " ++
  [Piece.literal (Text.quoted row.name)] ++
  plain ", " ++ [Piece.literal (Json.escaped "__file__")] ++ plain ": " ++
  [Piece.literal (Text.quoted row.file)] ++
  plain ", " ++ [Piece.literal (Json.escaped "require")] ++ plain ": require, " ++
  [Piece.literal (Json.escaped "module")] ++ plain ": module, " ++
  [Piece.literal (Json.escaped "exports")] ++ plain ": exports\x7d," ++
  [Piece.lineBreak 8] ++ plain ")," ++ [Piece.lineBreak 8]

/-- The pieces of a row behind its references. -/
def backPieces : List Piece :=
  [Piece.mark ',', Piece.lineBreak 4, Piece.mark ')', Piece.mark ',']

/-- The pieces of a row, with the end of the line before it. -/
def pieces (row : BundleRow) : List Piece :=
  Piece.lineBreak 4 :: (row.frontPieces ++ mappingPieces row.referenceMap ++ backPieces)

variable {items : List (String × Int)} {row : BundleRow} {opened : List Char}

/-- The pieces of an integer spell it. -/
theorem chars_integerPieces (n : Int) :
    (integerPieces n).flatMap Piece.chars = (toString n).toList := by
  cases n with
  | ofNat n => exact List.append_nil _
  | negSucc n =>
    change '-' :: ((toString (n + 1)).toList ++ []) = ("-" ++ toString (n + 1)).toList
    rw [List.append_nil, String.toList_append]
    rfl

/-- The pieces of an item spell it. -/
theorem chars_itemPieces (item : String × Int) :
    (itemPieces item).flatMap Piece.chars = Table.itemChars item := by
  unfold itemPieces Table.itemChars
  rw [List.flatMap_cons, List.flatMap_cons, chars_integerPieces]
  rfl

/-- The pieces of a mapping spell it. -/
theorem chars_mappingPieces (items : List (String × Int)) :
    (mappingPieces items).flatMap Piece.chars = Table.dictionaryChars items := by
  have hitems : ([Piece.mark ','].intercalate (items.map itemPieces)).flatMap Piece.chars =
      [','].intercalate (items.map Table.itemChars) := by
    induction items with
    | nil => rfl
    | cons item items ih =>
      cases items with
      | nil =>
        rw [List.map_singleton, List.map_singleton, List.intercalate_singleton,
          List.intercalate_singleton, chars_itemPieces]
      | cons next items =>
        rw [List.map_cons, List.map_cons, List.intercalate_cons_cons, ← List.map_cons,
          List.flatMap_append, List.flatMap_append, chars_itemPieces, ih]
        exact (List.intercalate_cons_cons ..).symm
  unfold mappingPieces Table.dictionaryChars
  rw [List.flatMap_cons, List.flatMap_append, hitems]
  rfl

/-- What holds of all pieces of an item and of the marks holds of all pieces of a dictionary. -/
theorem forall_mem_mappingPieces {p : Piece → Prop} (hopen : p (.mark '{')) (hcomma : p (.mark ','))
    (hclose : p (.mark '}')) (hitem : ∀ item, ∀ piece ∈ itemPieces item, p piece) :
    ∀ piece ∈ mappingPieces items, p piece := by
  intro piece hpiece
  rw [mappingPieces, List.mem_cons, List.mem_append, List.mem_singleton] at hpiece
  rcases hpiece with rfl | hpiece | rfl
  · exact hopen
  · rcases mem_of_mem_intercalate hpiece with hpiece | ⟨own, hown, hpiece⟩
    · rw [List.mem_singleton.mp hpiece]
      exact hcomma
    · obtain ⟨item, _, rfl⟩ := List.mem_map.mp hown
      exact hitem item piece hpiece
  · exact hclose

/-- What holds of literals, numbers and the marks of an item holds of all its pieces. -/
theorem forall_mem_itemPieces {p : Piece → Prop} (item : String × Int)
    (hliteral : ∀ s, p (.literal (Json.escaped s))) (hnumber : ∀ n, p (.number n))
    (hcolon : p (.mark ':')) (hminus : p (.mark '-')) : ∀ piece ∈ itemPieces item, p piece := by
  rw [itemPieces, List.forall_mem_cons, List.forall_mem_cons]
  refine ⟨hliteral item.1, hcolon, ?_⟩
  cases item.2 with
  | ofNat n => exact List.forall_mem_singleton.mpr (hnumber n)
  | negSucc n => exact List.forall_mem_cons.mpr ⟨hminus, List.forall_mem_singleton.mpr (hnumber _)⟩

/-- The pieces of a mapping can be read. -/
theorem isReadable_mappingPieces : ∀ p ∈ mappingPieces items, p.IsReadable := by
  have hmark : ∀ c, c ∈ Syntax.pieceMarks → (Piece.mark c).IsReadable := fun _ h => h
  refine forall_mem_mappingPieces (hmark _ (by decide)) (hmark _ (by decide)) (hmark _ (by decide))
    fun item => ?_
  exact forall_mem_itemPieces item Syntax.isLiteral_escaped (fun _ => trivial) (hmark _ (by decide))
    (hmark _ (by decide))

/-- A dictionary leaves the brackets that are open. -/
theorem opens_mappingPieces (hfew : opened.length < 200) :
    (mappingPieces items).foldlM Piece.opens opened = some opened := by
  have hkeep : ∀ (pieces : List Piece) (opened : List Char),
      (∀ p ∈ pieces, p.opens opened = some opened) →
        pieces.foldlM Piece.opens opened = some opened := by
    intro pieces opened h
    induction pieces with
    | nil => rfl
    | cons p pieces ih =>
      obtain ⟨hp, hpieces⟩ := List.forall_mem_cons.mp h
      rw [List.foldlM_cons, hp]
      exact ih hpieces
  have hitem : ∀ item, ∀ p ∈ itemPieces item, p.opens ('{' :: opened) = some ('{' :: opened) := by
    intro item
    exact forall_mem_itemPieces item (fun _ => rfl) (fun _ => rfl) rfl rfl
  have hitems : ∀ p ∈ [Piece.mark ','].intercalate (items.map itemPieces),
      p.opens ('{' :: opened) = some ('{' :: opened) := by
    intro p hp
    rcases mem_of_mem_intercalate hp with hp | ⟨own, hown, hp⟩
    · rw [List.mem_singleton.mp hp]
      rfl
    · obtain ⟨item, _, rfl⟩ := List.mem_map.mp hown
      exact hitem item p hp
  have hopen : (Piece.mark '{').opens opened = some ('{' :: opened) := if_pos hfew
  rw [mappingPieces, List.foldlM_cons, hopen]
  dsimp only [Option.bind_eq_bind, Option.bind_some]
  rw [List.foldlM_append, hkeep _ _ hitems]
  rfl

/-- Items fit together, behind the mark that a dictionary begins with and behind a comma. -/
theorem isChain_items {c : Char} (hc : c ∉ Syntax.joiningMarks) (items : List (String × Int)) :
    (Piece.mark c :: ([Piece.mark ','].intercalate (items.map itemPieces) ++
      [Piece.mark '}'])).IsChain Piece.Fits := by
  induction items generalizing c with
  | nil =>
    refine List.isChain_pair.mpr ?_
    simp [Piece.Fits, Piece.mayPrecede]
  | cons item items ih =>
    have hpoint : c ≠ '.' := by
      rintro rfl
      exact hc (by decide)
    have hfirst : ∀ d : Char, d ≠ '.' →
        (Piece.mark c :: itemPieces item ++ [Piece.mark d]).IsChain Piece.Fits := by
      intro d hd
      obtain ⟨key, target⟩ := item
      cases target <;> simp [itemPieces, integerPieces, Piece.Fits, Piece.mayPrecede, hpoint, hd]
    cases items with
    | nil =>
      rw [List.map_singleton, List.intercalate_singleton]
      exact hfirst '}' (by decide)
    | cons next items =>
      rw [List.map_cons, List.map_cons, List.intercalate_cons_cons, ← List.map_cons]
      have hrest := ih (c := ',') (by decide)
      have hall : ((Piece.mark c :: itemPieces item) ++ [Piece.mark ','] ++
          ([Piece.mark ','].intercalate ((next :: items).map itemPieces) ++ [Piece.mark '}'])).IsChain
            Piece.Fits :=
        List.IsChain.append_overlap (hfirst ',' (by decide)) hrest (List.cons_ne_nil _ _)
      simpa only [List.append_assoc, List.cons_append, List.nil_append] using hall

/-- The pieces of a mapping may stand next to each other. -/
theorem isChain_mappingPieces : (mappingPieces items).IsChain Piece.Fits :=
  isChain_items (by decide) items

/-! ### Rows -/

/-- A row without contents. -/
def blankRow : BundleRow :=
  ⟨0, "", "", "", []⟩

/-- The pieces before the mapping have the same shapes in all rows. -/
theorem map_shape_frontPieces (row : BundleRow) :
    row.frontPieces.map Piece.shape = blankRow.frontPieces.map Piece.shape := by
  unfold frontPieces
  simp only [List.map_append, List.map_cons, List.map_nil, Piece.shape]

/-- The names of a row are written as a table. -/
theorem nameTable_eq (row : BundleRow) : row.nameTable =
    "\x7b" ++ Json.escaped "__name__" ++ ": " ++ Text.quoted row.name ++ ", " ++
      Json.escaped "__file__" ++ ": " ++ Text.quoted row.file ++ ", " ++ Json.escaped "require" ++
      ": require, " ++ Json.escaped "module" ++ ": module, " ++ Json.escaped "exports" ++
      ": exports\x7d" := by
  have hname : "\x7b\"__name__\": " = "\x7b" ++ Json.escaped "__name__" ++ ": " := by decide
  have hfile : ", \"__file__\": " = ", " ++ Json.escaped "__file__" ++ ": " := by decide
  have hothers : ", \"require\": require, \"module\": module, \"exports\": exports\x7d" =
      ", " ++ Json.escaped "require" ++ ": require, " ++ Json.escaped "module" ++ ": module, " ++
        Json.escaped "exports" ++ ": exports\x7d" := by decide
  unfold nameTable
  rw [hname, hfile, hothers]
  simp only [String.append_assoc]

/-- The lines of a row, moved by one line feed, are its pieces. -/
theorem chars_pieces {row : BundleRow} {text : String} (h : row.text = .ok text) :
    '\n' :: text.toList = row.pieces.flatMap Piece.chars ++ ['\n'] := by
  obtain ⟨mapping, hmapping, htext⟩ := Table.exists_mapping h
  have hfour : "    ".toList = List.replicate 4 ' ' := rfl
  have height : "        ".toList = List.replicate 8 ' ' := rfl
  have htwelve : "            ".toList = List.replicate 12 ' ' := rfl
  have hlambda : "        lambda require, module, exports: exec(" =
      "        " ++ "lambda require, module, exports: exec(" := rfl
  have hcompile : "            compile(" = "            " ++ "compile(" := rfl
  have hexec : ", 'exec')," = ", " ++ Text.quoted "exec" ++ ")," := by decide
  have hexports : ": exports\x7d,".toList = ": exports\x7d".toList ++ [','] := rfl
  have hclose : "        )," = "        " ++ ")," := rfl
  have hend : "    ),".toList = List.replicate 4 ' ' ++ [')', ','] := rfl
  have hcomma : ",".toList = [','] := rfl
  rw [htext]
  unfold Table.rowLines pieces frontPieces backPieces
  rw [nameTable_eq, hlambda, hcompile, hexec, hclose]
  simp only [List.flatMap_cons, List.flatMap_nil, List.flatMap_append, Piece.chars_plain,
    Piece.chars, chars_mappingPieces, Table.toList_write_mapping hmapping, String.toList_append, hfour,
    height, htwelve, hexports, hend, hcomma, List.append_assoc, List.cons_append, List.nil_append,
    List.append_nil]

/-- The pieces before the mapping can be read. -/
theorem isReadable_frontPieces (row : BundleRow) : ∀ p ∈ row.frontPieces, p.IsReadable := by
  have hevident : blankRow.frontPieces.all Piece.isEvident = true := by decide
  rw [← Piece.all_map_shape Piece.isEvident_shape, ← map_shape_frontPieces,
    Piece.all_map_shape Piece.isEvident_shape] at hevident
  refine Piece.isReadable_of_isEvident hevident fun text htext => ?_
  unfold frontPieces at htext
  simp only [List.filterMap_append, Piece.filterMap_literal?_plain,
    List.filterMap_cons, List.filterMap_nil, Piece.literal?, List.append_assoc, List.nil_append,
    List.cons_append, List.mem_cons, List.not_mem_nil, or_false] at htext
  rcases htext with rfl | rfl | rfl | rfl | rfl | rfl | rfl | rfl | rfl | rfl
  · exact Syntax.isLiteral_quoted _
  · exact Syntax.isLiteral_quoted _
  · exact Syntax.isLiteral_quoted _
  · exact Syntax.isLiteral_escaped _
  · exact Syntax.isLiteral_quoted _
  · exact Syntax.isLiteral_escaped _
  · exact Syntax.isLiteral_quoted _
  · exact Syntax.isLiteral_escaped _
  · exact Syntax.isLiteral_escaped _
  · exact Syntax.isLiteral_escaped _

/-- The pieces of a row can be read. -/
theorem isReadable_pieces (row : BundleRow) : ∀ p ∈ row.pieces, p.IsReadable := by
  have hback : ∀ p ∈ backPieces, p.IsReadable :=
    Piece.isReadable_of_isEvident (by decide) (fun _ h => absurd h List.not_mem_nil)
  rw [pieces, List.forall_mem_cons, List.forall_mem_append, List.forall_mem_append]
  exact ⟨trivial, ⟨isReadable_frontPieces row, isReadable_mappingPieces⟩, hback⟩

/-- A row leaves the brackets of the call that are open. -/
theorem opens_pieces (row : BundleRow) :
    row.pieces.foldlM Piece.opens ['{', '('] = some ['{', '('] := by
  have hfront : blankRow.frontPieces.foldlM Piece.opens ['{', '('] = some ['(', '{', '('] := by
    decide
  rw [← Piece.foldlM_opens_map_shape, ← map_shape_frontPieces row, Piece.foldlM_opens_map_shape]
    at hfront
  have hback : backPieces.foldlM Piece.opens ['(', '{', '('] = some ['{', '('] := by decide
  have hothers : (row.frontPieces ++ mappingPieces row.referenceMap ++ backPieces).foldlM
      Piece.opens ['{', '('] = some ['{', '('] := by
    rw [List.foldlM_append, List.foldlM_append]
    refine Option.bind_eq_some_iff.mpr ⟨_, ?_, hback⟩
    exact Option.bind_eq_some_iff.mpr ⟨_, hfront, opens_mappingPieces (by decide)⟩
  rw [pieces, List.foldlM_cons]
  exact Option.bind_eq_some_iff.mpr ⟨_, rfl, hothers⟩

/-- A row fits before the end of a line. -/
theorem isChain_pieces (row : BundleRow) (n : Nat) :
    (row.pieces ++ [Piece.lineBreak n]).IsChain Piece.Fits := by
  have hfront : (Piece.lineBreak 4 :: blankRow.frontPieces ++ [Piece.mark '{']).IsChain
      Piece.Fits := by decide +kernel
  have hshape : (Piece.lineBreak 4 :: row.frontPieces ++ [Piece.mark '{']).map Piece.shape =
      (Piece.lineBreak 4 :: blankRow.frontPieces ++ [Piece.mark '{']).map Piece.shape := by
    simp only [List.map_append, List.map_cons, map_shape_frontPieces row]
  rw [← Piece.isChain_map_shape, ← hshape, Piece.isChain_map_shape] at hfront
  have hback : ([Piece.mark '}'] ++ (backPieces ++ [Piece.lineBreak n])).IsChain Piece.Fits := by
    simp [backPieces, Piece.Fits, Piece.mayPrecede]
  -- A dictionary has its brackets in common with what stands before and behind it.
  have hmapping : ([Piece.mark '{'] ++ ([Piece.mark ','].intercalate
      (row.referenceMap.map itemPieces) ++ [Piece.mark '}'])).IsChain Piece.Fits :=
    isChain_mappingPieces
  have hopening := List.IsChain.append_overlap hfront hmapping (List.cons_ne_nil _ _)
  rw [← List.append_assoc] at hopening
  have hall := List.IsChain.append_overlap hopening hback (List.cons_ne_nil _ _)
  unfold pieces mappingPieces
  simpa only [List.append_assoc, List.cons_append, List.nil_append] using hall

/-- The words and the marks of the call. -/
def frameTexts : List String :=
  ["_bundle", "lambda", "require", "module", "exports", "exec", "compile", "(", ")", "\x7b", "\x7d",
    ",", ":", "-"]

/-- Whether a piece is a literal or a number or belongs to the frame of the call. -/
def isFramed : Piece → Bool
  | .word text => frameTexts.contains text
  | .mark c => frameTexts.contains c.toString
  | _ => true

/-- Whether a piece belongs to the frame depends on its shape. -/
theorem isFramed_shape (p : Piece) : isFramed p.shape = isFramed p := by
  cases p <;> rfl

/-- The pieces of a row are data, or words of the frame. -/
theorem all_isFramed_pieces (row : BundleRow) : ∀ p ∈ row.pieces, isFramed p = true := by
  have hfront : blankRow.frontPieces.all isFramed = true := by decide
  rw [← Piece.all_map_shape isFramed_shape, ← map_shape_frontPieces row,
    Piece.all_map_shape isFramed_shape] at hfront
  have hmapping : ∀ p ∈ mappingPieces row.referenceMap, isFramed p = true :=
    forall_mem_mappingPieces (by decide) (by decide) (by decide) fun item =>
      forall_mem_itemPieces item (fun _ => rfl) (fun _ => rfl) (by decide) (by decide)
  have hback : backPieces.all isFramed = true := by decide
  rw [pieces, List.forall_mem_cons, List.forall_mem_append, List.forall_mem_append]
  exact ⟨rfl, ⟨List.all_eq_true.mp hfront, hmapping⟩, List.all_eq_true.mp hback⟩

end BundleRow

open BundleRow (frameTexts isFramed)

/-- The pieces of the call that passes the table of modules to the loader. -/
def callPieces (rows : List BundleRow) : List Piece :=
  plain "_bundle(\x7b" ++ (rows.flatMap BundleRow.pieces ++
    [Piece.lineBreak 0, Piece.mark '\x7d', Piece.mark ')'])

/-- The call is the text of its pieces. -/
theorem chars_callPieces {rows : List BundleRow} {texts : List String}
    (h : List.Forall₂ (fun row text => BundleRow.text row = .ok text) rows texts) :
    IsSpelledBy ("_bundle(\x7b\n" ++ String.join texts ++ "\x7d)\n")
      [.code 0 (callPieces rows)] := by
  have hrows : ∀ rest : List Char, '\n' :: (texts.flatMap String.toList ++ rest) =
      (rows.flatMap BundleRow.pieces).flatMap Piece.chars ++ '\n' :: rest := by
    intro rest
    induction h with
    | nil => rfl
    | @cons row text rows texts hrow _ ih =>
      rw [List.flatMap_cons, List.flatMap_cons, List.flatMap_append, List.append_assoc,
        List.append_assoc, ← ih, ← List.cons_append, BundleRow.chars_pieces hrow, List.append_assoc]
      rfl
  have hopening : "_bundle(\x7b\n" = "_bundle(\x7b" ++ "\n" := rfl
  unfold IsSpelledBy callPieces
  rw [List.flatMap_singleton, SourceLine.chars, List.flatMap_append, List.flatMap_append,
    Piece.chars_plain, hopening, String.toList_append, String.toList_append, String.toList_append,
    String.toList_join, List.replicate_zero, List.nil_append]
  simp only [List.append_assoc]
  exact congrArg ("_bundle(\x7b".toList ++ ·) (hrows _)

/-- The call can be read piece by piece. -/
theorem isCode_callPieces (rows : List BundleRow) : SourceLine.IsCode (callPieces rows) where
  readable := by
    have hopening : ∀ p ∈ plain "_bundle(\x7b", p.IsReadable :=
      Piece.isReadable_of_isEvident (by decide) fun text htext => by
        rw [Piece.filterMap_literal?_plain] at htext
        cases htext
    have hclosing : ∀ p ∈ [Piece.lineBreak 0, Piece.mark '\x7d', Piece.mark ')'], p.IsReadable :=
      Piece.isReadable_of_isEvident (by decide) fun _ h => absurd h List.not_mem_nil
    rw [callPieces, List.forall_mem_append, List.forall_mem_append, List.forall_mem_flatMap]
    exact ⟨hopening, fun row _ => row.isReadable_pieces, hclosing⟩
  fits := by
    -- Behind the opening and behind each row comes the end of a line.
    have hrows : ∃ n rest, rows.flatMap BundleRow.pieces ++
        [Piece.lineBreak 0, Piece.mark '\x7d', Piece.mark ')', Piece.lineBreak 0] =
          Piece.lineBreak n :: rest ∧ (Piece.lineBreak n :: rest).IsChain Piece.Fits := by
      induction rows with
      | nil => exact ⟨0, _, rfl, by decide⟩
      | cons row rows ih =>
        obtain ⟨n, rest, hrest, hchain⟩ := ih
        rw [List.flatMap_cons, List.append_assoc, hrest]
        have hall : (row.pieces ++ [Piece.lineBreak n] ++ rest).IsChain Piece.Fits :=
          List.IsChain.append_overlap (row.isChain_pieces n) hchain (List.cons_ne_nil _ _)
        rw [List.append_assoc] at hall
        exact ⟨4, _, rfl, hall⟩
    obtain ⟨n, rest, hrest, hchain⟩ := hrows
    have hopening : (Piece.lineBreak 0 :: plain "_bundle(\x7b" ++ [Piece.lineBreak n]).IsChain
        Piece.Fits := by
      have hclosed : (Piece.lineBreak 0 :: plain "_bundle(\x7b" ++ [Piece.lineBreak 0]).IsChain
          Piece.Fits := by decide
      rw [← Piece.isChain_map_shape, List.map_append] at hclosed ⊢
      exact hclosed
    have hall : (Piece.lineBreak 0 :: plain "_bundle(\x7b" ++ [Piece.lineBreak n] ++ rest).IsChain
        Piece.Fits := List.IsChain.append_overlap hopening hchain (List.cons_ne_nil _ _)
    rw [List.append_assoc, List.singleton_append, ← hrest] at hall
    unfold callPieces
    simpa only [List.append_assoc, List.cons_append, List.nil_append] using hall
  closed := by
    have hopening : (plain "_bundle(\x7b").foldlM Piece.opens [] = some ['\x7b', '('] := by decide
    have hrows : (rows.flatMap BundleRow.pieces).foldlM Piece.opens ['\x7b', '('] =
        some ['\x7b', '('] := by
      induction rows with
      | nil => rfl
      | cons row rows ih =>
        rw [List.flatMap_cons, List.foldlM_append, row.opens_pieces]
        exact ih
    rw [callPieces, List.foldlM_append, hopening]
    dsimp only [Option.bind_eq_bind, Option.bind_some]
    rw [List.foldlM_append, hrows]
    rfl

/-- The call has no tokens but texts, numbers and those of its frame. -/
theorem framed_of_mem_callPieces {rows : List BundleRow} {t : Syntax.Lexeme}
    (h : t ∈ (callPieces rows).flatMap Piece.lexemes) :
    t.kind = .string ∨ t.kind = .number ∨ t.text ∈ frameTexts := by
  have hopening : (plain "_bundle(\x7b").all isFramed = true := by decide
  have hclosing : [Piece.lineBreak 0, Piece.mark '\x7d', Piece.mark ')'].all isFramed = true := by
    decide
  obtain ⟨p, hp, ht⟩ := List.mem_flatMap.mp h
  have hframed : isFramed p = true := by
    rw [callPieces, List.mem_append, List.mem_append, List.mem_flatMap] at hp
    rcases hp with hp | ⟨row, _, hp⟩ | hp
    · exact List.all_eq_true.mp hopening p hp
    · exact row.all_isFramed_pieces p hp
    · exact List.all_eq_true.mp hclosing p hp
  cases p with
  | blank | lineBreak => cases ht
  | number n =>
    rw [List.mem_singleton.mp ht]
    exact .inr (.inl rfl)
  | literal text =>
    rw [List.mem_singleton.mp ht]
    exact .inl rfl
  | word text =>
    rw [List.mem_singleton.mp ht]
    exact .inr (.inr (List.contains_iff_mem.mp hframed))
  | mark c =>
    rw [List.mem_singleton.mp ht]
    exact .inr (.inr (List.contains_iff_mem.mp hframed))

end Bundler
