import Bundler.Proofs.Syntax.Lexing

/-!
# Laying out lines

A source that has been put together from empty lines, comments and lines of code is read line by line:
how far a line is indented opens and closes blocks, and what it consists of is read piece by piece.
The tokens of the whole source are therefore known without running the lexer. Text is put together
with line feeds only, so that the lexer takes its lines as they are.
-/

set_option autoImplicit false

namespace Bundler.Syntax

/-- A line of a source, or several ones that brackets hold together. -/
inductive SourceLine where
  /-- An empty line. -/
  | empty
  /-- A comment at the beginning of a line. -/
  | comment (text : String)
  /-- Code that is indented by some blanks. -/
  | code (indent : Nat) (pieces : List Piece)

namespace SourceLine

/-- The characters of a line, with its end. -/
def chars : SourceLine → List Char
  | .empty => ['\n']
  | .comment text => '#' :: (text.toList ++ ['\n'])
  | .code indent pieces => List.replicate indent ' ' ++ (pieces.flatMap Piece.chars ++ ['\n'])

/-- The pieces of a line are read one by one, and no bracket is open at its end. -/
structure IsCode (pieces : List Piece) : Prop where
  readable : ∀ p ∈ pieces, p.IsReadable
  fits : (Piece.lineBreak 0 :: (pieces ++ [Piece.lineBreak 0])).IsChain Piece.Fits
  closed : pieces.foldlM Piece.opens [] = some []

/-- A line is read as what it is meant to be. -/
def IsReadable : SourceLine → Prop
  | .empty => True
  | .comment text => '\n' ∉ text.toList ∧ '\r' ∉ text.toList
  | .code _ pieces => IsCode pieces

end SourceLine

/-! ## Blocks -/

/-- The columns of the blocks that are open behind an indentation, innermost first, and the tokens
that open and close blocks. -/
def adjusted (columns : List Nat) (indent : Nat) : Option (List Nat × List Lexeme) :=
  if indent = columns.headD 0 then some (columns, [])
  else if columns.headD 0 < indent then
    if columns.length + 1 < 100 then some (indent :: columns, [.indent]) else none
  else
    let count := (columns.takeWhile (indent < ·)).length
    if indent = (columns.drop count).headD 0 then
      some (columns.drop count, List.replicate count .dedent)
    else none

/-- The tokens of lines behind open blocks, if the lines fit into them. -/
def layout (columns : List Nat) : List SourceLine → Option (List Lexeme)
  | [] => some (List.replicate columns.length .dedent)
  | .code indent pieces :: lines =>
    (adjusted columns indent).bind fun a =>
      (layout a.1 lines).map fun more =>
        a.2 ++ (pieces.flatMap Piece.lexemes ++ .newline :: more)
  | .comment _ :: lines => layout columns lines
  | .empty :: lines => layout columns lines

section Columns

variable {columns columns' : List Nat} {marks : List Lexeme} {n : Nat}

/-- Blocks stay indented. -/
theorem pos_of_adjusted (hcolumns : ∀ m ∈ columns, 0 < m)
    (h : adjusted columns n = some (columns', marks)) : ∀ m ∈ columns', 0 < m := by
  unfold adjusted at h
  split at h
  · cases h
    exact hcolumns
  · split at h
    · rename_i hlt
      split at h
      · cases h
        exact List.forall_mem_cons.mpr ⟨Nat.zero_lt_of_lt hlt, hcolumns⟩
      · cases h
    · dsimp only at h
      split at h
      · cases h
        exact fun m hm => hcolumns m (List.mem_of_mem_drop hm)
      · cases h

/-- A line that is not indented closes all blocks. -/
theorem adjusted_zero (hcolumns : ∀ m ∈ columns, 0 < m) :
    adjusted columns 0 = some ([], List.replicate columns.length .dedent) := by
  cases columns with
  | nil => rfl
  | cons m columns =>
    have hm : 0 ≠ m := Nat.ne_of_lt (hcolumns m List.mem_cons_self)
    have hall : (m :: columns).takeWhile (0 < ·) = m :: columns :=
      List.takeWhile_eq_self_iff.mpr fun n hn => decide_eq_true (hcolumns n hn)
    have hhead : (m :: columns).headD 0 = m := rfl
    unfold adjusted
    rw [hall, hhead, if_neg hm, if_neg (Nat.not_lt_zero m)]
    dsimp only
    rw [List.drop_length]
    rfl

end Columns

namespace LexState

variable {s t u : LexState} {rest : List Char} {columns columns' : List Nat} {opened : List Char}
  {read marks : List Lexeme} {n : Nat}

/-- The innermost block has the first column. -/
theorem innermostIndentation_map (columns : List Nat) :
    innermostIndentation (columns.map fun n => ⟨n, n⟩) = ⟨columns.headD 0, columns.headD 0⟩ := by
  cases columns <;> rfl

/-- The blocks that end are those further to the right. -/
theorem closedBlocks_map (n : Nat) (columns : List Nat) :
    closedBlocks n (columns.map fun n => ⟨n, n⟩) = (columns.takeWhile (n < ·)).length := by
  rw [closedBlocks, List.takeWhile_map, List.length_map]
  rfl

/-- Other blocks do not change where the lexer is otherwise. -/
theorem IsAt.withBlocks (hs : s.IsAt rest columns opened read) (columns' : List Nat) :
    ({ s with blocks := columns'.map fun n => ⟨n, n⟩ } : LexState).IsAt rest columns' opened read :=
  ⟨hs.rest, rfl, hs.brackets, hs.tokens⟩

/-- The ends of blocks are read one by one. -/
theorem IsAt.foldl_dedent (hs : s.IsAt rest columns opened read) (count : Nat) :
    ((List.range count).foldl (fun s _ => s.push .dedent "" s.line) s).IsAt rest columns opened
      (read ++ List.replicate count .dedent) := by
  induction count with
  | zero =>
    rw [List.replicate_zero, List.append_nil]
    exact hs
  | succ count ih =>
    rw [List.range_succ, List.foldl_append, List.replicate_succ', ← List.append_assoc]
    exact ih.push .dedent "" _

/-- Blocks are opened and closed as their columns tell. -/
theorem exists_adjustBlocks (hs : s.IsAt rest columns opened read)
    (h : adjusted columns n = some (columns', marks)) :
    ∃ t, adjustBlocks s ⟨n, n⟩ = .ok t ∧ t.IsAt rest columns' opened (read ++ marks) := by
  unfold adjusted at h
  unfold adjustBlocks
  simp only [hs.blocks, innermostIndentation_map, closedBlocks_map, List.length_map,
    ← List.map_drop]
  split at h
  · rename_i heq
    cases h
    rw [if_pos heq, if_pos heq, List.append_nil]
    exact ⟨s, rfl, hs⟩
  · rename_i hne
    rw [if_neg hne]
    split at h
    · rename_i hlt
      split at h
      · rename_i hfew
        cases h
        rw [if_pos hlt, if_neg (by omega), if_neg (by omega)]
        exact ⟨_, rfl, (hs.withBlocks (n :: columns)).push .indent "" s.line⟩
      · cases h
    · rename_i hle
      dsimp only at h
      split at h
      · rename_i hreached
        cases h
        rw [if_neg hle, if_neg (not_not.mpr hreached), if_neg (not_not.mpr hreached)]
        exact ⟨_, rfl, (hs.withBlocks _).foldl_dedent _⟩
      · cases h

/-! ## Lines -/

/-- From one state at the beginning of a line the lexer gets to another one, with no more than two
steps for each character that it reads. -/
def Advances (s t : LexState) : Prop :=
  ∃ n, n + 2 * t.rest.length ≤ 2 * s.rest.length ∧
    ∀ fuel, lexLine s (fuel + n) = lexLine t fuel

/-- Nothing is read in no steps. -/
theorem Advances.refl (s : LexState) : s.Advances s :=
  ⟨0, Nat.le_of_eq (Nat.zero_add _), fun _ => rfl⟩

/-- Lines are read one after the other. -/
theorem Advances.trans (h : s.Advances t) (h' : t.Advances u) : s.Advances u := by
  obtain ⟨n, hn, hrun⟩ := h
  obtain ⟨m, hm, hrun'⟩ := h'
  refine ⟨m + n, by omega, fun fuel => ?_⟩
  rw [← Nat.add_assoc, hrun, hrun']

/-- No bracket is open between lines. -/
theorem IsAt.brackets_isEmpty (hs : s.IsAt rest columns [] read) : s.brackets.isEmpty = true := by
  rw [List.isEmpty_iff]
  exact List.map_eq_nil_iff.mp hs.brackets

/-- An empty line is skipped. -/
theorem advances_empty (hs : s.IsAt ('\n' :: rest) columns [] read) :
    ∃ t, t.IsAt rest columns [] read ∧ s.Advances t := by
  refine ⟨{ s with rest := rest, line := lineAfter s.line rest },
    ⟨rfl, hs.blocks, hs.brackets, hs.tokens⟩, 2, ?_, fun fuel => ?_⟩
  · rw [hs.rest, List.length_cons]
    dsimp only
    omega
  · rw [lexLine, hs.rest]
    rfl

/-- A comment is skipped. -/
theorem advances_comment {text : List Char} (htext : '\n' ∉ text)
    (hs : s.IsAt ('#' :: (text ++ '\n' :: rest)) columns [] read) :
    ∃ t, t.IsAt rest columns [] read ∧ s.Advances t := by
  refine ⟨{ s with rest := rest, line := lineAfter s.line rest },
    ⟨rfl, hs.blocks, hs.brackets, hs.tokens⟩, 3, ?_, fun fuel => ?_⟩
  · rw [hs.rest]
    simp only [List.length_cons, List.length_append]
    omega
  · have hdrop : (text ++ '\n' :: rest).dropWhile (· != '\n') = '\n' :: rest := by
      rw [List.dropWhile_append_of_pos]
      · rfl
      · intro c hc
        exact bne_iff_ne.mpr fun h => htext (h ▸ hc)
    rw [lexLine, hs.rest]
    change lexRest true
      { s with rest := (text ++ '\n' :: rest).dropWhile (· != '\n') } (fuel + 1) = _
    rw [hdrop]
    rfl

/-- A line of code is read as its tokens, behind the marks for its indentation. -/
theorem advances_code {pieces : List Piece} (hpieces : SourceLine.IsCode pieces)
    (hadjusted : adjusted columns n = some (columns', marks))
    (hs : s.IsAt ((SourceLine.code n pieces).chars ++ rest) columns [] read) :
    ∃ t, t.IsAt rest columns' []
      (read ++ (marks ++ (pieces.flatMap Piece.lexemes ++ [.newline]))) ∧ s.Advances t := by
  have hchars : (SourceLine.code n pieces).chars ++ rest =
      List.replicate n ' ' ++ (pieces.flatMap Piece.chars ++ '\n' :: rest) := by
    simp only [SourceLine.chars, List.append_assoc, List.cons_append, List.nil_append]
  -- The first character of the line is that of the first piece.
  obtain ⟨c, cs, hcs, hc⟩ : ∃ c cs, pieces.flatMap Piece.chars ++ '\n' :: rest = c :: cs ∧
      c ∉ layoutChars := by
    cases pieces with
    | nil => exact absurd (List.isChain_cons_cons.mp hpieces.fits).1 (by decide)
    | cons p pieces =>
      obtain ⟨c, cs, hp, hc⟩ := Piece.exists_endsBefore
        (List.isChain_cons_cons.mp hpieces.fits).1 (hpieces.readable p List.mem_cons_self)
      refine ⟨c, cs ++ (pieces.flatMap Piece.chars ++ '\n' :: rest), ?_, hc⟩
      rw [List.flatMap_cons, hp, List.append_assoc, List.cons_append]
  rw [hchars] at hs
  have hrest := hs.rest
  rw [hcs] at hrest
  obtain ⟨t, hadjust, ht⟩ := exists_adjustBlocks (hs.skip (c :: cs)) hadjusted
  rw [← hcs] at ht
  obtain ⟨u, hu, k, hk, hrun⟩ :=
    reaches_pieces hpieces.readable hpieces.fits.of_cons hpieces.closed ht
  refine ⟨{ u.push .newline "" u.line with rest := rest, line := lineAfter u.line rest }, ?_,
    k + 2, ?_, fun fuel => ?_⟩
  · rw [← List.append_assoc, ← List.append_assoc]
    have hpush := hu.push .newline "" u.line
    exact ⟨rfl, hpush.blocks, hpush.brackets, hpush.tokens⟩
  · rw [hu.rest, ht.rest] at hk
    rw [hs.rest]
    simp only [List.length_append, List.length_cons] at hk ⊢
    omega
  · have hclosed : u.brackets.isEmpty = true := hu.brackets_isEmpty
    rw [show fuel + (k + 2) = fuel + 1 + k + 1 by omega,
      lexLine_of_adjustBlocks hrest hc hs.brackets_isEmpty hadjust, hrun, lexRest, hu.rest]
    simp only [hclosed, Bool.not_true, Bool.or_false, Bool.false_eq_true, if_false]
    rfl

/-- Lines that fit into the open blocks are read one by one. -/
theorem advances_lines {lines : List SourceLine} {lexemes : List Lexeme}
    (hlines : ∀ line ∈ lines, line.IsReadable) (hcolumns : ∀ n ∈ columns, 0 < n)
    (h : layout columns lines = some lexemes)
    (hs : s.IsAt (lines.flatMap SourceLine.chars) columns [] read) :
    ∃ t inner own, lexemes = own ++ List.replicate inner.length .dedent ∧
      (∀ n ∈ inner, 0 < n) ∧ t.IsAt [] inner [] (read ++ own) ∧ s.Advances t := by
  induction lines generalizing s columns read lexemes with
  | nil =>
    refine ⟨s, columns, [], (Option.some.inj h).symm, hcolumns, ?_, Advances.refl s⟩
    rw [List.append_nil]
    exact hs
  | cons line lines ih =>
    rw [List.forall_mem_cons] at hlines
    rw [List.flatMap_cons] at hs
    cases line with
    | empty =>
      obtain ⟨t, ht, hline⟩ := advances_empty hs
      obtain ⟨u, inner, own, hown, hinner, hu, hmore⟩ := ih hlines.2 hcolumns h ht
      exact ⟨u, inner, own, hown, hinner, hu, hline.trans hmore⟩
    | comment text =>
      have hchars : (SourceLine.comment text).chars ++ lines.flatMap SourceLine.chars =
          '#' :: (text.toList ++ '\n' :: lines.flatMap SourceLine.chars) := by
        rw [SourceLine.chars, List.cons_append, List.append_assoc, List.singleton_append]
      rw [hchars] at hs
      obtain ⟨t, ht, hline⟩ := advances_comment hlines.1.1 hs
      obtain ⟨u, inner, own, hown, hinner, hu, hmore⟩ := ih hlines.2 hcolumns h ht
      exact ⟨u, inner, own, hown, hinner, hu, hline.trans hmore⟩
    | code indent pieces =>
      rw [layout] at h
      obtain ⟨⟨columns', marks⟩, hadjusted, h⟩ := Option.bind_eq_some_iff.mp h
      obtain ⟨more, hlayout, rfl⟩ := Option.map_eq_some_iff.mp h
      obtain ⟨t, ht, hline⟩ := advances_code hlines.1 hadjusted hs
      obtain ⟨u, inner, own, rfl, hinner, hu, hmore⟩ :=
        ih hlines.2 (pos_of_adjusted hcolumns hadjusted) hlayout ht
      refine ⟨u, inner, marks ++ (pieces.flatMap Piece.lexemes ++ .newline :: own), ?_, hinner,
        ?_, hline.trans hmore⟩
      · simp only [List.append_assoc, List.cons_append]
      · simpa only [List.append_assoc, List.cons_append, List.nil_append] using hu

/-- At the end of the source all blocks are closed. -/
theorem lexLine_end (hcolumns : ∀ n ∈ columns, 0 < n) (hs : s.IsAt [] columns [] read)
    (fuel : Nat) : (lexLine s (fuel + 2)).failure = none ∧
      (lexLine s (fuel + 2)).lexemes =
        read ++ List.replicate columns.length .dedent ++ [.finish] := by
  obtain ⟨t, hadjust, ht⟩ := exists_adjustBlocks (hs.skip []) (adjusted_zero hcolumns)
  have hrun : lexLine s (fuel + 2) = lexRest false t (fuel + 1) := by
    rw [lexLine, hs.rest]
    simp only [readIndentation, if_true, hs.brackets_isEmpty, Bool.not_true, Bool.or_false,
      Bool.false_eq_true, if_false, hadjust]
  have hpush := ht.push .finish "" t.line
  rw [hrun, lexRest, ht.rest]
  dsimp only
  rw [if_pos ht.brackets_isEmpty]
  exact ⟨rfl, hpush.tokens⟩

end LexState

/-! ## Sources -/

/-- A source without carriage returns that ends with a line feed is taken as it is. -/
theorem normalizeLines_concat {cs : List Char} (h : '\r' ∉ cs) :
    normalizeLines (cs ++ ['\n']) = cs ++ ['\n'] := by
  unfold normalizeLines
  induction cs with
  | nil => rfl
  | cons c cs ih =>
    rw [List.mem_cons, not_or] at h
    rw [List.cons_append, normalizeLines.go, ih h.2]
    · intro _ hend
      exact List.append_ne_nil_of_right_ne_nil cs (List.cons_ne_nil _ _) hend
    · intro _ hc _
      exact h.1 hc.symm
    · intro hc
      exact h.1 hc.symm

/-- There is no carriage return in a piece that can be read. -/
theorem Piece.IsReadable.return_not_mem {p : Piece} (h : p.IsReadable) : '\r' ∉ p.chars := by
  cases p with
  | blank => decide
  | lineBreak indent =>
    intro hmem
    rcases List.mem_cons.mp hmem with hmem | hmem
    · cases hmem
    · cases List.eq_of_mem_replicate hmem
  | word text =>
    intro hmem
    cases IsWord.isWordPart h _ hmem
  | mark c =>
    intro hmem
    have hmarks : '\r' ∈ pieceMarks := List.mem_singleton.mp hmem ▸ h
    exact absurd hmarks (by decide)
  | number n =>
    intro hmem
    cases isDigit_of_mem_toString hmem
  | literal text =>
    obtain ⟨_, _, _, _, _, _, _, _, hreturn⟩ := h
    exact hreturn

/-- There is no carriage return in pieces that can be read. -/
theorem return_not_mem_pieces {pieces : List Piece} (h : ∀ p ∈ pieces, p.IsReadable) :
    '\r' ∉ pieces.flatMap Piece.chars := by
  rw [List.mem_flatMap]
  rintro ⟨p, hp, hmem⟩
  exact (h p hp).return_not_mem hmem

/-- A line that can be read ends with its line feed. -/
theorem SourceLine.IsReadable.exists_chars {line : SourceLine} (h : line.IsReadable) :
    ∃ cs, line.chars = cs ++ ['\n'] ∧ '\r' ∉ cs := by
  cases line with
  | empty => exact ⟨[], rfl, List.not_mem_nil⟩
  | comment text =>
    refine ⟨'#' :: text.toList, rfl, ?_⟩
    rw [List.mem_cons, not_or]
    exact ⟨by decide, h.2⟩
  | code indent pieces =>
    refine ⟨List.replicate indent ' ' ++ pieces.flatMap Piece.chars,
      (List.append_assoc _ _ _).symm, ?_⟩
    rw [List.mem_append, not_or]
    refine ⟨fun hmem => ?_, return_not_mem_pieces (IsCode.readable h)⟩
    cases List.eq_of_mem_replicate hmem

/-- Lines are taken as they are. -/
theorem normalizeLines_lines {lines : List SourceLine} (hlines : ∀ line ∈ lines, line.IsReadable)
    (hne : lines ≠ []) :
    normalizeLines (lines.flatMap SourceLine.chars) = lines.flatMap SourceLine.chars := by
  obtain ⟨cs, hcs, hreturn⟩ : ∃ cs, lines.flatMap SourceLine.chars = cs ++ ['\n'] ∧ '\r' ∉ cs := by
    induction lines with
    | nil => exact absurd rfl hne
    | cons line lines ih =>
      obtain ⟨hline, hlines⟩ := List.forall_mem_cons.mp hlines
      obtain ⟨front, hfront, hreturn⟩ := hline.exists_chars
      rw [List.flatMap_cons, hfront]
      by_cases hnil : lines = []
      · subst hnil
        exact ⟨front, List.append_nil _, hreturn⟩
      · obtain ⟨cs, hcs, hmore⟩ := ih hlines hnil
        refine ⟨front ++ ['\n'] ++ cs, ?_, ?_⟩
        · rw [hcs, List.append_assoc, List.append_assoc, List.append_assoc]
        · rw [List.mem_append, List.mem_append, List.mem_singleton]
          rintro ((hmem | hmem) | hmem)
          · exact hreturn hmem
          · cases hmem
          · exact hmore hmem
  rw [hcs, normalizeLines_concat hreturn]

/-- A source that consists of readable lines has the tokens of these lines. -/
theorem tokenize_of_layout {source : String} {lines : List SourceLine} {lexemes : List Lexeme}
    (hsource : source.toList = lines.flatMap SourceLine.chars) (hne : lines ≠ [])
    (hlines : ∀ line ∈ lines, line.IsReadable) (h : layout [] lines = some lexemes) :
    (tokenize source).failure = none ∧
      (tokenize source).lexemes = lexemes ++ [.finish] := by
  have hpos : ∀ n ∈ ([] : List Nat), 0 < n := fun _ h => absurd h List.not_mem_nil
  have hstart : (⟨lines.flatMap SourceLine.chars, 1, [], [], #[]⟩ : LexState).IsAt
      (lines.flatMap SourceLine.chars) [] [] [] := ⟨rfl, rfl, rfl, rfl⟩
  obtain ⟨t, inner, own, rfl, hinner, ht, n, hn, hrun⟩ :=
    LexState.advances_lines hlines hpos h hstart
  obtain ⟨fuel, hfuel⟩ : ∃ fuel, 2 * (lines.flatMap SourceLine.chars).length + 2 = fuel + 2 + n := by
    refine ⟨2 * (lines.flatMap SourceLine.chars).length - n, ?_⟩
    dsimp only at hn
    omega
  unfold tokenize tokenizeFrom
  rw [hsource, normalizeLines_lines hlines hne]
  dsimp only
  rw [hfuel, hrun]
  exact LexState.lexLine_end hinner ht fuel

/-! ## Lines that are seen to be readable -/

namespace SourceLine

/-- Whether a line is seen to be readable, apart from its literals. -/
def isEvident : SourceLine → Bool
  | .empty => true
  | .comment text => decide ('\n' ∉ text.toList ∧ '\r' ∉ text.toList)
  | .code _ pieces => pieces.all Piece.isEvident &&
      decide ((Piece.lineBreak 0 :: (pieces ++ [Piece.lineBreak 0])).IsChain Piece.Fits) &&
      decide (pieces.foldlM Piece.opens [] = some [])

/-- The texts of the literals of a line. -/
def literals : SourceLine → List String
  | .code _ pieces => pieces.filterMap Piece.literal?
  | _ => []

/-- Evident lines can be read if their literals are literals. -/
theorem isReadable_of_isEvident {lines : List SourceLine} (h : lines.all isEvident = true)
    (hliterals : ∀ text ∈ lines.flatMap literals, IsLiteral text) :
    ∀ line ∈ lines, line.IsReadable := by
  intro line hline
  have hevident := List.all_eq_true.mp h line hline
  cases line with
  | empty => trivial
  | comment text =>
    exact of_decide_eq_true (p := '\n' ∉ text.toList ∧ '\r' ∉ text.toList) hevident
  | code indent pieces =>
    simp only [isEvident, Bool.and_eq_true, decide_eq_true_eq] at hevident
    obtain ⟨⟨hpieces, hfits⟩, hclosed⟩ := hevident
    have hreadable : ∀ piece ∈ pieces, piece.IsReadable := by
      refine Piece.isReadable_of_isEvident hpieces ?_
      intro text htext
      exact hliterals text (List.mem_flatMap.mpr ⟨_, hline, htext⟩)
    exact ⟨hreadable, hfits, hclosed⟩

end SourceLine

end Bundler.Syntax
