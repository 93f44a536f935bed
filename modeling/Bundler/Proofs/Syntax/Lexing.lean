import Bundler.Proofs.Syntax.Piece

/-!
# Reading the pieces of a line

The lexer reads the pieces of a line one by one. What it has read so far, the brackets and blocks that
are open and the text that is left describe its state well enough; the numbers of lines do not matter.
A piece is read in one step, or in two where a line ends within brackets, so that the steps are never
more than twice the characters that have been read.
-/

set_option autoImplicit false

namespace Bundler.Syntax

namespace LexState

variable {s t u : LexState} {c : Char} {rest cs : List Char} {columns : List Nat}
  {opened opened' : List Char} {read : List Lexeme}

/-- The lexer stands before a text, within blocks and brackets, after some tokens. -/
structure IsAt (s : LexState) (rest : List Char) (columns : List Nat) (opened : List Char)
    (read : List Lexeme) : Prop where
  rest : s.rest = rest
  blocks : s.blocks = columns.map fun n => ⟨n, n⟩
  brackets : s.brackets.map OpenBracket.bracket = opened
  tokens : s.tokens.toList.map Token.lexeme = read

/-- From one state within a line the lexer gets to another one, with no more than two steps for each
character that it reads. -/
def Reaches (s t : LexState) : Prop :=
  ∃ n, n + 2 * t.rest.length ≤ 2 * s.rest.length ∧
    ∀ fuel, lexRest false s (fuel + n) = lexRest false t fuel

/-- A state is reached from itself. -/
theorem Reaches.refl (s : LexState) : s.Reaches s :=
  ⟨0, Nat.le_of_eq (Nat.zero_add _), fun _ => rfl⟩

/-- What is reached from a state that is reached is reached, too. -/
theorem Reaches.trans (h : s.Reaches t) (h' : t.Reaches u) : s.Reaches u := by
  obtain ⟨n, hn, hrun⟩ := h
  obtain ⟨m, hm, hrun'⟩ := h'
  refine ⟨m + n, by omega, fun fuel => ?_⟩
  rw [← Nat.add_assoc, hrun, hrun']

/-- A token is added to those that have been read. -/
theorem IsAt.push (h : s.IsAt rest columns opened read) (kind : TokenKind) (text : String)
    (line : Nat) : (s.push kind text line).IsAt rest columns opened (read ++ [⟨kind, text⟩]) where
  rest := h.rest
  blocks := h.blocks
  brackets := h.brackets
  tokens := by
    rw [LexState.push, Array.toList_push, List.map_append, h.tokens]
    rfl

/-- A character that is no layout begins a token. -/
theorem lexRest_token (hrest : s.rest = c :: cs) (hc : c ∉ layoutChars)
    (h : lexToken s c cs = .ok t) (fuel : Nat) :
    lexRest false s (fuel + 1) = lexRest false t fuel := by
  simp only [layoutChars, List.mem_cons, List.not_mem_nil, or_false, not_or] at hc
  obtain ⟨hblank, htab, hfeed, hline, hescape, hcomment⟩ := hc
  have hfeed' : c.toNat ≠ 12 := fun h => hfeed (Char.toNat_inj.mp h)
  rw [lexRest, hrest]
  split
  · rename_i heq; cases heq
  · rename_i heq; exact absurd (List.cons.inj heq).1 hcomment
  · rename_i heq; exact absurd (List.cons.inj heq).1 hline
  · rename_i heq; exact absurd (List.cons.inj heq).1 hescape
  · rename_i heq; exact absurd (List.cons.inj heq).1 hescape
  · rename_i heq
    obtain ⟨rfl, rfl⟩ := List.cons.inj heq
    rw [if_neg (by simp only [hblank, htab, hfeed', or_self, not_false_eq_true]), h]

/-- Characters that are skipped leave everything else. -/
theorem IsAt.skip (h : s.IsAt rest columns opened read) (cs : List Char) :
    ({ s with rest := cs } : LexState).IsAt cs columns opened read :=
  ⟨rfl, h.blocks, h.brackets, h.tokens⟩

/-- One token is read in one step. -/
theorem reaches_token (hrest : s.rest = c :: cs) (hc : c ∉ layoutChars)
    (h : lexToken s c cs = .ok t) (hlength : t.rest.length ≤ cs.length) : s.Reaches t := by
  refine ⟨1, ?_, lexRest_token hrest hc h⟩
  rw [hrest, List.length_cons]
  omega

/-- A blank is skipped. -/
theorem reaches_blank (hs : s.IsAt (' ' :: rest) columns opened read) :
    s.Reaches { s with rest := rest } := by
  refine ⟨1, ?_, fun fuel => ?_⟩
  · rw [hs.rest, List.length_cons]
    dsimp only
    omega
  · rw [lexRest, hs.rest]
    rfl

/-- A word is read up to what is no part of it. -/
theorem lexWord_eq {text : String} (hs : s.rest = text.toList ++ c :: cs) (htext : IsWord text)
    (hc : isWordPart c = false) :
    lexWord s = .ok ({ s with rest := c :: cs }.push
      (if isKeyword text then .keyword else .name) text s.line) := by
  have hstop : (c :: cs).takeWhile isWordPart = [] := List.takeWhile_cons_of_neg (by simp [hc])
  have hgo : (c :: cs).dropWhile isWordPart = c :: cs := List.dropWhile_cons_of_neg (by simp [hc])
  unfold lexWord
  rw [hs, List.takeWhile_append_of_pos htext.isWordPart,
    List.dropWhile_append_of_pos htext.isWordPart, hstop, hgo, List.append_nil]
  dsimp only
  rw [htext.isIdentifier]
  simp only [String.ofList_toList]

/-- A word is read as a token. -/
theorem reaches_word {text : String} (hs : s.IsAt (text.toList ++ c :: cs) columns opened read)
    (htext : IsWord text) (hc : EndsWord c) :
    ∃ t, t.IsAt (c :: cs) columns opened (read ++ (Piece.word text).lexemes) ∧ s.Reaches t := by
  refine ⟨_, (hs.skip (c :: cs)).push (if isKeyword text then .keyword else .name) text s.line, ?_⟩
  obtain ⟨d, ds, hd, hpart, hdigit⟩ := htext.exists_cons
  have hsplit : splitMarks? {} [] s.rest = none := by
    rw [hs.rest]
    exact splitMarks?_eq_none htext.isWordPart hc _ _
  have hrest : s.rest = d :: (ds ++ c :: cs) := by rw [hs.rest, hd, List.cons_append]
  refine reaches_token hrest (not_mem_layoutChars_of_isWordPart hpart) ?_ ?_
  · unfold lexToken
    rw [hsplit]
    dsimp only
    rw [if_neg (Bool.not_eq_true _ ▸ hdigit), if_pos hpart]
    exact lexWord_eq hs.rest htext hc.1
  · change (c :: cs).length ≤ _
    rw [List.length_append]
    omega

/-- A number is read as a token. -/
theorem reaches_number (n : Nat) (hs : s.IsAt ((toString n).toList ++ c :: cs) columns opened read)
    (hc : EndsWord c) (hpoint : c ≠ '.') :
    ∃ t, t.IsAt (c :: cs) columns opened (read ++ (Piece.number n).lexemes) ∧ s.Reaches t := by
  refine ⟨_, (hs.skip (c :: cs)).push .number (toString n) s.line, ?_⟩
  obtain ⟨d, ds, hdigit, hd⟩ := exists_toList_toString n
  have hpart : ∀ e ∈ (toString n).toList, isWordPart e = true := fun e he =>
    isWordPart_of_isDigit (isDigit_of_mem_toString he)
  have hsplit : splitMarks? {} [] s.rest = none := by
    rw [hs.rest]
    exact splitMarks?_eq_none hpart hc _ _
  have hrest : s.rest = d :: (ds ++ c :: cs) := by rw [hs.rest, hd, List.cons_append]
  have hlayout := not_mem_layoutChars_of_isWordPart (isWordPart_of_isDigit hdigit)
  refine reaches_token hrest hlayout ?_ ?_
  · unfold lexToken
    rw [hsplit]
    dsimp only
    rw [if_pos hdigit, Numeral.take_toString n hd hc.1 hpoint, ← hd]
    simp only [lexNumeral, String.ofList_toList]
  · change (c :: cs).length ≤ _
    rw [List.length_append]
    omega

/-- A literal is read as a token. -/
theorem reaches_literal {text : String} (hs : s.IsAt (text.toList ++ c :: cs) columns opened read)
    (htext : IsLiteral text) (hc : EndsWord c) :
    ∃ t, t.IsAt (c :: cs) columns opened (read ++ (Piece.literal text).lexemes) ∧ s.Reaches t := by
  have htoken := htext.exists_cons
  obtain ⟨marks, quote, body, points, hquote, hbody, hmarks, htext, -⟩ := htext
  have hend : (c :: cs).head? ≠ some quote := fun heq => hc.2 (Option.some.inj heq ▸ hquote)
  have hchars : s.rest = marks ++ quote :: (body ++ quote :: c :: cs) := by
    rw [hs.rest, htext, tokenChars]
    simp only [List.append_assoc, List.cons_append, List.nil_append]
  have hsplit : splitMarks? {} [] s.rest =
      some (marks.reverse, quote, body ++ quote :: c :: cs) := by
    rw [hchars, hmarks]
  have hread : (quote :: (body.reverse ++ quote :: marks.reverse)).reverse = text.toList := by
    simp only [htext, tokenChars, List.reverse_cons, List.reverse_append, List.reverse_reverse,
      List.append_assoc, List.cons_append, List.nil_append]
  refine ⟨{ s.push .string text s.line with rest := c :: cs },
    (hs.push .string text s.line).skip (c :: cs), ?_⟩
  obtain ⟨d, ds, hd, hfirst⟩ := htoken
  have hrest : s.rest = d :: (ds ++ c :: cs) := by rw [hs.rest, hd, List.cons_append]
  refine reaches_token hrest (fun h => hfirst (endsWord_of_mem_layoutChars h)) ?_ ?_
  · unfold lexToken
    rw [hsplit]
    simp only [lexString, hbody.readString hquote _ s.line hend, hread, String.ofList_toList]
    rfl
  · change (c :: cs).length ≤ _
    rw [List.length_append]
    omega

/-! ### Marks -/

/-- No longer operator begins with a mark that ends before what follows. -/
theorem takeSymbol_mark {d : Char} (hd : d ∈ pieceMarks) (hc : (Piece.mark d).EndsBefore c) :
    takeSymbol d (c :: cs) = ([d], c :: cs) := by
  have hsecond : ∀ s ∈ longSymbols, s.head?.all (· ∉ pieceMarks) = true ∨
      s.head?.all (· ∈ joiningMarks) = true ∧
        (s.tail.head? = some '=' ∨ s.tail.head? = some '>' ∨ s.tail.head? = some '.') := by decide
  have hnonempty : ∀ s ∈ longSymbols, s ≠ [] := by decide
  have hnone : longSymbols.find? (·.isPrefixOf (d :: c :: cs)) = none := by
    refine List.find?_eq_none.mpr fun s hs hpre => ?_
    obtain ⟨e, s', rfl⟩ := List.exists_cons_of_ne_nil (hnonempty s hs)
    obtain ⟨rfl, hprefix⟩ := List.cons_prefix_cons.mp (List.isPrefixOf_iff_prefix.mp hpre)
    have hnext : ∀ e, s'.head? = some e → c = e := by
      intro e he
      obtain ⟨t, rfl⟩ := List.head?_eq_some_iff.mp he
      exact (List.cons_prefix_cons.mp hprefix).1.symm
    rcases hsecond _ hs with h | ⟨hjoining, h⟩
    · simp [hd] at h
    · obtain ⟨hequals, hgreater, hpoint, -⟩ := hc (by simpa using hjoining)
      rcases h with h | h | h
      · exact hequals (hnext _ h)
      · exact hgreater (hnext _ h)
      · exact hpoint (hnext _ h)
  rw [takeSymbol, hnone]

/-- A mark that may stand among the open brackets is read as one symbol. -/
theorem exists_lexSymbol {d : Char} (hs : s.IsAt (d :: c :: cs) columns opened read)
    (hprintable : Text.isPrintable d.toNat = true)
    (htake : takeSymbol d (c :: cs) = ([d], c :: cs))
    (hopens : bracketsAfter opened d = some opened') :
    ∃ t, t.IsAt (c :: cs) columns opened' (read ++ [⟨.symbol, d.toString⟩]) ∧
      lexSymbol s d (c :: cs) = .ok t := by
  have hbrackets : s.brackets.length = opened.length := by
    rw [← hs.brackets, List.length_map]
  have hpush : ∀ brackets : List OpenBracket, brackets.map OpenBracket.bracket = opened' →
      (LexState.push { s with brackets := brackets, rest := c :: cs } .symbol d.toString s.line).IsAt
        (c :: cs) columns opened' (read ++ [⟨.symbol, d.toString⟩]) := by
    intro brackets h
    have hat : ({ s with brackets := brackets, rest := c :: cs } : LexState).IsAt (c :: cs) columns
        opened' read := ⟨rfl, hs.blocks, h, hs.tokens⟩
    exact hat.push .symbol d.toString s.line
  unfold lexSymbol
  simp only [htake, List.length_singleton, if_true]
  unfold bracketsAfter at hopens
  split at hopens
  · rename_i hopening
    rw [Option.ite_none_right_eq_some] at hopens
    obtain ⟨hfew, hopens⟩ := hopens
    rw [if_pos hopening, if_neg (by omega)]
    refine ⟨_, hpush (⟨d, s.line⟩ :: s.brackets) ?_, rfl⟩
    rw [List.map_cons, hs.brackets, Option.some.inj hopens]
  · rename_i hopening
    rw [if_neg hopening]
    cases hclosing : openingOf? d with
    | none =>
      rw [hclosing] at hopens
      rw [← Option.some.inj hopens] at hpush
      exact ⟨_, Option.some.inj hopens ▸ hpush s.brackets hs.brackets, if_pos hprintable⟩
    | some opening =>
      rw [hclosing] at hopens
      simp only [Option.ite_none_right_eq_some] at hopens
      obtain ⟨hhead, hopens⟩ := hopens
      obtain ⟨outer, rfl⟩ := List.head?_eq_some_iff.mp hhead
      obtain ⟨b, brackets, hb, hbracket, houter⟩ := List.map_eq_cons_iff.mp hs.brackets
      refine ⟨_, hpush brackets (houter.trans (Option.some.inj hopens)), ?_⟩
      rw [hb]
      exact if_pos hbracket

/-- A mark is read as a token, and brackets are opened and closed. -/
theorem reaches_mark {d : Char} (hs : s.IsAt (d :: c :: cs) columns opened read) (hd : d ∈ pieceMarks)
    (hc : (Piece.mark d).EndsBefore c) (hopens : bracketsAfter opened d = some opened') :
    ∃ t, t.IsAt (c :: cs) columns opened' (read ++ (Piece.mark d).lexemes) ∧ s.Reaches t := by
  obtain ⟨hword, hlayout, hprintable⟩ := properties_of_mem_pieceMarks hd
  have hsplit : splitMarks? {} [] s.rest = none := by
    rw [hs.rest]
    exact splitMarks?_of_endsWord hword _ _
  have hnotDigit : ¬d.isDigit = true := fun h => by
    rw [EndsWord, isWordPart_of_isDigit h] at hword
    cases hword.1
  have hfraction : ¬(d = '.' ∧ (c :: cs).head?.any Char.isDigit = true) := by
    rintro ⟨h, hany⟩
    subst h
    simp [(hc (by decide)).2.2.2 rfl] at hany
  obtain ⟨t, ht, hsymbol⟩ :=
    exists_lexSymbol hs hprintable (takeSymbol_mark hd hc) hopens
  refine ⟨t, ht, reaches_token hs.rest hlayout ?_ (by rw [ht.rest])⟩
  unfold lexToken
  rw [hsplit]
  dsimp only
  rw [if_neg hnotDigit, if_neg (by simp [hword.1]), if_neg hfraction, hsymbol]

/-! ### Ends of lines within brackets -/

/-- Blanks at the start of a line are counted. -/
theorem readIndentation_replicate (hc : c ∉ layoutChars) (n : Nat) (width : Indentation)
    (line : Nat) : readIndentation width 0 line (List.replicate n ' ' ++ c :: cs) =
      .ok ⟨⟨width.column + n, width.narrow + n⟩, c :: cs, line⟩ := by
  induction n generalizing width with
  | zero =>
    simp only [layoutChars, List.mem_cons, List.not_mem_nil, or_false, not_or] at hc
    obtain ⟨hblank, htab, hfeed, hline, hescape, hcomment⟩ := hc
    rw [List.replicate_zero, List.nil_append, readIndentation]
    · rw [if_neg (show c.toNat ≠ 12 from fun h => hfeed (Char.toNat_inj.mp h))]
      rfl
    · exact hblank
    · exact htab
    · intro _ h
      exact absurd h hescape
    · exact hescape
  | succ n ih =>
    rw [List.replicate_succ, List.cons_append, readIndentation, ih]
    simp only [Nat.add_assoc, Nat.add_comm 1 n]

/-- A line within brackets goes on behind its blanks. -/
theorem lexLine_of_open {n : Nat} (hrest : s.rest = List.replicate n ' ' ++ c :: cs)
    (hc : c ∉ layoutChars) (hopen : s.brackets.isEmpty = false) (fuel : Nat) :
    lexLine s (fuel + 1) = lexRest false { s with rest := c :: cs } fuel := by
  rw [lexLine, hrest, readIndentation_replicate hc]
  simp only [hopen, Bool.not_false, Bool.or_true, if_true]
  split
  · rename_i heq
    exact absurd ((List.cons.inj heq).1 ▸ hc) (by decide)
  · rename_i heq
    exact absurd ((List.cons.inj heq).1 ▸ hc) (by decide)
  · rfl

/-- A line outside brackets goes on behind its blanks when they have been compared with the blocks. -/
theorem lexLine_of_adjustBlocks {n : Nat} (hrest : s.rest = List.replicate n ' ' ++ c :: cs)
    (hc : c ∉ layoutChars) (hclosed : s.brackets.isEmpty = true)
    (h : adjustBlocks { s with rest := c :: cs } ⟨n, n⟩ = .ok t) (fuel : Nat) :
    lexLine s (fuel + 1) = lexRest false t fuel := by
  rw [lexLine, hrest, readIndentation_replicate hc]
  simp only [hclosed, Nat.zero_add, h]
  split
  · rename_i heq
    exact absurd ((List.cons.inj heq).1 ▸ hc) (by decide)
  · rename_i heq
    exact absurd ((List.cons.inj heq).1 ▸ hc) (by decide)
  · rfl

/-- A line break in brackets is skipped. -/
theorem reaches_lineBreak (n : Nat)
    (hs : s.IsAt ((Piece.lineBreak n).chars ++ c :: cs) columns opened read)
    (hopened : opened ≠ []) (hc : c ∉ layoutChars) :
    ∃ t, t.IsAt (c :: cs) columns opened read ∧ s.Reaches t := by
  have hopen : s.brackets.isEmpty = false := by
    rw [List.isEmpty_eq_false_iff]
    intro h
    rw [← hs.brackets, h] at hopened
    exact hopened rfl
  have hrest : s.rest = '\n' :: (List.replicate n ' ' ++ c :: cs) := hs.rest
  refine ⟨{ s with rest := c :: cs, line := lineAfter s.line (List.replicate n ' ' ++ c :: cs) },
    ⟨rfl, hs.blocks, hs.brackets, hs.tokens⟩, 2, ?_, fun fuel => ?_⟩
  · rw [hrest]
    simp only [List.length_append, List.length_cons]
    omega
  · rw [lexRest, hrest]
    simp only [hopen, Bool.not_false, Bool.or_true, if_true]
    exact lexLine_of_open (s := { s with rest := _, line := _ }) rfl hc hopen fuel

/-! ### All pieces -/

/-- A piece is read in a few steps. -/
theorem reaches_piece {p : Piece} (hs : s.IsAt (p.chars ++ c :: cs) columns opened read)
    (hp : p.IsReadable) (hc : p.EndsBefore c) (hopens : p.opens opened = some opened') :
    ∃ t, t.IsAt (c :: cs) columns opened' (read ++ p.lexemes) ∧ s.Reaches t := by
  cases p with
  | blank =>
    cases hopens
    refine ⟨_, ?_, reaches_blank hs⟩
    rw [Piece.lexemes, List.append_nil]
    exact hs.skip _
  | lineBreak indent =>
    rw [Piece.opens, Option.ite_none_left_eq_some] at hopens
    cases hopens.2
    rw [Piece.lexemes, List.append_nil]
    exact reaches_lineBreak indent hs hopens.1 hc
  | word text =>
    cases hopens
    exact reaches_word hs hp hc
  | mark d => exact reaches_mark hs hp hc hopens
  | number n =>
    cases hopens
    exact reaches_number n hs hc.1 hc.2
  | literal text =>
    cases hopens
    exact reaches_literal hs hp hc

/-- The pieces of a line are read one by one, up to the end of the line. -/
theorem reaches_pieces {pieces : List Piece} (hpieces : ∀ p ∈ pieces, p.IsReadable)
    (hchain : (pieces ++ [Piece.lineBreak 0]).IsChain Piece.Fits)
    (hopens : pieces.foldlM Piece.opens opened = some opened')
    (hs : s.IsAt (pieces.flatMap Piece.chars ++ '\n' :: cs) columns opened read) :
    ∃ t, t.IsAt ('\n' :: cs) columns opened' (read ++ pieces.flatMap Piece.lexemes) ∧
      s.Reaches t := by
  induction pieces generalizing s opened read with
  | nil =>
    cases hopens
    rw [List.flatMap_nil, List.append_nil]
    exact ⟨s, hs, Reaches.refl s⟩
  | cons p pieces ih =>
    rw [List.foldlM_cons] at hopens
    obtain ⟨between, hfirst, hopens⟩ := Option.bind_eq_some_iff.mp hopens
    rw [List.forall_mem_cons] at hpieces
    -- Behind every piece comes another one, at last the end of the line.
    obtain ⟨c, rest, hrest, hc⟩ : ∃ c rest, pieces.flatMap Piece.chars ++ '\n' :: cs = c :: rest ∧
        p.EndsBefore c := by
      cases pieces with
      | nil =>
        obtain ⟨c, rest, hbreak, hc⟩ :=
          Piece.exists_endsBefore (q := .lineBreak 0) (List.isChain_cons_cons.mp hchain).1 trivial
        exact ⟨'\n', cs, rfl, (List.cons.inj hbreak).1 ▸ hc⟩
      | cons q pieces =>
        obtain ⟨c, rest, hq, hc⟩ := Piece.exists_endsBefore (List.isChain_cons_cons.mp hchain).1
          (hpieces.2 q List.mem_cons_self)
        refine ⟨c, rest ++ (pieces.flatMap Piece.chars ++ '\n' :: cs), ?_, hc⟩
        rw [List.flatMap_cons, hq, List.append_assoc, List.cons_append]
    rw [List.flatMap_cons, List.append_assoc, hrest] at hs
    obtain ⟨t, ht, hreach⟩ := reaches_piece hs hpieces.1 hc hfirst
    rw [← hrest] at ht
    obtain ⟨u, hu, hreach'⟩ := ih hpieces.2 hchain.of_cons hopens ht
    refine ⟨u, ?_, hreach.trans hreach'⟩
    rwa [List.flatMap_cons, ← List.append_assoc]

end LexState

end Bundler.Syntax
