import Bundler.Proofs.Syntax.Layout

/-!
# Statements of a source

A statement outside all blocks ends with its line, or with the blocks that its line opens. Where the
tokens of a source end with a statement, what follows them has statements of its own.
-/

set_option autoImplicit false

namespace Bundler.Syntax

/-- The number of blocks that are open behind a token. -/
def depthAfter (depth : Nat) (t : Lexeme) : Nat :=
  if t.kind = .indent then depth + 1 else if t.kind = .dedent then depth - 1 else depth

/-- Whether a statement outside all blocks ends with a token: with the end of its line, unless a
block is opened there, or with the end of its block. -/
def endsStatement (depth : Nat) (t : Lexeme) (rest : List Lexeme) : Bool :=
  depthAfter depth t == 0 &&
    (t.kind == .dedent || t.kind == .newline && rest.head?.all (·.kind != .indent))

/-- Puts a token in front of the first of some statements. -/
def attach (t : Lexeme) (statements : List (List Lexeme)) : List (List Lexeme) :=
  (t :: statements.headD []) :: statements.tail

/-- The statements outside all blocks that tokens within some blocks go on with. -/
def statementsFrom (depth : Nat) : List Lexeme → List (List Lexeme)
  | [] => []
  | t :: rest =>
    if endsStatement depth t rest then [t] :: statementsFrom (depthAfter depth t) rest
    else attach t (statementsFrom (depthAfter depth t) rest)

/-- The statements outside all blocks, each with the blocks that belong to it. A clause of its own,
such as that of an `else`, counts as one. -/
def statements (tokens : List Lexeme) : List (List Lexeme) :=
  statementsFrom 0 tokens

/-- Tokens within some blocks end with a statement outside all blocks. -/
def EndsStatement (depth : Nat) : List Lexeme → Prop
  | [] => depth = 0
  | t :: rest => EndsStatement (depthAfter depth t) rest ∧
      (rest = [] → t.kind = .newline ∨ t.kind = .dedent)

variable {depth : Nat} {t : Lexeme} {tokens rest own : List Lexeme}

/-- A token is attached to the first of several statements. -/
theorem attach_append {first others : List (List Lexeme)} (h : first ≠ []) :
    attach t (first ++ others) = attach t first ++ others := by
  obtain ⟨s, first, rfl⟩ := List.exists_cons_of_ne_nil h
  rfl

/-- A token belongs to a statement. -/
theorem statementsFrom_ne_nil (depth : Nat) (t : Lexeme) (rest : List Lexeme) :
    statementsFrom depth (t :: rest) ≠ [] := by
  rw [statementsFrom]
  split
  · exact List.cons_ne_nil _ _
  · exact List.cons_ne_nil _ _

/-- What stands behind the end of a statement belongs to other statements. -/
theorem statementsFrom_append (h : EndsStatement depth own)
    (hrest : rest.head?.all (·.kind != .indent) = true) :
    statementsFrom depth (own ++ rest) = statementsFrom depth own ++ statements rest := by
  induction own generalizing depth with
  | nil =>
    cases h
    rfl
  | cons t own ih =>
    obtain ⟨hown, hlast⟩ := h
    rw [List.cons_append, statementsFrom, ih hown, statementsFrom]
    cases own with
    | nil =>
      have hdepth : depthAfter depth t = 0 := hown
      have hend : endsStatement depth t [] = true ∧ endsStatement depth t rest = true := by
        rcases hlast rfl with hkind | hkind <;> simp [endsStatement, hdepth, hkind, hrest]
      rw [List.nil_append, if_pos hend.1, if_pos hend.2]
      rfl
    | cons next own =>
      have hsame : endsStatement depth t (next :: own ++ rest) = endsStatement depth t (next :: own) :=
        rfl
      rw [hsame]
      split
      · rfl
      · rw [attach_append (statementsFrom_ne_nil _ _ _)]

/-- Tokens before the end of a statement belong to it. -/
theorem EndsStatement.append (hne : rest ≠ []) (h : EndsStatement (own.foldl depthAfter depth) rest) :
    EndsStatement depth (own ++ rest) := by
  induction own generalizing depth with
  | nil => exact h
  | cons t own ih =>
    exact ⟨ih h, fun hnil => absurd hnil (List.append_ne_nil_of_right_ne_nil own hne)⟩

/-! ## Lines -/

/-- A token that stands on a line rather than telling how the lines are laid out. -/
def Lexeme.IsInline (t : Lexeme) : Prop :=
  t.kind ≠ .newline ∧ t.kind ≠ .indent ∧ t.kind ≠ .dedent

/-- The tokens of a piece end no statement. -/
theorem Piece.isInline {p : Piece} (h : t ∈ p.lexemes) : t.IsInline := by
  cases p with
  | blank | lineBreak => cases h
  | word text =>
    cases List.mem_singleton.mp h
    rw [Lexeme.IsInline]
    split <;> exact ⟨nofun, nofun, nofun⟩
  | mark | number | literal =>
    cases List.mem_singleton.mp h
    exact ⟨nofun, nofun, nofun⟩

/-- The tokens of pieces end no statement. -/
theorem isInline_of_mem_pieces {pieces : List Piece} (h : t ∈ pieces.flatMap Piece.lexemes) :
    t.IsInline := by
  obtain ⟨p, _, hp⟩ := List.mem_flatMap.mp h
  exact p.isInline hp

/-- A token that ends no statement leaves the depth of blocks. -/
theorem Lexeme.IsInline.depthAfter (h : t.IsInline) (depth : Nat) :
    Syntax.depthAfter depth t = depth := by
  rw [Syntax.depthAfter, if_neg h.2.1, if_neg h.2.2]

/-- Tokens that end no statement leave the depth of blocks. -/
theorem foldl_depthAfter_inline (h : ∀ t ∈ tokens, t.IsInline) (depth : Nat) :
    tokens.foldl depthAfter depth = depth := by
  induction tokens with
  | nil => rfl
  | cons t tokens ih =>
    rw [List.forall_mem_cons] at h
    rw [List.foldl_cons, h.1.depthAfter, ih h.2]

/-- A line outside all blocks is a statement. -/
theorem statements_inline (h : ∀ t ∈ tokens, t.IsInline) :
    statements (tokens ++ [.newline]) = [tokens ++ [.newline]] := by
  unfold statements
  induction tokens with
  | nil => rfl
  | cons t tokens ih =>
    obtain ⟨ht, htokens⟩ := List.forall_mem_cons.mp h
    have hgo : endsStatement 0 t (tokens ++ [.newline]) = false := by
      simp [endsStatement, ht.1, ht.2.2]
    rw [List.cons_append, statementsFrom, hgo, if_neg Bool.false_ne_true, ht.depthAfter, ih htokens]
    rfl

/-- Blocks are opened and closed by as many tokens. -/
theorem foldl_depthAfter_adjusted {columns columns' : List Nat} {marks : List Lexeme} {n : Nat}
    (h : adjusted columns n = some (columns', marks)) :
    marks.foldl depthAfter columns.length = columns'.length := by
  have hdedents : ∀ count depth : Nat,
      (List.replicate count Lexeme.dedent).foldl depthAfter depth = depth - count := by
    intro count
    induction count with
    | zero => exact fun _ => rfl
    | succ count ih =>
      intro depth
      rw [List.replicate_succ, List.foldl_cons, ih]
      change depth - 1 - count = _
      omega
  unfold adjusted at h
  split at h
  · cases h
    rfl
  · split at h
    · split at h
      · cases h
        rfl
      · cases h
    · dsimp only at h
      split at h
      · cases h
        rw [hdedents, List.length_drop]
      · cases h

/-- Lines end with a statement outside all blocks. -/
theorem endsStatement_layout {columns : List Nat} {lines : List SourceLine}
    (h : layout columns lines = some own) : EndsStatement columns.length own := by
  induction lines generalizing columns own with
  | nil =>
    cases h
    generalize columns.length = count
    induction count with
    | zero => rfl
    | succ count ih => exact ⟨ih, fun _ => .inr rfl⟩
  | cons line lines ih =>
    cases line with
    | empty => exact ih h
    | comment text => exact ih h
    | code indent pieces =>
      rw [layout] at h
      obtain ⟨⟨columns', marks⟩, hadjusted, h⟩ := Option.bind_eq_some_iff.mp h
      obtain ⟨more, hlayout, rfl⟩ := Option.map_eq_some_iff.mp h
      refine EndsStatement.append (List.append_ne_nil_of_right_ne_nil _ (List.cons_ne_nil _ _)) ?_
      rw [foldl_depthAfter_adjusted hadjusted]
      refine EndsStatement.append (List.cons_ne_nil _ _) ?_
      rw [foldl_depthAfter_inline fun t => isInline_of_mem_pieces]
      exact ⟨ih hlayout, fun _ => .inl rfl⟩

/-- Empty lines at the end change nothing. -/
theorem layout_append_empty (columns : List Nat) (lines : List SourceLine) :
    layout columns (lines ++ [.empty]) = layout columns lines := by
  induction lines generalizing columns with
  | nil => rfl
  | cons line lines ih =>
    cases line with
    | empty => exact ih columns
    | comment text => exact ih columns
    | code indent pieces =>
      rw [List.cons_append, layout, layout]
      simp only [ih]

/-- A line that is not indented comes behind all blocks. -/
theorem layout_append_code {columns : List Nat} {lines more : List SourceLine} {pieces : List Piece}
    (hcolumns : ∀ n ∈ columns, 0 < n) (h : layout columns lines = some own)
    (hmore : layout [] (.code 0 pieces :: more) = some rest) :
    layout columns (lines ++ .code 0 pieces :: more) = some (own ++ rest) := by
  induction lines generalizing columns own with
  | nil =>
    cases h
    rw [layout] at hmore
    obtain ⟨_, hadjusted, hmore⟩ := Option.bind_eq_some_iff.mp hmore
    cases hadjusted
    obtain ⟨tail, htail, rfl⟩ := Option.map_eq_some_iff.mp hmore
    rw [List.nil_append, layout, adjusted_zero hcolumns]
    exact Option.map_eq_some_iff.mpr ⟨tail, htail, rfl⟩
  | cons line lines ih =>
    cases line with
    | empty => exact ih hcolumns h
    | comment text => exact ih hcolumns h
    | code indent pieces =>
      rw [layout] at h
      obtain ⟨⟨columns', marks⟩, hadjusted, h⟩ := Option.bind_eq_some_iff.mp h
      obtain ⟨own, hlayout, rfl⟩ := Option.map_eq_some_iff.mp h
      rw [List.cons_append, layout, hadjusted]
      dsimp only [Option.bind_some]
      rw [ih (pos_of_adjusted hcolumns hadjusted) hlayout]
      simp only [Option.map_some, List.append_assoc, List.cons_append]

/-- The tokens of a line that is not indented do not begin with the beginning of a block. -/
theorem head?_of_layout_code {more : List SourceLine} {pieces : List Piece}
    (h : layout [] (.code 0 pieces :: more) = some rest) :
    rest.head?.all (·.kind != .indent) = true := by
  rw [layout] at h
  obtain ⟨_, hadjusted, h⟩ := Option.bind_eq_some_iff.mp h
  cases hadjusted
  obtain ⟨tail, _, rfl⟩ := Option.map_eq_some_iff.mp h
  rw [List.nil_append]
  cases hpieces : pieces.flatMap Piece.lexemes with
  | nil => rfl
  | cons t tokens =>
    have ht : t.IsInline := isInline_of_mem_pieces (hpieces ▸ List.mem_cons_self)
    simpa using ht.2.1

/-- Lines that begin with one that is not indented have statements of their own. -/
theorem statements_append_layout {lines more : List SourceLine} {pieces : List Piece}
    (h : layout [] lines = some own) (hmore : layout [] (.code 0 pieces :: more) = some rest) :
    statements (own ++ rest) = statements own ++ statements rest :=
  statementsFrom_append (endsStatement_layout h) (head?_of_layout_code hmore)

/-- A line of its own is one statement. -/
theorem layout_code (pieces : List Piece) :
    layout [] [.code 0 pieces] = some (pieces.flatMap Piece.lexemes ++ [.newline]) ∧
      statements (pieces.flatMap Piece.lexemes ++ [.newline]) =
        [pieces.flatMap Piece.lexemes ++ [.newline]] :=
  ⟨rfl, statements_inline fun _ => isInline_of_mem_pieces⟩

/-- The statements of a source without what stands for its end. -/
def TokenStream.statements (s : TokenStream) : List (List Lexeme) :=
  Syntax.statements s.lexemes.dropLast

/-- A source that consists of readable lines has the statements of these lines. -/
theorem statements_tokenize {source : String} {lines : List SourceLine}
    (hsource : source.toList = lines.flatMap SourceLine.chars) (hne : lines ≠ [])
    (hlines : ∀ line ∈ lines, line.IsReadable) (h : layout [] lines = some own) :
    (tokenize source).failure = none ∧ (tokenize source).statements = statements own := by
  obtain ⟨hfailure, hlexemes⟩ := tokenize_of_layout hsource hne hlines h
  rw [TokenStream.statements, hlexemes, List.dropLast_concat]
  exact ⟨hfailure, rfl⟩

end Bundler.Syntax
