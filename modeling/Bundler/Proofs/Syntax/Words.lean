import Bundler.Proofs.Syntax.Piece
import Bundler.Proofs.Text.NormalForm

/-!
# Names are words

The lexer reads one token after the other, and only a word becomes a name. So all names among the
tokens of a source are words, and their normal forms hold neither dots nor slashes.
-/

set_option autoImplicit false

namespace Bundler.Syntax

/-- A token that is a name is a word. -/
def Token.IsFormed (t : Token) : Prop :=
  t.kind = .name → IsWord t.text

/-- The names among the tokens are words. -/
def AreFormed (tokens : Array Token) : Prop :=
  ∀ t ∈ tokens, t.IsFormed

/-- A token that is a word if it is a name may be added. -/
theorem AreFormed.push {tokens : Array Token} {t : Token} (h : AreFormed tokens) (ht : t.IsFormed) :
    AreFormed (tokens.push t) := by
  intro other hother
  rcases Array.mem_push.mp hother with hother | rfl
  · exact h other hother
  · exact ht

/-- A token that is no name may be added. -/
theorem AreFormed.push_mark {tokens : Array Token} {t : Token} (h : AreFormed tokens)
    (ht : t.kind ≠ .name) : AreFormed (tokens.push t) :=
  h.push fun hname => absurd hname ht

namespace LexState

variable {s s' : LexState} {c : Char} {rest : List Char}

/-- Opening and closing blocks adds no names. -/
theorem areFormed_adjustBlocks {width : Indentation} (hadjust : adjustBlocks s width = .ok s')
    (h : AreFormed s.tokens) : AreFormed s'.tokens := by
  have hdedents : ∀ (l : List Nat) (u : LexState), AreFormed u.tokens →
      AreFormed (l.foldl (fun s _ => s.push .dedent "" s.line) u).tokens := by
    intro l
    induction l with
    | nil => exact fun u hu => hu
    | cons _ l ih => exact fun u hu => ih _ (hu.push_mark (by nofun))
  unfold adjustBlocks at hadjust
  dsimp only at hadjust
  repeat' split at hadjust
  all_goals cases hadjust
  · exact h
  · exact h.push_mark (by nofun)
  · exact hdedents _ _ h

/-- A word is read as a name only if it is one. -/
theorem areFormed_lexWord (hlex : lexWord s = .ok s') (hrest : s.rest = c :: rest)
    (hc : isWordPart c = true) (h : AreFormed s.tokens) : AreFormed s'.tokens := by
  unfold lexWord at hlex
  dsimp only at hlex
  split at hlex
  · cases hlex
  · next hidentifier =>
    cases hlex
    refine h.push fun _ => ?_
    refine ⟨?_, ?_, ?_⟩
    · rw [Ne, ← String.toList_eq_nil_iff, String.toList_ofList, hrest,
        List.takeWhile_cons_of_pos hc]
      exact List.cons_ne_nil _ _
    · rw [String.toList_ofList]
      exact List.all_takeWhile
    · rwa [String.toList_ofList]

/-- A symbol is no name. -/
theorem areFormed_lexSymbol (hlex : lexSymbol s c rest = .ok s') (h : AreFormed s.tokens) :
    AreFormed s'.tokens := by
  unfold lexSymbol at hlex
  dsimp only at hlex
  repeat' split at hlex
  all_goals cases hlex
  all_goals exact h.push_mark (by nofun)

/-- A numeral is no name. -/
theorem areFormed_lexNumeral {extent : Except LexicalError Numeral.Extent}
    (hlex : lexNumeral s extent = .ok s') (h : AreFormed s.tokens) : AreFormed s'.tokens := by
  unfold lexNumeral at hlex
  split at hlex
  · cases hlex
    exact h.push_mark (by nofun)
  · cases hlex

/-- A string literal is no name. -/
theorem areFormed_lexString {marks afterQuote : List Char} {quote : Char}
    (hlex : lexString s marks quote afterQuote = .ok s') (h : AreFormed s.tokens) :
    AreFormed s'.tokens := by
  unfold lexString at hlex
  split at hlex
  · cases hlex
    exact h.push_mark (by nofun)
  · cases hlex

/-- One more token is a word if it is a name. -/
theorem areFormed_lexToken (hlex : lexToken s c rest = .ok s') (hrest : s.rest = c :: rest)
    (h : AreFormed s.tokens) : AreFormed s'.tokens := by
  unfold lexToken at hlex
  split at hlex
  · exact areFormed_lexString hlex h
  · split at hlex
    · exact areFormed_lexNumeral hlex h
    · split at hlex
      · next hpart => exact areFormed_lexWord hlex hrest hpart h
      · split at hlex
        · exact areFormed_lexNumeral hlex h
        · exact areFormed_lexSymbol hlex h

/-- However far the lexer gets, the names among the tokens are words. -/
theorem areFormed_lex (fuel : Nat) :
    (∀ s : LexState, AreFormed s.tokens → AreFormed (lexLine s fuel).tokens) ∧
      ∀ (blank : Bool) (s : LexState), AreFormed s.tokens →
        AreFormed (lexRest blank s fuel).tokens := by
  induction fuel with
  | zero =>
    refine ⟨fun s h => ?_, fun blank s h => ?_⟩
    · rw [lexLine]
      exact h
    · rw [lexRest]
      exact h
  | succ fuel ih =>
    obtain ⟨hline, hrest⟩ := ih
    refine ⟨fun s h => ?_, fun blank s h => ?_⟩
    · rw [lexLine]
      split
      · exact h
      · dsimp only
        split
        · exact hrest _ _ h
        · split
          · next hadjust => exact hrest _ _ (areFormed_adjustBlocks hadjust h)
          · exact h
    · rw [lexRest]
      split
      · split
        · exact h.push_mark (by nofun)
        · exact h
      · exact hrest _ _ h
      · dsimp only
        split
        · exact hline _ h
        · exact hline _ (h.push_mark (by nofun))
      · split
        · exact h
        · exact hrest _ _ h
      · exact h
      · next c rest _ _ _ _ hs =>
        split
        · exact hrest _ _ h
        · split
          · next hlex => exact hrest _ _ (areFormed_lexToken hlex hs h)
          · exact h

end LexState

/-- The names among the tokens of a source are words. -/
theorem areFormed_tokenize (source : String) : AreFormed (tokenize source).tokens := by
  refine (LexState.areFormed_lex _).1 _ fun t ht => ?_
  exact absurd ht (Array.not_mem_empty t)

/-! ## Normal forms -/

/-- A name that is not empty and holds neither dots nor slashes. -/
structure IsBareName (name : String) : Prop where
  ne_empty : name ≠ ""
  no_dot : '.' ∉ name.toList
  no_slash : '/' ∉ name.toList

/-- No character of a word comes before the digit zero. -/
theorem firstPoint_le_of_isWordPart {c : Char} (h : isWordPart c = true) :
    Text.Normalization.firstPoint ≤ c.toNat := by
  simp only [isWordPart, Char.isAlphanum, Char.isAlpha, Char.isUpper, Char.isLower, Char.isDigit,
    UInt32.le_iff_toNat_le, Char.toNat_val, Bool.or_eq_true, Bool.and_eq_true, decide_eq_true_eq,
    beq_iff_eq] at h
  rcases h with (((hupper | hlower) | hdigit) | rfl) | hlarge
  · exact Nat.le_trans (by decide) hupper.1
  · exact Nat.le_trans (by decide) hlower.1
  · exact hdigit.1
  · decide
  · exact Nat.le_trans (by decide) hlarge

/-- The normal form of a word is bare. -/
theorem IsWord.isBareName {word : String} (h : IsWord word) :
    IsBareName (Text.Normalization.normalizeIdentifier word) := by
  obtain ⟨hne, hle⟩ := Text.Normalization.normalizeIdentifier_spec h.ne_empty fun c hc =>
    firstPoint_le_of_isWordPart (h.isWordPart c hc)
  refine ⟨hne, fun hdot => ?_, fun hslash => ?_⟩
  · exact absurd (hle '.' hdot) (by decide)
  · exact absurd (hle '/' hslash) (by decide)

end Bundler.Syntax
