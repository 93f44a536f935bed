import Bundler.Proofs.Outcome
import Bundler.Proofs.Syntax.Literal
import Bundler.Syntax.Token.Lexer

/-!
# Pieces of a line

A line of a source that has been put together from known parts consists of blanks, words, numbers,
marks such as brackets, and string literals. Where one piece ends is seen from the character behind it:
a word goes on with letters and digits, a letter in front of a quote is the mark of a literal, and some
marks join with the next one to a longer operator. Which pieces may stand side by side depends on
their kinds only, so that a literal or a number may be any one.
-/

set_option autoImplicit false

namespace Bundler.Syntax

/-- A token without its place. -/
structure Lexeme where
  /-- The lexical class. -/
  kind : TokenKind
  /-- The characters of the token. -/
  text : String
deriving DecidableEq, Repr

namespace Lexeme

/-- The end of a line. -/
abbrev newline : Lexeme := ⟨.newline, ""⟩

/-- The beginning of a block. -/
abbrev indent : Lexeme := ⟨.indent, ""⟩

/-- The end of a block. -/
abbrev dedent : Lexeme := ⟨.dedent, ""⟩

/-- The end of a source. -/
abbrev finish : Lexeme := ⟨.finish, ""⟩

end Lexeme

/-- What a token is, wherever it stands. -/
def Token.lexeme (t : Token) : Lexeme := ⟨t.kind, t.text⟩

/-- What the tokens of a source are. -/
def TokenStream.lexemes (s : TokenStream) : List Lexeme :=
  s.tokens.toList.map Token.lexeme

/-- The characters that are read as layout or as the beginning of a comment. -/
def layoutChars : List Char := [' ', '\t', '\x0c', '\n', '\\', '#']

/-! ## Words and numerals -/

/-- A text is read as one word. -/
structure IsWord (text : String) : Prop where
  ne_empty : text ≠ ""
  all_isWordPart : text.toList.all isWordPart = true
  isIdentifier : Text.firstNonIdentifier? text.toList = none

/-- The characters are tried. -/
instance (text : String) : Decidable (IsWord text) :=
  decidable_of_iff (text ≠ "" ∧ text.toList.all isWordPart = true ∧
    Text.firstNonIdentifier? text.toList = none)
    ⟨fun h => ⟨h.1, h.2.1, h.2.2⟩, fun h => ⟨h.1, h.2, h.3⟩⟩

/-- All characters of a word are parts of words. -/
theorem IsWord.isWordPart {text : String} (h : IsWord text) :
    ∀ c ∈ text.toList, Syntax.isWordPart c = true :=
  List.all_eq_true.mp h.all_isWordPart

/-- No identifier begins with a digit. -/
theorem isIdentifierStart_of_isDigit {c : Char} (h : c.isDigit = true) :
    Text.isIdentifierStart c = false := by
  have hrange : 48 ≤ c.toNat ∧ c.toNat ≤ 57 := by
    simpa [Char.isDigit, UInt32.le_iff_toNat_le] using h
  have hletter : ¬(65 ≤ c.toNat ∧ c.toNat ≤ 90) ∧ (¬97 ≤ c.toNat ∨ ¬c.toNat ≤ 122) := by omega
  have hunderscore : c ≠ '_' := by
    rintro rfl
    cases h
  rw [Text.isIdentifierStart, if_pos (by omega)]
  simp only [Char.isAlpha, Char.isUpper, Char.isLower, UInt32.le_iff_toNat_le, Char.toNat_val,
    Bool.or_eq_false_iff, Bool.and_eq_false_iff, decide_eq_false_iff_not, beq_eq_false_iff_ne,
    ge_iff_le]
  exact ⟨hletter, hunderscore⟩

/-- A word does not begin with a digit. -/
theorem IsWord.exists_cons {text : String} (h : IsWord text) :
    ∃ c cs, text.toList = c :: cs ∧ Syntax.isWordPart c = true ∧ c.isDigit = false := by
  obtain ⟨c, cs, hc⟩ : ∃ c cs, text.toList = c :: cs :=
    List.exists_cons_of_ne_nil fun hnil => h.ne_empty (String.toList_eq_nil_iff.mp hnil)
  refine ⟨c, cs, hc, h.isWordPart c (hc ▸ List.mem_cons_self), ?_⟩
  by_contra hdigit
  have hstart := isIdentifierStart_of_isDigit (Bool.not_eq_false _ ▸ hdigit)
  have hfirst := h.isIdentifier
  rw [hc, Text.firstNonIdentifier?, if_neg (by simp [hstart])] at hfirst
  cases hfirst

/-- A character neither goes on with a word nor makes a literal of what stands in front of it. -/
def EndsWord (c : Char) : Prop :=
  isWordPart c = false ∧ ¬IsQuote c

/-- The character is tried. -/
instance (c : Char) : Decidable (EndsWord c) :=
  inferInstanceAs (Decidable (_ ∧ ¬(_ ∨ _)))

/-- A digit is a part of words. -/
theorem isWordPart_of_isDigit {c : Char} (h : c.isDigit = true) : isWordPart c = true := by
  simp only [isWordPart, Char.isAlphanum, h, Bool.or_true, Bool.true_or]

/-- The mark of a literal is a part of words. -/
theorem isWordPart_of_add? {c : Char} {m m' : StringMarks} (h : m.add? c = some m') :
    isWordPart c = true := by
  unfold StringMarks.add? at h
  have hcases : c = 'b' ∨ c = 'B' ∨ c = 'u' ∨ c = 'U' ∨ c = 'r' ∨ c = 'R' ∨ c = 'f' ∨ c = 'F' := by
    grind
  rcases hcases with rfl | rfl | rfl | rfl | rfl | rfl | rfl | rfl <;> decide

/-- What ends a word begins no literal, unless it is a quote. -/
theorem splitMarks?_of_endsWord {c : Char} {cs : List Char} (hc : EndsWord c) (m : StringMarks)
    (read : List Char) : splitMarks? m read (c :: cs) = none := by
  rw [splitMarks?, if_neg (show ¬(c = '"' ∨ c = '\'') from hc.2)]
  cases hadd : m.add? c with
  | none => rfl
  | some m' => exact absurd (isWordPart_of_add? hadd) (by simp [hc.1])

/-- A word is not the mark of a literal unless a quote follows. -/
theorem splitMarks?_eq_none {word cs : List Char} {c : Char}
    (hword : ∀ c ∈ word, isWordPart c = true) (hc : EndsWord c) (m : StringMarks)
    (read : List Char) : splitMarks? m read (word ++ c :: cs) = none := by
  induction word generalizing m read with
  | nil => exact splitMarks?_of_endsWord hc m read
  | cons d word ih =>
    have hd : ¬(d = '"' ∨ d = '\'') := by
      rintro (rfl | rfl) <;> cases hword _ List.mem_cons_self
    rw [List.cons_append, splitMarks?, if_neg hd]
    cases m.add? d with
    | none => rfl
    | some m' => exact ih (fun c hc => hword c (List.mem_cons_of_mem _ hc)) m' _

namespace Numeral

/-- Digits are taken up to what is no part of a word. -/
theorem takeDigits_append {digits cs : List Char} {c : Char}
    (hdigits : ∀ d ∈ digits, d.isDigit = true) (hc : isWordPart c = false) :
    takeDigits Char.isDigit (digits ++ c :: cs) = .ok ⟨digits, c :: cs⟩ := by
  have hnot : ¬c.isDigit = true := fun h => by
    rw [isWordPart_of_isDigit h] at hc
    cases hc
  have hunderscore : c ≠ '_' := by
    rintro rfl
    cases hc
  induction digits with
  | nil =>
    rw [List.nil_append, takeDigits, if_neg hnot]
    exact hunderscore
  | cons d digits ih =>
    have hd := hdigits d List.mem_cons_self
    rw [List.cons_append, takeDigits, if_pos hd, ih fun d hd => hdigits d (List.mem_cons_of_mem _ hd)]
    · rfl
    · rintro rfl
      cases hd

/-- A decimal number is taken up to what ends it. -/
theorem takeDecimal_append {d c : Char} {digits cs : List Char}
    (hdigits : ∀ e ∈ digits, e.isDigit = true) (hlead : hasLeadingZero (d :: digits) = false)
    (hc : isWordPart c = false) (hpoint : c ≠ '.') :
    takeDecimal d (digits ++ c :: cs) = .ok ⟨d :: digits, c :: cs⟩ := by
  have he : ¬(c = 'e' ∨ c = 'E') := by
    rintro (rfl | rfl) <;> cases hc
  have hj : ¬(c = 'j' ∨ c = 'J') := by
    rintro (rfl | rfl) <;> cases hc
  have htake : takeDecimalDigits (digits ++ c :: cs) = .ok ⟨digits, c :: cs⟩ := by
    rw [takeDecimalDigits, takeDigits_append hdigits hc]
  refine bind_eq_ok.mpr ⟨_, htake, ?_⟩
  dsimp only [Extent.after, List.singleton_append]
  split
  · rename_i heq
    exact absurd (List.cons.inj heq).1 hpoint
  · rename_i heq
    obtain ⟨rfl, rfl⟩ := List.cons.inj heq
    simp [he, hj, hlead, finishAs, hc]
  · rename_i heq
    cases heq

/-- A number is read up to something that goes on neither with a word nor with a fraction. -/
theorem take_toString (n : Nat) {d c : Char} {digits cs : List Char}
    (hn : (toString n).toList = d :: digits) (hc : isWordPart c = false) (hpoint : c ≠ '.') :
    take d (digits ++ c :: cs) = .ok ⟨d :: digits, c :: cs⟩ := by
  have hdigits : ∀ e ∈ d :: digits, e.isDigit = true := fun e he =>
    isDigit_of_mem_toString (hn ▸ he)
  -- Only the number zero begins with a zero.
  have hzero : d = '0' → digits = [] := by
    rintro rfl
    rw [toList_toString] at hn
    have hhead : (Nat.toDigits 10 n).head? = some '0' := by rw [hn, List.head?_cons]
    cases eq_zero_of_head?_toDigits (by decide) (by decide) hhead
    exact (List.cons.inj hn).2.symm
  have hlead : hasLeadingZero (d :: digits) = false := by
    by_cases hd : d = '0'
    · rw [hzero hd, hd]
      rfl
    · simp [hasLeadingZero, hd]
  have hdecimal : takeDecimal d (digits ++ c :: cs) = .ok ⟨d :: digits, c :: cs⟩ :=
    takeDecimal_append (List.forall_mem_cons.mp hdigits).2 hlead hc hpoint
  cases digits with
  | nil =>
    have hradix : radixOfMark? c = none := by
      have hx : ¬(c = 'x' ∨ c = 'X') := by rintro (rfl | rfl) <;> cases hc
      have ho : ¬(c = 'o' ∨ c = 'O') := by rintro (rfl | rfl) <;> cases hc
      have hb : ¬(c = 'b' ∨ c = 'B') := by rintro (rfl | rfl) <;> cases hc
      rw [radixOfMark?, if_neg hx, if_neg ho, if_neg hb]
    rw [List.nil_append] at hdecimal ⊢
    rw [take, hradix, ite_self]
    exact hdecimal
  | cons e digits =>
    have hd : d ≠ '0' := fun h => by cases hzero h
    rw [List.cons_append] at hdecimal ⊢
    rw [take, if_neg hd]
    exact hdecimal

end Numeral

/-! ## Pieces of a line -/

/-- The brackets, operators and delimiters that a line may hold. -/
def pieceMarks : List Char :=
  ['(', ')', '[', ']', '{', '}', ',', ':', '=', '.', '-']

/-- The marks that longer operators begin with. -/
def joiningMarks : List Char :=
  [':', '=', '.', '-']

/-- The brackets that are open behind a mark, innermost first, if the mark may stand there. -/
def bracketsAfter (opened : List Char) (c : Char) : Option (List Char) :=
  if isOpening c then if opened.length < 200 then some (c :: opened) else none
  else
    match openingOf? c with
    | some opening => if opened.head? = some opening then some opened.tail else none
    | none => some opened

/-- A text is read as one string literal. -/
def IsLiteral (text : String) : Prop :=
  ∃ marks quote body points, IsQuote quote ∧ IsBody quote body points ∧
    (∀ cs, splitMarks? {} [] (marks ++ quote :: cs) = some (marks.reverse, quote, cs)) ∧
    text.toList = tokenChars marks quote body ∧ '\r' ∉ text.toList

/-- A mark ends a word, is no layout, and can be printed. -/
theorem properties_of_mem_pieceMarks {c : Char} (h : c ∈ pieceMarks) :
    EndsWord c ∧ c ∉ layoutChars ∧ Text.isPrintable c.toNat = true := by
  simp only [pieceMarks, List.mem_cons, List.not_mem_nil, or_false] at h
  rcases h with rfl | rfl | rfl | rfl | rfl | rfl | rfl | rfl | rfl | rfl | rfl <;> decide

/-- A literal begins with a quote or with a mark. -/
theorem IsLiteral.exists_cons {text : String} (h : IsLiteral text) :
    ∃ c cs, text.toList = c :: cs ∧ ¬EndsWord c := by
  obtain ⟨marks, quote, body, points, hquote, hbody, hmarks, htext, -⟩ := h
  obtain ⟨c, cs, hc⟩ : ∃ c cs, marks ++ quote :: (body ++ [quote]) = c :: cs :=
    List.exists_cons_of_ne_nil (by simp)
  refine ⟨c, cs, htext.trans hc, fun hend => ?_⟩
  have hsplit := hmarks (body ++ [quote])
  rw [hc, splitMarks?_of_endsWord hend] at hsplit
  cases hsplit

/-- Characters that mean nothing between quotes stand for themselves. -/
theorem isBody_plain {quote : Char} {cs : List Char}
    (h : ∀ c ∈ cs, c ≠ quote ∧ c ≠ '\\' ∧ c ≠ '\n') : IsBody quote cs (cs.map Char.toNat) := by
  induction cs with
  | nil => exact .nil
  | cons c cs ih =>
    obtain ⟨⟨hquote, hescape, hline⟩, hcs⟩ := List.forall_mem_cons.mp h
    exact .cons (.plain hquote hescape hline) (ih hcs)

/-- The quoted form of a text is one literal. -/
theorem isLiteral_quoted (s : String) : IsLiteral (Text.quoted s) := by
  obtain ⟨quote, body, hquote, hbody, htext⟩ := exists_isBody_quoted s
  exact ⟨[], quote, body, _, hquote, hbody, fun cs => if_pos hquote, htext, return_not_mem_quoted s⟩

/-- The form of a text in a data value is one literal. -/
theorem isLiteral_escaped (s : String) : IsLiteral (Json.escaped s) := by
  obtain ⟨body, hbody, htext⟩ := exists_isBody_escaped s
  exact ⟨[], '"', body, _, .inl rfl, hbody, fun cs => rfl, htext, return_not_mem_escaped s⟩

/-- Layout ends a word. -/
theorem endsWord_of_mem_layoutChars {c : Char} (h : c ∈ layoutChars) : EndsWord c := by
  simp only [layoutChars, List.mem_cons, List.not_mem_nil, or_false] at h
  rcases h with rfl | rfl | rfl | rfl | rfl | rfl <;> decide

/-- A part of a word is no layout. -/
theorem not_mem_layoutChars_of_isWordPart {c : Char} (h : isWordPart c = true) : c ∉ layoutChars := by
  intro hmem
  rw [(endsWord_of_mem_layoutChars hmem).1] at h
  cases h

/-- A piece of a line. -/
inductive Piece where
  /-- A blank. -/
  | blank
  /-- The end of a line within brackets, and the blanks at the beginning of the next line. -/
  | lineBreak (indent : Nat)
  /-- An identifier or a keyword. -/
  | word (text : String)
  /-- A bracket, an operator or a delimiter. -/
  | mark (c : Char)
  /-- A decimal number. -/
  | number (n : Nat)
  /-- A string literal. -/
  | literal (text : String)

namespace Piece

/-- The characters of a piece. -/
def chars : Piece → List Char
  | .blank => [' ']
  | .lineBreak indent => '\n' :: List.replicate indent ' '
  | .word text => text.toList
  | .mark c => [c]
  | .number n => (toString n).toList
  | .literal text => text.toList

/-- The token that a piece is read as, if it is no layout. -/
def lexemes : Piece → List Lexeme
  | .blank => []
  | .lineBreak _ => []
  | .word text => [⟨if isKeyword text then .keyword else .name, text⟩]
  | .mark c => [⟨.symbol, c.toString⟩]
  | .number n => [⟨.number, toString n⟩]
  | .literal text => [⟨.string, text⟩]

/-- The brackets that are open behind a piece, innermost first. A line only ends within brackets. -/
def opens (opened : List Char) : Piece → Option (List Char)
  | .mark c => bracketsAfter opened c
  | .lineBreak _ => if opened = [] then none else some opened
  | _ => some opened

/-- A piece is read as what it is meant to be. -/
def IsReadable : Piece → Prop
  | .word text => IsWord text
  | .mark c => c ∈ pieceMarks
  | .literal text => IsLiteral text
  | _ => True

/-- Whether a piece ends where a character follows. -/
def EndsBefore (c : Char) : Piece → Prop
  | .blank => True
  | .lineBreak _ => c ∉ layoutChars
  | .word _ => EndsWord c
  | .mark d => d ∈ joiningMarks →
    c ≠ '=' ∧ c ≠ '>' ∧ c ≠ '.' ∧ (d = '.' → c.isDigit = false)
  | .number _ => EndsWord c ∧ c ≠ '.'
  | .literal _ => EndsWord c

/-- Whether one piece may stand directly in front of another one. -/
def mayPrecede : Piece → Piece → Bool
  | .blank, _ => true
  | .lineBreak _, .blank => false
  | .lineBreak _, .lineBreak _ => false
  | .lineBreak _, _ => true
  | _, .blank => true
  | _, .lineBreak _ => true
  | .mark c, .mark d => !joiningMarks.contains c || (d != '=' && d != '.')
  | .mark _, .word _ => true
  | .mark c, _ => c != '.'
  | .number _, .mark d => d != '.'
  | _, .mark _ => true
  | _, _ => false

/-- A piece may stand directly in front of another one. -/
def Fits (p q : Piece) : Prop :=
  p.mayPrecede q = true

/-- The check decides. -/
instance : DecidableRel Fits := fun p q => inferInstanceAs (Decidable (p.mayPrecede q = true))

/-- Whether a piece would go on with a word or a number in front of it. -/
def isSolid : Piece → Bool
  | .word _ | .number _ | .literal _ => true
  | _ => false

/-- A solid piece does not begin with a character that ends a word, and a word not with a digit. -/
theorem exists_cons_of_isSolid {q : Piece} (hq : q.IsReadable) (hsolid : q.isSolid = true) :
    ∃ c cs, q.chars = c :: cs ∧ ¬EndsWord c ∧ ((∃ text, q = .word text) → c.isDigit = false) := by
  have hpart : ∀ c, isWordPart c = true → ¬EndsWord c := by
    intro c hc hend
    rw [hend.1] at hc
    cases hc
  cases q with
  | blank | lineBreak | mark => cases hsolid
  | word text =>
    obtain ⟨c, cs, hchars, hc, hdigit⟩ := IsWord.exists_cons hq
    exact ⟨c, cs, hchars, hpart c hc, fun _ => hdigit⟩
  | number n =>
    obtain ⟨c, cs, hdigit, hchars⟩ := exists_toList_toString n
    exact ⟨c, cs, hchars, hpart c (isWordPart_of_isDigit hdigit), nofun⟩
  | literal text =>
    obtain ⟨c, cs, hchars, hc⟩ := IsLiteral.exists_cons hq
    exact ⟨c, cs, hchars, hc, nofun⟩

/-- Only layout and marks may precede a solid piece, and a point only precedes a word. -/
theorem Fits.eq_of_isSolid {p q : Piece} (h : p.Fits q) (hsolid : q.isSolid = true) :
    p = .blank ∨ (∃ n, p = .lineBreak n) ∨
      ∃ d, p = .mark d ∧ (d = '.' → ∃ text, q = .word text) := by
  cases p with
  | blank => exact .inl rfl
  | lineBreak n => exact .inr (.inl ⟨n, rfl⟩)
  | mark d =>
    refine .inr (.inr ⟨d, rfl, ?_⟩)
    rintro rfl
    cases q with
    | word text => exact ⟨text, rfl⟩
    | blank | lineBreak | mark => cases hsolid
    | number | literal => cases h
  | word | number | literal =>
    cases q with
    | blank | lineBreak | mark => cases hsolid
    | word | number | literal => cases h

/-- A piece ends before the next one that fits, if that is solid. -/
theorem endsBefore_of_isSolid {p q : Piece} {c : Char} (h : p.Fits q) (hsolid : q.isSolid = true)
    (hc : ¬EndsWord c) (hword : (∃ text, q = .word text) → c.isDigit = false) :
    p.EndsBefore c := by
  have hne : ∀ d, EndsWord d → c ≠ d := fun d hd heq => hc (heq ▸ hd)
  rcases h.eq_of_isSolid hsolid with rfl | ⟨n, rfl⟩ | ⟨d, rfl, hpoint⟩
  · trivial
  · exact fun hmem => hc (endsWord_of_mem_layoutChars hmem)
  · exact fun _ => ⟨hne _ (by decide), hne _ (by decide), hne _ (by decide),
      fun hd => hword (hpoint hd)⟩

/-- A piece ends before a character that ends a word and continues no mark. -/
theorem endsBefore_of_endsWord {p : Piece} {c : Char} (hp : ∀ n, p ≠ .lineBreak n)
    (hc : EndsWord c) (hequals : c ≠ '=') (hgreater : c ≠ '>') (hpoint : c ≠ '.') :
    p.EndsBefore c := by
  have hdigit : c.isDigit = false := by
    by_contra hdigit
    have hpart := isWordPart_of_isDigit (Bool.not_eq_false _ ▸ hdigit)
    rw [hc.1] at hpart
    cases hpart
  cases p with
  | blank => trivial
  | lineBreak n => exact absurd rfl (hp n)
  | word | literal => exact hc
  | mark d => exact fun _ => ⟨hequals, hgreater, hpoint, fun _ => hdigit⟩
  | number => exact ⟨hc, hpoint⟩

/-- A piece ends where one begins that may follow it. -/
theorem exists_endsBefore {p q : Piece} (h : p.Fits q) (hq : q.IsReadable) :
    ∃ c cs, q.chars = c :: cs ∧ p.EndsBefore c := by
  cases q with
  | blank =>
    have hp : ∀ n, p ≠ .lineBreak n := by
      rintro n rfl
      cases h
    exact ⟨' ', [], rfl, endsBefore_of_endsWord hp (by decide) (by decide) (by decide) (by decide)⟩
  | lineBreak n =>
    have hp : ∀ n, p ≠ .lineBreak n := by
      rintro n rfl
      cases h
    exact ⟨'\n', List.replicate n ' ', rfl,
      endsBefore_of_endsWord hp (by decide) (by decide) (by decide) (by decide)⟩
  | mark c =>
    refine ⟨c, [], rfl, ?_⟩
    obtain ⟨hend, hlayout, _⟩ := properties_of_mem_pieceMarks hq
    cases p with
    | blank => trivial
    | lineBreak => exact hlayout
    | word | literal => exact hend
    | mark d =>
      intro hjoining
      have hgreater : c ≠ '>' := by
        rintro rfl
        exact absurd (show '>' ∈ pieceMarks from hq) (by decide)
      simp only [Fits, mayPrecede, List.contains_eq_mem, hjoining, decide_true, Bool.not_true,
        Bool.false_or, Bool.and_eq_true, bne_iff_ne] at h
      exact endsBefore_of_endsWord (p := .mark d) nofun hend h.1 hgreater h.2 hjoining
    | number => exact ⟨hend, bne_iff_ne.mp h⟩
  | word | number | literal =>
    obtain ⟨c, cs, hchars, hc, hword⟩ := exists_cons_of_isSolid hq rfl
    exact ⟨c, cs, hchars, endsBefore_of_isSolid h rfl hc hword⟩

/-! ### Plain text -/

/-- The pieces of a text of words, blanks and marks. -/
def plain (text : String) : List Piece :=
  (text.toList.splitBy fun a b => isWordPart a && isWordPart b).map fun run =>
    if run = [' '] then .blank
    else if run.all isWordPart then .word (String.ofList run)
    else .mark (run.headD ' ')

/-- The pieces of a plain text are its characters. -/
theorem chars_plain (text : String) : (plain text).flatMap chars = text.toList := by
  -- Only characters of words stand together in a run.
  have htogether : ∀ (run : List Char) (c : Char),
      (c :: run).IsChain (fun a b => (isWordPart a && isWordPart b) = true) → run ≠ [] →
        (c :: run).all isWordPart = true := by
    intro run
    induction run with
    | nil => exact fun _ _ h => absurd rfl h
    | cons d run ih =>
      intro c hchain _
      obtain ⟨hfirst, hrest⟩ := List.isChain_cons_cons.mp hchain
      rw [Bool.and_eq_true] at hfirst
      rw [List.all_cons, hfirst.1, Bool.true_and]
      cases run with
      | nil => rw [List.all_cons, hfirst.2, List.all_nil, Bool.and_true]
      | cons e run => exact ih d hrest (List.cons_ne_nil _ _)
  have hrun : ∀ run ∈ text.toList.splitBy (fun a b => isWordPart a && isWordPart b),
      (if run = [' '] then blank
        else if run.all isWordPart then word (String.ofList run)
        else mark (run.headD ' ')).chars = run := by
    intro run hmem
    obtain ⟨c, rest, rfl⟩ := List.exists_cons_of_ne_nil (List.ne_nil_of_mem_splitBy hmem)
    split
    · rename_i hblank
      exact hblank.symm
    · split
      · exact String.toList_ofList
      · rename_i hmark
        by_cases hrest : rest = []
        · rw [hrest]
          rfl
        · exact absurd (htogether rest c (List.isChain_of_mem_splitBy hmem) hrest) hmark
  unfold plain
  rw [List.flatMap_map, List.flatMap_def, List.map_congr_left hrun, List.map_id',
    List.flatten_splitBy]

/-- Whether a piece is seen to be readable, if it is no literal. -/
def isEvident : Piece → Bool
  | .word text => decide (IsWord text)
  | .mark c => decide (c ∈ pieceMarks)
  | _ => true

/-- The text of a literal. -/
def literal? : Piece → Option String
  | .literal text => some text
  | _ => none

/-- Evident pieces can be read if their literals are literals. -/
theorem isReadable_of_isEvident {pieces : List Piece} (h : pieces.all isEvident = true)
    (hliterals : ∀ text ∈ pieces.filterMap literal?, IsLiteral text) :
    ∀ p ∈ pieces, p.IsReadable := by
  intro p hp
  have hevident := List.all_eq_true.mp h p hp
  cases p with
  | blank | lineBreak | number => trivial
  | word text => exact of_decide_eq_true (p := IsWord text) hevident
  | mark c => exact of_decide_eq_true (p := c ∈ pieceMarks) hevident
  | literal text => exact hliterals text (List.mem_filterMap.mpr ⟨_, hp, rfl⟩)

/-! ### Shapes -/

/-- A piece apart from the value of a literal or a number and from the width of an indentation. -/
def shape : Piece → Piece
  | .lineBreak _ => .lineBreak 0
  | .number _ => .number 0
  | .literal _ => .literal ""
  | p => p

/-- Whether pieces may stand next to each other depends on their shapes. -/
theorem mayPrecede_shape (p q : Piece) : p.shape.mayPrecede q.shape = p.mayPrecede q := by
  cases p <;> cases q <;> rfl

/-- Whether pieces fit together depends on their shapes. -/
theorem isChain_map_shape {pieces : List Piece} :
    (pieces.map shape).IsChain Fits ↔ pieces.IsChain Fits := by
  have hfits : ∀ p q : Piece, p.shape.Fits q.shape ↔ p.Fits q := by
    intro p q
    rw [Fits, mayPrecede_shape, Fits]
  simp only [List.isChain_map, hfits]

/-- The brackets behind pieces depend on their shapes. -/
theorem foldlM_opens_map_shape (pieces : List Piece) (opened : List Char) :
    (pieces.map shape).foldlM opens opened = pieces.foldlM opens opened := by
  have hopens : ∀ (opened : List Char) (p : Piece), opens opened p.shape = opens opened p := by
    intro opened p
    cases p <;> rfl
  rw [List.foldlM_map]
  simp only [hopens]

/-- A test that looks at shapes only gives the same result for the shapes. -/
theorem all_map_shape {f : Piece → Bool} (hf : ∀ p, f p.shape = f p) (pieces : List Piece) :
    (pieces.map shape).all f = pieces.all f := by
  rw [List.all_map]
  exact congrArg (pieces.all ·) (funext hf)

/-- Whether a piece is evident depends on its shape. -/
theorem isEvident_shape (p : Piece) : p.shape.isEvident = p.isEvident := by
  cases p <;> rfl

/-- There are no literals in a plain text. -/
theorem filterMap_literal?_plain (text : String) : (plain text).filterMap literal? = [] := by
  refine List.filterMap_eq_nil_iff.mpr fun p hp => ?_
  obtain ⟨run, _, rfl⟩ := List.mem_map.mp hp
  split
  · rfl
  · split <;> rfl

end Piece

end Bundler.Syntax
