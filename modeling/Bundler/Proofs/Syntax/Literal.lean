import Bundler.Json.Writer
import Bundler.Proofs.Text.Digits
import Bundler.Syntax.Literal
import Bundler.Text.Quoted

/-!
# Written literals

A text that is written between quotes is read again as the literal of that text. This holds of the
quoted form, which chooses its quotes by the text, and of the form that data values have, which has
double quotes and other escapes. Both consist of pieces that stand for one code point each; what
pieces have in common is enough for the lexer, which looks for the closing quote, and for the
decoder, which undoes the escapes.
-/

set_option autoImplicit false

namespace Bundler

open Bundler.Text (CodePoints)

namespace Syntax

/-! ## Texts in pieces -/

/-- A text consists of pieces that stand for the members of a list. -/
inductive Pieces {α : Type} (IsPiece : List Char → α → Prop) : List Char → List α → Prop where
  | nil : Pieces IsPiece [] []
  | cons {piece rest : List Char} {a : α} {l : List α} (first : IsPiece piece a)
      (others : Pieces IsPiece rest l) : Pieces IsPiece (piece ++ rest) (a :: l)

namespace Pieces

variable {α β : Type} {P : List Char → α → Prop} {text : List Char} {l : List α}

/-- What is written piece by piece consists of pieces. -/
theorem flatMap {write : β → List Char} {read : β → α} (h : ∀ b, P (write b) (read b))
    (l : List β) : Pieces P (l.flatMap write) (l.map read) := by
  induction l with
  | nil => exact .nil
  | cons b l ih => exact .cons (h b) ih

/-- What holds of the characters of all pieces holds of the characters of the text. -/
theorem forall_mem (h : Pieces P text l) {p : Char → Prop}
    (hpiece : ∀ piece a, P piece a → ∀ c ∈ piece, p c) : ∀ c ∈ text, p c := by
  induction h with
  | nil => nofun
  | cons first _ ih =>
    intro c hc
    exact (List.mem_append.mp hc).elim (hpiece _ _ first c) (ih c)

/-- A decoder that takes a piece in each step decodes the whole text. -/
theorem decode (h : Pieces P text l) {ε : Type}
    {run : List α → Nat → Nat → List Char → Except ε (List α)}
    (hend : ∀ read position fuel, run read position (fuel + 1) [] = .ok read.reverse)
    (hstep : ∀ piece a, P piece a → 0 < piece.length ∧ ∀ read position fuel rest, ∃ next,
      run read position (fuel + 1) (piece ++ rest) = run (a :: read) next fuel rest)
    (read : List α) (position : Nat) {fuel : Nat} (hfuel : text.length < fuel) :
    run read position fuel text = .ok (read.reverse ++ l) := by
  induction h generalizing read position fuel with
  | nil =>
    obtain ⟨fuel, rfl⟩ := Nat.exists_eq_succ_of_ne_zero (Nat.ne_of_gt (Nat.zero_lt_of_lt hfuel))
    rw [hend, List.append_nil]
  | @cons piece rest a l first others ih =>
    obtain ⟨fuel, rfl⟩ := Nat.exists_eq_succ_of_ne_zero (Nat.ne_of_gt (Nat.zero_lt_of_lt hfuel))
    obtain ⟨hpiece, hnext⟩ := hstep piece a first
    obtain ⟨next, hrun⟩ := hnext read position fuel rest
    -- The piece is not empty, so what is left of the fuel still exceeds the rest.
    rw [List.length_append] at hfuel
    rw [hrun, ih (a :: read) next (by omega), List.reverse_cons, List.append_assoc]
    rfl

end Pieces

/-- A piece of the body of a literal between quotes of the given kind stands for a code point. -/
inductive IsPiece (quote : Char) : List Char → Nat → Prop where
  | plain {c : Char} (unquoted : c ≠ quote) (unescaped : c ≠ '\\') (inLine : c ≠ '\n') :
      IsPiece quote [c] c.toNat
  | simple {c : Char} {point : Nat} (denoted : Escape.simple? c = some point) :
      IsPiece quote ['\\', c] point
  | hex {c : Char} {digits : List Char} {reason : String}
      (marked : Escape.hexEscape? c = some (digits.length, reason))
      (areDigits : ∀ d ∈ digits, IsHexDigit d) (valid : Numeral.digitsIn 16 digits ≤ 0x10ffff) :
      IsPiece quote ('\\' :: c :: digits) (Numeral.digitsIn 16 digits)

/-- A number that is written with all the digits of an escape is a piece. -/
theorem isPiece_hexPadded (c : Char) (width : Nat) {quote : Char} {point : Nat} {reason : String}
    (hmark : Escape.hexEscape? c = some (width, reason)) (hwidth : 0 < width)
    (hlt : point < 16 ^ width) (hle : point ≤ 0x10ffff) :
    IsPiece quote ('\\' :: c :: (Text.hexPadded width point).toList) point := by
  have hvalue := digitsIn_hexPadded width point
  rw [← length_hexPadded hwidth hlt] at hmark
  have hhex : IsPiece quote ('\\' :: c :: (Text.hexPadded width point).toList) _ :=
    .hex hmark (fun d hd => isHexDigit_of_mem_hexPadded hd) (hvalue.symm ▸ hle)
  rwa [hvalue] at hhex

/-- A piece that is chosen is one if both choices are. -/
theorem isPiece_ite {quote : Char} {point : Nat} {p : Prop} [Decidable p] {yes no : String}
    (hyes : p → IsPiece quote yes.toList point) (hno : ¬p → IsPiece quote no.toList point) :
    IsPiece quote (if p then yes else no).toList point := by
  by_cases h : p
  · rw [if_pos h]
    exact hyes h
  · rw [if_neg h]
    exact hno h

/-- The body of a literal stands for code points, piece by piece. -/
abbrev IsBody (quote : Char) : List Char → CodePoints → Prop :=
  Pieces (IsPiece quote)

variable {quote : Char} {piece body : List Char} {point : Nat} {points : CodePoints}

/-! ## Undoing escapes -/

/-- A line feed is no mark of a simple escape. -/
theorem ne_newline_of_simple? {c : Char} (h : Escape.simple? c = some point) : c ≠ '\n' := by
  rintro rfl
  cases h

/-- The mark of a hexadecimal escape has no other meaning. -/
theorem simple?_of_hexEscape? {c : Char} {size : Nat × String}
    (h : Escape.hexEscape? c = some size) :
    c ≠ '\n' ∧ Escape.simple? c = none ∧ Escape.octalDigit? c = none := by
  have hmark : c = 'x' ∨ c = 'u' ∨ c = 'U' := by
    unfold Escape.hexEscape? at h
    by_contra hnone
    simp only [not_or] at hnone
    rw [if_neg hnone.1, if_neg hnone.2.1, if_neg hnone.2.2] at h
    cases h
  rcases hmark with rfl | rfl | rfl <;> decide

/-- A piece is decoded to its code point in one step. -/
theorem IsPiece.decode (h : IsPiece quote piece point) (lookup : String → Option Nat) :
    0 < piece.length ∧ ∀ read position fuel rest, ∃ next,
      Escape.decodeTextFrom lookup read position (fuel + 1) (piece ++ rest) =
        Escape.decodeTextFrom lookup (point :: read) next fuel rest := by
  refine ⟨by cases h <;> exact Nat.zero_lt_succ _, fun read position fuel rest => ?_⟩
  cases h with
  | @plain c unquoted unescaped inLine =>
    refine ⟨position + Escape.width c, ?_⟩
    rw [List.singleton_append, Escape.decodeTextFrom]
    · intro h _
      exact unescaped h
    · intro _ _ h _
      exact unescaped h
  | @simple c _ denoted =>
    refine ⟨position + 2, ?_⟩
    rw [List.cons_append, List.singleton_append, Escape.decodeTextFrom,
      if_neg (ne_newline_of_simple? denoted), denoted]
  | @hex c digits reason marked areDigits valid =>
    obtain ⟨hline, hsimple, hoctal⟩ := simple?_of_hexEscape? marked
    refine ⟨position + 2 + digits.length, ?_⟩
    rw [List.cons_append, List.cons_append, Escape.decodeTextFrom, if_neg hline, hsimple, hoctal,
      marked]
    dsimp only
    rw [Escape.takeHex_digits areDigits]
    dsimp only
    rw [if_neg (Nat.not_lt.mpr valid)]

/-- A body is decoded to its code points. -/
theorem IsBody.decodeText (h : IsBody quote body points) (lookup : String → Option Nat) :
    Escape.decodeText lookup body = .ok points :=
  h.decode (fun _ _ _ => rfl) (fun _ _ first => first.decode lookup) [] 0 (Nat.lt_succ_self _)

/-! ## Finding the closing quote -/

/-- The quotes of literals. -/
def IsQuote (quote : Char) : Prop :=
  quote = '"' ∨ quote = '\''

/-- A hexadecimal digit is a plain character. -/
theorem plain_of_isHexDigit {c : Char} (h : IsHexDigit c) (hquote : IsQuote quote) :
    c ≠ quote ∧ c ≠ '\\' ∧ c ≠ '\n' := by
  have hdigit := h.isAlphanum
  refine ⟨?_, ?_, ?_⟩
  · rintro rfl
    rcases hquote with rfl | rfl <;> cases hdigit
  · rintro rfl
    cases hdigit
  · rintro rfl
    cases hdigit

/-- Plain characters are read as they are. -/
theorem readBody_plain {cs : List Char} (h : ∀ c ∈ cs, c ≠ quote ∧ c ≠ '\\' ∧ c ≠ '\n')
    (read : List Char) (line : Nat) (rest : List Char) :
    readBody quote 1 read 0 line (cs ++ rest) =
      readBody quote 1 (cs.reverse ++ read) 0 line rest := by
  induction cs generalizing read with
  | nil => rfl
  | cons c cs ih =>
    obtain ⟨hquote, hescape, hline⟩ := h c List.mem_cons_self
    rw [List.cons_append, readBody, if_neg (fun h => hline h.1), if_neg hquote, if_neg hline,
      ih (fun c hc => h c (List.mem_cons_of_mem _ hc)), List.reverse_cons, List.append_assoc]
    · rfl
    · intro _ _ h _
      exact hescape h

/-- A piece is read without ending the literal or its line. -/
theorem IsPiece.readBody (h : IsPiece quote piece point) (hquote : IsQuote quote)
    (read : List Char) (line : Nat) (rest : List Char) :
    readBody quote 1 read 0 line (piece ++ rest) =
      readBody quote 1 (piece.reverse ++ read) 0 line rest := by
  cases h with
  | plain unquoted unescaped inLine =>
    refine readBody_plain ?_ read line rest
    intro c hc
    rw [List.mem_singleton.mp hc]
    exact ⟨unquoted, unescaped, inLine⟩
  | simple denoted =>
    rw [List.cons_append, List.singleton_append, Syntax.readBody,
      if_neg (ne_newline_of_simple? denoted)]
    rfl
  | hex marked areDigits valid =>
    rw [List.cons_append, List.cons_append, Syntax.readBody,
      if_neg (simple?_of_hexEscape? marked).1,
      -- Only the backslash and the mark are read as an escape; the digits are plain characters.
      readBody_plain (fun d hd => plain_of_isHexDigit (areDigits d hd) hquote)]
    simp only [List.reverse_cons, List.append_assoc, List.cons_append, List.nil_append]

/-- A body is read up to the quote behind it. -/
theorem IsBody.readBody (h : IsBody quote body points) (hquote : IsQuote quote)
    (read : List Char) (line : Nat) (rest : List Char) :
    readBody quote 1 read 0 line (body ++ quote :: rest) =
      .ok (quote :: (body.reverse ++ read), rest, line) := by
  induction h generalizing read with
  | nil =>
    have hescape : quote ≠ '\\' := by
      rintro rfl
      rcases hquote with h | h <;> cases h
    have hline : quote ≠ '\n' := by
      rintro rfl
      rcases hquote with h | h <;> cases h
    rw [List.nil_append, Syntax.readBody, if_neg (fun h => hline h.1), if_pos rfl, if_pos rfl]
    · rfl
    · intro _ _ h _
      exact hescape h
  | cons first others ih =>
    rw [List.append_assoc, first.readBody hquote, ih, List.reverse_append, List.append_assoc]

/-- A body does not begin with its quote. -/
theorem IsBody.head?_ne (h : IsBody quote body points) (hquote : IsQuote quote) :
    body.head? ≠ some quote := by
  have hescape : '\\' ≠ quote := by
    rintro rfl
    rcases hquote with h | h <;> cases h
  cases h with
  | nil => nofun
  | cons first others =>
    cases first with
    | plain unquoted => exact fun h => unquoted (Option.some.inj h)
    | simple => exact fun h => hescape (Option.some.inj h)
    | hex => exact fun h => hescape (Option.some.inj h)

/-- A text that does not begin with the quote is the body of a literal on one line. -/
theorem readString_of_head?_ne {marks text : List Char} {line : Nat}
    {result : List Char × List Char × Nat} (hhead : text.head? ≠ some quote)
    (hread : readBody quote 1 (quote :: marks) 0 line text = .ok result) :
    readString marks quote line text = .ok result := by
  have hsingle : readString.single marks quote line text = .ok result := by
    rw [readString.single, hread]
  match text with
  | [] => exact hsingle
  | [c] =>
    have hc : c ≠ quote := fun h => hhead (congrArg some h)
    rw [readString, if_neg hc, hsingle]
  | c :: c' :: cs =>
    have hc : c ≠ quote := fun h => hhead (congrArg some h)
    rw [readString, if_neg (fun h => hc h.1), if_neg hc, hsingle]

/-- A literal is read up to its closing quote. An empty one must not have another quote behind it,
which would make it the beginning of a longer one. -/
theorem IsBody.readString (h : IsBody quote body points) (hquote : IsQuote quote)
    (marks : List Char) (line : Nat) {rest : List Char} (hrest : rest.head? ≠ some quote) :
    readString marks quote line (body ++ quote :: rest) =
      .ok (quote :: (body.reverse ++ quote :: marks), rest, line) := by
  cases body with
  | nil =>
    cases rest with
    | nil =>
      rw [List.nil_append, Syntax.readString, if_pos rfl]
      rfl
    | cons c rest =>
      have hc : c ≠ quote := fun h => hrest (congrArg some h)
      rw [List.nil_append, Syntax.readString, if_neg (fun h => hc h.2), if_pos rfl]
      rfl
  | cons c body =>
    refine readString_of_head?_ne ?_ (h.readBody hquote (quote :: marks) line rest)
    exact h.head?_ne hquote

/-! ## The value of a token -/

/-- A body is what is left when the quotes are taken off. -/
theorem IsBody.stripQuotes (h : IsBody quote body points) (hquote : IsQuote quote) :
    Literal.stripQuotes (quote :: (body ++ [quote])) = body := by
  have hhead := h.head?_ne hquote
  have hinner : ((quote :: (body ++ [quote])).drop 1).dropLast = body := by
    rw [List.drop_one, List.tail_cons, List.dropLast_concat]
  unfold Literal.stripQuotes
  simp only [hinner]
  split
  · rw [if_neg]
    rintro ⟨hfirst, _⟩
    exact hhead hfirst
  · rfl

/-- The text of a token: its marks, and a body between quotes. -/
def tokenChars (marks : List Char) (quote : Char) (body : List Char) : List Char :=
  marks ++ quote :: (body ++ [quote])

/-- A token is taken apart into its marks and its body. -/
theorem IsBody.ofToken (h : IsBody quote body points) (hquote : IsQuote quote) {marks : List Char}
    (hmarks : ∀ c ∈ marks, ¬IsQuote c) (line depth : Nat) :
    Literal.ofToken ⟨.string, String.ofList (tokenChars marks quote body), line, depth⟩ =
      { isBytes := marks.any (·.toLower == 'b')
        isFormatted := marks.any (·.toLower == 'f')
        isRaw := marks.any (·.toLower == 'r')
        body := body
        line := line } := by
  have hmark : ∀ c ∈ marks, (!(c == '"' || c == '\'')) = true := by
    intro c hc
    have hc := hmarks c hc
    rw [IsQuote, not_or] at hc
    simp [hc]
  have hend : ¬(!(quote == '"' || quote == '\'')) = true := by
    rcases hquote with rfl | rfl <;> decide
  have htake : (quote :: (body ++ [quote])).takeWhile (fun c => !(c == '"' || c == '\'')) = [] :=
    List.takeWhile_cons_of_neg hend
  have hdrop : (quote :: (body ++ [quote])).dropWhile (fun c => !(c == '"' || c == '\'')) =
      quote :: (body ++ [quote]) :=
    List.dropWhile_cons_of_neg hend
  unfold Literal.ofToken tokenChars
  simp only [String.toList_ofList, List.takeWhile_append_of_pos hmark,
    List.dropWhile_append_of_pos hmark, htake, hdrop, List.append_nil, h.stripQuotes hquote]

/-- The marks of the literal of a text. -/
def textMarks (marked : Bool) : List Char :=
  if marked then ['u'] else []

/-- The value of a token without marks, or with the mark of a text, is the text of its body. -/
theorem IsBody.literalValue (h : IsBody quote body points) (hquote : IsQuote quote)
    (r : Formatted.Reading) (marked : Bool) (line depth : Nat) :
    literalValue r
        [⟨.string, String.ofList (tokenChars (textMarks marked) quote body), line, depth⟩] =
      .ok (.constant (.text points marked)) := by
  have hmarks : ∀ c ∈ textMarks marked, ¬IsQuote c := by
    cases marked <;> simp [textMarks, IsQuote]
  have hvalue : LiteralValue.append r none ⟨false, false, false, body, line⟩ =
      .ok (.text ⟨[], points⟩ false) := by
    unfold LiteralValue.append Formatted.Reading.orReport
    simp only [h.decodeText r.lookup]
    rfl
  have hmark : (String.ofList (tokenChars (textMarks marked) quote body)).startsWith "u" =
      marked := by
    cases marked with
    | false =>
      rw [String.startsWith_string_eq_false_iff]
      rintro ⟨rest, hrest⟩
      have hu : 'u' = quote := (List.cons.inj (hrest.trans String.toList_ofList)).1
      subst hu
      rcases hquote with h | h <;> cases h
    | true =>
      rw [String.startsWith_string_iff]
      exact ⟨quote :: (body ++ [quote]), String.toList_ofList.symm⟩
  have hunmarked : (textMarks marked).any (·.toLower == 'b') = false ∧
      (textMarks marked).any (·.toLower == 'f') = false ∧
      (textMarks marked).any (·.toLower == 'r') = false := by
    cases marked <;> decide
  unfold Syntax.literalValue
  simp only [List.foldlM_cons, List.foldlM_nil, h.ofToken hquote hmarks, hunmarked.1,
    hunmarked.2.1, hunmarked.2.2, hvalue, List.head?_cons, Option.any_some, hmark]
  rfl

/-! ## Staying on a line -/

/-- There is no line feed in a piece. -/
theorem IsPiece.newline_not_mem (h : IsPiece quote piece point) : '\n' ∉ piece := by
  have hescape : '\n' ≠ '\\' := by decide
  intro hmem
  cases h with
  | plain _ _ inLine => exact inLine (List.mem_singleton.mp hmem).symm
  | simple denoted =>
    rcases List.mem_cons.mp hmem with h | hmem
    · exact hescape h
    · exact ne_newline_of_simple? denoted (List.mem_singleton.mp hmem).symm
  | hex marked areDigits _ =>
    rcases List.mem_cons.mp hmem with h | hmem
    · exact hescape h
    · rcases List.mem_cons.mp hmem with h | hmem
      · exact (simple?_of_hexEscape? marked).1 h.symm
      · exact (plain_of_isHexDigit (areDigits _ hmem) (.inl rfl)).2.2 rfl

/-- There is no line feed in a body. -/
theorem IsBody.newline_not_mem (h : IsBody quote body points) : '\n' ∉ body := by
  have hne : ∀ c ∈ body, c ≠ '\n' := by
    refine h.forall_mem (p := (· ≠ '\n')) ?_
    rintro piece point hpiece c hc rfl
    exact hpiece.newline_not_mem hc
  intro hmem
  exact hne '\n' hmem rfl

/-- A line feed is no quote. -/
theorem IsQuote.ne_newline (h : IsQuote quote) : '\n' ≠ quote := by
  rintro rfl
  rcases h with h | h <;> cases h

/-! ## Reading a literal off a text -/

/-- Reads a literal at the beginning of a text, if there is one. -/
def takeLiteral (r : Formatted.Reading) (cs : List Char) : Option (Expr × List Char) :=
  match splitMarks? {} [] cs with
  | none => none
  | some (marks, quote, afterQuote) =>
    match readString marks quote 1 afterQuote with
    | .error _ => none
    | .ok (read, rest, _) =>
      (literalValue r [⟨.string, String.ofList read.reverse, 1, 0⟩]).toOption.map (·, rest)

/-- A token is read off a text up to its closing quote. -/
theorem IsBody.takeLiteral (h : IsBody quote body points) (hquote : IsQuote quote)
    {r : Formatted.Reading} {marks rest : List Char} {e : Expr}
    (hsplit : ∀ cs, splitMarks? {} [] (marks ++ quote :: cs) = some (marks.reverse, quote, cs))
    (hvalue : Syntax.literalValue r
      [⟨.string, String.ofList (tokenChars marks quote body), 1, 0⟩] = .ok e)
    (hrest : rest.head? ≠ some quote) :
    takeLiteral r (tokenChars marks quote body ++ rest) = some (e, rest) := by
  have hreverse : (quote :: (body.reverse ++ quote :: marks.reverse)).reverse =
      tokenChars marks quote body := by
    simp only [tokenChars, List.reverse_cons, List.reverse_append, List.reverse_reverse,
      List.append_assoc, List.cons_append, List.nil_append]
  have hchars : tokenChars marks quote body ++ rest = marks ++ quote :: (body ++ quote :: rest) := by
    simp only [tokenChars, List.append_assoc, List.cons_append, List.nil_append]
  unfold Syntax.takeLiteral
  rw [hchars, hsplit]
  simp only [h.readString hquote _ 1 hrest, hreverse, hvalue]
  rfl

/-- The literal of a text is read off a text up to its closing quote. -/
theorem IsBody.takeLiteral_text (h : IsBody quote body points) (hquote : IsQuote quote)
    (r : Formatted.Reading) (marked : Bool) {rest : List Char} (hrest : rest.head? ≠ some quote) :
    Syntax.takeLiteral r (tokenChars (textMarks marked) quote body ++ rest) =
      some (.constant (.text points marked), rest) := by
  refine h.takeLiteral hquote ?_ (h.literalValue hquote r marked 1 0) hrest
  intro cs
  rcases hquote with rfl | rfl <;> cases marked <;> rfl

end Syntax

/-! ## The quoted form -/

section Quoted

open Bundler.Syntax

variable {quote : Char}

/-- The quotes of a quoted form are quotes. -/
theorem isQuote_preferredQuote (points : CodePoints) : IsQuote (Text.preferredQuote points) := by
  unfold Text.preferredQuote
  split
  · exact .inl rfl
  · exact .inr rfl

/-- A numeric escape is a piece. -/
theorem isPiece_numericEscape {point : Nat} (h : point ≤ 0x10ffff) :
    IsPiece quote (Text.numericEscape point).toList point := by
  unfold Text.numericEscape
  split
  · rename_i hlt
    rw [String.toList_append]
    exact isPiece_hexPadded 'x' 2 rfl (by decide) hlt h
  · split
    · rename_i hlt
      rw [String.toList_append]
      exact isPiece_hexPadded 'u' 4 rfl (by decide) hlt h
    · rw [String.toList_append]
      exact isPiece_hexPadded 'U' 8 rfl (by decide) (by omega) h

/-- A character between quotes stands for itself. -/
theorem isPiece_quotedPoint (hquote : IsQuote quote) (c : Char) :
    IsPiece quote (Text.quotedPoint quote c.toNat).toList c.toNat := by
  have hself : IsPiece quote ("\\" ++ quote.toString).toList quote.toNat := by
    rw [String.toList_append, Char.toString_eq_singleton, String.toList_singleton]
    rcases hquote with rfl | rfl <;> exact .simple rfl
  unfold Text.quotedPoint
  simp only [Char.toNat_inj, Char.ofNat_toNat]
  refine isPiece_ite (fun h => h ▸ hself) fun unquoted => ?_
  refine isPiece_ite (fun h => h ▸ .simple rfl) fun unescaped => ?_
  refine isPiece_ite (fun h => h ▸ .simple rfl) fun inLine => ?_
  refine isPiece_ite (fun h => h ▸ .simple rfl) fun _ => ?_
  refine isPiece_ite (fun h => h ▸ .simple rfl) fun _ => ?_
  refine isPiece_ite (fun _ => ?_) fun _ => isPiece_numericEscape ?_
  · rw [Char.toString_eq_singleton, String.toList_singleton]
    exact .plain unquoted unescaped inLine
  · rcases c.valid with h | h <;> (change c.val.toNat ≤ _; omega)

/-- What stands between the quotes of the quoted form is the body of the text. -/
theorem isBody_quotedBody (hquote : IsQuote quote) (s : String) :
    IsBody quote (Text.quotedBody quote (CodePoints.ofString s)).toList (CodePoints.ofString s) := by
  unfold Text.quotedBody CodePoints.ofString
  rw [String.toList_join, List.flatMap_map, List.flatMap_map]
  exact Pieces.flatMap (isPiece_quotedPoint hquote) s.toList

/-- The quoted form of a text is a body of the text between quotes. -/
theorem exists_isBody_quoted (s : String) :
    ∃ quote body, IsQuote quote ∧ IsBody quote body (CodePoints.ofString s) ∧
      (Text.quoted s).toList = tokenChars [] quote body := by
  have hquote := isQuote_preferredQuote (CodePoints.ofString s)
  refine ⟨_, _, hquote, isBody_quotedBody hquote s, ?_⟩
  unfold Text.quoted Text.quotedPoints tokenChars
  simp only [String.toList_append, Char.toString_eq_singleton, String.toList_singleton,
    List.cons_append, List.nil_append]

/-- The quoted form of a text is read as the text, also behind the mark of a text. -/
theorem takeLiteral_quoted (r : Formatted.Reading) (s : String) (marked : Bool) {rest : List Char}
    (hrest : ∀ quote, IsQuote quote → rest.head? ≠ some quote) :
    takeLiteral r (textMarks marked ++ (Text.quoted s).toList ++ rest) =
      some (.constant (.text (CodePoints.ofString s) marked), rest) := by
  obtain ⟨quote, body, hquote, hbody, heq⟩ := exists_isBody_quoted s
  rw [heq]
  exact hbody.takeLiteral_text hquote r marked (hrest quote hquote)

/-- A quoted form stays on one line. -/
theorem newline_not_mem_quoted (s : String) : '\n' ∉ (Text.quoted s).toList := by
  obtain ⟨quote, body, hquote, hbody, heq⟩ := exists_isBody_quoted s
  rw [heq, tokenChars, List.nil_append, List.mem_cons, List.mem_append, List.mem_singleton]
  rintro (h | h | h)
  · exact hquote.ne_newline h
  · exact hbody.newline_not_mem h
  · exact hquote.ne_newline h

/-- There is no carriage return in what is chosen if there is none in either choice. -/
theorem return_not_mem_ite {p : Prop} [Decidable p] {yes no : String}
    (hyes : p → '\r' ∉ yes.toList) (hno : ¬p → '\r' ∉ no.toList) :
    '\r' ∉ (if p then yes else no).toList := by
  by_cases h : p
  · rw [if_pos h]
    exact hyes h
  · rw [if_neg h]
    exact hno h

/-- There is no carriage return in a numeric escape. -/
theorem return_not_mem_hexPadded {front : String} (hfront : '\r' ∉ front.toList) (width n : Nat) :
    '\r' ∉ (front ++ Text.hexPadded width n).toList := by
  rw [String.toList_append, List.mem_append]
  rintro (h | h)
  · exact hfront h
  · cases (isHexDigit_of_mem_hexPadded h).isAlphanum

/-- There is no carriage return in a quoted character. -/
theorem return_not_mem_quotedPoint (hquote : IsQuote quote) (c : Char) :
    '\r' ∉ (Text.quotedPoint quote c.toNat).toList := by
  have hself : '\r' ∉ ("\\" ++ quote.toString).toList := by
    rcases hquote with rfl | rfl <;> decide
  unfold Text.quotedPoint Text.numericEscape
  simp only [Char.toNat_inj, Char.ofNat_toNat]
  refine return_not_mem_ite (fun _ => hself) fun _ => ?_
  refine return_not_mem_ite (fun _ => by decide) fun _ => ?_
  refine return_not_mem_ite (fun _ => by decide) fun _ => ?_
  refine return_not_mem_ite (fun _ => by decide) fun unescaped => ?_
  refine return_not_mem_ite (fun _ => by decide) fun _ => ?_
  refine return_not_mem_ite (fun _ => ?_) fun _ => ?_
  · rw [Char.toString_eq_singleton, String.toList_singleton, List.mem_singleton]
    exact fun h => unescaped h.symm
  · refine return_not_mem_ite (fun _ => return_not_mem_hexPadded (by decide) _ _) fun _ => ?_
    exact return_not_mem_ite (fun _ => return_not_mem_hexPadded (by decide) _ _)
      fun _ => return_not_mem_hexPadded (by decide) _ _

/-- A carriage return is quoted as an escape. -/
theorem return_not_mem_quoted (s : String) : '\r' ∉ (Text.quoted s).toList := by
  have hquote := isQuote_preferredQuote (CodePoints.ofString s)
  have hne : '\r' ≠ Text.preferredQuote (CodePoints.ofString s) := by
    intro h
    rw [← h] at hquote
    rcases hquote with h | h <;> cases h
  have hbody : '\r' ∉ (Text.quotedBody (Text.preferredQuote (CodePoints.ofString s))
      (CodePoints.ofString s)).toList := by
    rw [Text.quotedBody, String.toList_join, List.flatMap_map]
    intro h
    obtain ⟨_, hpoint, hmem⟩ := List.mem_flatMap.mp h
    obtain ⟨c, _, rfl⟩ := List.mem_map.mp hpoint
    exact return_not_mem_quotedPoint hquote c hmem
  unfold Text.quoted Text.quotedPoints
  rw [String.toList_append, String.toList_append, Char.toString_eq_singleton,
    String.toList_singleton, List.mem_append, List.mem_append, List.mem_singleton]
  exact fun h => h.elim (fun h => h.elim hne hbody) hne

end Quoted

/-! ## The form of data values -/

section Escaped

open Bundler.Syntax

/-- A character of a text in a data value stands for itself. -/
theorem isPiece_escapedChar (c : Char) : IsPiece '"' (Json.escapedChar c).toList c.toNat := by
  have hself : c = '"' → IsPiece '"' "\\\"".toList c.toNat := by
    rintro rfl
    exact .simple rfl
  unfold Json.escapedChar
  refine isPiece_ite hself fun unquoted => ?_
  refine isPiece_ite (fun h => h ▸ .simple rfl) fun unescaped => ?_
  refine isPiece_ite (fun h => h ▸ .simple rfl) fun inLine => ?_
  refine isPiece_ite (fun h => h ▸ .simple rfl) fun _ => ?_
  refine isPiece_ite (fun h => h ▸ .simple rfl) fun _ => ?_
  refine isPiece_ite (fun h => h ▸ .simple rfl) fun _ => ?_
  refine isPiece_ite (fun h => h ▸ .simple rfl) fun _ => ?_
  refine isPiece_ite (fun hlt => ?_) fun _ => ?_
  · rw [String.toList_append]
    exact isPiece_hexPadded 'u' 4 rfl (by decide) (by omega) (by omega)
  · rw [Char.toString_eq_singleton, String.toList_singleton]
    exact .plain unquoted unescaped inLine

/-- The text of a data value is a body of the text between double quotes. -/
theorem exists_isBody_escaped (s : String) :
    ∃ body, IsBody '"' body (CodePoints.ofString s) ∧
      (Json.escaped s).toList = tokenChars [] '"' body := by
  refine ⟨s.toList.flatMap fun c => (Json.escapedChar c).toList,
    Pieces.flatMap isPiece_escapedChar s.toList, ?_⟩
  unfold Json.escaped
  rw [String.toList_append, String.toList_append, String.toList_join, List.flatMap_map]
  rfl

/-- The text of a data value is read as a literal that denotes it. -/
theorem takeLiteral_escaped (r : Formatted.Reading) (s : String) {rest : List Char}
    (hrest : rest.head? ≠ some '"') :
    takeLiteral r ((Json.escaped s).toList ++ rest) =
      some (.constant (.text (CodePoints.ofString s) false), rest) := by
  obtain ⟨body, hbody, heq⟩ := exists_isBody_escaped s
  rw [heq]
  exact hbody.takeLiteral_text (.inl rfl) r false hrest

/-- The text of a data value stays on one line. -/
theorem newline_not_mem_escaped (s : String) : '\n' ∉ (Json.escaped s).toList := by
  obtain ⟨body, hbody, heq⟩ := exists_isBody_escaped s
  rw [heq, tokenChars, List.nil_append, List.mem_cons, List.mem_append, List.mem_singleton]
  rintro (h | h | h)
  · cases h
  · exact hbody.newline_not_mem h
  · cases h

/-- There is no carriage return in an escaped character. -/
theorem return_not_mem_escapedChar (c : Char) : '\r' ∉ (Json.escapedChar c).toList := by
  unfold Json.escapedChar
  refine return_not_mem_ite (fun _ => by decide) fun _ => ?_
  refine return_not_mem_ite (fun _ => by decide) fun _ => ?_
  refine return_not_mem_ite (fun _ => by decide) fun _ => ?_
  refine return_not_mem_ite (fun _ => by decide) fun unescaped => ?_
  refine return_not_mem_ite (fun _ => by decide) fun _ => ?_
  refine return_not_mem_ite (fun _ => by decide) fun _ => ?_
  refine return_not_mem_ite (fun _ => by decide) fun _ => ?_
  refine return_not_mem_ite (fun _ => return_not_mem_hexPadded (by decide) _ _) fun _ => ?_
  rw [Char.toString_eq_singleton, String.toList_singleton, List.mem_singleton]
  exact fun h => unescaped h.symm

/-- A carriage return in a data value is escaped. -/
theorem return_not_mem_escaped (s : String) : '\r' ∉ (Json.escaped s).toList := by
  unfold Json.escaped
  rw [String.toList_append, String.toList_append, String.toList_join, List.flatMap_map,
    List.mem_append, List.mem_append, List.mem_flatMap]
  rintro ((h | ⟨c, _, h⟩) | h)
  · exact absurd h (by decide)
  · exact return_not_mem_escapedChar c h
  · exact absurd h (by decide)

end Escaped

end Bundler
