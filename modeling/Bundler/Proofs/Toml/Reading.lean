import Bundler.Proofs.Outcome
import Bundler.Toml.Document

/-!
# Long integers and deep values in a document

Reading a document fails because of an integer only if the document holds one: a run of digits and
underscores with more digits than an integer may have. It fails because values are nested too deeply
only if there are brackets and braces enough for it. Every reader goes on in what is left of its text, so
that what it meets stands in the document.
-/

set_option autoImplicit false

namespace Bundler.Toml

variable {calls : Nat} {α β : Type} {left : α → List Char} {next : β → List Char} {cs rest : List Char}

/-- In a text stands a run of digits and underscores with so many digits, which are too many for an
integer. -/
structure HasLongInteger (digits : Nat) (cs : List Char) : Prop where
  /-- There are too many digits. -/
  lt : maxDigits < digits
  /-- The run. -/
  run : ∃ numeral, numeral <:+: cs ∧ numeral.countP Char.isDigit = digits ∧
    ∀ c ∈ numeral, c.isDigit = true ∨ c = '_'

/-- A long integer in a part of a text is one in the text. -/
theorem HasLongInteger.mono {digits : Nat} (h : HasLongInteger digits rest) (hrest : rest <:+: cs) :
    HasLongInteger digits cs where
  lt := h.lt
  run := by
    obtain ⟨numeral, hnumeral, hrun⟩ := h.run
    exact ⟨numeral, hnumeral.trans hrest, hrun⟩

/-- The number of calls that may be nested because of the brackets and braces in a text. -/
def nestingBound (cs : List Char) : Nat :=
  2 * cs.count '[' + 3 * cs.count '{'

/-- A part of a text has no more brackets and braces. -/
theorem nestingBound_mono (h : rest.Sublist cs) : nestingBound rest ≤ nestingBound cs := by
  have hbrackets := h.count_le '['
  have hbraces := h.count_le '{'
  unfold nestingBound
  omega

/-- The brackets and braces of a text are counted one by one. -/
theorem nestingBound_cons (c : Char) (cs : List Char) :
    nestingBound (c :: cs) = nestingBound [c] + nestingBound cs := by
  simp only [nestingBound, List.count_cons, List.count_nil]
  omega

/-- A reader that succeeds leaves an end of the text behind. One that fails because of an integer has
met it in the text, and one that fails because values are nested too deeply has met brackets and
braces. -/
structure Reads (calls : Nat) (left : α → List Char) (cs : List Char) (x : Except ReadError α) :
    Prop where
  /-- What is left is an end of the text. -/
  suffix : ∀ a, x = .ok a → left a <:+ cs
  /-- The integer stands in the text. -/
  long : ∀ digits, x = .error (.integerDigits digits) → HasLongInteger digits cs
  /-- All calls have been used for brackets and braces. -/
  deep : x = .error .nesting → calls ≤ nestingBound cs

namespace Reads

/-- A value has been read if what is left is an end of the text. -/
theorem ok {a : α} (h : left a <:+ cs) : Reads calls left cs (.ok a) where
  suffix := by
    rintro _ ⟨⟩
    exact h
  long := by
    rintro _ ⟨⟩
  deep := by
    rintro ⟨⟩

/-- A fault says nothing about long integers or nesting. -/
theorem fault {fault : Fault} {n : Nat} : Reads calls left cs (.error (.fault fault n)) where
  suffix := by
    rintro _ ⟨⟩
  long := by
    rintro _ ⟨⟩
  deep := by
    rintro ⟨⟩

/-- Failing is a fault. -/
theorem fail {fault : Fault} : Reads calls left cs (Toml.fail fault rest) :=
  Reads.fault

/-- What is read off an end of a text is read off the text. -/
theorem mono {x : Except ReadError α} (h : Reads calls left rest x) (hrest : rest <:+ cs) :
    Reads calls left cs x where
  suffix := fun a ha => (h.suffix a ha).trans hrest
  long := fun digits hx => (h.long digits hx).mono hrest.isInfix
  deep := fun hx => (h.deep hx).trans (nestingBound_mono hrest.sublist)

/-- A reader that goes on where another one has stopped. -/
theorem bind {x : Except ReadError α} {f : α → Except ReadError β} (hx : Reads calls left cs x)
    (hf : ∀ a, Reads calls next (left a) (f a)) : Reads calls next cs (x >>= f) := by
  cases hcase : x with
  | ok a =>
    rw [hcase] at hx
    exact (hf a).mono (hx.suffix a rfl)
  | error e =>
    refine ⟨?_, ?_, ?_⟩
    · rintro _ ⟨⟩
    · rintro digits ⟨⟩
      exact hx.long digits hcase
    · rintro ⟨⟩
      exact hx.deep hcase

/-- A value that has been read may be changed. -/
theorem map {x : Except ReadError α} {f : α → β} (hx : Reads calls left cs x)
    (hf : ∀ a, next (f a) <:+ left a) : Reads calls next cs (x.map f) := by
  have hmap : x.map f = x >>= fun a => .ok (f a) := by cases x <;> rfl
  rw [hmap]
  exact hx.bind fun a => .ok (hf a)

/-- A reader that is called behind a bracket or a brace, with fewer calls left. -/
theorem enter {x : Except ReadError α} {n : Nat} {c : Char} {tail : List Char}
    (h : Reads (calls - n) left rest x) (hrest : rest <:+ tail) (hopen : n ≤ nestingBound [c]) :
    Reads calls left (c :: tail) x where
  suffix := fun a ha => (h.suffix a ha).trans (hrest.trans (List.suffix_cons c tail))
  long := fun digits hx =>
    (h.long digits hx).mono (hrest.trans (List.suffix_cons c tail)).isInfix
  deep := by
    intro hx
    have hcalls := (h.deep hx).trans (nestingBound_mono hrest.sublist)
    rw [nestingBound_cons]
    omega

end Reads

/-! ## Blanks and comments -/

/-- Illegal characters are refused. -/
theorem reads_refuseIllegal (illegal : Char → Bool) (cs rest : List Char) :
    Reads calls (fun _ => cs) cs (refuseIllegal illegal cs rest) := by
  unfold refuseIllegal
  dsimp only
  split
  · split
    · exact .fault
    · exact .ok List.suffix_rfl
  · exact .ok List.suffix_rfl

/-- A comment is skipped. -/
theorem reads_skipComment (cs : List Char) : Reads calls id cs (skipComment cs) := by
  unfold skipComment
  split
  · rename_i tail
    refine ((reads_refuseIllegal _ tail _).mono (List.suffix_cons _ _)).bind fun _ => ?_
    exact .ok (List.dropWhile_suffix _)
  · exact .ok List.suffix_rfl

/-- Gaps between items are skipped. -/
theorem reads_skipGaps (times : Nat) (cs : List Char) : Reads calls id cs (skipGaps times cs) := by
  induction times generalizing cs with
  | zero => exact .ok List.suffix_rfl
  | succ times ih =>
    unfold skipGaps
    refine ((reads_skipComment _).mono (List.dropWhile_suffix _)).bind fun rest => ?_
    dsimp only [id]
    split
    · exact .ok List.suffix_rfl
    · exact ih rest

/-! ## Texts -/

/-- What is left up to some characters is an end of the text. -/
theorem suffix_readUpTo (expected cs : List Char) : (readUpTo expected cs).2 <:+ cs := by
  induction cs with
  | nil => exact List.suffix_rfl
  | cons c cs ih =>
    unfold readUpTo
    split
    · exact List.suffix_rfl
    · exact ih.trans (List.suffix_cons c cs)

/-- A literal text is read. -/
theorem reads_readLiteral (quotes : List Char) (illegal : Char → Bool) (cs : List Char) :
    Reads calls Prod.snd cs (readLiteral quotes illegal cs) := by
  have hrest := suffix_readUpTo quotes cs
  unfold readLiteral
  split
  · exact .fail
  · rename_i hread
    rw [hread] at hrest
    refine (reads_refuseIllegal illegal cs _).bind fun _ => ?_
    exact .ok ((List.drop_suffix _ _).trans hrest)

/-- Hexadecimal digits are read. -/
theorem reads_readHex (size : Nat) (cs : List Char) : Reads calls Prod.snd cs (readHex size cs) := by
  unfold readHex
  split
  · dsimp only
    split
    · exact .fail
    · split
      · exact .ok (List.drop_suffix _ _)
      · exact .fail
  · exact .fail

/-- What is left behind blank lines is an end of the text. -/
theorem suffix_skipBlankLines (cs : List Char) : skipBlankLines cs <:+ cs :=
  List.dropWhile_suffix _

/-- What is left behind blanks is an end of the text. -/
theorem suffix_skipBlanks (cs : List Char) : skipBlanks cs <:+ cs :=
  List.dropWhile_suffix _

/-- An escape is read. -/
theorem reads_readEscape (multiline : Bool) (cs : List Char) :
    Reads calls Prod.snd cs (readEscape multiline cs) := by
  unfold readEscape
  split
  · exact .fail
  · rename_i c rest
    have hrest : rest <:+ c :: rest := List.suffix_cons c rest
    have hhex : ∀ size, Reads calls Prod.snd (c :: rest)
        (readHex size rest >>= fun x => .ok ([x.1], x.2)) := fun size =>
      ((reads_readHex size rest).mono hrest).bind fun _ => .ok List.suffix_rfl
    split
    · exact .ok ((suffix_skipBlankLines rest).trans hrest)
    · split
      · have hblanks := suffix_skipBlanks rest
        split
        · exact .ok (List.nil_suffix)
        · rename_i tail htail
          rw [htail] at hblanks
          exact .ok (((suffix_skipBlankLines tail).trans (List.suffix_cons _ _)).trans
            (hblanks.trans hrest))
        · exact .fail
      · split
        · exact hhex 4
        · split
          · exact hhex 8
          · split
            · exact .ok hrest
            · exact .fail

/-- A basic text is read from some character on. -/
theorem reads_readBasicFrom (multiline : Bool) (read : List Char) (fuel : Nat) (cs : List Char) :
    Reads calls Prod.snd cs (readBasicFrom multiline read fuel cs) := by
  induction fuel generalizing read cs with
  | zero => exact .fail
  | succ fuel ih =>
    cases cs with
    | nil => exact .fail
    | cons c cs =>
      have hcs : cs <:+ c :: cs := List.suffix_cons c cs
      unfold readBasicFrom
      split
      · split
        · exact .ok hcs
        · split
          · exact .ok (((List.suffix_cons _ _).trans (List.suffix_cons _ _)).trans hcs)
          · exact (ih _ cs).mono hcs
      · split
        · exact ((reads_readEscape multiline cs).mono hcs).bind fun x => ih _ x.2
        · generalize (if multiline then isIllegalInLines c else isIllegal c) = illegal
          split
          · exact .fail
          · exact (ih _ cs).mono hcs

/-- A basic text is read. -/
theorem reads_readBasic (multiline : Bool) (cs : List Char) :
    Reads calls Prod.snd cs (readBasic multiline cs) :=
  reads_readBasicFrom multiline [] (cs.length + 1) cs

/-- What is left behind a line feed is an end of the text. -/
theorem suffix_dropLineFeed (cs : List Char) : dropLineFeed cs <:+ cs := by
  unfold dropLineFeed
  split
  · exact List.suffix_cons _ _
  · exact List.suffix_rfl

/-- A text of any kind is read. -/
theorem reads_readText? {x : Except ReadError (String × List Char)} (h : readText? cs = some x) :
    Reads calls Prod.snd cs x := by
  have hquotes : ∀ (a b c : Char) (cs : List Char), dropLineFeed cs <:+ a :: b :: c :: cs :=
    fun a b c cs => (suffix_dropLineFeed cs).trans ⟨[a, b, c], rfl⟩
  unfold readText? at h
  split at h
  · cases h
    exact ((reads_readBasic true _).mono (hquotes _ _ _ _)).bind fun x =>
      .ok (List.drop_suffix _ x.2)
  · cases h
    exact ((reads_readLiteral _ _ _).mono (hquotes _ _ _ _)).bind fun x =>
      .ok (List.drop_suffix _ x.2)
  · cases h
    exact (reads_readBasic false _).mono (List.suffix_cons _ _)
  · cases h
    exact (reads_readLiteral _ _ _).mono (List.suffix_cons _ _)
  · cases h

/-! ## Numbers -/

/-- Digits are read from a run of digits and underscores. -/
theorem exists_run_of_readDigits? {isDigit : Char → Bool} {digits : List Char}
    (h : readDigits? isDigit cs = some (digits, rest)) :
    ∃ run, cs = run ++ rest ∧ (∀ c ∈ run, isDigit c = true ∨ c = '_') ∧
      (isDigit '_' = false → run.filter isDigit = digits) := by
  induction cs using readDigits?.induct isDigit generalizing digits rest with
  | case1 => cases h
  | case2 c cs hc digits' rest' hread ih =>
    rw [readDigits?, if_pos hc, hread] at h
    cases h
    obtain ⟨run, rfl, hrun, hdigits⟩ := ih hread
    refine ⟨c :: '_' :: run, rfl, ?_, ?_⟩
    · simpa [hc] using hrun
    · intro hunderscore
      simp [hc, hunderscore, hdigits hunderscore]
  | case3 c cs hc hread ih =>
    rw [readDigits?, if_pos hc, hread] at h
    cases h
    exact ⟨[c], rfl, by simp [hc], fun _ => by simp [hc]⟩
  | case4 c cs hc =>
    rw [readDigits?, if_neg hc] at h
    cases h
  | case5 c cs hnext hc digits' rest' hread ih =>
    rw [readDigits?, if_pos hc, hread] at h
    · cases h
      obtain ⟨run, rfl, hrun, hdigits⟩ := ih hread
      refine ⟨c :: run, rfl, by simpa [hc] using hrun, ?_⟩
      intro hunderscore
      simp [hc, hdigits hunderscore]
    · exact hnext
  | case6 c cs hnext hc hread ih =>
    rw [readDigits?, if_pos hc, hread] at h
    · cases h
      exact ⟨[c], rfl, by simp [hc], fun _ => by simp [hc]⟩
    · exact hnext
  | case7 c cs hnext hc =>
    rw [readDigits?, if_neg hc] at h
    · cases h
    · exact hnext

/-- What is left behind digits is an end of the text. -/
theorem suffix_of_readDigits? {isDigit : Char → Bool} {digits : List Char}
    (h : readDigits? isDigit cs = some (digits, rest)) : rest <:+ cs := by
  obtain ⟨run, rfl, _⟩ := exists_run_of_readDigits? h
  exact List.suffix_append run rest

/-- What is left behind a number with a mark is an end of the text. -/
theorem suffix_of_readMarked? {n : Nat} (h : readMarked? cs = some (n, rest)) : rest <:+ cs := by
  have hmark : ∀ (isDigit : Char → Bool) (base : Nat) (a b : Char) (tail : List Char),
      (readDigits? isDigit tail).map (fun x => (digitsValue base x.1, x.2)) = some (n, rest) →
      rest <:+ a :: b :: tail := by
    intro isDigit base a b tail hread
    obtain ⟨x, hx, hmap⟩ := Option.map_eq_some_iff.mp hread
    cases hmap
    exact (suffix_of_readDigits? hx).trans ⟨[a, b], rfl⟩
  unfold readMarked? at h
  dsimp only at h
  split at h
  · exact hmark _ _ _ _ _ h
  · exact hmark _ _ _ _ _ h
  · exact hmark _ _ _ _ _ h
  · cases h

/-- What is left behind a fraction is an end of the text. -/
theorem suffix_readFraction (cs : List Char) : (readFraction cs).2 <:+ cs := by
  unfold readFraction
  split
  · rename_i tail
    cases hread : readDigits? Char.isDigit tail with
    | none => exact List.suffix_rfl
    | some x => exact (suffix_of_readDigits? hread).trans (List.suffix_cons _ _)
  · exact List.suffix_rfl

/-- What is left behind an exponent is an end of the text. -/
theorem suffix_of_readExponent? {n : Int} (h : readExponent? cs = some (n, rest)) : rest <:+ cs := by
  unfold readExponent? at h
  split at h
  · rename_i e tail
    split at h
    · split at h
      rename_i negative digits hsign
      have hdigits : digits <:+ tail := by
        split at hsign
        · cases hsign
          exact List.suffix_cons _ _
        · cases hsign
          exact List.suffix_cons _ _
        · cases hsign
          exact List.suffix_rfl
      obtain ⟨x, hread, hx⟩ := Option.map_eq_some_iff.mp h
      cases hx
      exact (suffix_of_readDigits? hread).trans (hdigits.trans (List.suffix_cons e tail))
    · cases h
  · cases h

/-- A number is an integer with too many digits only if they stand in the text. -/
theorem reads_readNumber? {x : Except ReadError (Json × List Char)} (h : readNumber? cs = some x) :
    Reads calls Prod.snd cs x := by
  unfold readNumber? at h
  split at h
  · rename_i hmarked
    cases h
    exact .ok (suffix_of_readMarked? hmarked)
  · split at h
    rename_i negative unsigned hsign
    have hunsigned : unsigned <:+ cs := by
      split at hsign <;> cases hsign
      exacts [List.suffix_cons _ _, List.suffix_cons _ _, List.suffix_rfl]
    obtain ⟨⟨whole, rest⟩, hwhole, hx⟩ := Option.map_eq_some_iff.mp h
    have hrun : ∃ run, unsigned = run ++ rest ∧ (∀ c ∈ run, c.isDigit = true ∨ c = '_') ∧
        run.filter Char.isDigit = whole := by
      split at hwhole
      · cases hwhole
        exact ⟨['0'], rfl, by simp, by simp⟩
      · obtain ⟨run, hrun, hchars, hdigits⟩ := exists_run_of_readDigits? hwhole
        exact ⟨run, hrun, hchars, hdigits (by decide)⟩
    obtain ⟨run, rfl, hchars, hdigits⟩ := hrun
    have hrest : rest <:+ cs := (List.suffix_append run rest).trans hunsigned
    have hfraction := (suffix_readFraction rest).trans hrest
    dsimp only at hx
    subst hx
    split
    · split
      · rename_i hlong
        refine ⟨?_, ?_, ?_⟩
        · rintro _ ⟨⟩
        · rintro _ ⟨⟩
          refine ⟨hlong, run, ?_, ?_, hchars⟩
          · exact (List.prefix_append run rest).isInfix.trans hunsigned.isInfix
          · rw [List.countP_eq_length_filter, hdigits]
        · rintro ⟨⟩
      · exact .ok hfraction
    · apply Reads.ok
      cases hexponent : readExponent? (readFraction rest).2 with
      | none => exact hfraction
      | some x => exact (suffix_of_readExponent? hexponent).trans hfraction

/-- What is left behind a special number is an end of the text. -/
theorem suffix_of_readSpecial? {j : Json} (h : readSpecial? cs = some (j, rest)) : rest <:+ cs := by
  unfold readSpecial? at h
  split at h
  rename_i negative unsigned hsign
  have hunsigned : unsigned <:+ cs := by
    split at hsign <;> cases hsign
    exacts [List.suffix_cons _ _, List.suffix_cons _ _, List.suffix_rfl]
  split at h
  · cases h
    exact List.IsSuffix.trans ⟨['i', 'n', 'f'], rfl⟩ hunsigned
  · cases h
    exact List.IsSuffix.trans ⟨['n', 'a', 'n'], rfl⟩ hunsigned
  · cases h

/-! ## Moments -/

/-- What is left behind a number in bounds is an end of the text. -/
theorem suffix_of_readBounded? {size low high n : Nat}
    (h : readBounded? size low high cs = some (n, rest)) : rest <:+ cs := by
  unfold readBounded? at h
  dsimp only at h
  split at h
  · split at h
    · cases h
      exact List.drop_suffix _ _
    · cases h
  · cases h

/-- What is left behind a character is an end of the text. -/
theorem suffix_of_dropChar? {expected : Char} (h : dropChar? expected cs = some rest) :
    rest <:+ cs := by
  unfold dropChar? at h
  split at h
  · split at h
    · cases h
      exact List.suffix_cons _ _
    · cases h
  · cases h

/-- What is left behind a time is an end of the text. -/
theorem suffix_of_afterTime? (h : afterTime? cs = some rest) : rest <:+ cs := by
  simp only [afterTime?, Option.bind_eq_bind, Option.bind_eq_some_iff] at h
  obtain ⟨hour, hhour, colon, hcolon, minute, hminute, second, hsecond, seconds, hseconds, h⟩ := h
  have hclock : seconds.2 <:+ cs :=
    (suffix_of_readBounded? hseconds).trans <| (suffix_of_dropChar? hsecond).trans <|
      (suffix_of_readBounded? hminute).trans <| (suffix_of_dropChar? hcolon).trans
        (suffix_of_readBounded? hhour)
  split at h
  · rename_i tail htail
    cases h
    split
    · exact hclock
    · rw [htail] at hclock
      exact (List.dropWhile_suffix _).trans ((List.suffix_cons _ _).trans hclock)
  · cases h
    exact hclock

/-- What is left is an end of the text, whether something has been read or not. -/
theorem suffix_getD {x : Option (List Char)} (h : ∀ more, x = some more → more <:+ cs) :
    x.getD cs <:+ cs := by
  cases x with
  | none => exact List.suffix_rfl
  | some more => exact h more rfl

/-- What is left behind an offset is an end of the text. -/
theorem suffix_afterOffset (cs : List Char) : afterOffset cs <:+ cs := by
  unfold afterOffset
  dsimp only
  split
  · rename_i c tail
    split
    · exact List.suffix_cons c tail
    · split
      · apply suffix_getD
        intro more hmore
        simp only [Option.bind_eq_bind, Option.bind_eq_some_iff] at hmore
        obtain ⟨hour, hhour, colon, hcolon, minute, hminute, hmore⟩ := hmore
        cases hmore
        exact (suffix_of_readBounded? hminute).trans <| (suffix_of_dropChar? hcolon).trans <|
          (suffix_of_readBounded? hhour).trans (List.suffix_cons c tail)
      · exact List.suffix_rfl
  · exact List.suffix_rfl

/-- A date is read. -/
theorem reads_readDate? {x : Except ReadError (Json × List Char)} (h : readDate? cs = some x) :
    Reads calls Prod.snd cs x := by
  simp only [readDate?, Option.bind_eq_bind, Option.bind_eq_some_iff] at h
  obtain ⟨year, hyear, hyphen, hhyphen, month, hmonth, second, hsecond, day, hday, h⟩ := h
  have hdate : day.2 <:+ cs :=
    (suffix_of_readBounded? hday).trans <| (suffix_of_dropChar? hsecond).trans <|
      (suffix_of_readBounded? hmonth).trans <| (suffix_of_dropChar? hhyphen).trans
        (suffix_of_readBounded? hyear)
  split at h
  · cases h
    exact .fail
  · cases h
    refine .ok ((suffix_getD fun more hmore => ?_).trans hdate)
    split at hmore
    · rename_i c after htime
      rw [htime]
      split at hmore
      · obtain ⟨clock, hclock, rfl⟩ := Option.map_eq_some_iff.mp hmore
        exact (suffix_afterOffset clock).trans <| (suffix_of_afterTime? hclock).trans
          (List.suffix_cons c after)
      · cases hmore
    · cases hmore

/-- A date, a time or both are read. -/
theorem reads_readMoment? {x : Except ReadError (Json × List Char)} (h : readMoment? cs = some x) :
    Reads calls Prod.snd cs x := by
  unfold readMoment? at h
  split at h
  · cases h
    exact reads_readDate? ‹_›
  · obtain ⟨rest, hrest, rfl⟩ := Option.map_eq_some_iff.mp h
    exact .ok (suffix_of_afterTime? hrest)

/-! ## Keys and values -/

/-- A part of a key is read. -/
theorem reads_readKeyPart (cs : List Char) : Reads calls Prod.snd cs (readKeyPart cs) := by
  unfold readKeyPart
  dsimp only
  split
  · exact .ok (List.drop_suffix _ _)
  · split
    · exact (reads_readLiteral _ _ _).mono (List.suffix_cons _ _)
    · exact (reads_readBasic _ _).mono (List.suffix_cons _ _)
    · exact .fail

/-- The parts of a key are read. -/
theorem reads_readKeyParts (parts : Nat) (cs : List Char) :
    Reads calls Prod.snd cs (readKeyParts parts cs) := by
  induction parts generalizing cs with
  | zero => exact .fail
  | succ parts ih =>
    unfold readKeyParts
    refine (reads_readKeyPart cs).bind fun part => ?_
    have hblanks := suffix_skipBlanks part.2
    dsimp only
    split
    · rename_i tail htail
      rw [htail] at hblanks
      refine ((ih (skipBlanks tail)).mono ?_).bind fun _ => .ok List.suffix_rfl
      exact (suffix_skipBlanks tail).trans ((List.suffix_cons _ _).trans hblanks)
    · exact .ok hblanks

/-- A key is read. -/
theorem reads_readKey (cs : List Char) : Reads calls Prod.snd cs (readKey cs) :=
  reads_readKeyParts _ cs

/-! Values, items of arrays and pairs of inline tables are read by one another, each with one less of the
fuel and with fewer calls left inside brackets and braces. -/

section Values

variable {fuel : Nat} (hvalue : ∀ calls cs, Reads calls Prod.snd cs (readValue calls fuel cs))
  (hitems : ∀ calls cs, Reads calls Prod.snd cs (readItems calls fuel cs))
  (hpairs : ∀ calls frozen members cs,
    Reads calls Prod.snd cs (readPairs calls frozen members fuel cs))

include hitems hpairs in
/-- A value is read if the values in it are. -/
theorem reads_readValue_succ (calls : Nat) (cs : List Char) :
    Reads calls Prod.snd cs (readValue calls (fuel + 1) cs) := by
  unfold readValue
  split
  · rename_i hcalls
    refine ⟨?_, ?_, fun _ => ?_⟩
    · rintro _ ⟨⟩
    · rintro _ ⟨⟩
    · rw [hcalls]
      exact Nat.zero_le _
  split
  · exact (reads_readText? ‹_›).map fun _ => List.suffix_rfl
  · split
    · exact .ok ⟨['t', 'r', 'u', 'e'], rfl⟩
    · exact .ok ⟨['f', 'a', 'l', 's', 'e'], rfl⟩
    · rename_i tail _
      refine Reads.enter (n := 2) ?_ List.suffix_rfl (by decide)
      refine (reads_skipGaps _ tail).bind fun rest => ?_
      dsimp only [id]
      split
      · exact .ok (List.suffix_cons _ _)
      · exact (hitems _ rest).bind fun _ => .ok List.suffix_rfl
    · rename_i tail _
      have hblanks := suffix_skipBlanks tail
      split
      · rename_i rest hclosed
        rw [hclosed] at hblanks
        exact .ok ((List.suffix_cons _ _).trans (hblanks.trans (List.suffix_cons '{' tail)))
      · refine Reads.enter (n := 3) ?_ hblanks (by decide)
        exact (hpairs _ [] [] _).bind fun _ => .ok List.suffix_rfl
    · split
      · exact reads_readMoment? ‹_›
      · split
        · exact reads_readNumber? ‹_›
        · split
          · exact .ok (suffix_of_readSpecial? ‹_›)
          · exact .fail

include hvalue hitems in
/-- Items are read if the values among them are. -/
theorem reads_readItems_succ (calls : Nat) (cs : List Char) :
    Reads calls Prod.snd cs (readItems calls (fuel + 1) cs) := by
  unfold readItems
  refine (hvalue calls cs).bind fun item => (reads_skipGaps _ item.2).bind fun rest => ?_
  dsimp only [id]
  split
  · exact .ok (List.suffix_cons _ _)
  · rename_i tail
    refine ((reads_skipGaps _ tail).mono (List.suffix_cons _ _)).bind fun rest => ?_
    dsimp only [id]
    split
    · exact .ok (List.suffix_cons _ _)
    · exact (hitems calls rest).bind fun _ => .ok List.suffix_rfl
  · exact .fail

include hvalue hpairs in
/-- Pairs are read if the values among them are. -/
theorem reads_readPairs_succ (calls : Nat) (frozen : List Key) (members : Members) (cs : List Char) :
    Reads calls Prod.snd cs (readPairs calls frozen members (fuel + 1) cs) := by
  unfold readPairs
  refine (reads_readKey cs).bind fun key => ?_
  dsimp only
  split
  · rename_i tail htail
    rw [htail]
    have hrest := (suffix_skipBlanks tail).trans (List.suffix_cons '=' tail)
    refine ((hvalue calls _).mono hrest).bind fun value => ?_
    split
    · exact .fail
    · split
      · exact .fail
      · exact .fail
      · have hblanks := suffix_skipBlanks value.2
        split
        · rename_i rest hclosed
          rw [hclosed] at hblanks
          exact .ok ((List.suffix_cons _ _).trans hblanks)
        · rename_i rest hcomma
          rw [hcomma] at hblanks
          exact (hpairs calls _ _ _).mono
            ((suffix_skipBlanks rest).trans ((List.suffix_cons _ _).trans hblanks))
        · exact .fail
  · exact .fault

end Values

/-- Values, items and pairs are read, at any depth. -/
theorem reads_values (fuel : Nat) :
    (∀ calls cs, Reads calls Prod.snd cs (readValue calls fuel cs)) ∧
      (∀ calls cs, Reads calls Prod.snd cs (readItems calls fuel cs)) ∧
      ∀ calls frozen members cs,
        Reads calls Prod.snd cs (readPairs calls frozen members fuel cs) := by
  induction fuel with
  | zero => exact ⟨fun _ _ => .fail, fun _ _ => .fail, fun _ _ _ _ => .fail⟩
  | succ fuel ih =>
    obtain ⟨hvalue, hitems, hpairs⟩ := ih
    exact ⟨reads_readValue_succ hitems hpairs, reads_readItems_succ hvalue hitems,
      reads_readPairs_succ hvalue hpairs⟩

/-- A key and its value are read. -/
theorem reads_readPair (calls : Nat) (cs : List Char) :
    Reads calls Prod.snd cs (readPair calls cs) := by
  unfold readPair
  refine (reads_readKey cs).bind fun key => ?_
  dsimp only
  split
  · rename_i tail htail
    rw [htail]
    have hrest := (suffix_skipBlanks tail).trans (List.suffix_cons '=' tail)
    exact (((reads_values _).1 calls _).mono hrest).bind fun _ => .ok List.suffix_rfl
  · exact .fail

/-! ## Documents -/

/-- A member is read. -/
theorem reads_readMember (calls : Nat) (s : DocumentState) (cs : List Char) :
    Reads calls Prod.snd cs (readMember calls s cs) := by
  unfold readMember
  refine (reads_readPair calls cs).bind fun pair => ?_
  dsimp only
  split
  · exact .fail
  · split
    · exact .fail
    · split
      · exact .fail
      · exact .fail
      · exact .ok List.suffix_rfl

/-- The key in a header is read. -/
theorem reads_headerKey (tail : List Char) : Reads calls Prod.snd tail (readKey (skipBlanks tail)) :=
  (reads_readKey _).mono (suffix_skipBlanks tail)

/-- The header of a table is read. -/
theorem reads_readHeader (s : DocumentState) (tail : List Char) :
    Reads calls Prod.snd tail (readHeader s tail) := by
  unfold readHeader
  refine (reads_headerKey tail).bind fun key => ?_
  dsimp only
  split
  · exact .fail
  · split
    · exact .fail
    · split
      · rename_i hclosed
        rw [hclosed]
        exact .ok (List.suffix_cons _ _)
      · exact .fail

/-- The header of a table in an array is read. -/
theorem reads_readArrayHeader (s : DocumentState) (tail : List Char) :
    Reads calls Prod.snd tail (readArrayHeader s tail) := by
  unfold readArrayHeader
  refine (reads_headerKey tail).bind fun key => ?_
  dsimp only
  split
  · exact .fail
  · split
    · exact .fail
    · split
      · rename_i hclosed
        rw [hclosed]
        exact .ok ⟨[']', ']'], rfl⟩
      · exact .fail

/-- A statement goes on in what is left of the document. -/
theorem reads_readStatement (calls : Nat) (s : DocumentState) (cs : List Char) :
    Reads calls Prod.snd cs (readStatement calls s cs) := by
  unfold readStatement
  split
  · exact (reads_readArrayHeader _ _).mono ⟨['[', '['], rfl⟩
  · exact (reads_readHeader _ _).mono (List.suffix_cons _ _)
  · exact .ok List.suffix_rfl
  · split
    · exact reads_readMember _ _ _
    · exact .fail
  · exact .ok List.suffix_rfl

/-- The lines of a document are read. -/
theorem reads_readLines (calls lines : Nat) (s : DocumentState) (cs : List Char) :
    Reads calls (fun _ => []) cs (readLines calls lines s cs) := by
  induction lines generalizing s cs with
  | zero => exact .ok List.nil_suffix
  | succ lines ih =>
    have hblanks := suffix_skipBlanks cs
    unfold readLines
    split
    · exact .ok List.nil_suffix
    · rename_i rest hline
      rw [hline] at hblanks
      exact (ih s rest).mono ((List.suffix_cons _ _).trans hblanks)
    · refine ((reads_readStatement calls s _).mono hblanks).bind fun read => ?_
      refine ((reads_skipComment _).mono (suffix_skipBlanks read.2)).bind fun rest => ?_
      dsimp only [id]
      split
      · exact .ok List.nil_suffix
      · exact (ih _ _).mono (List.suffix_cons _ _)
      · exact .fail

/-- Dropping carriage returns changes nothing within a line. -/
theorem prefix_of_prefix_dropCarriageReturns {run : List Char} (hrun : '\n' ∉ run)
    (h : run <+: dropCarriageReturns cs) : run <+: cs := by
  induction cs using dropCarriageReturns.induct generalizing run with
  | case1 cs ih =>
    rw [dropCarriageReturns, List.prefix_cons_iff] at h
    rcases h with rfl | ⟨more, rfl, _⟩
    · exact List.nil_prefix
    · exact absurd List.mem_cons_self hrun
  | case2 c cs hcs ih =>
    rw [dropCarriageReturns, List.prefix_cons_iff] at h
    · rcases h with rfl | ⟨more, rfl, hmore⟩
      · exact List.nil_prefix
      · exact List.cons_prefix_cons.mpr ⟨rfl, ih (List.not_mem_of_not_mem_cons hrun) hmore⟩
    · exact hcs
  | case3 => exact h

/-- A run without line feeds stands in a text already before carriage returns are dropped. -/
theorem infix_of_infix_dropCarriageReturns {run : List Char} (hrun : '\n' ∉ run)
    (h : run <:+: dropCarriageReturns cs) : run <:+: cs := by
  induction cs using dropCarriageReturns.induct with
  | case1 cs ih =>
    rw [dropCarriageReturns, List.infix_cons_iff] at h
    rcases h with hprefix | hinfix
    · refine (prefix_of_prefix_dropCarriageReturns hrun ?_).isInfix
      rwa [dropCarriageReturns]
    · exact (ih hinfix).trans (List.IsSuffix.isInfix ⟨['\r', '\n'], rfl⟩)
  | case2 c cs hcs ih =>
    rw [dropCarriageReturns, List.infix_cons_iff] at h
    · rcases h with hprefix | hinfix
      · refine (prefix_of_prefix_dropCarriageReturns hrun ?_).isInfix
        rwa [dropCarriageReturns]
        exact hcs
      · exact (ih hinfix).trans (List.suffix_cons c cs).isInfix
    · exact hcs
  | case3 => exact h

/-- Dropping carriage returns leaves a part of a text. -/
theorem sublist_dropCarriageReturns (cs : List Char) : (dropCarriageReturns cs).Sublist cs := by
  induction cs using dropCarriageReturns.induct with
  | case1 cs ih =>
    rw [dropCarriageReturns]
    exact (ih.cons_cons '\n').cons '\r'
  | case2 c cs hcs ih =>
    rw [dropCarriageReturns]
    · exact ih.cons_cons c
    · exact hcs
  | case3 => exact .slnil

/-- Reading a document fails because of an integer only if the document holds a run of digits and
underscores with that many digits, which are too many. -/
theorem hasLongInteger_of_read {text : String} {digits : Nat}
    (h : read calls text = .error (.integerDigits digits)) : HasLongInteger digits text.toList := by
  unfold read at h
  obtain ⟨e, hread, he⟩ := mapError_eq_error.mp h
  have he : e = .integerDigits digits := by
    cases e with
    | fault fault left => cases he
    | integerDigits n =>
      cases he
      rfl
    | nesting => cases he
  subst he
  obtain ⟨hlt, numeral, hnumeral, hdigits, hrun⟩ := (reads_readLines _ _ _ _).long digits hread
  refine ⟨hlt, numeral, infix_of_infix_dropCarriageReturns ?_ hnumeral, hdigits, hrun⟩
  intro hmem
  simpa using hrun _ hmem

/-- Reading a document fails because values are nested too deeply only if the document holds brackets
and braces enough. -/
theorem le_nestingBound_of_read {text : String} (h : read calls text = .error .nesting) :
    calls ≤ nestingBound text.toList := by
  unfold read at h
  obtain ⟨e, hread, he⟩ := mapError_eq_error.mp h
  have he : e = .nesting := by
    cases e with
    | fault fault left => cases he
    | integerDigits digits => cases he
    | nesting => rfl
  subst he
  exact ((reads_readLines _ _ _ _).deep hread).trans
    (nestingBound_mono (sublist_dropCarriageReturns _))

end Bundler.Toml
