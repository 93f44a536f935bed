import Bundler.Json.Reader
import Bundler.Json.Writer
import Bundler.Proofs.Json.Order
import Bundler.Proofs.Outcome
import Bundler.Proofs.Syntax.Literal

/-!
# Written values are read back

The text of a value, on a line or with an indented line for each item, is read back as the value, with
the members of its objects sorted by key. Each part of a value is read as what has been written, whatever
follows it, and the blanks between the parts are passed over.
-/

set_option autoImplicit false

namespace Bundler.Json

open Bundler.Syntax (digitsIn_hexPadded isHexDigit_of_mem_hexPadded length_hexPadded)

/-! ## Texts -/

section Texts

variable {read rest : List Char}

/-- Four written digits are read as their number. -/
theorem readHex4?_hexPadded {n : Nat} (h : n < 16 ^ 4) (rest : List Char) :
    readHex4? ((Text.hexPadded 4 n).toList ++ rest) = some (n, rest) := by
  have hlength := length_hexPadded (by decide) h
  have hdigits : ∀ c ∈ (Text.hexPadded 4 n).toList, IsHexDigit c :=
    fun c hc => isHexDigit_of_mem_hexPadded hc
  have hvalue := digitsIn_hexPadded 4 n
  generalize (Text.hexPadded 4 n).toList = digits at *
  obtain ⟨a, b, c, d, rfl⟩ : ∃ a b c d, digits = [a, b, c, d] := by
    match digits, hlength with
    | [a, b, c, d], _ => exact ⟨a, b, c, d, rfl⟩
  simp only [List.forall_mem_cons, IsHexDigit, Option.isSome_iff_exists] at hdigits
  obtain ⟨⟨a', ha⟩, ⟨b', hb⟩, ⟨c', hc⟩, ⟨d', hd⟩, _⟩ := hdigits
  simp only [Syntax.Numeral.digitsIn, List.foldl_cons, List.foldl_nil, ha, hb, hc, hd,
    Option.getD_some] at hvalue
  simp only [readHex4?, List.cons_append, List.nil_append, ha, hb, hc, hd, Option.bind_eq_bind,
    Option.bind_some]
  congr 2
  omega

/-- A plain character is read as it is. -/
theorem readStringFrom?_plain {c : Char} (hquote : c ≠ '"') (hbackslash : c ≠ '\\') (fuel : Nat)
    (rest : List Char) :
    readStringFrom? read (fuel + 1) (c :: rest) = readStringFrom? (c :: read) fuel rest := by
  rw [readStringFrom?] <;> simp [hquote, hbackslash]

/-- A written character is read as the character. -/
theorem readStringFrom?_escapedChar (c : Char) (fuel : Nat) (rest : List Char) :
    readStringFrom? read (fuel + 1) ((escapedChar c).toList ++ rest) =
      readStringFrom? (c :: read) fuel rest := by
  -- The written forms of a character one after the other.
  by_cases hquote : c = '"'
  · subst hquote
    rfl
  by_cases hbackslash : c = '\\'
  · subst hbackslash
    rfl
  by_cases hnewline : c = '\n'
  · subst hnewline
    rfl
  by_cases hreturn : c = '\r'
  · subst hreturn
    rfl
  by_cases htab : c = '\t'
  · subst htab
    rfl
  by_cases hback : c.toNat = 8
  · obtain rfl : c = Char.ofNat 8 := by rw [← hback, Char.ofNat_toNat]
    rfl
  by_cases hfeed : c.toNat = 12
  · obtain rfl : c = Char.ofNat 12 := by rw [← hfeed, Char.ofNat_toNat]
    rfl
  unfold escapedChar
  rw [if_neg hquote, if_neg hbackslash, if_neg hnewline, if_neg hreturn, if_neg htab, if_neg hback,
    if_neg hfeed]
  by_cases hcontrol : c.toNat < 0x20
  · have hhex := readHex4?_hexPadded (by omega : c.toNat < 16 ^ 4) rest
    rw [if_pos hcontrol, String.toList_append, List.append_assoc,
      show "\\u".toList = ['\\', 'u'] from rfl, List.cons_append, List.cons_append, List.nil_append,
      readStringFrom?, hhex, Option.bind_eq_bind, Option.bind_some]
    dsimp only
    rw [if_neg (by omega), Char.ofNat_toNat]
  · rw [if_neg hcontrol, Char.toString_eq_singleton, String.toList_singleton]
    exact readStringFrom?_plain hquote hbackslash fuel rest

/-- Escaping makes a text no shorter. -/
theorem length_le_escapedChars (cs : List Char) :
    cs.length ≤ (cs.flatMap fun c => (escapedChar c).toList).length := by
  induction cs with
  | nil => exact Nat.le_refl 0
  | cons c cs ih =>
    have hchar : (escapedChar c).toList ≠ [] := by
      unfold escapedChar
      repeat' split
      all_goals simp
    have hpos := List.length_pos_iff.mpr hchar
    rw [List.flatMap_cons, List.length_append, List.length_cons]
    omega

/-- The characters of a written text are read one after the other, up to the closing quote. -/
theorem readStringFrom?_escapedChars (cs : List Char) {fuel : Nat} (hfuel : cs.length < fuel)
    (rest : List Char) :
    readStringFrom? read fuel ((cs.flatMap fun c => (escapedChar c).toList) ++ '"' :: rest) =
      some (String.ofList (read.reverse ++ cs), rest) := by
  induction cs generalizing read fuel with
  | nil =>
    obtain ⟨fuel, rfl⟩ : ∃ n, fuel = n + 1 := ⟨fuel - 1, by rw [List.length_nil] at hfuel; omega⟩
    rw [List.append_nil]
    rfl
  | cons c cs ih =>
    obtain ⟨fuel, rfl⟩ : ∃ n, fuel = n + 1 := ⟨fuel - 1, by omega⟩
    rw [List.flatMap_cons, List.append_assoc, readStringFrom?_escapedChar,
      ih (Nat.lt_of_succ_lt_succ hfuel)]
    simp

/-- A written text begins with a quote, and what follows is read as the text. -/
theorem exists_readString?_escaped (s : String) : ∃ body, (escaped s).toList = '"' :: body ∧
    ∀ rest, readString? (body ++ rest) = some (s, rest) := by
  refine ⟨(s.toList.flatMap fun c => (escapedChar c).toList) ++ ['"'], ?_, ?_⟩
  · unfold escaped
    rw [String.toList_append, String.toList_append, String.toList_join, List.flatMap_map]
    rfl
  · intro rest
    have hle := length_le_escapedChars s.toList
    rw [List.append_assoc, List.singleton_append, readString?, readStringFrom?_escapedChars]
    · rw [List.reverse_nil, List.nil_append, String.ofList_toList]
    · rw [List.length_append]
      omega

end Texts

/-! ## Numbers -/

/-- What may follow a value in a container, or at the end of a text. -/
def EndsValue (rest : List Char) : Prop :=
  ∀ c ∈ rest.head?, c = ',' ∨ c = ']' ∨ c = '\x7d' ∨ c = '\n'

/-- A value may stand at the end of a text. -/
theorem endsValue_nil : EndsValue [] :=
  nofun

/-- A value may stand before a separator or a closing bracket. -/
theorem endsValue_cons {c : Char} {rest : List Char}
    (h : c = ',' ∨ c = ']' ∨ c = '\x7d' ∨ c = '\n') :
    EndsValue (c :: rest) := by
  rintro _ ⟨⟩
  exact h

/-- No digit follows a value. -/
theorem EndsValue.isDigit {rest : List Char} (h : EndsValue rest) :
    ∀ c ∈ rest.head?, c.isDigit = false := by
  intro c hc
  rcases h c hc with rfl | rfl | rfl | rfl <;> rfl

section Numbers

variable {cs digits rest : List Char} (hrest : EndsValue rest)
  (htake : cs.takeWhile Char.isDigit = digits) (hdrop : cs.dropWhile Char.isDigit = rest)
  (hne : digits.isEmpty = false)

include hrest htake hdrop hne

/-- Digits without a sign, with neither a fraction nor an exponent behind them. -/
theorem readNumber?_digits (hsign : cs.head? ≠ some '-') :
    readNumber? cs = some (.int (digitsValue 0 digits), rest) := by
  unfold readNumber?
  split
  rename_i heq
  split at heq
  · exact absurd rfl hsign
  · cases heq
    rw [htake, hdrop]
    dsimp only
    rw [hne, if_neg Bool.false_ne_true]
    cases rest with
    | nil => simp
    | cons d more => rcases hrest d rfl with rfl | rfl | rfl | rfl <;> simp

/-- Digits behind a minus sign are read as a negative number. -/
theorem readNumber?_minus :
    readNumber? ('-' :: cs) = some (.int (-digitsValue 0 digits), rest) := by
  unfold readNumber?
  split
  rename_i heq
  split at heq
  · rename_i hminus
    cases hminus
    cases heq
    rw [htake, hdrop]
    dsimp only
    rw [hne, if_neg Bool.false_ne_true]
    cases rest with
    | nil => simp
    | cons d more => rcases hrest d rfl with rfl | rfl | rfl | rfl <;> simp
  · rename_i hminus
    exact absurd rfl (hminus cs)

end Numbers

/-- The written digits of a number have its value. -/
theorem digitsValue_toString (n : Nat) : digitsValue 0 (toString n).toList = n := by
  rw [toList_toString]
  exact Nat.ofDigitChars_toDigits (by decide) (by decide)

/-- The text of an integer is read as the integer. -/
theorem readNumber?_toString (n : Int) {rest : List Char} (hrest : EndsValue rest) :
    readNumber? ((toString n).toList ++ rest) = some (.int n, rest) := by
  have htake := fun n => takeWhile_toString n hrest.isDigit
  have hdrop := fun n => dropWhile_toString n hrest.isDigit
  have hne : ∀ n : Nat, (toString n).toList.isEmpty = false := by
    intro n
    obtain ⟨c, cs, _, heq⟩ := exists_toList_toString n
    rw [heq]
    rfl
  cases n with
  | ofNat m =>
    have hsign : ((toString m).toList ++ rest).head? ≠ some '-' := by
      obtain ⟨c, cs, hc, heq⟩ := exists_toList_toString m
      rw [heq]
      rintro ⟨⟩
      cases hc
    have hread := readNumber?_digits hrest (htake m) (hdrop m) (hne m) hsign
    rwa [digitsValue_toString] at hread
  | negSucc m =>
    have hread := readNumber?_minus hrest (htake (m + 1)) (hdrop (m + 1)) (hne (m + 1))
    rw [digitsValue_toString] at hread
    change readNumber? (("-" ++ toString (m + 1)).toList ++ rest) = _
    rw [String.toList_append]
    exact hread

/-! ## Containers -/

section Containers

variable {layout : Layout} {depth : Nat}

/-- The text of a value, if it has one. -/
def textOf (layout : Layout) (depth : Nat) (value : Json) : String :=
  (textAt layout depth value).toOption.getD ""

/-- A value that can be written has its text. -/
theorem textOf_eq {value : Json} {text : String} (h : textAt layout depth value = .ok text) :
    textOf layout depth value = text := by
  rw [textOf, h]
  rfl

/-- Items that can be written have their texts one by one. -/
theorem itemTexts_eq_map {items : List Json} {texts : List String}
    (h : itemTexts layout depth items = .ok texts) :
    texts = items.map (textOf layout depth) ∧
      ∀ item ∈ items, textAt layout depth item = .ok (textOf layout depth item) := by
  induction items generalizing texts with
  | nil =>
    cases h
    exact ⟨rfl, nofun⟩
  | cons item items ih =>
    rw [itemTexts] at h
    obtain ⟨text, htext, h⟩ := bind_eq_ok.mp h
    obtain ⟨others, hothers, h⟩ := bind_eq_ok.mp h
    cases h
    obtain ⟨rfl, hitems⟩ := ih hothers
    refine ⟨by rw [List.map_cons, textOf_eq htext], List.forall_mem_cons.mpr ⟨?_, hitems⟩⟩
    rw [htext, textOf_eq htext]

/-- Members that can be written have the texts of their values one by one. -/
theorem memberTexts_eq_map {members : List (String × Json)} {written : List (String × String)}
    (h : memberTexts layout depth members = .ok written) :
    written = members.map (fun m => (m.1, textOf layout depth m.2)) ∧
      ∀ m ∈ members, textAt layout depth m.2 = .ok (textOf layout depth m.2) := by
  induction members generalizing written with
  | nil =>
    cases h
    exact ⟨rfl, nofun⟩
  | cons m members ih =>
    rw [memberTexts] at h
    obtain ⟨text, htext, h⟩ := bind_eq_ok.mp h
    obtain ⟨others, hothers, h⟩ := bind_eq_ok.mp h
    cases h
    obtain ⟨rfl, hmembers⟩ := ih hothers
    refine ⟨by rw [List.map_cons, textOf_eq htext], List.forall_mem_cons.mpr ⟨?_, hmembers⟩⟩
    rw [htext, textOf_eq htext]

/-- The blanks in front of an item of a container, or in front of its closing bracket. -/
def gap (indented : Bool) (depth : Nat) : List Char :=
  if indented then '\n' :: (indentation depth).toList else []

/-- A gap consists of blanks, and there is one on indented lines only. -/
theorem mem_gap {indented : Bool} {c : Char} (h : c ∈ gap indented depth) :
    indented = true ∧ c ∈ [' ', '\n', '\r', '\t'] := by
  unfold gap at h
  cases indented with
  | false => cases h
  | true =>
    rw [if_pos rfl, List.mem_cons, indentation, String.toList_ofList] at h
    rcases h with rfl | h
    · exact ⟨rfl, by decide⟩
    · rw [List.eq_of_mem_replicate h]
      exact ⟨rfl, by decide⟩

/-- A gap is skipped. -/
theorem skipBlanks_gap_append (indented : Bool) (depth : Nat) (cs : List Char) :
    skipBlanks (gap indented depth ++ cs) = skipBlanks cs := by
  unfold skipBlanks
  apply List.dropWhile_append_of_pos
  intro c hc
  have hmem := (mem_gap hc).2
  simp only [List.mem_cons, List.not_mem_nil, or_false] at hmem
  rcases hmem with rfl | rfl | rfl | rfl <;> rfl

/-- A gap may stand behind a value. -/
theorem endsValue_gap_append {indented : Bool} {cs : List Char} (h : EndsValue cs) :
    EndsValue (gap indented depth ++ cs) := by
  cases indented with
  | false => exact h
  | true => exact endsValue_cons (by simp)

/-- A text before every piece may be part of the separator. -/
theorem append_intercalate (sep before : List Char) {pieces : List (List Char)} (hne : pieces ≠ []) :
    before ++ (sep ++ before).intercalate pieces = sep.intercalate (pieces.map (before ++ ·)) := by
  induction pieces with
  | nil => exact absurd rfl hne
  | cons piece pieces ih =>
    cases pieces with
    | nil => simp
    | cons next pieces =>
      have hrest := ih (List.cons_ne_nil _ _)
      rw [List.map_cons] at hrest
      rw [List.intercalate_cons_cons, List.map_cons, List.map_cons, List.intercalate_cons_cons,
        ← hrest]
      simp only [List.append_assoc]

/-- Enclosed items stand between their brackets, each behind a gap. -/
theorem toList_enclose_of_ne_nil (indented : Bool) (depth : Nat) (opening closing : String)
    {items : List String} (hne : items ≠ []) :
    (enclose indented depth opening closing items).toList = opening.toList ++
      ([','].intercalate (items.map fun item => gap indented (depth + 1) ++ item.toList) ++
        (gap indented depth ++ closing.toList)) := by
  have hpieces : items.map String.toList ≠ [] := by simpa using hne
  have hitems := append_intercalate [','] (gap indented (depth + 1)) hpieces
  rw [List.map_map] at hitems
  change _ = opening.toList ++ ([','].intercalate (items.map ((_ ++ ·) ∘ String.toList)) ++ _)
  rw [← hitems]
  obtain ⟨item, rest, rfl⟩ := List.exists_cons_of_ne_nil hne
  cases indented with
  | false =>
    rw [enclose, if_neg Bool.false_ne_true]
    · simp only [String.toList_append, String.toList_intercalate, List.append_assoc]
      rfl
    · exact hne
  | true =>
    rw [enclose, if_pos rfl]
    · simp only [String.toList_append, String.toList_intercalate, List.append_assoc]
      rfl
    · exact hne

/-- Enclosed items stand between their brackets, without gaps on a single line. -/
theorem toList_enclose (depth : Nat) (opening closing : String) (items : List String) :
    (enclose false depth opening closing items).toList =
      opening.toList ++ ([','].intercalate (items.map String.toList) ++ closing.toList) := by
  cases items with
  | nil => rw [enclose, String.toList_append, List.map_nil, List.intercalate_nil, List.nil_append]
  | cons item items => exact toList_enclose_of_ne_nil false depth opening closing (List.cons_ne_nil _ _)

/-- A member of an object as it is written. -/
def memberText (indented : Bool) (key text : String) : String :=
  escaped key ++ (if indented then ": " else ":") ++ text

/-- An object is written member by member, in the order of the keys. -/
theorem textAt_object (hsorted : layout.sorted = true) {members : List (String × Json)} {text : String}
    (h : textAt layout depth (.object members) = .ok text) :
    text = enclose layout.indented depth "\x7b" "\x7d" ((sortedMembers members).map fun m =>
      memberText layout.indented m.1 (textOf layout (depth + 1) m.2)) ∧
    ∀ m ∈ members, textAt layout (depth + 1) m.2 = .ok (textOf layout (depth + 1) m.2) := by
  rw [textAt] at h
  obtain ⟨written, hwritten, h⟩ := bind_eq_ok.mp h
  obtain ⟨rfl, hmembers⟩ := memberTexts_eq_map hwritten
  cases h
  refine ⟨?_, hmembers⟩
  -- The members may be sorted before their values are written.
  have harranged : layout.arrange (members.map fun m => (m.1, textOf layout (depth + 1) m.2)) =
      (sortedMembers members).map fun m => (m.1, textOf layout (depth + 1) m.2) := by
    rw [Layout.arrange, if_pos hsorted, sortedMembers, List.map_mergeSort]
    exact fun _ _ _ _ => rfl
  rw [harranged, List.map_map]
  rfl

end Containers

/-! ## Values -/

/-- A text that is read as a value. -/
structure ReadsBack (indented : Bool) (value : Json) (text : String) : Prop where
  /-- The text begins with neither a blank nor the end of an array. -/
  opens : ∃ c cs, text.toList = c :: cs ∧ c ∉ [' ', '\n', '\r', '\t', ']']
  /-- The text is on one line, if not every item has its own line. -/
  oneLine : indented = false → '\n' ∉ text.toList
  /-- The text is read up to its end. -/
  read : ∀ rest fuel, EndsValue rest → 2 * text.toList.length ≤ fuel →
    readValue? fuel (text.toList ++ rest) = some (value, rest)

/-- Nothing is skipped before a character that is no blank. -/
theorem skipBlanks_cons {c : Char} (h : c ∉ [' ', '\n', '\r', '\t']) (cs : List Char) :
    skipBlanks (c :: cs) = c :: cs := by
  unfold skipBlanks
  apply List.dropWhile_cons_of_neg
  simpa [and_assoc] using h

/-- Blanks before a value make no difference. -/
theorem readValue?_skipBlanks {cs cs' : List Char} (h : skipBlanks cs = skipBlanks cs') (fuel : Nat) :
    readValue? fuel cs = readValue? fuel cs' := by
  cases fuel with
  | zero => rfl
  | succ fuel => rw [readValue?, readValue?, h]

/-- Blanks before items make no difference. -/
theorem readItems?_skipBlanks {cs cs' : List Char} (h : skipBlanks cs = skipBlanks cs') (fuel : Nat) :
    readItems? fuel cs = readItems? fuel cs' := by
  cases fuel with
  | zero => rfl
  | succ fuel => rw [readItems?, readItems?, readValue?_skipBlanks h]

/-- Blanks before members make no difference. -/
theorem readMembers?_skipBlanks {cs cs' : List Char} (h : skipBlanks cs = skipBlanks cs')
    (members : List (String × Json)) (fuel : Nat) :
    readMembers? members fuel cs = readMembers? members fuel cs' := by
  cases fuel with
  | zero => rfl
  | succ fuel => rw [readMembers?, readMembers?, h]

/-- Blanks in front of a text do not change what it is read as. -/
theorem ReadsBack.read_gap {indented : Bool} {value : Json} {text : String}
    (h : ReadsBack indented value text) (depth : Nat) {rest : List Char} (hrest : EndsValue rest)
    {fuel : Nat} (hfuel : 2 * text.toList.length ≤ fuel) :
    readValue? fuel (gap indented depth ++ text.toList ++ rest) = some (value, rest) := by
  rw [List.append_assoc, readValue?_skipBlanks (skipBlanks_gap_append _ _ _)]
  exact h.read rest fuel hrest hfuel

/-- A comma stands behind every written item but the last. -/
theorem intercalate_map_cons_cons {α : Type} (f : α → List Char) (a b : α) (l : List α) :
    [','].intercalate ((a :: b :: l).map f) = f a ++ ',' :: [','].intercalate ((b :: l).map f) := by
  rw [List.map_cons, List.map_cons, List.intercalate_cons_cons, List.append_assoc,
    List.singleton_append]

section Elements

variable {α : Type} {l : List α} {key : α → String} {value : α → Json} {text : α → String}
  {indented : Bool}

/-- Written items are read back. -/
theorem readItems?_texts (depth : Nat) (h : ∀ a ∈ l, ReadsBack indented (value a) (text a))
    (hne : l ≠ []) (fuel : Nat)
    (hfuel : 2 * ([','].intercalate
      (l.map fun a => gap indented (depth + 1) ++ (text a).toList)).length < fuel)
    (rest : List Char) :
    readItems? fuel ([','].intercalate (l.map fun a => gap indented (depth + 1) ++ (text a).toList) ++
      (gap indented depth ++ ']' :: rest)) = some (l.map value, rest) := by
  induction l generalizing fuel with
  | nil => exact absurd rfl hne
  | cons a l ih =>
    obtain ⟨fuel, rfl⟩ : ∃ n, fuel = n + 1 := ⟨fuel - 1, by omega⟩
    rw [List.forall_mem_cons] at h
    cases l with
    | nil =>
      rw [List.map_singleton, List.intercalate_singleton] at hfuel ⊢
      rw [List.length_append] at hfuel
      have hend : EndsValue (gap indented depth ++ ']' :: rest) :=
        endsValue_gap_append (endsValue_cons (by simp))
      rw [readItems?, h.1.read_gap _ hend (by omega)]
      simp only [Option.bind_eq_bind, Option.bind_some, skipBlanks_gap_append,
        skipBlanks_cons (c := ']') (by decide)]
      rfl
    | cons b l =>
      rw [intercalate_map_cons_cons, List.length_append, List.length_append, List.length_cons] at hfuel
      rw [intercalate_map_cons_cons, List.append_assoc, List.cons_append, readItems?,
        h.1.read_gap _ (endsValue_cons (by simp)) (by omega)]
      simp only [Option.bind_eq_bind, Option.bind_some, skipBlanks_cons (c := ',') (by decide),
        ih h.2 (List.cons_ne_nil _ _) fuel (by omega)]
      rfl

/-- A written member is its key, a colon with blanks behind it, and its value. -/
theorem exists_toList_memberText (indented : Bool) (key text : String) :
    ∃ body blanks, (memberText indented key text).toList =
        '"' :: (body ++ ':' :: (blanks ++ text.toList)) ∧
      (∀ rest, skipBlanks (blanks ++ rest) = skipBlanks rest) ∧
      ∀ rest, readString? (body ++ rest) = some (key, rest) := by
  obtain ⟨body, hbody, hkey⟩ := exists_readString?_escaped key
  cases indented with
  | false =>
    refine ⟨body, [], ?_, fun _ => rfl, hkey⟩
    rw [memberText, String.toList_append, String.toList_append, hbody, List.append_assoc]
    rfl
  | true =>
    refine ⟨body, [' '], ?_, fun _ => rfl, hkey⟩
    rw [memberText, String.toList_append, String.toList_append, hbody, List.append_assoc]
    rfl

/-- A member is read onto those before it. -/
theorem readMembers?_memberText {v : Json} {t : String} (h : ReadsBack indented v t) (k : String)
    (members : List (String × Json)) {fuel : Nat} (before : Nat)
    (hfuel : 2 * (memberText indented k t).toList.length ≤ fuel) {c : Char} {after rest : List Char}
    (hafter : skipBlanks after = c :: rest) (hend : EndsValue after) (hc : c = ',' ∨ c = '\x7d') :
    readMembers? members (fuel + 1)
        (gap indented before ++ (memberText indented k t).toList ++ after) =
      if c = ',' then readMembers? (setEntry members k v) fuel rest
      else some (setEntry members k v, rest) := by
  obtain ⟨body, blanks, hchars, hblanks, hkey⟩ := exists_toList_memberText indented k t
  have hvalue : readValue? fuel (blanks ++ (t.toList ++ after)) = some (v, after) := by
    rw [readValue?_skipBlanks (hblanks _)]
    rw [hchars] at hfuel
    simp only [List.length_cons, List.length_append] at hfuel
    exact h.read after fuel hend (by omega)
  rw [List.append_assoc, readMembers?_skipBlanks (skipBlanks_gap_append _ _ _), hchars,
    List.cons_append, List.append_assoc, List.cons_append, List.append_assoc, readMembers?,
    skipBlanks_cons (c := '"') (by decide)]
  simp only [dropExpected?, if_true, Option.bind_eq_bind, Option.bind_some, hkey,
    skipBlanks_cons (c := ':') (by decide), hvalue, hafter]
  rcases hc with rfl | rfl <;> rfl

/-- Written members are read back. -/
theorem readMembers?_texts (depth : Nat) (key : α → String)
    (h : ∀ a ∈ l, ReadsBack indented (value a) (text a)) (hne : l ≠ []) (fuel : Nat)
    (hfuel : 2 * ([','].intercalate (l.map fun a =>
      gap indented (depth + 1) ++ (memberText indented (key a) (text a)).toList)).length < fuel)
    (members : List (String × Json)) (rest : List Char) :
    readMembers? members fuel ([','].intercalate (l.map fun a =>
        gap indented (depth + 1) ++ (memberText indented (key a) (text a)).toList) ++
      (gap indented depth ++ '\x7d' :: rest)) =
      some (l.foldl (fun members a => setEntry members (key a) (value a)) members, rest) := by
  induction l generalizing fuel members with
  | nil => exact absurd rfl hne
  | cons a l ih =>
    obtain ⟨fuel, rfl⟩ : ∃ n, fuel = n + 1 := ⟨fuel - 1, by omega⟩
    rw [List.forall_mem_cons] at h
    cases l with
    | nil =>
      rw [List.map_singleton, List.intercalate_singleton] at hfuel ⊢
      rw [List.length_append] at hfuel
      have hafter : skipBlanks (gap indented depth ++ '\x7d' :: rest) = '\x7d' :: rest := by
        rw [skipBlanks_gap_append, skipBlanks_cons (by decide)]
      rw [readMembers?_memberText h.1 (key a) members _ (by omega) hafter
        (endsValue_gap_append (endsValue_cons (by simp))) (.inr rfl)]
      rfl
    | cons b l =>
      rw [intercalate_map_cons_cons, List.length_append, List.length_append, List.length_cons] at hfuel
      rw [intercalate_map_cons_cons, List.append_assoc, List.cons_append,
        readMembers?_memberText h.1 (key a) members _ (by omega) (skipBlanks_cons (by decide) _)
          (endsValue_cons (by simp)) (.inl rfl), if_pos rfl,
        ih h.2 (List.cons_ne_nil _ _) fuel (by omega)]
      rfl

end Elements

/-- Pieces on a line stay on it when they are joined. -/
theorem newline_not_mem_intercalate {pieces : List (List Char)}
    (h : ∀ piece ∈ pieces, '\n' ∉ piece) : '\n' ∉ [','].intercalate pieces := by
  intro hmem
  rcases mem_of_mem_intercalate hmem with hcomma | ⟨piece, hpiece, hmem⟩
  · exact absurd hcomma (by decide)
  · exact h piece hpiece hmem

/-! ## Plain values -/

section Plain

variable {fuel : Nat} {c : Char} {cs rest : List Char}

/-- A digit or a minus sign begins a number. -/
theorem readValue?_number (hc : c.isDigit = true ∨ c = '-') :
    readValue? (fuel + 1) (c :: cs) = readNumber? (c :: cs) := by
  have hblank : c ∉ [' ', '\n', '\r', '\t'] := by
    intro hmem
    simp only [List.mem_cons, List.not_mem_nil, or_false] at hmem
    rcases hmem with rfl | rfl | rfl | rfl <;> revert hc <;> decide
  rw [readValue?, skipBlanks_cons hblank]
  split
  case h_7 => rfl
  all_goals
    rename_i heq
    cases heq
    exact absurd hc (by decide)

/-- A double quote begins a text. -/
theorem readValue?_string (cs : List Char) :
    readValue? (fuel + 1) ('"' :: cs) =
      (readString? cs).map fun read => (.string read.1, read.2) := by
  rw [readValue?, skipBlanks_cons (c := '"') (by decide)]
  rfl

/-- A square bracket begins an array. -/
theorem readValue?_array (cs : List Char) :
    readValue? (fuel + 1) ('[' :: cs) =
      match skipBlanks cs with
      | ']' :: rest => some (.array [], rest)
      | rest => (readItems? fuel rest).map fun read => (.array read.1, read.2) := by
  rw [readValue?, skipBlanks_cons (c := '[') (by decide)]
  rfl

/-- A brace begins an object. -/
theorem readValue?_object (cs : List Char) :
    readValue? (fuel + 1) ('\x7b' :: cs) =
      match skipBlanks cs with
      | '\x7d' :: rest => some (.object [], rest)
      | rest => (readMembers? [] fuel rest).map fun read => (.object read.1, read.2) := by
  rw [readValue?, skipBlanks_cons (c := '\x7b') (by decide)]
  rfl

/-- Blanks are skipped at once. -/
theorem skipBlanks_skipBlanks (cs : List Char) : skipBlanks (skipBlanks cs) = skipBlanks cs :=
  List.dropWhile_idempotent _ cs

/-- An array with items is read as these. -/
theorem readValue?_items {before : List Char} {items : List Json} (hopens : skipBlanks before = c :: cs)
    (hc : c ≠ ']') (h : readItems? fuel before = some (items, rest)) :
    readValue? (fuel + 1) ('[' :: before) = some (.array items, rest) := by
  rw [← readItems?_skipBlanks (skipBlanks_skipBlanks before), hopens] at h
  rw [readValue?_array, hopens]
  split
  · rename_i heq
    cases heq
    exact absurd rfl hc
  · rw [h]
    rfl

/-- An object with members is read as these. -/
theorem readValue?_members {before : List Char} {members : List (String × Json)}
    (hopens : skipBlanks before = '"' :: cs)
    (h : readMembers? [] fuel before = some (members, rest)) :
    readValue? (fuel + 1) ('\x7b' :: before) = some (.object members, rest) := by
  rw [← readMembers?_skipBlanks (skipBlanks_skipBlanks before), hopens] at h
  rw [readValue?_object, hopens]
  change (readMembers? [] fuel ('"' :: cs)).map _ = _
  rw [h]
  rfl

end Plain

/-- A written integer begins with a digit or a minus sign. -/
theorem exists_toList_integer (n : Int) :
    ∃ c cs, (toString n).toList = c :: cs ∧ (c.isDigit = true ∨ c = '-') := by
  cases n with
  | ofNat m =>
    obtain ⟨c, cs, hc, heq⟩ := exists_toList_toString m
    exact ⟨c, cs, heq, .inl hc⟩
  | negSucc m => exact ⟨'-', (toString (m + 1)).toList, String.toList_append, .inr rfl⟩

/-- A text is read as a value if it is so by its first character and what follows. -/
theorem readsBack_of_cons {indented : Bool} {value : Json} {text : String} {c : Char} {cs : List Char}
    (hchars : text.toList = c :: cs) (hc : c ∉ [' ', '\n', '\r', '\t', ']'])
    (hline : indented = false → '\n' ∉ text.toList)
    (hread : ∀ rest fuel, EndsValue rest → 2 * cs.length < fuel →
      readValue? (fuel + 1) (c :: (cs ++ rest)) = some (value, rest)) :
    ReadsBack indented value text := by
  refine ⟨⟨c, cs, hchars, hc⟩, hline, ?_⟩
  intro rest fuel hrest hfuel
  rw [hchars, List.length_cons] at hfuel
  obtain ⟨fuel, rfl⟩ : ∃ n, fuel = n + 1 := ⟨fuel - 1, by omega⟩
  rw [hchars, List.cons_append]
  exact hread rest fuel hrest (by omega)

/-- A written integer is read back. -/
theorem readsBack_integer (indented : Bool) (n : Int) : ReadsBack indented (.int n) (toString n) := by
  obtain ⟨c, cs, heq, hc⟩ := exists_toList_integer n
  refine readsBack_of_cons heq ?_ (fun _ => newline_not_mem_integer n) ?_
  · intro hmem
    simp only [List.mem_cons, List.not_mem_nil, or_false] at hmem
    rcases hmem with rfl | rfl | rfl | rfl | rfl <;> revert hc <;> decide
  · intro rest fuel hrest _
    have hread := readNumber?_toString n hrest
    rw [heq, List.cons_append] at hread
    rw [readValue?_number hc, hread]

/-- A written text is read back. -/
theorem readsBack_string (indented : Bool) (s : String) : ReadsBack indented (.string s) (escaped s) := by
  obtain ⟨body, hbody, hread⟩ := exists_readString?_escaped s
  refine readsBack_of_cons hbody (by decide) (fun _ => newline_not_mem_escaped s) ?_
  intro rest fuel _ _
  rw [readValue?_string, hread]
  rfl

section Enclosed

variable {α : Type} {l : List α} {key : α → String} {value : α → Json} {text : α → String}

/-- What stands between two brackets begins like the first element, behind blanks. -/
theorem exists_skipBlanks_intercalate (indented : Bool) (depth : Nat) (f : α → List Char) (hne : l ≠ [])
    {c : Char} (hc : c ∉ [' ', '\n', '\r', '\t']) (h : ∀ a ∈ l.head?, ∃ cs, f a = c :: cs)
    (rest : List Char) :
    ∃ more, skipBlanks ([','].intercalate (l.map fun a => gap indented depth ++ f a) ++ rest) =
      c :: more := by
  obtain ⟨a, others, rfl⟩ := List.exists_cons_of_ne_nil hne
  obtain ⟨cs, heq⟩ := h a rfl
  have hfirst : ∃ more, [','].intercalate ((a :: others).map fun a => gap indented depth ++ f a) ++ rest =
      gap indented depth ++ (f a ++ more) := by
    cases others with
    | nil => exact ⟨rest, by rw [List.map_singleton, List.intercalate_singleton, List.append_assoc]⟩
    | cons b others =>
      rw [intercalate_map_cons_cons, List.append_assoc, List.append_assoc, List.cons_append]
      exact ⟨_, rfl⟩
  obtain ⟨more, hmore⟩ := hfirst
  rw [hmore, skipBlanks_gap_append, heq, List.cons_append]
  exact ⟨cs ++ more, skipBlanks_cons hc _⟩

/-- Enclosed texts stand between their brackets, each behind a gap. -/
theorem toList_enclose_map (indented : Bool) (depth : Nat) (opening closing : String)
    (text : α → String) (hne : l ≠ []) :
    (enclose indented depth opening closing (l.map text)).toList = opening.toList ++
      ([','].intercalate (l.map fun a => gap indented (depth + 1) ++ (text a).toList) ++
        (gap indented depth ++ closing.toList)) := by
  have htexts : l.map text ≠ [] := by simpa using hne
  rw [toList_enclose_of_ne_nil indented depth opening closing htexts, List.map_map]
  rfl

/-- Items on a line stay on it when they are enclosed without gaps. -/
theorem newline_not_mem_enclose (depth : Nat) {opening closing : String}
    (hopening : '\n' ∉ opening.toList) (hclosing : '\n' ∉ closing.toList)
    (h : ∀ a ∈ l, '\n' ∉ (text a).toList) :
    '\n' ∉ (enclose false depth opening closing (l.map text)).toList := by
  have hitems : '\n' ∉ [','].intercalate ((l.map text).map String.toList) :=
    newline_not_mem_intercalate (by simpa using h)
  rw [toList_enclose, List.mem_append, List.mem_append]
  rintro (hmem | hmem | hmem)
  · exact hopening hmem
  · exact hitems hmem
  · exact hclosing hmem

/-- The items of an array are read back one after the other. -/
theorem readsBack_array (depth : Nat) {indented : Bool}
    (h : ∀ a ∈ l, ReadsBack indented (value a) (text a)) :
    ReadsBack indented (.array (l.map value)) (enclose indented depth "[" "]" (l.map text)) := by
  have hline : indented = false →
      '\n' ∉ (enclose indented depth "[" "]" (l.map text)).toList := by
    rintro rfl
    exact newline_not_mem_enclose depth (by decide) (by decide) fun a ha => (h a ha).oneLine rfl
  cases l with
  | nil =>
    have hchars : (enclose indented depth "[" "]" (([] : List α).map text)).toList = ['[', ']'] := by
      rw [List.map_nil, enclose]
      rfl
    refine readsBack_of_cons hchars (by decide) hline ?_
    intro rest fuel _ _
    rw [readValue?_array, List.cons_append, skipBlanks_cons (c := ']') (by decide)]
    rfl
  | cons a l =>
    have hchars := toList_enclose_map indented depth "[" "]" text (List.cons_ne_nil a l)
    rw [show "[".toList = ['['] from rfl, show "]".toList = [']'] from rfl, List.cons_append,
      List.nil_append] at hchars
    -- The first item does not end the array.
    obtain ⟨c, cs, heq, hc⟩ := (h a List.mem_cons_self).opens
    have hblank : c ∉ [' ', '\n', '\r', '\t'] := by
      intro hmem
      refine hc ?_
      simp only [List.mem_cons] at hmem ⊢
      tauto
    have hclose : c ≠ ']' := by
      rintro rfl
      exact hc (by decide)
    refine readsBack_of_cons hchars (by decide) hline ?_
    intro rest fuel _ hfuel
    rw [List.length_append] at hfuel
    have hread := readItems?_texts depth h (List.cons_ne_nil _ _) fuel (by omega) rest
    obtain ⟨more, hmore⟩ := exists_skipBlanks_intercalate (l := a :: l) indented (depth + 1)
      (fun a => (text a).toList) (List.cons_ne_nil _ _) hblank (by rintro _ ⟨⟩; exact ⟨cs, heq⟩)
      (gap indented depth ++ ']' :: rest)
    rw [List.append_assoc, List.append_assoc, List.singleton_append]
    exact readValue?_items hmore hclose hread

/-- Members with distinct keys are entered in their order. -/
theorem foldl_setEntry_map (hkeys : (l.map key).Nodup) :
    l.foldl (fun members a => setEntry members (key a) (value a)) [] =
      l.map fun a => (key a, value a) := by
  have hnodup : (([] ++ l.map fun a => (key a, value a)).map Prod.fst).Nodup := by
    rw [List.nil_append, List.map_map]
    exact hkeys
  have hfold := foldl_setEntry hnodup
  rwa [List.foldl_map, List.nil_append] at hfold

/-- The members of an object are read back one after the other, if no key comes twice. -/
theorem readsBack_object (depth : Nat) {indented : Bool} (hkeys : (l.map key).Nodup)
    (h : ∀ a ∈ l, ReadsBack indented (value a) (text a)) :
    ReadsBack indented (.object (l.map fun a => (key a, value a)))
      (enclose indented depth "\x7b" "\x7d" (l.map fun a =>
        memberText indented (key a) (text a))) := by
  have hline : indented = false → '\n' ∉ (enclose indented depth "\x7b" "\x7d" (l.map fun a =>
      memberText indented (key a) (text a))).toList := by
    rintro rfl
    refine newline_not_mem_enclose depth (by decide) (by decide) fun a ha => ?_
    have hvalue := (h a ha).oneLine rfl
    simp +decide only [memberText, newline_not_mem_append, newline_not_mem_escaped, hvalue]
  cases l with
  | nil =>
    have hchars : (enclose indented depth "\x7b" "\x7d" (([] : List α).map fun a =>
        memberText indented (key a) (text a))).toList = ['\x7b', '\x7d'] := by
      rw [List.map_nil, enclose]
      rfl
    refine readsBack_of_cons hchars (by decide) hline ?_
    intro rest fuel _ _
    rw [readValue?_object, List.cons_append, skipBlanks_cons (c := '\x7d') (by decide)]
    rfl
  | cons a l =>
    have hchars := toList_enclose_map indented depth "\x7b" "\x7d"
      (fun a => memberText indented (key a) (text a)) (List.cons_ne_nil a l)
    rw [show "\x7b".toList = ['\x7b'] from rfl, show "\x7d".toList = ['\x7d'] from rfl,
      List.cons_append, List.nil_append] at hchars
    obtain ⟨body, blanks, hbody, _⟩ := exists_toList_memberText indented (key a) (text a)
    refine readsBack_of_cons hchars (by decide) hline ?_
    intro rest fuel _ hfuel
    rw [List.length_append] at hfuel
    have hread := readMembers?_texts depth key h (List.cons_ne_nil _ _) fuel (by omega) [] rest
    obtain ⟨more, hmore⟩ := exists_skipBlanks_intercalate (l := a :: l) indented (depth + 1)
      (fun a => (memberText indented (key a) (text a)).toList) (List.cons_ne_nil _ _) (c := '"')
      (by decide) (by rintro _ ⟨⟩; exact ⟨_, hbody⟩) (gap indented depth ++ '\x7d' :: rest)
    rw [foldl_setEntry_map hkeys] at hread
    rw [List.append_assoc, List.append_assoc, List.singleton_append]
    exact readValue?_members hmore hread

end Enclosed

/-- The text of a plain value is read as the value, with its members sorted. -/
theorem IsPlain.readsBack {layout : Layout} (hsorted : layout.sorted = true) {value : Json}
    (h : value.IsPlain) {depth : Nat} {text : String}
    (hwritten : textAt layout depth value = .ok text) :
    ReadsBack layout.indented value.arranged text := by
  induction h generalizing depth text with
  | null =>
    cases hwritten
    exact readsBack_of_cons rfl (by decide) (fun _ => by decide) fun _ _ _ _ => rfl
  | bool b =>
    cases b <;> cases hwritten <;>
      exact readsBack_of_cons rfl (by decide) (fun _ => by decide) fun _ _ _ _ => rfl
  | int n =>
    rw [textAt, integerText] at hwritten
    split at hwritten <;> cases hwritten
    exact readsBack_integer _ n
  | string s =>
    cases hwritten
    exact readsBack_string _ s
  | @array items plain ih =>
    rw [textAt] at hwritten
    obtain ⟨texts, htexts, hwritten⟩ := bind_eq_ok.mp hwritten
    obtain ⟨rfl, hitems⟩ := itemTexts_eq_map htexts
    cases hwritten
    rw [arranged, arrangedItems_eq_map]
    exact readsBack_array depth fun item hitem => ih item hitem (hitems item hitem)
  | @object members keys plain ih =>
    obtain ⟨rfl, hmembers⟩ := textAt_object hsorted hwritten
    have hperm := sortedMembers_perm members
    rw [arranged_object]
    refine readsBack_object depth ((hperm.map Prod.fst).nodup_iff.mpr keys) fun m hm => ?_
    have hmem := hperm.mem_iff.mp hm
    exact ih m hmem (hmembers m hmem)

/-- A plain value that is written with its members sorted is read back so. -/
theorem IsPlain.read?_write {layout : Layout} (hsorted : layout.sorted = true) {value : Json}
    {text : String} (h : value.IsPlain) (hwritten : value.write layout = .ok text) :
    read? text = some value.arranged ∧ (layout.indented = false → '\n' ∉ text.toList) := by
  have hback := h.readsBack hsorted hwritten
  have hread := hback.read [] (2 * text.toList.length + 2) endsValue_nil (by omega)
  rw [List.append_nil] at hread
  refine ⟨?_, hback.oneLine⟩
  unfold read?
  dsimp only
  rw [hread]
  rfl

end Bundler.Json
