import Bundler.Proofs.Lists
import Bundler.Proofs.Syntax.Literal
import Bundler.Text.CharacterName
import Bundler.Text.Split

/-!
# Reading a table of modules

A reader for the table of modules in a bundle. The lines of the table are found behind the last line
that begins one, and the literals in them are read by the rules of the language: a text by those of
the lexer and of the decoder of escapes, a dictionary item by item. Each item that the reader takes is
read as what has been written, whatever follows it.
-/

set_option autoImplicit false

namespace Bundler

open Bundler.Syntax (IsQuote takeLiteral)
open Bundler.Text (CodePoints)

/-- An entry that has been read off a table of modules. -/
structure TableEntry where
  /-- The key of the entry. -/
  identity : Nat
  /-- The text that is compiled. -/
  code : String
  /-- The file that it is compiled as. -/
  compiledAs : String
  /-- The name of the module. -/
  name : String
  /-- The file of the module. -/
  file : String
  /-- The references of the module, each with the identity that it leads to. -/
  referenceMap : List (String × Int)
deriving DecidableEq, Repr

namespace Table

/-! ## Reading items -/

/-- What follows a text at the beginning of another one. -/
def drop? (text : String) (cs : List Char) : Option (List Char) :=
  cs.dropPrefix? text.toList

/-- How literals are read. No literal of a table is formatted. -/
def reading : Syntax.Formatted.Reading where
  lookup := Text.characterNamed?
  field := fun line _ => .error ⟨.invalid, line⟩
  faultLine := 1

/-- Reads the literal of a text without lone surrogates. -/
def takeText (cs : List Char) : Option (String × List Char) :=
  match takeLiteral reading cs with
  | some (.constant (.text points _), rest) => (CodePoints.toString? points).map (·, rest)
  | _ => none

/-- Whether a character may stand between two tokens of a line. -/
def isLineBlank (c : Char) : Bool :=
  c == ' ' || c == '\t' || c.toNat == 12

/-- What follows the blanks at the beginning of a line. -/
def skipBlanks (cs : List Char) : List Char :=
  cs.dropWhile isLineBlank

/-- Reads a decimal numeral. -/
def takeNatural (cs : List Char) : Option (Nat × List Char) :=
  let digits := cs.takeWhile Char.isDigit
  if digits = [] ∨ Syntax.Numeral.hasLeadingZero digits = true then none
  else some (Syntax.Numeral.digitsIn 10 digits, cs.dropWhile Char.isDigit)

/-- Reads a decimal numeral with an optional sign. -/
def takeInteger : List Char → Option (Int × List Char)
  | '-' :: cs => (takeNatural (skipBlanks cs)).map fun (n, rest) => (-n, rest)
  | cs => (takeNatural cs).map fun (n, rest) => (n, rest)

/-- Reads a key and its value. -/
def takeItem (cs : List Char) : Option ((String × Int) × List Char) := do
  let (key, cs) ← takeText cs
  let cs ← drop? ":" (skipBlanks cs)
  let (value, cs) ← takeInteger (skipBlanks cs)
  return ((key, value), cs)

/-- Reads the items of a dictionary up to its closing brace. A key that comes again keeps its place
and takes the later value, and a comma may follow the last item. -/
def takeItems (items : List (String × Int)) :
    (fuel : Nat) → List Char → Option (List (String × Int) × List Char)
  | 0, _ => none
  | fuel + 1, cs =>
    match drop? "\x7d" (skipBlanks cs) with
    | some rest => some (items, rest)
    | none => do
      let ((key, value), cs) ← takeItem (skipBlanks cs)
      let items := setEntry items key value
      match skipBlanks cs with
      | ',' :: rest => takeItems items fuel rest
      | rest => (drop? "\x7d" rest).map fun rest => (items, rest)

/-- Reads the literal of a dictionary. -/
def takeDictionary (cs : List Char) : Option (List (String × Int) × List Char) := do
  let cs ← drop? "\x7b" cs
  takeItems [] cs.length cs

/-! ## Reading rows -/

/-- Reads the first line of a row. -/
def readOpening (line : List Char) : Option Nat := do
  let cs ← drop? "    " line
  let (identity, cs) ← takeNatural cs
  guard (cs = ": (".toList)
  return identity

/-- Reads the line of a row with what is compiled. -/
def readCompile (line : List Char) : Option (String × String) := do
  let cs ← drop? "            compile(" line
  let (code, cs) ← takeText cs
  let cs ← drop? ", " cs
  let (file, cs) ← takeText cs
  guard (cs = ", 'exec'),".toList)
  return (code, file)

/-- Reads the line of a row with the names that the code finds. -/
def readNames (line : List Char) : Option (String × String) := do
  let cs ← drop? "            " line
  let (name, cs) ← takeText (← drop? "\x7b\"__name__\": " cs)
  let (file, cs) ← takeText (← drop? ", \"__file__\": " cs)
  let cs ← drop? ", \"require\": require, \"module\": module, \"exports\": exports\x7d" cs
  guard (cs = [','])
  return (name, file)

/-- Reads the line of a row with its references. -/
def readMapping (line : List Char) : Option (List (String × Int)) := do
  let cs ← drop? "        " line
  let (mapping, cs) ← takeDictionary cs
  guard (cs = [','])
  return mapping

/-- Reads rows, seven lines each, up to the end of the table, which ends the text. -/
def readRows : List (List Char) → Option (List TableEntry)
  | [ending, []] => if ending = "\x7d)".toList then some [] else none
  | opening :: call :: compiled :: names :: closing :: mapping :: ending :: rest => do
    let identity ← readOpening opening
    guard (call = "        lambda require, module, exports: exec(".toList)
    let (code, compiledAs) ← readCompile compiled
    let (name, file) ← readNames names
    guard (closing = "        ),".toList)
    let referenceMap ← readMapping mapping
    guard (ending = "    ),".toList)
    return ⟨identity, code, compiledAs, name, file, referenceMap⟩ :: (← readRows rest)
  | _ => none

/-- The lines behind the last line of a kind, if there is one. -/
def afterLast (line : List Char) : List (List Char) → Option (List (List Char))
  | [] => none
  | first :: rest => (afterLast line rest).orElse fun _ => if first = line then some rest else none

/-- Reads the table of modules in a bundle. -/
def read (text : String) : Option (List TableEntry) := do
  readRows (← afterLast "_bundle(\x7b".toList (Text.splitChars '\n' text.toList))

/-! ## Items -/

/-- A text is dropped where it stands. -/
theorem drop?_append (text : String) (rest : List Char) :
    drop? text (text.toList ++ rest) = some rest :=
  List.dropPrefix?_eq_some_iff.mpr ⟨text.toList, rfl, beq_self_eq_true _⟩

/-- A text is not dropped where another character stands. -/
theorem drop?_eq_none {c d : Char} {text : String} {cs rest : List Char}
    (htext : text.toList = c :: cs) (h : d ≠ c) : drop? text (d :: rest) = none := by
  rw [Option.eq_none_iff_forall_ne_some]
  intro left hleft
  obtain ⟨front, hfront, heq⟩ := List.dropPrefix?_eq_some_iff.mp hleft
  rw [htext, beq_iff_eq] at heq
  rw [heq] at hfront
  exact h (List.cons.inj hfront).1

/-- Code points of a text give the text. -/
theorem toString?_ofString (s : String) :
    CodePoints.toString? (CodePoints.ofString s) = some s := by
  unfold CodePoints.toString? CodePoints.ofString
  have hvalid : (s.toList.map Char.toNat).all (fun p => p.isValidChar) = true := by
    rw [List.all_map, List.all_eq_true]
    intro c _
    exact decide_eq_true c.valid
  rw [if_pos hvalid, List.map_map]
  have hid : (Char.ofNat ∘ Char.toNat) = id := funext Char.ofNat_toNat
  rw [hid, List.map_id, String.ofList_toList]

/-- The quoted form of a text is read as the text. -/
theorem takeText_quoted (s : String) {rest : List Char}
    (hrest : ∀ quote, IsQuote quote → rest.head? ≠ some quote) :
    takeText ((Text.quoted s).toList ++ rest) = some (s, rest) := by
  have htake := takeLiteral_quoted reading s false hrest
  rw [Syntax.textMarks, if_neg Bool.false_ne_true, List.nil_append] at htake
  unfold takeText
  simp only [htake, toString?_ofString, Option.map_some]

/-- The text of a data value is read as the text. -/
theorem takeText_escaped (s : String) {rest : List Char} (hrest : rest.head? ≠ some '"') :
    takeText ((Json.escaped s).toList ++ rest) = some (s, rest) := by
  unfold takeText
  simp only [takeLiteral_escaped reading s hrest, toString?_ofString, Option.map_some]

/-- The decimal digits of a number are read as the number. -/
theorem takeNatural_toString (n : Nat) {rest : List Char}
    (hrest : ∀ c ∈ rest.head?, c.isDigit = false) :
    takeNatural ((toString n).toList ++ rest) = some (n, rest) := by
  -- A numeral must not begin with a zero, unless it is that of zero.
  have hleading : Syntax.Numeral.hasLeadingZero (Nat.toDigits 10 n) = false := by
    rw [Syntax.Numeral.hasLeadingZero, Bool.and_eq_false_iff]
    by_cases hhead : (Nat.toDigits 10 n).head? = some '0'
    · rw [eq_zero_of_head?_toDigits (by decide) (by decide) hhead]
      exact .inr rfl
    · exact .inl (beq_false_of_ne hhead)
  have haccepted : ¬(Nat.toDigits 10 n = [] ∨
      Syntax.Numeral.hasLeadingZero (Nat.toDigits 10 n) = true) := by
    simp [Nat.toDigits_ne_nil, hleading]
  unfold takeNatural
  rw [takeWhile_toString n hrest, dropWhile_toString n hrest, toList_toString]
  dsimp only
  rw [if_neg haccepted, Syntax.Numeral.digitsIn_toDigits (by decide) (by decide)]

/-- An integer without a sign is a natural number. -/
theorem takeInteger_of_ne {c : Char} {cs : List Char} (h : c ≠ '-') :
    takeInteger (c :: cs) = (takeNatural (c :: cs)).map fun (n, rest) => (n, rest) := by
  unfold takeInteger
  split
  · rename_i heq
    exact absurd (List.cons.inj heq).1 h
  · rfl

/-- Nothing is skipped before a character that is no blank. -/
theorem skipBlanks_of_not_blank {c : Char} {cs : List Char} (h : isLineBlank c = false) :
    skipBlanks (c :: cs) = c :: cs :=
  List.dropWhile_cons_of_neg (by simp [h])

/-- A digit is no blank. -/
theorem isLineBlank_of_isDigit {c : Char} (h : c.isDigit = true) : isLineBlank c = false := by
  have hc : 48 ≤ c.toNat := by
    simp only [Char.isDigit, Bool.and_eq_true, decide_eq_true_eq] at h
    exact h.1
  have hne : ∀ d : Char, d.toNat < 48 → c ≠ d := by
    rintro d hd rfl
    omega
  simp only [isLineBlank, Bool.or_eq_false_iff, beq_eq_false_iff_ne]
  exact ⟨⟨hne ' ' (by decide), hne '\t' (by decide)⟩, by omega⟩

/-- No blanks stand before a written number. -/
theorem skipBlanks_natural (n : Nat) (rest : List Char) :
    skipBlanks ((toString n).toList ++ rest) = (toString n).toList ++ rest := by
  obtain ⟨c, cs, hc, heq⟩ := exists_toList_toString n
  rw [heq]
  exact skipBlanks_of_not_blank (isLineBlank_of_isDigit hc)

/-- No blanks stand before a written integer. -/
theorem skipBlanks_integer (n : Int) (rest : List Char) :
    skipBlanks ((toString n).toList ++ rest) = (toString n).toList ++ rest := by
  cases n with
  | ofNat m => exact skipBlanks_natural m rest
  | negSucc m =>
    have htext : (toString (Int.negSucc m)).toList = '-' :: (toString (m + 1)).toList :=
      String.toList_append
    rw [htext]
    exact skipBlanks_of_not_blank rfl

/-- A written integer is taken off a text, up to what is no digit. -/
theorem takeInteger_toString (n : Int) {rest : List Char}
    (hrest : ∀ c ∈ rest.head?, c.isDigit = false) :
    takeInteger ((toString n).toList ++ rest) = some (n, rest) := by
  cases n with
  | ofNat m =>
    obtain ⟨c, cs, hc, heq⟩ := exists_toList_toString m
    have hne : c ≠ '-' := by
      rintro rfl
      cases hc
    have htake := takeNatural_toString m hrest
    change takeInteger ((toString m).toList ++ rest) = _
    rw [heq, List.cons_append] at htake ⊢
    rw [takeInteger_of_ne hne, htake]
    rfl
  | negSucc m =>
    change takeInteger (("-" ++ toString (m + 1)).toList ++ rest) = _
    rw [String.toList_append]
    change (takeNatural (skipBlanks ((toString (m + 1)).toList ++ rest))).map _ = _
    rw [skipBlanks_natural, takeNatural_toString (m + 1) hrest]
    rfl

/-! ## Dictionaries -/

/-- How an item of a dictionary is written. -/
def itemChars (item : String × Int) : List Char :=
  (Json.escaped item.1).toList ++ ':' :: (toString item.2).toList

/-- How a dictionary is written. -/
def dictionaryChars (items : List (String × Int)) : List Char :=
  '{' :: ([','].intercalate (items.map itemChars) ++ ['}'])

/-- A written item begins with a double quote. -/
theorem exists_itemChars (item : String × Int) : ∃ cs, itemChars item = '"' :: cs := by
  obtain ⟨body, _, heq⟩ := exists_isBody_escaped item.1
  rw [itemChars, heq]
  exact ⟨_, rfl⟩

/-- A written item is taken off a text, up to what is no digit. -/
theorem takeItem_itemChars (item : String × Int) {rest : List Char}
    (hrest : ∀ c ∈ rest.head?, c.isDigit = false) :
    takeItem (itemChars item ++ rest) = some (item, rest) := by
  have hcolon : ∀ cs, drop? ":" (skipBlanks (':' :: cs)) = some cs := by
    intro cs
    rw [skipBlanks_of_not_blank (by decide)]
    exact drop?_append ":" cs
  unfold takeItem itemChars
  rw [List.append_assoc, takeText_escaped item.1 (by simp)]
  simp only [Option.bind_eq_bind, Option.bind_some, List.cons_append, hcolon, skipBlanks_integer,
    takeInteger_toString item.2 hrest, Option.pure_def]

/-- An item is added to those before it, and the next one is read if a comma follows. -/
theorem takeItems_cons (entries : List (String × Int)) (item : String × Int) (fuel : Nat)
    {rest : List Char} (hrest : ∀ c ∈ rest.head?, c.isDigit = false) :
    takeItems entries (fuel + 1) (itemChars item ++ rest) =
      match skipBlanks rest with
      | ',' :: rest => takeItems (setEntry entries item.1 item.2) fuel rest
      | rest => (drop? "\x7d" rest).map fun rest => (setEntry entries item.1 item.2, rest) := by
  obtain ⟨cs, hcs⟩ := exists_itemChars item
  have hskip : skipBlanks (itemChars item ++ rest) = itemChars item ++ rest := by
    rw [hcs]
    exact skipBlanks_of_not_blank (by decide)
  have hopen : drop? "\x7d" (itemChars item ++ rest) = none := by
    rw [hcs]
    exact drop?_eq_none rfl (by decide)
  rw [takeItems, hskip, hopen]
  simp only [takeItem_itemChars item hrest, Option.bind_eq_bind, Option.bind_some]

/-- The items of a dictionary are read up to its closing brace. -/
theorem takeItems_itemChars (items entries : List (String × Int)) {fuel : Nat}
    (hfuel : items.length < fuel) (rest : List Char) :
    takeItems entries fuel ([','].intercalate (items.map itemChars) ++ '\x7d' :: rest) =
      some (items.foldl (fun entries item => setEntry entries item.1 item.2) entries, rest) := by
  have hclose : drop? "\x7d" (skipBlanks ('\x7d' :: rest)) = some rest := by
    rw [skipBlanks_of_not_blank (by decide)]
    exact drop?_append "\x7d" rest
  induction items generalizing entries fuel with
  | nil =>
    obtain ⟨fuel, rfl⟩ := Nat.exists_eq_succ_of_ne_zero (Nat.ne_of_gt hfuel)
    rw [List.map_nil, List.intercalate_nil, List.nil_append, takeItems, hclose]
    rfl
  | cons item items ih =>
    obtain ⟨fuel, rfl⟩ := Nat.exists_eq_succ_of_ne_zero (Nat.ne_of_gt (Nat.zero_lt_of_lt hfuel))
    -- What stands behind an item, a comma or the closing brace, depends on whether it is the last.
    cases items with
    | nil =>
      rw [List.map_singleton, List.intercalate_singleton, takeItems_cons _ _ _ (by simp)]
      rw [skipBlanks_of_not_blank (by decide)] at hclose ⊢
      change (drop? "\x7d" ('\x7d' :: rest)).map _ = _
      rw [hclose]
      rfl
    | cons next items =>
      have hnext := ih (setEntry entries item.1 item.2) (Nat.lt_of_succ_lt_succ hfuel)
      rw [List.map_cons, List.map_cons, List.intercalate_cons_cons, List.append_assoc,
        List.append_assoc, ← List.map_cons, takeItems_cons _ _ _ (by simp), List.singleton_append,
        skipBlanks_of_not_blank (by decide)]
      exact hnext

/-- Written items take a character each at least. -/
theorem length_le_intercalate (items : List (String × Int)) :
    items.length ≤ ([','].intercalate (items.map itemChars)).length := by
  induction items with
  | nil => exact Nat.zero_le _
  | cons item items ih =>
    obtain ⟨cs, hcs⟩ := exists_itemChars item
    cases items with
    | nil =>
      rw [List.map_singleton, List.intercalate_singleton, hcs]
      exact Nat.succ_le_succ (Nat.zero_le _)
    | cons next items =>
      rw [List.map_cons, List.map_cons, List.intercalate_cons_cons, ← List.map_cons, hcs]
      simp only [List.length_append, List.length_cons] at ih ⊢
      omega

/-- A dictionary without repeated keys is read as it was. -/
theorem takeDictionary_dictionaryChars {items : List (String × Int)}
    (hkeys : (items.map Prod.fst).Nodup) (rest : List Char) :
    takeDictionary (dictionaryChars items ++ rest) = some (items, rest) := by
  have hopen : ∀ cs, drop? "\x7b" ('\x7b' :: cs) = some cs := drop?_append "\x7b"
  have hlength := length_le_intercalate items
  unfold takeDictionary dictionaryChars
  rw [List.cons_append, List.append_assoc, List.singleton_append, hopen]
  simp only [Option.bind_eq_bind, Option.bind_some]
  rw [takeItems_itemChars items [] (by simp only [List.length_append, List.length_cons]; omega),
    foldl_setEntry hkeys, List.nil_append]

end Table

end Bundler
