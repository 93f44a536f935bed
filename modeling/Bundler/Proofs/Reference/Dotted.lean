import Bundler.Proofs.Import.Replacement
import Bundler.Proofs.Path.Extension
import Bundler.Text.Identifier

/-!
# Dotted references

Scoped imports write references that resolving reads again. A reference is read as dotted if it is
dots, at least one, followed by reference names between dots; a line feed may end it. The imports of
a module can name other things: an identifier is a reference name only if its first letter is ASCII.

The main result says for every relative import whose names are identifiers which of its references
are read as dotted, and what their candidates are: the files of the last name with every suffix,
then the initializers of the package of that name, in the directory that the dots climb to.
-/

set_option autoImplicit false

namespace Bundler

open Bundler.Syntax
open Bundler.Import (RelativeImport referenceText)

/-- Whether a text is an identifier. -/
structure IsIdentifier (name : String) : Prop where
  /-- There is a first character. -/
  ne_empty : name ≠ ""
  /-- Every character may stand where it stands. -/
  characters : Text.firstNonIdentifier? name.toList = none

namespace DottedReference

/-- The text of a dotted reference. -/
def text (r : DottedReference) : String :=
  String.ofList (List.replicate r.dots '.') ++ ".".intercalate r.names

/-- A dotted reference that some text is read as. -/
structure IsReadable (r : DottedReference) : Prop where
  /-- There is a dot. -/
  dots : 0 < r.dots
  /-- All names are reference names. -/
  names : ∀ name ∈ r.names, isReferenceName name.toList = true

/-- The directory that the dots of a reference lead to: one level up for every dot after the first,
and no further than to the root. -/
def base (r : DottedReference) (directory : Path) : Path :=
  { directory with names := directory.names.take (directory.names.length - (r.dots - 1)) }

/-- The files that a dotted reference may name, in the order in which they are tried. -/
def files (r : DottedReference) (directory : Path) (suffixes : List String) : List Path :=
  let inPackage := suffixes.map fun suffix =>
    (r.base directory).extend (r.names ++ ["__init__" ++ suffix])
  match r.names.getLast? with
  | none => inPackage
  | some last =>
    (suffixes.map fun suffix =>
      (r.base directory).extend (r.names.dropLast ++ [last ++ suffix])) ++ inPackage

end DottedReference

/-! ## Characters of names -/

section Characters

variable {name : String}

/-- A character that no word holds stands in no reference name. -/
theorem not_mem_of_isReferenceName {c : Char} (hstart : Text.isWordStart c = false)
    (hword : Text.isWordCharacter c = false) {cs : List Char} (h : isReferenceName cs = true) :
    c ∉ cs := by
  cases cs with
  | nil => exact List.not_mem_nil
  | cons first rest =>
    rw [isReferenceName, Bool.and_eq_true, List.all_eq_true] at h
    intro hc
    rcases List.mem_cons.mp hc with rfl | hc
    · exact Bool.false_ne_true (hstart.symm.trans h.1)
    · exact Bool.false_ne_true (hword.symm.trans (h.2 c hc))

/-- A character that neither begins nor continues identifiers stands in none. -/
theorem IsIdentifier.not_mem {c : Char} (h : IsIdentifier name)
    (hstart : Text.isIdentifierStart c = false) (hnext : Text.isIdentifierContinue c = false) :
    c ∉ name.toList := by
  have hcs := h.characters
  cases hname : name.toList with
  | nil => exact List.not_mem_nil
  | cons first rest =>
    rw [hname, Text.firstNonIdentifier?] at hcs
    split at hcs
    · rename_i hfirst
      rw [List.find?_eq_none] at hcs
      intro hc
      rcases List.mem_cons.mp hc with rfl | hc
      · exact Bool.false_ne_true (hstart.symm.trans hfirst)
      · exact hcs c hc (by rw [hnext]; rfl)
    · cases hcs

/-- A reference name is a name on a path. -/
theorem isName_of_isReferenceName (h : isReferenceName name.toList = true) : Path.IsName name where
  ne_empty := by
    rintro rfl
    cases h
  ne_dot := by
    rintro rfl
    exact absurd h (by decide)
  no_slash := not_mem_of_isReferenceName (by decide) (by decide) h

end Characters

/-! ## Reading -/

/-- Dots in front of characters that begin with none are split off. -/
theorem takeWhile_dots (n : Nat) {tail : List Char} (h : tail.head? ≠ some '.') :
    (List.replicate n '.' ++ tail).takeWhile (· == '.') = List.replicate n '.' ∧
      (List.replicate n '.' ++ tail).dropWhile (· == '.') = tail := by
  induction n with
  | zero =>
    cases tail with
    | nil => exact ⟨rfl, rfl⟩
    | cons c cs =>
      have hc : (c == '.') = false := by simpa using h
      exact ⟨List.takeWhile_cons_of_neg (by simp [hc]), List.dropWhile_cons_of_neg (by simp [hc])⟩
  | succ n ih =>
    rw [List.replicate_succ, List.cons_append, List.takeWhile_cons_of_pos rfl,
      List.dropWhile_cons_of_pos rfl, ih.1]
    exact ⟨rfl, ih.2⟩

/-- What the dots of a text are followed by. -/
theorem exists_eq_dots_append (s : String) :
    ∃ n tail, s = String.ofList (List.replicate n '.' ++ tail) ∧ tail.head? ≠ some '.' := by
  refine ⟨(s.toList.takeWhile (· == '.')).length, s.toList.dropWhile (· == '.'), ?_, ?_⟩
  · have hdots : List.replicate (s.toList.takeWhile (· == '.')).length '.' =
        s.toList.takeWhile (· == '.') := by
      refine (List.eq_replicate_of_mem fun c hc => ?_).symm
      simpa using List.mem_takeWhile_imp hc
    rw [hdots, List.takeWhile_append_dropWhile, String.ofList_toList]
  · intro h
    have := List.head?_dropWhile_not (· == '.') s.toList
    rw [h] at this
    simp at this

namespace DottedReference

/-- The names between the dots of a text. -/
def pieces (tail : List Char) : List (List Char) :=
  if (dropFinalLineFeed tail).isEmpty then [] else Text.splitChars '.' (dropFinalLineFeed tail)

/-- Leading dots are counted, and what follows is split at dots. -/
theorem ofString?_dots_append {n : Nat} {tail : List Char} (h : tail.head? ≠ some '.') :
    ofString? (String.ofList (List.replicate n '.' ++ tail)) =
      if 0 < n && (pieces tail).all isReferenceName then
        some ⟨n, (pieces tail).map String.ofList⟩
      else none := by
  obtain ⟨htake, hdrop⟩ := takeWhile_dots n h
  simp only [ofString?, String.toList_ofList, htake, hdrop, List.length_replicate]
  rfl

/-- Without a line feed nothing is dropped. -/
theorem dropFinalLineFeed_of_not_mem {cs : List Char} (h : '\n' ∉ cs) :
    dropFinalLineFeed cs = cs := by
  unfold dropFinalLineFeed
  rw [if_neg]
  intro hlast
  exact h (List.mem_of_getLast? hlast)

/-- A line feed at the end is dropped. -/
theorem dropFinalLineFeed_concat (cs : List Char) : dropFinalLineFeed (cs ++ ['\n']) = cs := by
  simp [dropFinalLineFeed]

/-- The characters of names joined by dots. -/
def joined (names : List String) : List Char :=
  ['.'].intercalate (names.map String.toList)

/-- A dot stands behind every name but the last. -/
theorem joined_cons_cons (name next : String) (names : List String) :
    joined (name :: next :: names) = name.toList ++ '.' :: joined (next :: names) := by
  simp [joined, List.intercalate]

/-- A reference is written as its dots and its joined names. -/
theorem text_eq (r : DottedReference) :
    r.text = String.ofList (List.replicate r.dots '.' ++ joined r.names) := by
  rw [← String.toList_inj]
  simp [text, joined, String.toList_intercalate]

/-- Names joined by dots hold the characters of names, and dots. -/
theorem mem_joined {names : List String} {c : Char} (h : c ∈ joined names) :
    c = '.' ∨ ∃ name ∈ names, c ∈ name.toList := by
  refine (mem_of_mem_intercalate h).imp List.mem_singleton.mp ?_
  rintro ⟨piece, hpiece, hc⟩
  obtain ⟨name, hname, rfl⟩ := List.mem_map.mp hpiece
  exact ⟨name, hname, hc⟩

section Names

variable {names : List String}

/-- Names that are not empty are joined to a text that is not. -/
theorem joined_ne_nil (h : names ≠ []) (hempty : ∀ name ∈ names, name ≠ "") : joined names ≠ [] := by
  intro hjoined
  cases names with
  | nil => exact h rfl
  | cons name names =>
    cases names with
    | nil =>
      refine hempty name List.mem_cons_self (String.toList_eq_nil_iff.mp ?_)
      simpa [joined, List.intercalate] using hjoined
    | cons next names => simp [joined_cons_cons] at hjoined

/-- Names joined by dots begin as the first of them does. -/
theorem head?_joined (hempty : ∀ name ∈ names, name ≠ "") (hdot : ∀ name ∈ names, '.' ∉ name.toList) :
    (joined names).head? ≠ some '.' := by
  cases names with
  | nil => exact nofun
  | cons name names =>
    have hname : name ≠ "" := hempty name List.mem_cons_self
    cases hcs : name.toList with
    | nil => exact absurd (String.toList_eq_nil_iff.mp hcs) hname
    | cons c cs =>
      have hhead : (joined (name :: names)).head? = some c := by
        cases names with
        | nil => simp [joined, List.intercalate, hcs]
        | cons next names => rw [joined_cons_cons, hcs]; rfl
      rw [hhead]
      rintro ⟨⟩
      exact hdot name List.mem_cons_self (by rw [hcs]; exact List.mem_cons_self)

/-- The names that were joined by dots are read back, with a line feed at the end or without. -/
theorem pieces_joined (hempty : ∀ name ∈ names, name ≠ "") (hdot : ∀ name ∈ names, '.' ∉ name.toList)
    {tail : List Char} (htail : dropFinalLineFeed tail = joined names) :
    pieces tail = names.map String.toList := by
  unfold pieces
  rw [htail]
  cases names with
  | nil => rfl
  | cons name names =>
    have hne : joined (name :: names) ≠ [] := joined_ne_nil (by simp) hempty
    have hsplit : Text.splitChars '.' (joined (name :: names)) = (name :: names).map String.toList := by
      apply Text.splitChars_intercalate (by simp)
      intro piece hpiece
      obtain ⟨other, hother, rfl⟩ := List.mem_map.mp hpiece
      exact hdot other hother
    rw [if_neg (by simpa using hne), hsplit]

/-- Dots and names that hold no dots are a dotted reference if there is a dot and the names are
reference names. -/
theorem ofString?_joined {n : Nat} (hempty : ∀ name ∈ names, name ≠ "")
    (hdot : ∀ name ∈ names, '.' ∉ name.toList) {tail : List Char}
    (hhead : tail.head? ≠ some '.') (htail : dropFinalLineFeed tail = joined names) :
    ofString? (String.ofList (List.replicate n '.' ++ tail)) =
      if 0 < n && names.all (isReferenceName ·.toList) then some ⟨n, names⟩ else none := by
  rw [ofString?_dots_append hhead, pieces_joined hempty hdot htail]
  simp [List.all_map, Function.comp_def]

end Names

namespace IsReadable

variable {r : DottedReference}

/-- No name in a readable reference is empty. -/
theorem name_ne_empty (h : r.IsReadable) : ∀ name ∈ r.names, name ≠ "" := by
  intro name hname
  exact (isName_of_isReferenceName (h.names name hname)).ne_empty

/-- No name in a readable reference holds a dot. -/
theorem dot_not_mem (h : r.IsReadable) : ∀ name ∈ r.names, '.' ∉ name.toList := by
  intro name hname
  exact not_mem_of_isReferenceName (by decide) (by decide) (h.names name hname)

/-- The names in a readable reference are on one line. -/
theorem lineFeed_not_mem (h : r.IsReadable) : '\n' ∉ joined r.names := by
  intro hc
  rcases mem_joined hc with hc | ⟨name, hname, hc⟩
  · cases hc
  · exact not_mem_of_isReferenceName (by decide) (by decide) (h.names name hname) hc

/-- A readable reference is read from its text. -/
theorem ofString?_text (h : r.IsReadable) : ofString? r.text = some r := by
  have hhead := head?_joined h.name_ne_empty h.dot_not_mem
  have hdrop := dropFinalLineFeed_of_not_mem h.lineFeed_not_mem
  rw [text_eq, ofString?_joined h.name_ne_empty h.dot_not_mem hhead hdrop, if_pos]
  simpa using ⟨h.dots, h.names⟩

/-- A readable reference is not empty. -/
theorem text_ne_empty (h : r.IsReadable) : r.text ≠ "" := by
  intro hempty
  have hread := h.ofString?_text
  rw [hempty] at hread
  cases hread

/-- A readable reference is also read from its text with a line feed behind it. -/
theorem ofString?_text_lineFeed (h : r.IsReadable) : ofString? (r.text ++ "\n") = some r := by
  have hhead : (joined r.names ++ ['\n']).head? ≠ some '.' := by
    have := head?_joined h.name_ne_empty h.dot_not_mem
    cases hcs : joined r.names with
    | nil => decide
    | cons c cs => simpa [hcs] using this
  have htext : r.text ++ "\n" =
      String.ofList (List.replicate r.dots '.' ++ (joined r.names ++ ['\n'])) := by
    rw [text_eq, ← List.append_assoc, ← String.toList_inj]
    simp
  rw [htext, ofString?_joined h.name_ne_empty h.dot_not_mem hhead (dropFinalLineFeed_concat _),
    if_pos]
  simpa using ⟨h.dots, h.names⟩

end IsReadable

/-- What is left after a final line feed has been dropped, put in front of it again. -/
theorem eq_or_eq_concat_of_dropFinalLineFeed (cs : List Char) :
    cs = dropFinalLineFeed cs ∨ cs = dropFinalLineFeed cs ++ ['\n'] := by
  unfold dropFinalLineFeed
  split
  · rename_i h
    exact .inr (List.dropLast_append_getLast? '\n' h).symm
  · exact .inl rfl

/-- The pieces joined by dots are what the final line feed was dropped from. -/
theorem joined_pieces (tail : List Char) :
    joined ((pieces tail).map String.ofList) = dropFinalLineFeed tail := by
  unfold pieces
  split
  · rename_i h
    rw [List.isEmpty_iff] at h
    rw [h]
    rfl
  · rw [joined, List.map_map]
    simp [Function.comp_def, Text.intercalate_splitChars]

/-- Only the text of a readable reference is read, with a line feed behind it or without. -/
theorem isReadable_of_ofString? {s : String} {r : DottedReference} (h : ofString? s = some r) :
    r.IsReadable ∧ (s = r.text ∨ s = r.text ++ "\n") := by
  obtain ⟨n, tail, rfl, hhead⟩ := exists_eq_dots_append s
  rw [ofString?_dots_append hhead] at h
  split at h
  · rename_i hnames
    cases h
    rw [Bool.and_eq_true, decide_eq_true_eq, List.all_eq_true] at hnames
    refine ⟨⟨hnames.1, ?_⟩, ?_⟩
    · intro name hname
      obtain ⟨piece, hpiece, rfl⟩ := List.mem_map.mp hname
      rw [String.toList_ofList]
      exact hnames.2 piece hpiece
    · rw [text_eq, joined_pieces]
      rcases eq_or_eq_concat_of_dropFinalLineFeed tail with htail | htail
      · exact .inl (by rw [← htail])
      · refine .inr ?_
        conv_lhs => rw [htail, ← List.append_assoc, String.ofList_append]
  · cases h

/-- The texts that are read as dotted references. -/
theorem isDotted_iff (s : String) :
    isDotted s = true ↔ ∃ r : DottedReference, r.IsReadable ∧ (s = r.text ∨ s = r.text ++ "\n") := by
  rw [isDotted, Option.isSome_iff_exists]
  constructor
  · rintro ⟨r, hr⟩
    exact ⟨r, isReadable_of_ofString? hr⟩
  · rintro ⟨r, hr, rfl | rfl⟩
    · exact ⟨r, hr.ofString?_text⟩
    · exact ⟨r, hr.ofString?_text_lineFeed⟩

end DottedReference

/-! ## Candidates -/

namespace DottedReference

/-- The candidates of a readable reference. -/
theorem IsReadable.candidates_eq {r : DottedReference} (h : r.IsReadable) (directory : Path)
    {suffixes : List String} (hsuffixes : ∀ x ∈ suffixes, '/' ∉ x.toList) :
    r.candidates directory suffixes = .ok (r.files directory suffixes) := by
  have hbase : climb directory (r.dots - 1) = r.base directory := Path.climb_eq directory _
  unfold DottedReference.candidates files
  rw [hbase]
  cases hnames : r.names using List.reverseRecOn with
  | nil =>
    dsimp only [List.getLast?_nil]
    rw [Path.initializers_eq hsuffixes]
    rfl
  | append_singleton before last =>
    have hlast : Path.IsName last := isName_of_isReferenceName (h.names last (by simp [hnames]))
    have hfiles : suffixes.mapM ((r.base directory).extend (before ++ [last])).withSuffix = .ok _ :=
      Path.mapM_withSuffix hlast hsuffixes
    have hnonempty : before ++ [last] ≠ [] := by simp
    rw [List.getLast?_concat, List.dropLast_concat]
    split
    · exact absurd ‹_› hnonempty
    · change (suffixes.mapM ((r.base directory).extend (before ++ [last])).withSuffix >>= fun files =>
        .ok (files ++ initializers ((r.base directory).extend (before ++ [last])) suffixes)) = _
      rw [hfiles, Path.initializers_eq hsuffixes]
      simp only [Path.extend_extend, List.append_assoc]
      rfl

/-- The candidates for a written reference are its files. -/
theorem IsReadable.candidates_text {r : DottedReference} (h : r.IsReadable) (cwd directory : Path)
    {suffixes : List String} (hsuffixes : ∀ x ∈ suffixes, '/' ∉ x.toList) :
    Bundler.candidates cwd directory r.text suffixes = .ok (r.files directory suffixes) := by
  rw [Bundler.candidates, if_neg h.text_ne_empty, h.ofString?_text]
  exact h.candidates_eq directory hsuffixes

end DottedReference

/-! ## References of imports -/

/-- The names in a relative import are identifiers: those of its module, which are joined by dots,
and those that it imports, unless it asks for all. -/
structure Import.RelativeImport.HasIdentifiers (i : RelativeImport) (parts : List String) : Prop where
  /-- There is a dot. -/
  level : 1 ≤ i.level
  /-- The names of the module. -/
  module : i.module = if parts = [] then none else some (".".intercalate parts)
  /-- The names of the module are identifiers. -/
  parts : ∀ name ∈ parts, IsIdentifier name
  /-- The imported names are identifiers. -/
  imported : i.isStar = false → ∀ a ∈ i.names, IsIdentifier a.name

namespace DottedReference

/-- A last name stands behind a dot. -/
theorem joined_concat {parts : List String} (h : parts ≠ []) (name : String) :
    joined (parts ++ [name]) = joined parts ++ '.' :: name.toList := by
  induction parts with
  | nil => exact absurd rfl h
  | cons first parts ih =>
    cases parts with
    | nil => simp [joined, List.intercalate]
    | cons next parts =>
      have hrest := ih (by simp)
      rw [List.cons_append, List.cons_append, joined_cons_cons, ← List.cons_append, hrest,
        joined_cons_cons, List.append_assoc, List.cons_append]

/-- The names of a module and a name in it are joined in one go or one after the other. -/
theorem intercalate_concat {parts : List String} (h : parts ≠ []) (name : String) :
    ".".intercalate [".".intercalate parts, name] = ".".intercalate (parts ++ [name]) := by
  have htext : ∀ names : List String, (".".intercalate names).toList = joined names := by
    intro names
    rw [String.toList_intercalate, joined]
    rfl
  rw [← String.toList_inj, htext, htext, joined_concat h, joined_cons_cons, htext]
  simp [joined, List.intercalate]

/-- The reference of a module is its dots and the names in it. -/
theorem referenceText_eq {level : Nat} {module name : Option String} {parts : List String}
    (hmodule : module = if parts = [] then none else some (".".intercalate parts))
    (hparts : ∀ part ∈ parts, part ≠ "") (hname : ∀ n ∈ name, n ≠ "") :
    referenceText level module name = (DottedReference.mk level (parts ++ name.toList)).text := by
  have hkept : name.toList.filter (!·.isEmpty) = name.toList := by
    rw [List.filter_eq_self]
    intro n hn
    simpa using hname n (by simpa using hn)
  have hjoin : ".".intercalate ((module.toList ++ name.toList).filter (!·.isEmpty)) =
      ".".intercalate (parts ++ name.toList) := by
    rw [List.filter_append, hkept, hmodule]
    by_cases hnil : parts = []
    · simp [hnil]
    · have hne : ".".intercalate parts ≠ "" := by
        intro hempty
        apply joined_ne_nil hnil hparts
        rw [joined, show ['.'] = ".".toList from rfl, ← String.toList_intercalate, hempty]
        rfl
      cases name with
      | none => simp [hnil, hne]
      | some n =>
        have hconcat := intercalate_concat hnil n
        simpa [hnil, hne] using hconcat
  exact congrArg (String.ofList (List.replicate level '.') ++ ·) hjoin

/-- An identifier stands between dots as it is. -/
theorem isDotted_text_iff {r : DottedReference} (hdots : 0 < r.dots)
    (hnames : ∀ name ∈ r.names, IsIdentifier name) :
    isDotted r.text = true ↔ ∀ name ∈ r.names, isReferenceName name.toList = true := by
  have hempty : ∀ name ∈ r.names, name ≠ "" := fun name hname => (hnames name hname).ne_empty
  have hdot : ∀ name ∈ r.names, '.' ∉ name.toList := fun name hname =>
    (hnames name hname).not_mem (by decide) (by decide)
  have hline : '\n' ∉ joined r.names := by
    intro hc
    rcases mem_joined hc with hc | ⟨name, hname, hc⟩
    · cases hc
    · exact (hnames name hname).not_mem (by decide) (by decide) hc
  have hread := ofString?_joined (n := r.dots) hempty hdot (head?_joined hempty hdot)
    (dropFinalLineFeed_of_not_mem hline)
  rw [isDotted, text_eq, hread]
  simp [hdots]

section Imports

variable {i : RelativeImport} {parts : List String}

/-- What the references of an import are: the names of its module, and perhaps an imported name. -/
theorem exists_text (h : i.HasIdentifiers parts) {found : String → Bool}
    {reference : String} (href : reference ∈ i.references found) :
    ∃ names, reference = (DottedReference.mk i.level names).text ∧
      (names = parts ∨ ∃ a ∈ i.names, names = parts ++ [a.name]) ∧
      ∀ name ∈ names, IsIdentifier name := by
  have hparts : ∀ part ∈ parts, part ≠ "" := fun part hpart => (h.parts part hpart).ne_empty
  -- A reference is that of the module, or that of an imported name.
  have hcases : reference = i.moduleReference ∨
      (i.isStar = false ∧ ∃ a ∈ i.names, reference = i.nameReference a) := by
    unfold RelativeImport.references RelativeImport.submodules at href
    cases hstar : i.isStar <;> cases hmodule : i.module <;> simp [hstar, hmodule] at href
    all_goals grind
  rcases hcases with rfl | ⟨hstar, a, ha, rfl⟩
  · refine ⟨parts, ?_, .inl rfl, h.parts⟩
    have htext : referenceText i.level i.module none =
        (DottedReference.mk i.level (parts ++ [])).text :=
      referenceText_eq h.module hparts (by simp)
    rwa [List.append_nil] at htext
  · have hname := h.imported hstar a ha
    refine ⟨parts ++ [a.name], ?_, .inr ⟨a, ha, rfl⟩, ?_⟩
    · exact referenceText_eq h.module hparts (by simpa using hname.ne_empty)
    · intro name hmem
      rcases List.mem_append.mp hmem with hmem | hmem
      · exact h.parts name hmem
      · rw [List.mem_singleton.mp hmem]
        exact hname

end Imports

end DottedReference

/-! ## Main results -/

/-- The references of an import whose names are identifiers are its dots and names; they are read as
dotted just when all names are reference names, and then the files that they may name are those of
the last name with every suffix, and the initializers of its package. Nothing is read as dotted but
dots and reference names, with a line feed behind them or without. -/
theorem references_read_back (i : RelativeImport) (parts : List String) (found : String → Bool)
    (reference : String) (h : i.HasIdentifiers parts) (href : reference ∈ i.references found) :
    (∃ names, (names = parts ∨ ∃ a ∈ i.names, names = parts ++ [a.name]) ∧
      reference = (DottedReference.mk i.level names).text ∧
      (isDotted reference = true ↔ ∀ name ∈ names, isReferenceName name.toList = true) ∧
      (isDotted reference = true → ∀ (cwd directory : Path) (suffixes : List String),
        (∀ x ∈ suffixes, '/' ∉ x.toList) →
        candidates cwd directory reference suffixes =
          .ok ((DottedReference.mk i.level names).files directory suffixes))) ∧
    ∀ s, isDotted s = true ↔
      ∃ r : DottedReference, r.IsReadable ∧ (s = r.text ∨ s = r.text ++ "\n") := by
  refine ⟨?_, DottedReference.isDotted_iff⟩
  obtain ⟨names, rfl, hnames, hidentifiers⟩ := DottedReference.exists_text h href
  have hdotted := DottedReference.isDotted_text_iff (r := ⟨i.level, names⟩) h.level hidentifiers
  refine ⟨names, hnames, rfl, hdotted, ?_⟩
  intro hread cwd directory suffixes hsuffixes
  have hreadable : (DottedReference.mk i.level names).IsReadable := ⟨h.level, hdotted.mp hread⟩
  exact hreadable.candidates_text cwd directory hsuffixes

/-- The references of `from ..a import b`, where `b` is a module, and their candidates. -/
theorem references_read_back_member :
    (RelativeImport.mk (some "a") [⟨"b", none⟩] 2).HasIdentifiers ["a"] ∧
      "..a.b" ∈ (RelativeImport.mk (some "a") [⟨"b", none⟩] 2).references (· == "..a.b") ∧
      isDotted "..a.b" = true ∧
      candidates ⟨.root, []⟩ ⟨.root, ["w", "p"]⟩ "..a.b" [".py"] =
        .ok [⟨.root, ["w", "a", "b.py"]⟩, ⟨.root, ["w", "a", "b", "__init__.py"]⟩] := by
  have hidentifiers : (RelativeImport.mk (some "a") [⟨"b", none⟩] 2).HasIdentifiers ["a"] := by
    refine ⟨by decide, by decide, ?_, ?_⟩
    · intro name hname
      rw [List.mem_singleton.mp hname]
      exact ⟨by decide, by decide⟩
    · intro _ a ha
      rw [List.mem_singleton.mp ha]
      exact ⟨by decide, by decide⟩
  have hreference :
      "..a.b" ∈ (RelativeImport.mk (some "a") [⟨"b", none⟩] 2).references (· == "..a.b") := by
    decide
  have hdotted : isDotted "..a.b" = true := by decide
  obtain ⟨⟨names, hnames, htext, _, hfiles⟩, _⟩ :=
    references_read_back _ _ _ "..a.b" hidentifiers hreference
  refine ⟨hidentifiers, hreference, hdotted, ?_⟩
  rw [hfiles hdotted _ _ _ (by decide)]
  rcases hnames with rfl | ⟨a, ha, rfl⟩
  · exact absurd htext (by decide)
  · rw [List.mem_singleton.mp ha]
    decide

/-- A letter that is not ASCII cannot begin a reference name: the reference of `from .é import x` is
not read as dotted and is taken for a path. A line feed at the end does no harm. -/
theorem not_isDotted_letter :
    (RelativeImport.mk (some "é") [⟨"x", none⟩] 1).references (fun _ => false) = [".é"] ∧
      isDotted ".é" = false ∧ isDotted ".a\n" = true := by
  refine ⟨by decide, by decide +kernel, by decide +kernel⟩

end Bundler
