import Bundler.Proofs.Lists
import Bundler.Proofs.Path.Canonical
import Bundler.Reference

/-!
# Paths continued by names

A text that is a name stands for one name, so that putting it behind a path, or a suffix behind the
last name of a path, changes the names in the expected way.
-/

set_option autoImplicit false

namespace Bundler.Path

/-- A path continued by names. -/
def extend (p : Path) (names : List String) : Path :=
  { p with names := p.names ++ names }

/-- A longer path begins where the path does. -/
@[simp]
theorem anchor_extend (p : Path) (names : List String) : (p.extend names).anchor = p.anchor := rfl

/-- A longer path has further names. -/
@[simp]
theorem names_extend (p : Path) (names : List String) :
    (p.extend names).names = p.names ++ names := rfl

/-- A path is not continued by nothing. -/
@[simp]
theorem extend_nil (p : Path) : p.extend [] = p := by
  rw [extend, List.append_nil]

/-- Names behind names continue a path by both. -/
theorem extend_extend (p : Path) (names more : List String) :
    (p.extend names).extend more = p.extend (names ++ more) := by
  rw [extend, extend, extend, List.append_assoc]

/-- A path is continued in different ways by different names. -/
theorem extend_inj {p : Path} {names other : List String} :
    p.extend names = p.extend other ↔ names = other := by
  simp [extend]

/-- A path in normal form keeps it when names are added. -/
theorem IsCanonical.extend {p : Path} (h : p.IsCanonical) {names : List String}
    (hnames : ∀ name ∈ names, IsName name) : (p.extend names).IsCanonical := by
  intro name hname
  rcases List.mem_append.mp hname with hname | hname
  · exact h name hname
  · exact hnames name hname

/-! ## A name behind a path -/

section Names

variable {p : Path} {name suffix : String}

/-- A name with a suffix is a name again. -/
theorem IsName.append (h : IsName name) (hsuffix : '/' ∉ suffix.toList) :
    IsName (name ++ suffix) where
  ne_empty := by
    intro hempty
    rw [String.append_eq_empty_iff] at hempty
    exact h.ne_empty hempty.1
  ne_dot := by
    intro hdot
    have hchars : name.toList ++ suffix.toList = ['.'] := by
      rw [← String.toList_append, hdot]
      rfl
    rcases List.append_eq_singleton_iff.mp hchars with ⟨hname, _⟩ | ⟨hname, _⟩
    · exact h.ne_empty (String.toList_eq_nil_iff.mp hname)
    · exact h.ne_dot (String.toList_inj.mp hname)
  no_slash := by
    rw [String.toList_append, List.mem_append]
    rintro (hslash | hslash)
    · exact h.no_slash hslash
    · exact hsuffix hslash

/-- The initializer of a package is a name. -/
theorem isName_initializer (hsuffix : '/' ∉ suffix.toList) : IsName ("__init__" ++ suffix) :=
  IsName.append ⟨by decide, by decide, by decide⟩ hsuffix

/-- A name is the only one in its text. -/
theorem namesOf_eq_singleton (h : IsName name) : namesOf name = [name] := by
  have hnames : namesOf ("/".intercalate [name]) = [name] :=
    namesOf_intercalate (by simpa using h)
  rwa [String.intercalate_singleton] at hnames

/-- The text of a name is a relative path. -/
theorem ofString_of_isName (h : IsName name) : ofString name = ⟨.relative, [name]⟩ := by
  have hslash : ("/".intercalate [name]).toList.takeWhile (· == '/') = [] :=
    takeWhile_slash_intercalate (by simpa using h)
  rw [String.intercalate_singleton] at hslash
  rw [ofString, namesOf_eq_singleton h, hslash]
  rfl

/-- A name that is put behind a path continues it. -/
theorem div_eq_extend (h : IsName name) : p / name = p.extend [name] := by
  change p.join (ofString name) = _
  rw [ofString_of_isName h]
  rfl

/-- No name begins with a slash. -/
theorem not_startsWith_slash (h : IsName name) : name.startsWith "/" = false := by
  rw [String.startsWith_string_eq_false_iff]
  intro hslash
  exact h.no_slash (hslash.subset List.mem_cons_self)

/-- No name ends with a slash. -/
theorem not_endsWith_slash (h : IsName name) : name.endsWith "/" = false := by
  rw [← String.endsWith_toSlice, String.Slice.endsWith_string_eq_false_iff, String.copy_toSlice]
  intro hslash
  exact h.no_slash (hslash.subset List.mem_cons_self)

/-- A suffix is put behind the last name. -/
theorem withSuffix_extend {before : List String} (h : IsName name) (hsuffix : '/' ∉ suffix.toList) :
    (p.extend (before ++ [name])).withSuffix suffix = .ok (p.extend (before ++ [name ++ suffix])) := by
  have hlast : (p.extend (before ++ [name])).name = name := by
    rw [Path.name, names_extend, ← List.append_assoc, List.getLastD_concat]
  have hnew := h.append hsuffix
  rw [withSuffix, withName, hlast, if_neg h.ne_empty, not_startsWith_slash hnew,
    not_endsWith_slash hnew, namesOf_eq_singleton hnew]
  simp [extend, ← List.append_assoc]

/-- The initializers of a package. -/
theorem initializers_eq {suffixes : List String} (h : ∀ x ∈ suffixes, '/' ∉ x.toList) :
    initializers p suffixes = suffixes.map fun suffix => p.extend ["__init__" ++ suffix] := by
  apply List.map_congr_left
  intro suffix hsuffix
  exact div_eq_extend (isName_initializer (h suffix hsuffix))

/-- The files of a name with every suffix. -/
theorem mapM_withSuffix {before suffixes : List String} (hname : IsName name)
    (h : ∀ x ∈ suffixes, '/' ∉ x.toList) :
    suffixes.mapM (p.extend (before ++ [name])).withSuffix =
      .ok (suffixes.map fun suffix => p.extend (before ++ [name ++ suffix])) := by
  induction suffixes with
  | nil => rfl
  | cons suffix suffixes ih =>
    rw [List.mapM_cons, withSuffix_extend hname (h suffix List.mem_cons_self),
      ih fun x hx => h x (List.mem_cons_of_mem _ hx)]
    rfl

end Names

/-- Climbing leaves out the last names, as far as there are any. -/
theorem climb_eq (directory : Path) (n : Nat) :
    climb directory n =
      { directory with names := directory.names.take (directory.names.length - n) } := by
  induction n generalizing directory with
  | zero => simp [climb]
  | succ n ih =>
    rw [climb, ih]
    simp only [parent, List.dropLast_eq_take, List.take_take, List.length_take, mk.injEq, true_and]
    congr 1
    omega

end Bundler.Path
