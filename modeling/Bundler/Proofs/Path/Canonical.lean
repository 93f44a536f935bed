import Bundler.Path

/-!
# Canonical paths

A name is what may stand between two slashes of a text. A path of names only is read back from its
own text, so that such paths and their texts may be used for each other. Normalizing a path leaves
names only: they are pieces of a text, or the names `..` that lead above the start of a relative
path.
-/

set_option autoImplicit false

namespace Bundler.Path

/-- A text that reading a path keeps as one name. -/
structure IsName (name : String) : Prop where
  /-- Nothing is no name. -/
  ne_empty : name ≠ ""
  /-- A single dot is passed over. -/
  ne_dot : name ≠ "."
  /-- A slash ends a name. -/
  no_slash : '/' ∉ name.toList

/-- A path of names only. -/
def IsCanonical (p : Path) : Prop :=
  ∀ name ∈ p.names, IsName name

/-- Two dots are a name on a path. -/
theorem isName_dots : IsName ".." :=
  ⟨by decide, by decide, by decide⟩

/-- The names that are read from a text are names. -/
theorem isName_of_mem_namesOf {s name : String} (h : name ∈ namesOf s) : IsName name := by
  unfold namesOf Text.splitOn at h
  simp only [List.mem_filter, List.mem_map, Bool.and_eq_true, bne_iff_ne, ne_eq] at h
  obtain ⟨⟨piece, hpiece, rfl⟩, hempty, hdot⟩ := h
  refine ⟨hempty, hdot, ?_⟩
  rw [String.toList_ofList]
  exact Text.not_mem_of_mem_splitChars hpiece

/-- A slash in front of a text does not change the names on it. -/
theorem namesOf_slash_append (s : String) : namesOf ("/" ++ s) = namesOf s := by
  unfold namesOf Text.splitOn
  simp [Text.splitChars]

/-- Names joined by slashes are read back. -/
theorem namesOf_intercalate {names : List String} (h : ∀ name ∈ names, IsName name) :
    namesOf ("/".intercalate names) = names := by
  by_cases hne : names = []
  · subst hne
    rfl
  · have hsplit : Text.splitChars '/' ("/".intercalate names).toList = names.map String.toList := by
      rw [String.toList_intercalate]
      apply Text.splitChars_intercalate (by simpa using hne)
      intro piece hpiece
      obtain ⟨name, hname, rfl⟩ := List.mem_map.mp hpiece
      exact (h name hname).no_slash
    unfold namesOf Text.splitOn
    rw [hsplit, List.map_map]
    have hback : names.map (String.ofList ∘ String.toList) = names := by
      simp
    rw [hback]
    apply List.filter_eq_self.mpr
    intro name hname
    simp [(h name hname).ne_empty, (h name hname).ne_dot]

/-- No path has an empty text. -/
theorem toString_ne_empty (p : Path) : p.toString ≠ "" := by
  unfold toString
  dsimp only
  by_cases h : p.anchor.text ++ "/".intercalate p.names = ""
  · rw [if_pos h]
    decide
  · rw [if_neg h]
    exact h

/-- No slash comes first when names are joined by slashes. -/
theorem takeWhile_slash_intercalate {names : List String} (h : ∀ name ∈ names, IsName name) :
    ("/".intercalate names).toList.takeWhile (· == '/') = [] := by
  cases names with
  | nil => rfl
  | cons name rest =>
    have hname : IsName name := h name List.mem_cons_self
    cases hcs : name.toList with
    | nil => exact absurd (String.toList_eq_nil_iff.mp hcs) hname.ne_empty
    | cons c cs =>
      have hc : c ≠ '/' := by
        intro hc
        exact hname.no_slash (by simp [hcs, hc])
      cases rest <;> simp [hcs, hc]

/-- The anchor of a path is read back from the slashes at the start of its text. -/
theorem ofSlashes_text_append (anchor : Anchor) {names : List String}
    (h : ∀ name ∈ names, IsName name) :
    Anchor.ofSlashes
      ((anchor.text ++ "/".intercalate names).toList.takeWhile (· == '/')).length = anchor := by
  have hslash := takeWhile_slash_intercalate h
  rw [String.toList_append]
  cases anchor with
  | relative =>
    rw [show Anchor.relative.text.toList = [] from rfl, List.nil_append, hslash]
    rfl
  | root =>
    rw [show Anchor.root.text.toList = ['/'] from rfl, List.singleton_append,
      List.takeWhile_cons_of_pos (by decide), hslash]
    rfl
  | doubleRoot =>
    rw [show Anchor.doubleRoot.text.toList = ['/', '/'] from rfl, List.cons_append,
      List.singleton_append, List.takeWhile_cons_of_pos (by decide),
      List.takeWhile_cons_of_pos (by decide), hslash]
    rfl

/-- The names on a path are read back from its text. -/
theorem namesOf_text_append (anchor : Anchor) {names : List String}
    (h : ∀ name ∈ names, IsName name) :
    namesOf (anchor.text ++ "/".intercalate names) = names := by
  cases anchor with
  | relative => rw [Anchor.text, String.empty_append, namesOf_intercalate h]
  | root => rw [Anchor.text, namesOf_slash_append, namesOf_intercalate h]
  | doubleRoot =>
    rw [Anchor.text, show "//" = "/" ++ "/" from rfl, String.append_assoc, namesOf_slash_append,
      namesOf_slash_append, namesOf_intercalate h]

/-- A canonical path is read back from its text. -/
theorem ofString_toString {p : Path} (h : p.IsCanonical) : ofString p.toString = p := by
  obtain ⟨anchor, names⟩ := p
  have hanchor := ofSlashes_text_append anchor h
  have hnames : namesOf (anchor.text ++ "/".intercalate names) = names :=
    namesOf_text_append anchor h
  by_cases hempty : anchor.text ++ "/".intercalate names = ""
  · -- Only the relative path without names is written as a dot.
    rw [hempty] at hanchor hnames
    have htext : (⟨anchor, names⟩ : Path).toString = "." := by
      simp [toString, hempty]
    rw [htext, ← hanchor, ← hnames]
    decide
  · have htext : (⟨anchor, names⟩ : Path).toString = anchor.text ++ "/".intercalate names := by
      simp [toString, hempty]
    rw [htext, ofString, hanchor, hnames]

/-- Canonical paths with the same text are the same. -/
theorem toString_inj {p q : Path} (hp : p.IsCanonical) (hq : q.IsCanonical) :
    p.toString = q.toString ↔ p = q := by
  constructor
  · intro h
    rw [← ofString_toString hp, h, ofString_toString hq]
  · intro h
    rw [h]

/-- Cancelling names keeps no other ones, `..` apart. -/
theorem mem_collapseFrom {absolute : Bool} {done rest : List String} {name : String}
    (h : name ∈ collapseFrom absolute done rest) : name ∈ done ∨ name ∈ rest ∨ name = ".." := by
  induction rest generalizing done with
  | nil => exact .inl (by simpa [collapseFrom] using h)
  | cons next rest ih =>
    unfold collapseFrom at h
    split at h
    · cases done with
      | nil =>
        rcases ih h with hd | hr | hu
        · cases absolute <;> simp_all
        · exact .inr (.inl (List.mem_cons_of_mem _ hr))
        · exact .inr (.inr hu)
      | cons last before =>
        dsimp only at h
        split at h <;> rcases ih h with hd | hr | hu <;> simp_all
    · rcases ih h with hd | hr | hu <;> simp_all
      grind

/-- Normalizing gives a canonical path. -/
theorem isCanonical_normalize (p cwd : Path) : (p.normalize cwd).IsCanonical := by
  intro name hname
  rcases mem_collapseFrom hname with hd | hr | hu
  · cases hd
  · obtain ⟨piece, _, hpiece⟩ := List.mem_flatMap.mp hr
    exact isName_of_mem_namesOf hpiece
  · subst hu
    exact isName_dots

end Bundler.Path
