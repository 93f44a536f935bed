import Bundler.Proofs.Import.Plain
import Bundler.Proofs.Import.Probes
import Bundler.Proofs.Path.Normal
import Bundler.Proofs.Reference.Dotted

/-!
# References that stay below a directory

A reference from a directory climbs with its dots only. If these do not lead above some directory,
then all candidates are in that directory, and where they are in it does not depend on the directory.
-/

set_option autoImplicit false

namespace Bundler

open Bundler.Import (RelativeImport referenceText)

variable {reference : String} {suffixes names : List String}

/-- A reference name leads down. -/
theorem isStepName_of_isReferenceName {name : String} (h : isReferenceName name.toList = true) :
    IsStepName name where
  toIsName := isName_of_isReferenceName h
  ne_dots := by
    rintro rfl
    exact absurd h (by decide)

/-- The file of a package leads down. -/
theorem isStepName_initializer {suffix : String} (hsuffix : '/' ∉ suffix.toList) :
    IsStepName ("__init__" ++ suffix) := by
  have hname : IsStepName "__init__" := ⟨⟨by decide, by decide, by decide⟩, by decide⟩
  exact hname.append hsuffix

namespace DottedReference

variable {r : DottedReference}

/-- The names that a dotted reference adds to the directory that its dots lead to. -/
def tails (r : DottedReference) (suffixes : List String) : List (List String) :=
  let inPackage := suffixes.map fun suffix => r.names ++ ["__init__" ++ suffix]
  match r.names.getLast? with
  | none => inPackage
  | some last => (suffixes.map fun suffix => r.names.dropLast ++ [last ++ suffix]) ++ inPackage

/-- The files for a reference stand below its base. -/
theorem files_eq (r : DottedReference) (directory : Path) (suffixes : List String) :
    r.files directory suffixes = (r.tails suffixes).map (r.base directory).extend := by
  unfold files tails
  cases r.names.getLast? <;> simp [Function.comp_def]

/-- The names in a readable reference lead down. -/
theorem IsReadable.isStepName (h : r.IsReadable) : ∀ name ∈ r.names, IsStepName name :=
  fun name hname => isStepName_of_isReferenceName (h.names name hname)

/-- What a reference adds is its names with a suffix, or the initializer of the package there. -/
theorem exists_of_mem_tails {tail : List String} (h : tail ∈ r.tails suffixes) :
    ∃ front stem, ∃ suffix ∈ suffixes, tail = front ++ [stem ++ suffix] ∧
      (front ++ [stem] = r.names ∨ front = r.names ∧ stem = "__init__") := by
  have hpackage : tail ∈ suffixes.map (fun suffix => r.names ++ ["__init__" ++ suffix]) →
      ∃ front stem, ∃ suffix ∈ suffixes, tail = front ++ [stem ++ suffix] ∧
        (front ++ [stem] = r.names ∨ front = r.names ∧ stem = "__init__") := by
    intro htail
    obtain ⟨suffix, hsuffix, rfl⟩ := List.mem_map.mp htail
    exact ⟨_, _, suffix, hsuffix, rfl, .inr ⟨rfl, rfl⟩⟩
  unfold tails at h
  cases hlast : r.names.getLast? with
  | none =>
    rw [hlast] at h
    exact hpackage h
  | some last =>
    rw [hlast] at h
    rcases List.mem_append.mp h with htail | htail
    · obtain ⟨suffix, hsuffix, rfl⟩ := List.mem_map.mp htail
      exact ⟨_, _, suffix, hsuffix, rfl, .inl (List.dropLast_append_getLast? last hlast)⟩
    · exact hpackage htail

/-- All names that a readable reference adds lead down. -/
theorem IsReadable.isStepName_of_mem_tails (h : r.IsReadable)
    (hsuffixes : ∀ x ∈ suffixes, '/' ∉ x.toList) :
    ∀ tail ∈ r.tails suffixes, ∀ name ∈ tail, IsStepName name := by
  intro tail htail
  obtain ⟨front, stem, suffix, hsuffix, rfl, hnames | ⟨rfl, rfl⟩⟩ := exists_of_mem_tails htail
  · have hsteps := h.isStepName
    rw [← hnames, List.forall_mem_append, List.forall_mem_singleton] at hsteps
    rw [List.forall_mem_append, List.forall_mem_singleton]
    exact ⟨hsteps.1, hsteps.2.append (hsuffixes suffix hsuffix)⟩
  · rw [List.forall_mem_append, List.forall_mem_singleton]
    exact ⟨h.isStepName, isStepName_initializer (hsuffixes suffix hsuffix)⟩

/-- Dots that do not lead above a directory lead to a place in it. -/
theorem base_extend (h : r.dots ≤ names.length + 1) (directory : Path) :
    r.base (directory.extend names) =
      directory.extend (names.take (names.length - (r.dots - 1))) := by
  have hcount : (directory.names ++ names).length - (r.dots - 1) =
      directory.names.length + (names.length - (r.dots - 1)) := by
    rw [List.length_append]
    omega
  unfold base Path.extend
  dsimp only
  rw [hcount, List.take_length_add_append]

end DottedReference

/-- A reference without slashes that is not read as dotted leads down. -/
theorem isStepName_of_not_isDotted (hne : reference ≠ "") (hslash : '/' ∉ reference.toList)
    (h : DottedReference.ofString? reference = none) : IsStepName reference where
  ne_empty := hne
  ne_dot := by
    rintro rfl
    exact absurd h (by decide)
  no_slash := hslash
  ne_dots := by
    rintro rfl
    exact absurd h (by decide)

/-- The candidates of a reference that stays below a directory are in it, at places that do not
depend on the directory. -/
theorem exists_candidates_extend (hnames : ∀ name ∈ names, IsStepName name) (hne : reference ≠ "")
    (hslash : '/' ∉ reference.toList)
    (hdots : ∀ r, DottedReference.ofString? reference = some r → r.dots ≤ names.length + 1)
    (hsuffixes : ∀ x ∈ suffixes, '/' ∉ x.toList) :
    ∃ files : List (List String), (∀ file ∈ files, ∀ name ∈ file, IsStepName name) ∧
      ∀ cwd directory : Path, directory.IsNormal →
        candidates cwd (directory.extend names) reference suffixes =
          .ok (files.map directory.extend) := by
  cases hread : DottedReference.ofString? reference with
  | some r =>
    have hr : r.IsReadable := (DottedReference.isReadable_of_ofString? hread).1
    refine ⟨(r.tails suffixes).map (names.take (names.length - (r.dots - 1)) ++ ·), ?_, ?_⟩
    · intro file hfile name hname
      obtain ⟨tail, htail, rfl⟩ := List.mem_map.mp hfile
      rcases List.mem_append.mp hname with hname | hname
      · exact hnames name (List.mem_of_mem_take hname)
      · exact hr.isStepName_of_mem_tails hsuffixes tail htail name hname
    · intro cwd directory _
      rw [candidates, if_neg hne, hread]
      dsimp only
      rw [hr.candidates_eq _ hsuffixes, r.files_eq, r.base_extend (hdots r hread), List.map_map]
      exact congrArg Except.ok (List.map_congr_left fun tail _ => Path.extend_extend _ _ tail)
  | none =>
    have hreference := isStepName_of_not_isDotted hne hslash hread
    have htarget : ∀ name ∈ names ++ [reference], IsStepName name := by
      intro name hname
      rcases List.mem_append.mp hname with hname | hname
      · exact hnames name hname
      · rwa [List.mem_singleton.mp hname]
    refine ⟨(names ++ [reference]) ::
      (suffixes.map fun suffix => names ++ [reference ++ suffix]) ++
        (suffixes.map fun suffix => names ++ [reference] ++ ["__init__" ++ suffix]), ?_, ?_⟩
    · intro file hfile name hname
      rw [List.cons_append, List.mem_cons, List.mem_append, List.mem_map, List.mem_map] at hfile
      rcases hfile with rfl | ⟨suffix, hsuffix, rfl⟩ | ⟨suffix, hsuffix, rfl⟩
      · exact htarget name hname
      · rcases List.mem_append.mp hname with hname | hname
        · exact hnames name hname
        · rw [List.mem_singleton.mp hname]
          exact hreference.append (hsuffixes suffix hsuffix)
      · rcases List.mem_append.mp hname with hname | hname
        · exact htarget name hname
        · rw [List.mem_singleton.mp hname]
          exact isStepName_initializer (hsuffixes suffix hsuffix)
    · intro cwd directory hdirectory
      have hpath : ((directory.extend names) / reference).normalize cwd =
          directory.extend (names ++ [reference]) := by
        rw [Path.div_eq_extend hreference.toIsName, Path.extend_extend]
        exact (hdirectory.extend htarget).normalize_eq cwd
      rw [candidates, if_neg hne, hread]
      dsimp only
      rw [hpath, Path.mapM_withSuffix hreference.toIsName hsuffixes, Path.initializers_eq hsuffixes]
      simp only [Path.extend_extend, List.map_cons, List.map_append, List.cons_append, List.map_map,
        Function.comp_def]
      rfl

/-! ## References of imports -/

/-- The references of an import and those that it asks for are its dots, its module if there is one,
and perhaps an imported name. -/
theorem Import.RelativeImport.exists_referenceText {i : RelativeImport} {found : String → Bool}
    (h : reference ∈ i.references found ∨ reference ∈ i.probes) :
    ∃ name : Option String, reference = referenceText i.level i.module name ∧
      ∀ n ∈ name, n ∈ i.names.map Syntax.Alias.name := by
  have hmodule : ∃ name : Option String, i.moduleReference = referenceText i.level i.module name ∧
      ∀ n ∈ name, n ∈ i.names.map Syntax.Alias.name := ⟨none, rfl, nofun⟩
  have hname : ∀ reference ∈ i.names.map i.nameReference, ∃ name : Option String,
      reference = referenceText i.level i.module name ∧
      ∀ n ∈ name, n ∈ i.names.map Syntax.Alias.name := by
    intro reference hreference
    obtain ⟨a, ha, rfl⟩ := List.mem_map.mp hreference
    refine ⟨some a.name, rfl, ?_⟩
    rintro n ⟨⟩
    exact List.mem_map_of_mem ha
  rcases h with h | h
  · unfold RelativeImport.references RelativeImport.submodules at h
    split at h
    · exact hname reference h
    · rcases List.mem_cons.mp h with rfl | h
      · exact hmodule
      · split at h
        · cases h
        · exact hname reference (List.mem_of_mem_filter h)
  · unfold RelativeImport.probes at h
    split at h
    · cases h
    · exact hname reference h

/-- The names in a reference, of which none is empty. -/
theorem exists_referenceText_eq (level : Nat) (module name : Option String) :
    ∃ names : List String, referenceText level module name =
        String.ofList (List.replicate level '.' ++ DottedReference.joined names) ∧
      (∀ n ∈ names, n ∈ module.toList ++ name.toList) ∧ ∀ n ∈ names, n ≠ "" := by
  refine ⟨(module.toList ++ name.toList).filter (!·.isEmpty), ?_, ?_, ?_⟩
  · rw [← String.toList_inj, referenceText]
    simp [DottedReference.joined, String.toList_intercalate]
  · intro n hn
    exact List.mem_of_mem_filter hn
  · intro n hn
    simpa using (List.mem_filter.mp hn).2

/-- A relative import has a reference that is not empty. -/
theorem referenceText_ne_empty {level : Nat} {module name : Option String} (hlevel : level ≠ 0) :
    referenceText level module name ≠ "" := by
  obtain ⟨names, htext, _⟩ := exists_referenceText_eq level module name
  rw [htext]
  intro hempty
  have hlist := congrArg String.toList hempty
  rw [String.toList_ofList] at hlist
  have hdots := (List.append_eq_nil_iff.mp hlist).1
  exact hlevel (by simpa using hdots)

/-- A slash in the reference of an import is one in its module or in an imported name. -/
theorem exists_slash_of_mem_referenceText {level : Nat} {module name : Option String}
    (h : '/' ∈ (referenceText level module name).toList) :
    ∃ n ∈ module.toList ++ name.toList, '/' ∈ n.toList := by
  obtain ⟨names, htext, hnames, _⟩ := exists_referenceText_eq level module name
  rw [htext, String.toList_ofList, List.mem_append] at h
  rcases h with hdot | hjoined
  · exact absurd (List.eq_of_mem_replicate hdot) (by decide)
  · rcases DottedReference.mem_joined hjoined with hdot | ⟨n, hn, hslash⟩
    · exact absurd hdot (by decide)
    · exact ⟨n, hnames n hn, hslash⟩

section Plain

variable {level : Nat} {module name : Option String}
  (hplain : ∀ n ∈ module.toList ++ name.toList, Import.IsPlain n)

include hplain

/-- A reference of plain names holds no slash. -/
theorem slash_not_mem_referenceText : '/' ∉ (referenceText level module name).toList := by
  intro hslash
  obtain ⟨n, hn, hslash⟩ := exists_slash_of_mem_referenceText hslash
  exact (hplain n hn).no_slash hslash

/-- The dots of a reference are those of its import. -/
theorem dots_of_ofString?_referenceText {r : DottedReference}
    (h : DottedReference.ofString? (referenceText level module name) = some r) :
    r.dots = level := by
  obtain ⟨names, htext, hnames, hempty⟩ := exists_referenceText_eq level module
    name
  have hhead : (DottedReference.joined names).head? ≠ some '.' := by
    cases names with
    | nil => exact nofun
    | cons n rest =>
      have hn := (hplain n (hnames n List.mem_cons_self)).no_dot
      have hne : n.toList ≠ [] := fun hnil =>
        hempty n List.mem_cons_self (String.toList_eq_nil_iff.mp hnil)
      have hjoined : (DottedReference.joined (n :: rest)).head? = n.toList.head? := by
        cases rest with
        | nil => simp [DottedReference.joined, List.intercalate]
        | cons next rest =>
          rw [DottedReference.joined_cons_cons, List.head?_append_of_ne_nil _ hne]
      rwa [hjoined]
  rw [htext, DottedReference.ofString?_dots_append hhead] at h
  split at h
  · cases h
    rfl
  · cases h

end Plain

/-- The candidates of the references of an import that does not climb above a directory are in the
directory, at places that do not depend on it. -/
theorem Import.RelativeImport.IsPlain.exists_candidates {i : RelativeImport} (h : i.IsPlain)
    (hlevel : i.level ≠ 0) (hclimb : i.level - 1 ≤ names.length)
    (hnames : ∀ name ∈ names, IsStepName name) {found : String → Bool}
    (hreference : reference ∈ i.references found ∨ reference ∈ i.probes)
    (hsuffixes : ∀ x ∈ suffixes, '/' ∉ x.toList) :
    ∃ files : List (List String), (∀ file ∈ files, ∀ name ∈ file, IsStepName name) ∧
      ∀ cwd directory : Path, directory.IsNormal →
        candidates cwd (directory.extend names) reference suffixes =
          .ok (files.map directory.extend) := by
  obtain ⟨name, rfl, hname⟩ := exists_referenceText hreference
  have hplain := h.names hname
  refine exists_candidates_extend hnames (referenceText_ne_empty hlevel)
    (slash_not_mem_referenceText hplain) ?_ hsuffixes
  intro r hr
  rw [dots_of_ofString?_referenceText hplain hr]
  omega

end Bundler
