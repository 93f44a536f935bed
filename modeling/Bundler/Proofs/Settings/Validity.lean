import Bundler.Configuration
import Bundler.Proofs.Outcome

/-!
# Valid settings

Settings that are read, from values or from a configuration file, are valid.
-/

set_option autoImplicit false

namespace Bundler

section Members

variable {α : Type} {members : List (String × Json)} {key : String} {check : Json → Checked α}
  {default value : α}

/-- A member with a default is the default or has passed its check. -/
theorem Validation.optional_eq_ok (h : Validation.optional members key check default = .ok value) :
    value = default ∨ ∃ j, check j = .ok value := by
  unfold Validation.optional at h
  split at h
  · rename_i j _
    exact .inr ⟨j, mapError_eq_ok.mp h⟩
  · cases h
    exact .inl rfl

end Members

namespace Settings

/-- A name that is accepted is plain. -/
theorem isPlainName_of_plainName {j : Json} {name : String} (h : plainName j = .ok name) :
    isPlainName name = true := by
  obtain ⟨text, _, h⟩ := bind_eq_ok.mp h
  split at h
  · rename_i hplain
    cases h
    exact hplain
  · cases h

/-- Every suffix that is accepted is one. -/
theorem isSuffix_of_suffixList {j : Json} {suffixes : List String}
    (h : suffixList j = .ok suffixes) : ∀ x ∈ suffixes, isSuffix x = true := by
  obtain ⟨texts, _, h⟩ := bind_eq_ok.mp h
  split at h
  · rename_i hfind
    cases h
    intro x hx
    simpa using List.find?_eq_none.mp hfind x hx
  · cases h

/-- A number that is accepted is positive. -/
theorem le_of_integerFrom {j : Json} {n : Nat}
    (h : (Validation.integerFrom 1 j).map Int.toNat = .ok n) : 1 ≤ n := by
  cases hchecked : Validation.integerFrom 1 j with
  | error issues =>
    rw [hchecked] at h
    cases h
  | ok value =>
    rw [hchecked] at h
    cases h
    obtain ⟨number, _, hbound⟩ := bind_eq_ok.mp hchecked
    split at hbound
    · cases hbound
    · cases hbound
      omega

/-- The defaults are valid. -/
theorem isValid_default : ({} : Settings).IsValid where
  bundleName := by decide
  maxModules := by decide
  suffixes := by
    intro x hx
    rw [List.mem_singleton.mp hx]
    cbv

/-- Settings that are accepted are valid. -/
theorem isValid_of_ofMembers {members : List (String × Json)} {s : Settings}
    (h : ofMembers members = .ok s) : s.IsValid := by
  have hdefault := isValid_default
  dsimp only [ofMembers] at h
  split at h
  · rename_i hbundleName _ _ hmaxModules hsuffixes _
    cases h
    refine ⟨?_, ?_, ?_⟩
    · rcases Validation.optional_eq_ok hbundleName with rfl | ⟨j, hj⟩
      · exact hdefault.bundleName
      · exact isPlainName_of_plainName hj
    · rcases Validation.optional_eq_ok hmaxModules with rfl | ⟨j, hj⟩
      · exact hdefault.maxModules
      · exact le_of_integerFrom hj
    · rcases Validation.optional_eq_ok hsuffixes with rfl | ⟨j, hj⟩
      · exact hdefault.suffixes
      · exact isSuffix_of_suffixList hj
  · cases h

/-- The settings of a project are valid. -/
theorem isValid_of_load {d : Disk} {root : Path} {s : Settings} (h : load d root = .ok s) :
    s.IsValid := by
  unfold load at h
  dsimp only at h
  split at h
  · obtain ⟨bytes, _, h⟩ := bind_eq_ok.mp h
    obtain ⟨text, _, h⟩ := bind_eq_ok.mp h
    unfold ofToml at h
    cases hread : Toml.read d.nesting text with
    | error e =>
      rw [hread] at h
      cases e <;> cases h
    | ok members =>
      rw [hread] at h
      exact isValid_of_ofMembers (mapError_eq_ok.mp h)
  · cases h
    exact isValid_default

/-- The settings of a project depend on its configuration file only, and on the number of calls that
there are for reading it. -/
theorem load_congr {d d' : Disk} {root : Path} {s : Settings} (hcalls : d'.nesting = d.nesting)
    (hfile : d'.isFile (root / configurationName) = d.isFile (root / configurationName))
    (hread : ∀ bytes, d.read (root / configurationName) = .ok bytes →
      d'.read (root / configurationName) = .ok bytes)
    (h : load d root = .ok s) : load d' root = .ok s := by
  unfold load Failure.crashOn at h ⊢
  dsimp only at h ⊢
  rw [hfile, hcalls]
  split at h
  · rename_i hthere
    obtain ⟨bytes, hbytes, h⟩ := bind_eq_ok.mp h
    rw [if_pos hthere]
    refine bind_eq_ok.mpr ⟨bytes, ?_, h⟩
    exact mapError_eq_ok.mpr (hread bytes (mapError_eq_ok.mp hbytes))
  · rename_i hthere
    rw [if_neg hthere]
    exact h

/-- A plain name is the name of an entry of a directory. -/
theorem ne_of_isPlainName {name : String} (h : isPlainName name = true) :
    name ≠ "" ∧ '/' ∉ name.toList ∧ name ≠ "." ∧ name ≠ ".." := by
  simp only [isPlainName, Bool.and_eq_true, bne_iff_ne, Bool.not_eq_true', ne_eq,
    List.contains_eq_mem, decide_eq_false_iff_not] at h
  exact ⟨h.1.1.1.1, h.1.1.1.2, h.1.2, h.2⟩

end Settings

end Bundler
