import Mathlib.Data.List.Basic
import Bundler.Text.Normalization

/-!
# Normal forms of identifiers

No character of an identifier comes before the digit zero, and none of its normal form does: that is
so of the characters in the tables and of Hangul syllables, and putting marks into order keeps the
characters as they are. So a normal form holds neither dots nor slashes.
-/

set_option autoImplicit false

namespace Bundler.Text

namespace Normalization

open Std

variable {points marks run : List Nat} {starter : Option Nat}

/-! ## Tables -/

/-- A table of decompositions gives no empty one, and none with a character before the digit zero. -/
def IsTable (table : HashMap Nat (List Nat)) : Prop :=
  ∀ (point : Nat) (decomposition : List Nat), table[point]? = some decomposition →
    decomposition ≠ [] ∧ ∀ p ∈ decomposition, firstPoint ≤ p

/-- Reading entries keeps a table as it should be. -/
theorem isTable_readDecompositions {table : HashMap Nat (List Nat)} (h : IsTable table)
    (last fuel : Nat) (numbers : List Nat) :
    IsTable (readDecompositions table last fuel numbers) := by
  fun_induction readDecompositions table last fuel numbers with
  | case1 table last fuel distance more first rest point decomposition ih =>
    refine ih fun other found hfound => ?_
    rw [HashMap.getElem?_insert] at hfound
    split at hfound
    · cases hfound
      refine ⟨List.cons_ne_nil _ _, fun p hp => ?_⟩
      obtain ⟨n, _, rfl⟩ := List.mem_map.mp hp
      exact Nat.le_add_right _ _
    · exact h other found hfound
  | case2 => exact h

/-- The decompositions are as they should be. -/
theorem isTable_decompositions : IsTable decompositions := by
  refine isTable_readDecompositions ?_ _ _ _
  intro point decomposition hfound
  cases HashMap.getElem?_empty.symm.trans hfound

/-- No composite in the table comes before the digit zero. -/
theorem firstPoint_le_of_compositions {pair : Nat × Nat} {c : Nat}
    (h : compositions[pair]? = some c) : firstPoint ≤ c := by
  unfold compositions at h
  refine List.foldlRecOn (motive := fun table : HashMap (Nat × Nat) Nat =>
    ∀ pair c, table[pair]? = some c → firstPoint ≤ c) _ _ ?_ ?_ pair c h
  · intro pair c hfound
    cases HashMap.getElem?_empty.symm.trans hfound
  · intro table htable triple _ pair c hfound
    rw [HashMap.getElem?_insert] at hfound
    split at hfound
    · obtain rfl := Option.some.inj hfound
      exact Nat.le_add_right _ _
    · exact htable pair c hfound

/-! ## Decomposing and composing -/

/-- A character decomposes into at least one, and into none before the digit zero. -/
theorem decompose_spec {point : Nat} (h : firstPoint ≤ point) :
    decompose point ≠ [] ∧ ∀ p ∈ decompose point, firstPoint ≤ p := by
  unfold decompose
  dsimp only
  split
  · have hlead : firstPoint ≤ 0x1100 := by decide
    have hvowel : firstPoint ≤ 0x1161 := by decide
    have htail : firstPoint ≤ 0x11a7 := by decide
    split
    · refine ⟨List.cons_ne_nil _ _, List.forall_mem_cons.mpr ⟨Nat.le_add_right_of_le hlead, ?_⟩⟩
      exact List.forall_mem_singleton.mpr (Nat.le_add_right_of_le hvowel)
    · refine ⟨List.cons_ne_nil _ _, List.forall_mem_cons.mpr ⟨Nat.le_add_right_of_le hlead, ?_⟩⟩
      refine List.forall_mem_cons.mpr ⟨Nat.le_add_right_of_le hvowel, ?_⟩
      exact List.forall_mem_singleton.mpr (Nat.le_add_right_of_le htail)
  · rw [HashMap.getD_eq_getD_getElem?]
    cases hfound : decompositions[point]? with
    | none => exact ⟨List.cons_ne_nil _ _, List.forall_mem_singleton.mpr h⟩
    | some decomposition => exact isTable_decompositions point decomposition hfound

/-- No composite comes before the digit zero. -/
theorem firstPoint_le_of_compose? {a b c : Nat} (h : compose? a b = some c) : firstPoint ≤ c := by
  unfold compose? at h
  split at h
  · obtain rfl := Option.some.inj h
    exact Nat.le_add_right_of_le (by decide)
  · split at h
    · next hsyllable =>
      obtain rfl := Option.some.inj h
      exact Nat.le_add_right_of_le (Nat.le_trans (by decide) hsyllable.1)
    · exact firstPoint_le_of_compositions h

/-! ## Order -/

/-- Sorting keeps the marks. -/
theorem sortMarks_perm (marks : List Nat) : (sortMarks marks).Perm marks :=
  List.mergeSort_perm _ _

/-- Putting marks into order keeps all characters. -/
theorem reorder_perm (run points : List Nat) : (reorder run points).Perm (run.reverse ++ points) := by
  fun_induction reorder run points with
  | case1 run => simpa using sortMarks_perm run.reverse
  | case2 run c cs _ ih => exact (sortMarks_perm run.reverse).append (ih.cons c)
  | case3 run c cs _ ih => simpa using ih

/-- Composing gives no character before the digit zero if there was none. -/
theorem firstPoint_le_of_mem_recompose
    (hkept : ∀ p ∈ starter.toList ++ marks.reverse, firstPoint ≤ p)
    (h : ∀ p ∈ points, firstPoint ≤ p) :
    ∀ p ∈ recompose starter marks points, firstPoint ≤ p := by
  fun_induction recompose starter marks points with
  | case1 => exact hkept
  | case2 starter marks c cs cls blocked composite d hd ih =>
    rw [List.forall_mem_append] at hkept
    have hcomposite : firstPoint ≤ d := by
      unfold composite at hd
      split at hd
      · cases hd
      · obtain ⟨a, _, hcompose⟩ := Option.bind_eq_some_iff.mp hd
        exact firstPoint_le_of_compose? hcompose
    refine ih ?_ (List.forall_mem_of_forall_mem_cons h)
    exact List.forall_mem_append.mpr ⟨List.forall_mem_singleton.mpr hcomposite, hkept.2⟩
  | case3 starter marks c cs cls blocked composite hnone hzero ih =>
    rw [List.forall_mem_cons] at h
    refine List.forall_mem_append.mpr ⟨hkept, ih ?_ h.2⟩
    exact List.forall_mem_singleton.mpr h.1
  | case4 starter marks c cs cls blocked composite hnone hzero ih =>
    rw [List.forall_mem_cons] at h
    refine ih ?_ h.2
    rw [List.reverse_cons, ← List.append_assoc]
    exact List.forall_mem_append.mpr ⟨hkept, List.forall_mem_singleton.mpr h.1⟩

/-- Composing leaves something of a text. -/
theorem recompose_ne_nil (h : starter.toList ++ marks.reverse ++ points ≠ []) :
    recompose starter marks points ≠ [] := by
  fun_induction recompose starter marks points with
  | case1 starter marks => rwa [List.append_nil] at h
  | case2 starter marks c cs cls blocked composite d hd ih => exact ih (List.cons_ne_nil _ _)
  | case3 starter marks c cs cls blocked composite hnone hzero ih =>
    exact List.append_ne_nil_of_right_ne_nil _ (ih (List.cons_ne_nil _ _))
  | case4 starter marks c cs cls blocked composite hnone hzero ih =>
    refine ih ?_
    simp

/-- The normal form of a text that is not empty is not empty, and it has no character before the digit
zero if the text has none. -/
theorem normalizePoints_spec (hne : points ≠ []) (h : ∀ p ∈ points, firstPoint ≤ p) :
    normalizePoints points ≠ [] ∧ ∀ p ∈ normalizePoints points, firstPoint ≤ p := by
  have hperm := reorder_perm [] (points.flatMap decompose)
  rw [List.reverse_nil, List.nil_append] at hperm
  have hdecomposed : ∀ p ∈ points.flatMap decompose, firstPoint ≤ p := by
    intro p hp
    obtain ⟨point, hpoint, hp⟩ := List.mem_flatMap.mp hp
    exact (decompose_spec (h point hpoint)).2 p hp
  constructor
  · refine recompose_ne_nil ?_
    obtain ⟨point, hpoint⟩ := List.exists_mem_of_ne_nil points hne
    obtain ⟨p, hp⟩ := List.exists_mem_of_ne_nil _ (decompose_spec (h point hpoint)).1
    exact List.ne_nil_of_mem (hperm.mem_iff.mpr (List.mem_flatMap.mpr ⟨point, hpoint, hp⟩))
  · refine firstPoint_le_of_mem_recompose (List.forall_mem_nil _) fun p hp => ?_
    exact hdecomposed p (hperm.mem_iff.mp hp)

/-! ## Words -/

/-- A number that does not come before the digit zero is the number of a character that does not, or
of none at all, which NUL stands for. -/
theorem toNat_ofNat {p : Nat} (h : firstPoint ≤ p) :
    (Char.ofNat p).toNat = 0 ∨ firstPoint ≤ (Char.ofNat p).toNat := by
  unfold Char.ofNat
  by_cases hvalid : p.isValidChar
  · rw [dif_pos hvalid]
    exact .inr h
  · rw [dif_neg hvalid]
    exact .inl rfl

/-- The normal form of a word without characters before the digit zero is not empty, and no character
but NUL comes before the digit zero in it. -/
theorem normalizeIdentifier_spec {word : String} (hne : word ≠ "")
    (h : ∀ c ∈ word.toList, firstPoint ≤ c.toNat) :
    normalizeIdentifier word ≠ "" ∧
      ∀ c ∈ (normalizeIdentifier word).toList, c.toNat = 0 ∨ firstPoint ≤ c.toNat := by
  unfold normalizeIdentifier
  split
  · exact ⟨hne, fun c hc => .inr (h c hc)⟩
  · have hpoints : word.toList.map Char.toNat ≠ [] := by
      rwa [Ne, List.map_eq_nil_iff, String.toList_eq_nil_iff]
    have hfirst : ∀ p ∈ word.toList.map Char.toNat, firstPoint ≤ p := by
      intro p hp
      obtain ⟨c, hc, rfl⟩ := List.mem_map.mp hp
      exact h c hc
    obtain ⟨hnormal, hle⟩ := normalizePoints_spec hpoints hfirst
    refine ⟨?_, fun c hc => ?_⟩
    · rwa [Ne, ← String.toList_eq_nil_iff, String.toList_ofList, List.map_eq_nil_iff]
    · rw [String.toList_ofList] at hc
      obtain ⟨p, hp, rfl⟩ := List.mem_map.mp hc
      exact toNat_ofNat (hle p hp)

end Normalization

end Bundler.Text
