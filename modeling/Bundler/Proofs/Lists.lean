import Bundler.Entries
import Mathlib

/-!
# Lists

What the theory needs to know about lists: repetitions, positions, sizes of sets that lists enumerate,
and entries under keys.
-/

set_option autoImplicit false

namespace Bundler

/-! ## Repetitions -/

section Repetitions

variable {α β : Type} [BEq α] [LawfulBEq α] [BEq β] [LawfulBEq β]

/-- An element that is added to a list is a new one only if it does not occur there. -/
theorem eraseDups_concat (l : List α) (a : α) :
    (l ++ [a]).eraseDups = if a ∈ l then l.eraseDups else l.eraseDups ++ [a] := by
  rw [List.eraseDups_append]
  by_cases h : a ∈ l
  · have hnone : [a].removeAll l = [] := by simp [List.removeAll, h]
    rw [hnone, if_pos h, List.eraseDups_nil, List.append_nil]
  · have hsome : [a].removeAll l = [a] := by simp [List.removeAll, h]
    rw [hsome, if_neg h]
    rfl

/-- What is left has no repetitions. -/
theorem nodup_eraseDups (l : List α) : l.eraseDups.Nodup := by
  induction l using List.reverseRecOn with
  | nil => exact List.nodup_nil
  | append_singleton l a ih =>
    rw [eraseDups_concat]
    by_cases h : a ∈ l
    · rw [if_pos h]
      exact ih
    · rw [if_neg h]
      refine List.nodup_append.mpr ⟨ih, List.nodup_singleton a, ?_⟩
      intro b hb c hc
      rw [List.mem_singleton.mp hc]
      rintro rfl
      exact h (List.mem_eraseDups.mp hb)

/-- Removing repetitions does not make a list longer. -/
theorem length_eraseDups_le (l : List α) : l.eraseDups.length ≤ l.length := by
  induction l using List.reverseRecOn with
  | nil => exact Nat.le_refl 0
  | append_singleton l a ih =>
    rw [eraseDups_concat, List.length_append, List.length_singleton]
    by_cases h : a ∈ l
    · rw [if_pos h]
      omega
    · rw [if_neg h, List.length_append, List.length_singleton]
      omega

/-- Where a map is injective on a list, repetitions are removed before it as well as after it. -/
theorem eraseDups_map {f : α → β} {l : List α} (h : ∀ a ∈ l, ∀ a' ∈ l, f a = f a' → a = a') :
    (l.map f).eraseDups = l.eraseDups.map f := by
  induction l using List.reverseRecOn with
  | nil => rfl
  | append_singleton l a ih =>
    have hl : ∀ c ∈ l, ∀ c' ∈ l, f c = f c' → c = c' := by
      intro c hc c' hc'
      exact h c (List.mem_append_left _ hc) c' (List.mem_append_left _ hc')
    have hmem : f a ∈ l.map f ↔ a ∈ l := by
      constructor
      · intro hf
        obtain ⟨c, hc, heq⟩ := List.mem_map.mp hf
        rw [← h c (List.mem_append_left _ hc) a (List.mem_append_right _ List.mem_cons_self) heq]
        exact hc
      · exact List.mem_map_of_mem
    rw [List.map_append, List.map_cons, List.map_nil, eraseDups_concat, eraseDups_concat, ih hl]
    by_cases ha : a ∈ l
    · rw [if_pos ha, if_pos (hmem.mpr ha)]
    · rw [if_neg ha, if_neg (mt hmem.mp ha), List.map_append]
      rfl

end Repetitions

/-! ## Repetitions in a row -/

section Runs

variable {α : Type} [DecidableEq α]

end Runs

/-- The position of a name in a list that has grown by one. -/
theorem idxOf?_concat (names : List String) (name other : String) :
    (names ++ [name]).idxOf? other =
      if other = name then some ((names.idxOf? name).getD names.length)
      else names.idxOf? other := by
  induction names with
  | nil =>
    rw [List.nil_append, List.idxOf?_singleton]
    by_cases h : other = name
    · simp [h]
    · simp [h, Ne.symm h]
  | cons first names ih =>
    rw [List.cons_append, List.idxOf?_cons, ih, List.idxOf?_cons, List.idxOf?_cons]
    by_cases h : other = name
    · subst h
      by_cases hf : first = other
      · simp [hf]
      · cases hn : names.idxOf? other <;> simp [hf]
    · simp [h]

/-- Lists of entries with the same keys are related entry by entry if entries with one key are. -/
theorem forall₂_of_keys {κ γ δ : Type} {R : κ × γ → κ × δ → Prop} {first : List (κ × γ)}
    {second : List (κ × δ)} (hkeys : first.map Prod.fst = second.map Prod.fst)
    (h : ∀ p ∈ first, ∀ q ∈ second, p.1 = q.1 → R p q) : List.Forall₂ R first second := by
  induction first generalizing second with
  | nil =>
    rw [List.map_nil, eq_comm, List.map_eq_nil_iff] at hkeys
    rw [hkeys]
    exact .nil
  | cons p first ih =>
    cases second with
    | nil => cases hkeys
    | cons q second =>
      obtain ⟨hhead, htail⟩ := List.cons.inj hkeys
      refine .cons (h p List.mem_cons_self q List.mem_cons_self hhead) (ih htail ?_)
      intro p' hp' q' hq'
      exact h p' (List.mem_cons_of_mem _ hp') q' (List.mem_cons_of_mem _ hq')

/-! ## Pieces -/

/-- What stands in joined pieces stands in the separator or in a piece. -/
theorem mem_of_mem_intercalate {α : Type} {separator : List α} {pieces : List (List α)} {a : α}
    (h : a ∈ separator.intercalate pieces) : a ∈ separator ∨ ∃ piece ∈ pieces, a ∈ piece := by
  induction pieces with
  | nil => cases h
  | cons piece pieces ih =>
    cases pieces with
    | nil =>
      rw [List.intercalate_singleton] at h
      exact .inr ⟨piece, List.mem_cons_self, h⟩
    | cons next pieces =>
      rw [List.intercalate_cons_cons, List.mem_append, List.mem_append] at h
      rcases h with (h | h) | h
      · exact .inr ⟨piece, List.mem_cons_self, h⟩
      · exact .inl h
      · exact (ih h).imp_right fun ⟨other, hother, ha⟩ =>
          ⟨other, List.mem_cons_of_mem _ hother, ha⟩

/-! ## Sizes -/

/-- There are no more members than a list is long. -/
theorem encard_mem_le {α : Type} [DecidableEq α] (l : List α) : {a | a ∈ l}.encard ≤ l.length := by
  rw [← List.coe_toFinset, Set.encard_coe_eq_coe_finsetCard]
  exact_mod_cast List.toFinset_card_le l

/-- A set has more members than any number that a list of distinct members exceeds. -/
theorem lt_encard {α : Type} [DecidableEq α] {l : List α} {s : Set α} {n : Nat}
    (hnodup : l.Nodup) (h : ∀ a ∈ l, a ∈ s) (hlt : n < l.length) : (n : ℕ∞) < s.encard := by
  have hsubset : (l.toFinset : Set α) ⊆ s := by
    intro a ha
    exact h a (List.mem_toFinset.mp ha)
  have hlength : (n : ℕ∞) < (l.toFinset : Set α).encard := by
    rw [Set.encard_coe_eq_coe_finsetCard, List.toFinset_card_of_nodup hnodup]
    exact_mod_cast hlt
  exact lt_of_lt_of_le hlength (Set.encard_le_encard hsubset)

/-! ## Entries -/

/-- In a list with distinct keys the value under a key is the one in the list. -/
theorem lookup_eq_some_iff_mem {κ β : Type} [BEq κ] [LawfulBEq κ] [DecidableEq κ]
    {entries : List (κ × β)} (hkeys : (entries.map Prod.fst).Nodup) {key : κ} {value : β} :
    entries.lookup key = some value ↔ (key, value) ∈ entries := by
  induction entries with
  | nil => simp
  | cons entry entries ih =>
    obtain ⟨k, v⟩ := entry
    rw [List.map_cons, List.nodup_cons] at hkeys
    rw [lookup_cons_ite, List.mem_cons, Prod.mk.injEq]
    by_cases hk : key = k
    · have habsent : (k, value) ∉ entries := by
        intro hmem
        exact hkeys.1 (List.mem_map.mpr ⟨_, hmem, rfl⟩)
      rw [if_pos hk, Option.some.injEq]
      simp [hk, habsent, eq_comm]
    · rw [if_neg hk, ih hkeys.2]
      simp [hk]

/-- Under the key of an entry some value is found. -/
theorem exists_lookup_of_mem {κ β : Type} [BEq κ] [LawfulBEq κ] {entries : List (κ × β)} {entry : κ × β}
    (h : entry ∈ entries) : ∃ value, entries.lookup entry.1 = some value := by
  rw [← Option.ne_none_iff_exists']
  intro hnone
  rw [List.lookup_eq_none_iff] at hnone
  simpa using hnone entry h

/-- Values are found after a map as before. -/
theorem lookup_map_value {κ β γ : Type} [BEq κ] [LawfulBEq κ] [DecidableEq κ] (f : β → γ)
    (entries : List (κ × β)) (key : κ) :
    (entries.map fun entry => (entry.1, f entry.2)).lookup key = (entries.lookup key).map f := by
  induction entries with
  | nil => rfl
  | cons entry entries ih =>
    obtain ⟨k, v⟩ := entry
    rw [List.map_cons, lookup_cons_ite, lookup_cons_ite, ih]
    split <;> rfl

/-- An entry with a new key is added at the end. -/
theorem setEntry_of_notMem {β : Type} {entries : List (String × β)} {key : String} {value : β}
    (h : key ∉ entries.map Prod.fst) : setEntry entries key value = entries ++ [(key, value)] := by
  induction entries with
  | nil => rfl
  | cons e rest ih =>
    obtain ⟨k, v⟩ := e
    rw [List.map_cons, List.mem_cons, not_or] at h
    rw [setEntry, if_neg (Ne.symm h.1), ih h.2, List.cons_append]

/-- Items with new keys are added in their order. -/
theorem foldl_setEntry {β : Type} {entries items : List (String × β)}
    (h : ((entries ++ items).map Prod.fst).Nodup) :
    items.foldl (fun entries item => setEntry entries item.1 item.2) entries = entries ++ items := by
  induction items generalizing entries with
  | nil => rw [List.foldl_nil, List.append_nil]
  | cons item items ih =>
    have hkey : item.1 ∉ entries.map Prod.fst := by
      intro hmem
      rw [List.map_append, List.nodup_append] at h
      exact h.2.2 _ hmem _ (List.mem_map_of_mem List.mem_cons_self) rfl
    rw [← List.singleton_append, ← List.append_assoc] at h
    rw [List.foldl_cons, setEntry_of_notMem hkey, ih h, List.append_assoc, List.singleton_append]

/-- Entries with distinct keys have strictly increasing keys after they have been sorted by them. -/
theorem pairwise_keys_mergeSort {β : Type} {entries : List (String × β)}
    (h : (entries.map Prod.fst).Nodup) :
    ((entries.mergeSort fun a b => a.1 ≤ b.1).map Prod.fst).Pairwise (· < ·) := by
  have hmap : (entries.mergeSort fun a b => a.1 ≤ b.1).map Prod.fst =
      (entries.map Prod.fst).mergeSort (· ≤ ·) := List.map_mergeSort fun _ _ _ _ => rfl
  have hsorted := List.pairwise_mergeSort' (· ≤ ·) (entries.map Prod.fst)
  have hnodup : ((entries.map Prod.fst).mergeSort (· ≤ ·)).Nodup := List.nodup_mergeSort.mpr h
  rw [hmap]
  exact (hsorted.and hnodup).imp fun ⟨hle, hne⟩ => lt_of_le_of_ne hle hne

end Bundler
