/-!
# Entries under keys

Values under keys, in the order in which the keys first occurred. Setting a value changes what is
found under its key and nothing else, and it adds a key at most at the end.
-/

set_option autoImplicit false

namespace Bundler

/-- Sets the value under a key, in place if the key is present and at the end otherwise. -/
def setEntry {β : Type} (entries : List (String × β)) (key : String) (value : β) :
    List (String × β) :=
  match entries with
  | [] => [(key, value)]
  | (k, v) :: rest => if k = key then (k, value) :: rest else (k, v) :: setEntry rest key value

/-- What is found under a key when an entry stands in front. -/
theorem lookup_cons_ite {κ β : Type} [BEq κ] [LawfulBEq κ] [DecidableEq κ] (k other : κ) (v : β)
    (rest : List (κ × β)) :
    ((k, v) :: rest).lookup other = if other = k then some v else rest.lookup other := by
  by_cases h : other = k
  · simp [h]
  · simp [List.lookup_cons, h, beq_false_of_ne h]

/-- The value that is set is found under its key, and what is found under other keys stays. -/
theorem lookup_setEntry {β : Type} (entries : List (String × β)) (key other : String) (value : β) :
    (setEntry entries key value).lookup other =
      if other = key then some value else entries.lookup other := by
  induction entries with
  | nil => simp [setEntry, lookup_cons_ite]
  | cons e rest ih =>
    obtain ⟨k, v⟩ := e
    by_cases hk : k = key
    · subst hk
      by_cases h : other = k <;> simp [setEntry, lookup_cons_ite, h]
    · by_cases h : other = k
      · simp [setEntry, hk, h]
      · simp [setEntry, lookup_cons_ite, hk, h, ih]

/-- The keys stay in their order, and a key that was absent comes last. -/
theorem keys_setEntry {β : Type} (entries : List (String × β)) (key : String) (value : β) :
    (setEntry entries key value).map Prod.fst =
      if key ∈ entries.map Prod.fst then entries.map Prod.fst
      else entries.map Prod.fst ++ [key] := by
  induction entries with
  | nil => simp [setEntry]
  | cons e rest ih =>
    obtain ⟨k, v⟩ := e
    by_cases hk : k = key
    · simp [setEntry, hk]
    · have hk' : key ≠ k := fun h => hk h.symm
      by_cases hm : key ∈ rest.map Prod.fst
      · simp only [setEntry, if_neg hk, List.map_cons, ih, List.mem_cons, hk', hm]
        simp
      · simp only [setEntry, if_neg hk, List.map_cons, ih, List.mem_cons, hk', hm]
        simp

/-- An entry that is set is the new one or one from before. -/
theorem mem_setEntry {β : Type} {entries : List (String × β)} {key : String} {value : β}
    {e : String × β} (h : e ∈ setEntry entries key value) : e = (key, value) ∨ e ∈ entries := by
  induction entries with
  | nil =>
    rw [setEntry] at h
    exact .inl (List.mem_singleton.mp h)
  | cons first rest ih =>
    obtain ⟨k, v⟩ := first
    rw [setEntry] at h
    by_cases hk : k = key
    · rw [if_pos hk] at h
      rcases List.mem_cons.mp h with rfl | h
      · exact .inl (by rw [hk])
      · exact .inr (List.mem_cons_of_mem _ h)
    · rw [if_neg hk] at h
      rcases List.mem_cons.mp h with rfl | h
      · exact .inr List.mem_cons_self
      · exact (ih h).imp_right (List.mem_cons_of_mem _)

end Bundler
