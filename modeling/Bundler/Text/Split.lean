/-!
# Splitting a text

A text is split at every occurrence of a separator, so there is always one piece more than there are
separators, and joining the pieces by the separator gives the text back.
-/

set_option autoImplicit false

namespace Bundler.Text

/-- The pieces of a list of characters between the occurrences of a separator. -/
def splitChars (separator : Char) : List Char → List (List Char)
  | [] => [[]]
  | c :: cs =>
    if c = separator then [] :: splitChars separator cs
    else
      match splitChars separator cs with
      | [] => [[c]]
      | piece :: rest => (c :: piece) :: rest

/-- There is always a piece. -/
theorem splitChars_ne_nil (separator : Char) (cs : List Char) : splitChars separator cs ≠ [] := by
  induction cs with
  | nil => simp [splitChars]
  | cons c cs ih =>
    unfold splitChars
    split
    · simp
    · split <;> simp

/-- No piece holds the separator. -/
theorem not_mem_of_mem_splitChars {separator : Char} {cs piece : List Char}
    (h : piece ∈ splitChars separator cs) : separator ∉ piece := by
  induction cs generalizing piece with
  | nil => simp_all [splitChars]
  | cons c cs ih =>
    unfold splitChars at h
    split at h
    · rcases List.mem_cons.1 h with rfl | h
      · simp
      · exact ih h
    · rename_i hc
      split at h
      · simp_all
        exact fun h => hc h.symm
      · rename_i first rest hs
        rcases List.mem_cons.1 h with rfl | h
        · have := ih (by simp [hs] : first ∈ _)
          simp [this]
          exact fun h => hc h.symm
        · exact ih (by simp [hs, h])

/-- The characters of the pieces come from the text. -/
theorem mem_of_mem_splitChars {separator c : Char} {cs piece : List Char}
    (hpiece : piece ∈ splitChars separator cs) (hc : c ∈ piece) : c ∈ cs := by
  induction cs generalizing piece with
  | nil =>
    rw [splitChars, List.mem_singleton] at hpiece
    rwa [hpiece] at hc
  | cons first cs ih =>
    rw [splitChars] at hpiece
    split at hpiece
    · rcases List.mem_cons.mp hpiece with rfl | hpiece
      · cases hc
      · exact List.mem_cons_of_mem _ (ih hpiece hc)
    · cases hsplit : splitChars separator cs with
      | nil => exact absurd hsplit (splitChars_ne_nil _ _)
      | cons next rest =>
        simp only [hsplit] at hpiece ih
        rcases List.mem_cons.mp hpiece with rfl | hpiece
        · rcases List.mem_cons.mp hc with rfl | hc
          · exact List.mem_cons_self
          · exact List.mem_cons_of_mem _ (ih List.mem_cons_self hc)
        · exact List.mem_cons_of_mem _ (ih (List.mem_cons_of_mem _ hpiece) hc)

/-- Joining the pieces by the separator gives the list back. -/
theorem intercalate_splitChars (separator : Char) (cs : List Char) :
    [separator].intercalate (splitChars separator cs) = cs := by
  induction cs with
  | nil => simp [splitChars, List.intercalate]
  | cons c cs ih =>
    unfold splitChars
    split
    · rename_i h
      subst h
      cases hs : splitChars c cs with
      | nil => exact absurd hs (splitChars_ne_nil _ _)
      | cons first rest =>
        rw [hs] at ih
        simp [List.intercalate, List.intersperse] at ih ⊢
        cases rest <;> simp_all [List.intersperse]
    · cases hs : splitChars separator cs with
      | nil => exact absurd hs (splitChars_ne_nil _ _)
      | cons first rest =>
        rw [hs] at ih
        cases rest <;> simp_all [List.intercalate, List.intersperse]

/-- A list without the separator is its only piece. -/
theorem splitChars_of_not_mem {separator : Char} {cs : List Char} (h : separator ∉ cs) :
    splitChars separator cs = [cs] := by
  induction cs with
  | nil => rfl
  | cons c cs ih =>
    simp only [List.mem_cons, not_or] at h
    rw [splitChars, if_neg (Ne.symm h.1), ih h.2]

/-- A piece ends at the first separator. -/
theorem splitChars_append_cons {separator : Char} {cs rest : List Char} (h : separator ∉ cs) :
    splitChars separator (cs ++ separator :: rest) = cs :: splitChars separator rest := by
  induction cs with
  | nil => rw [List.nil_append, splitChars, if_pos rfl]
  | cons c cs ih =>
    simp only [List.mem_cons, not_or] at h
    rw [List.cons_append, splitChars, if_neg (Ne.symm h.1), ih h.2]

/-- Pieces without the separator are found again after they have been joined by it. -/
theorem splitChars_intercalate {separator : Char} {pieces : List (List Char)}
    (hne : pieces ≠ []) (h : ∀ piece ∈ pieces, separator ∉ piece) :
    splitChars separator ([separator].intercalate pieces) = pieces := by
  induction pieces with
  | nil => exact absurd rfl hne
  | cons piece rest ih =>
    have hpiece : separator ∉ piece := h piece List.mem_cons_self
    cases rest with
    | nil => simpa [List.intercalate] using splitChars_of_not_mem hpiece
    | cons next rest =>
      have hrest := ih (by simp) fun p hp => h p (List.mem_cons_of_mem _ hp)
      have hjoin : [separator].intercalate (piece :: next :: rest) =
          piece ++ separator :: [separator].intercalate (next :: rest) := by
        simp [List.intercalate, List.intersperse]
      rw [hjoin, splitChars_append_cons hpiece, hrest]

/-- The pieces of a text between the occurrences of a separator. -/
def splitOn (separator : Char) (s : String) : List String :=
  (splitChars separator s.toList).map String.ofList

end Bundler.Text
