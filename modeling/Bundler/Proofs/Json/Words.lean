import Bundler.Json.Writer
import Bundler.Proofs.Outcome

/-!
# Values that can be written

A value has a written form in every layout if all its integers fit a word.
-/

set_option autoImplicit false

namespace Bundler.Json

mutual

/-- The integers in a value. -/
def integers : Json → List Int
  | .int n => [n]
  | .array items => itemIntegers items
  | .object members => memberIntegers members
  | _ => []

/-- The integers in the items of an array. -/
def itemIntegers : List Json → List Int
  | [] => []
  | item :: rest => item.integers ++ itemIntegers rest

/-- The integers in the members of an object. -/
def memberIntegers : List (String × Json) → List Int
  | [] => []
  | (_, value) :: rest => value.integers ++ memberIntegers rest

end

/-- The integers in a dictionary of numbers are its values. -/
theorem memberIntegers_int (entries : List (String × Int)) :
    memberIntegers (entries.map fun entry => (entry.1, .int entry.2)) = entries.map Prod.snd := by
  induction entries with
  | nil => rfl
  | cons entry entries ih =>
    rw [List.map_cons, memberIntegers, ih]
    rfl

mutual

/-- A value whose integers all fit in a word can be written. -/
theorem exists_textAt (layout : Layout) : (j : Json) → (depth : Nat) →
    (∀ n ∈ j.integers, Number.fitsSomeWord n = true) → ∃ text, textAt layout depth j = .ok text
  | .null, _, _ | .bool _, _, _ | .float _ _, _, _ | .nan, _, _ | .moment _, _, _
  | .string _, _, _ => ⟨_, rfl⟩
  | .int n, depth, h => by
    have hn : Number.fitsSomeWord n = true := h n (by simp [integers])
    exact ⟨_, if_pos hn⟩
  | .array items, depth, h => by
    obtain ⟨texts, htexts⟩ := exists_itemTexts layout items (depth + 1) h
    rw [textAt, bind_of_ok htexts]
    exact ⟨_, rfl⟩
  | .object members, depth, h => by
    obtain ⟨texts, htexts⟩ := exists_memberTexts layout members (depth + 1) h
    rw [textAt, bind_of_ok htexts]
    exact ⟨_, rfl⟩

/-- Items whose integers all fit in a word can be written. -/
theorem exists_itemTexts (layout : Layout) : (items : List Json) → (depth : Nat) →
    (∀ n ∈ itemIntegers items, Number.fitsSomeWord n = true) →
    ∃ texts, itemTexts layout depth items = .ok texts
  | [], _, _ => ⟨[], rfl⟩
  | item :: rest, depth, h => by
    rw [itemIntegers, List.forall_mem_append] at h
    obtain ⟨text, htext⟩ := exists_textAt layout item depth h.1
    obtain ⟨texts, htexts⟩ := exists_itemTexts layout rest depth h.2
    rw [itemTexts, bind_of_ok htext, bind_of_ok htexts]
    exact ⟨text :: texts, rfl⟩

/-- Members whose integers all fit in a word can be written. -/
theorem exists_memberTexts (layout : Layout) : (members : List (String × Json)) → (depth : Nat) →
    (∀ n ∈ memberIntegers members, Number.fitsSomeWord n = true) →
    ∃ texts, memberTexts layout depth members = .ok texts
  | [], _, _ => ⟨[], rfl⟩
  | (key, value) :: rest, depth, h => by
    rw [memberIntegers, List.forall_mem_append] at h
    obtain ⟨text, htext⟩ := exists_textAt layout value depth h.1
    obtain ⟨texts, htexts⟩ := exists_memberTexts layout rest depth h.2
    rw [memberTexts, bind_of_ok htext, bind_of_ok htexts]
    exact ⟨(key, text) :: texts, rfl⟩

end

/-- A value is written if all its integers fit a word. -/
theorem exists_write (layout : Layout) {j : Json}
    (h : ∀ n ∈ j.integers, Number.fitsSomeWord n = true) : ∃ text, j.write layout = .ok text :=
  exists_textAt layout j 0 h

end Bundler.Json
