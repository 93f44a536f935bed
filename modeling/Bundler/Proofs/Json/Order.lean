import Bundler.Json.Basic
import Bundler.Proofs.Lists

/-!
# Values in order

The members of an object may be sorted by key, and those of the objects inside it. In an object without
repeated keys nothing else changes: under every key there is what has been there before, with its own
members sorted.
-/

set_option autoImplicit false

namespace Bundler.Json

/-! ## Sorted members -/

section Members

variable {members : List (String × Json)}

/-- The members of an object sorted by key. -/
def sortedMembers (members : List (String × Json)) : List (String × Json) :=
  members.mergeSort fun a b => a.1 ≤ b.1

/-- Sorting members only changes their order. -/
theorem sortedMembers_perm (members : List (String × Json)) :
    (sortedMembers members).Perm members :=
  List.mergeSort_perm members _

/-- Members are sorted by their keys, whatever their values are. -/
theorem sortedMembers_map (f : Json → Json) (members : List (String × Json)) :
    sortedMembers (members.map fun m => (m.1, f m.2)) =
      (sortedMembers members).map fun m => (m.1, f m.2) := by
  unfold sortedMembers
  rw [List.map_mergeSort]
  exact fun _ _ _ _ => rfl

/-- Distinct keys are strictly increasing after they have been sorted. -/
theorem pairwise_keys_sortedMembers (h : (members.map Prod.fst).Nodup) :
    ((sortedMembers members).map Prod.fst).Pairwise (· < ·) :=
  pairwise_keys_mergeSort h

/-- Under every key there is what has been there before. -/
theorem lookup_sortedMembers (h : (members.map Prod.fst).Nodup) (key : String) :
    (sortedMembers members).lookup key = members.lookup key := by
  have hperm := sortedMembers_perm members
  apply Option.ext
  intro value
  rw [lookup_eq_some_iff_mem ((hperm.map Prod.fst).nodup_iff.mpr h), lookup_eq_some_iff_mem h,
    hperm.mem_iff]

end Members

/-! ## Values in order -/

mutual

/-- A value with the members of its objects sorted by key. -/
def arranged : Json → Json
  | .array items => .array (arrangedItems items)
  | .object members => .object (sortedMembers (arrangedMembers members))
  | value => value

/-- The items of an array with the members of their objects sorted by key. -/
def arrangedItems : List Json → List Json
  | [] => []
  | item :: rest => item.arranged :: arrangedItems rest

/-- The members of an object with the members inside them sorted by key. -/
def arrangedMembers : List (String × Json) → List (String × Json)
  | [] => []
  | (key, value) :: rest => (key, value.arranged) :: arrangedMembers rest

end

/-- The items of an array are arranged one by one. -/
theorem arrangedItems_eq_map (items : List Json) : arrangedItems items = items.map arranged := by
  induction items with
  | nil => rfl
  | cons item items ih => rw [arrangedItems, ih, List.map_cons]

/-- The values of an object are arranged one by one. -/
theorem arrangedMembers_eq_map (members : List (String × Json)) :
    arrangedMembers members = members.map fun m => (m.1, m.2.arranged) := by
  induction members with
  | nil => rfl
  | cons m members ih => rw [arrangedMembers, ih, List.map_cons]

/-- The members of an object can be sorted before the members inside them. -/
theorem arranged_object (members : List (String × Json)) :
    arranged (.object members) = .object ((sortedMembers members).map fun m => (m.1, m.2.arranged)) := by
  rw [arranged, arrangedMembers_eq_map, sortedMembers_map]

/-- A value that its text tells: it holds neither floats nor moments, and no key comes twice. -/
inductive IsPlain : Json → Prop where
  | null : IsPlain .null
  | bool (b : Bool) : IsPlain (.bool b)
  | int (n : Int) : IsPlain (.int n)
  | string (s : String) : IsPlain (.string s)
  | array {items : List Json} (plain : ∀ item ∈ items, IsPlain item) : IsPlain (.array items)
  | object {members : List (String × Json)} (keys : (members.map Prod.fst).Nodup)
      (plain : ∀ m ∈ members, IsPlain m.2) : IsPlain (.object members)

/-- A plain value all whose objects have their members in the order of the keys. -/
inductive IsOrdered : Json → Prop where
  | null : IsOrdered .null
  | bool (b : Bool) : IsOrdered (.bool b)
  | int (n : Int) : IsOrdered (.int n)
  | string (s : String) : IsOrdered (.string s)
  | array {items : List Json} (ordered : ∀ item ∈ items, IsOrdered item) : IsOrdered (.array items)
  | object {members : List (String × Json)} (keys : (members.map Prod.fst).Pairwise (· < ·))
      (ordered : ∀ m ∈ members, IsOrdered m.2) : IsOrdered (.object members)

/-- A plain value is in order when its members have been sorted. -/
theorem IsPlain.isOrdered_arranged {value : Json} (h : value.IsPlain) : value.arranged.IsOrdered := by
  induction h with
  | null => exact .null
  | bool b => exact .bool b
  | int n => exact .int n
  | string s => exact .string s
  | array plain ih =>
    rw [arranged, arrangedItems_eq_map]
    exact .array (List.forall_mem_map.mpr ih)
  | @object members keys plain ih =>
    rw [arranged_object]
    refine .object ?_ (List.forall_mem_map.mpr fun m hm => ih m ((sortedMembers_perm _).mem_iff.mp hm))
    rw [List.map_map]
    exact pairwise_keys_sortedMembers keys

/-- Sorting members changes nothing about what is found under a key. -/
theorem get?_arranged {members : List (String × Json)} (h : (members.map Prod.fst).Nodup)
    (key : String) :
    (arranged (.object members)).get? key = (members.lookup key).map arranged := by
  rw [arranged_object, ← lookup_sortedMembers h, get?]
  exact lookup_map_value arranged _ key

end Bundler.Json
