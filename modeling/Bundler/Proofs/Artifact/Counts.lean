import Bundler.Artifact.Summary
import Bundler.Proofs.Lists

/-!
# Counting and ranking items

Items are counted one by one, in a list of entries that grows at its end. The counts of all items are
then put into the order of the items, or ranked: an item with a larger count comes first, and of two
items with the same count the smaller one.
-/

set_option autoImplicit false

namespace Bundler

variable {items : List String} {counts counts' : List (String × Nat)}

/-! ## Counting -/

namespace IsTally

end IsTally

/-! ## Counts in order -/

/-- Entries in the order of their items tell how often every item occurs. An item that does not occur
has none. -/
structure TellsCounts (count : String → Nat) (total : Nat) (counts : List (String × Nat)) : Prop where
  sorted : (counts.map Prod.fst).Pairwise (· < ·)
  lookup : ∀ item, counts.lookup item = if 0 < count item then some (count item) else none
  sum : (counts.map Prod.snd).sum = total

/-- An item has a larger count than another one, or the same count and is smaller. -/
def Outranks (count : String → Nat) (item other : String) : Prop :=
  count other < count item ∨ count item = count other ∧ item < other

/-- A list holds the first items of a ranking of all items, up to a bound. -/
structure IsTop (count : String → Nat) (items : List String) (bound : Nat) (top : List String) :
    Prop where
  length : top.length = min bound items.length
  nodup : top.Nodup
  subset : ∀ item ∈ top, item ∈ items
  ranked : top.Pairwise (Outranks count)
  rest : ∀ item ∈ items, item ∉ top → ∀ other ∈ top, Outranks count other item

end Bundler
