import Bundler.Entries

/-!
# Identities

The identities of a build are the numbers from zero on. An index remembers the first value that is
added under a location, and adding a later one changes nothing.
-/

set_option autoImplicit false

namespace Bundler

/-- Hands out identities. -/
structure Allocator where
  /-- The number of identities handed out so far. -/
  allocated : Nat := 0
deriving DecidableEq, Repr

/-- The next identity, and the allocator that has handed it out. -/
def Allocator.next (a : Allocator) : Nat × Allocator :=
  (a.allocated, ⟨a.allocated + 1⟩)

/-- Values under locations. -/
structure LocationIndex (α : Type) where
  /-- The locations with their values, the newest first. -/
  entries : List (String × α) := []

namespace LocationIndex

variable {α : Type}

/-- The value under a location. -/
def get? (x : LocationIndex α) (location : String) : Option α :=
  x.entries.lookup location

/-- Whether there is a value under a location. -/
def contains (x : LocationIndex α) (location : String) : Bool :=
  (x.get? location).isSome

/-- Adds a value under a location that has none yet. -/
def add (x : LocationIndex α) (location : String) (value : α) : LocationIndex α :=
  if x.contains location then x else ⟨(location, value) :: x.entries⟩

/-- What is found after an addition: under its location the value that was there before, or else
the new one. -/
theorem get?_add (x : LocationIndex α) (location other : String) (value : α) :
    (x.add location value).get? other =
      if other = location then some ((x.get? location).getD value) else x.get? other := by
  unfold add contains
  cases h : x.get? location with
  | none => by_cases ho : other = location <;> simp_all [get?, lookup_cons_ite]
  | some v =>
    by_cases ho : other = location
    · subst ho
      simp [h]
    · simp [ho]

/-- The number of locations. -/
def size (x : LocationIndex α) : Nat :=
  x.entries.length

end LocationIndex

end Bundler
