import Bundler.Graph.Builder
import Bundler.Proofs.Lists
import Bundler.Proofs.Path.Canonical

/-!
# What can be reached from an entry module

A module refers to another one when one of its references leads there. What can be reached from an
entry module along such steps does not depend on a build: it is given by the frontend, the disk and
the suffixes alone.

A walk is a list of positions of references, taken one after the other. Walks single out the ways
to a location where several references, or several spellings of one, lead to the same place.
-/

set_option autoImplicit false

namespace Bundler

/-- A resolved reference is a normalized candidate. -/
theorem isCanonical_of_resolve {d : Disk} {directory location : Path}
    {reference referrer : String} {suffixes : List String}
    (h : resolve d directory reference referrer suffixes = .ok location) :
    location.IsCanonical := by
  unfold resolve at h
  cases hc : candidates d.current directory reference suffixes with
  | error e => simp [hc, Failure.crashOn, Except.mapError, bind, Except.bind] at h
  | ok tried =>
    simp only [hc, Failure.crashOn, Except.mapError, bind, Except.bind] at h
    cases hf : tried.find? d.isFile with
    | none => simp [hf, throw, throwThe, MonadExceptOf.throw] at h
    | some candidate =>
      simp only [hf, pure, Except.pure, Except.ok.injEq] at h
      subst h
      exact Path.isCanonical_normalize candidate d.current

namespace Builder

/-- The location of an entry module. -/
def start (b : Builder) (entry : String) : Path :=
  (Path.ofString entry).normalize b.disk.current

/-- Where a reference in the module at a location leads. -/
def target (b : Builder) (location : Path) (reference : String) :
    Except (Failure ResolutionError) Path :=
  resolve b.disk location.parent reference location.toString b.settings.suffixes

/-- Some reference in the module at one location leads to another location. -/
def Refers (b : Builder) (location other : Path) : Prop :=
  ∃ compiled, b.frontend location = .ok compiled ∧
    ∃ reference ∈ compiled.references, b.target location reference = .ok other

/-- A location that steps along references lead to from an entry module. -/
def Reaches (b : Builder) (entry : String) : Path → Prop :=
  Relation.ReflTransGen b.Refers (b.start entry)

/-- The module at a location compiles, and each of its references leads somewhere. -/
def IsSound (b : Builder) (location : Path) : Prop :=
  ∃ compiled, b.frontend location = .ok compiled ∧
    ∀ reference ∈ compiled.references, ∃ other, b.target location reference = .ok other

/-- Where the reference at a position of the module at a location leads. -/
def take? (b : Builder) (location : Path) (position : Nat) : Option Path := do
  let compiled ← (b.frontend location).toOption
  let reference ← compiled.references[position]?
  (b.target location reference).toOption

/-- Where a walk leads from a location. -/
def follow (b : Builder) : Path → List Nat → Option Path
  | location, [] => some location
  | location, position :: walk => (b.take? location position).bind (b.follow · walk)

/-- The least walk, shorter ones first, that leads from an entry module to a location. -/
def IsLeastWalk (b : Builder) (entry : String) (location : Path) (walk : List Nat) : Prop :=
  b.follow (b.start entry) walk = some location ∧
    ∀ other, b.follow (b.start entry) other = some location →
      walk = other ∨ List.Shortlex (· < ·) walk other

variable {b : Builder} {entry : String} {location other : Path}

/-- Taking a position means following the reference that stands there. -/
theorem take?_eq_some {compiled : CompiledModule} (h : b.frontend location = .ok compiled)
    {position : Nat} :
    b.take? location position = some other ↔
      ∃ reference, compiled.references[position]? = some reference ∧
        b.target location reference = .ok other := by
  unfold take?
  rw [h]
  simp only [Except.toOption, Option.bind_eq_bind, Option.bind_some, Option.bind_eq_some_iff]
  constructor
  · rintro ⟨reference, hr, ht⟩
    refine ⟨reference, hr, ?_⟩
    cases hv : b.target location reference with
    | error e => simp [hv] at ht
    | ok found => simpa [hv] using ht
  · rintro ⟨reference, hr, ht⟩
    exact ⟨reference, hr, by simp [ht]⟩

/-- One step along a walk is a step along a reference. -/
theorem refers_of_take? {position : Nat} (h : b.take? location position = some other) :
    b.Refers location other := by
  cases hc : b.frontend location with
  | error e => simp [take?, hc, Except.toOption] at h
  | ok compiled =>
    obtain ⟨reference, hr, ht⟩ := (take?_eq_some hc).mp h
    exact ⟨compiled, hc, reference, List.mem_of_getElem? hr, ht⟩

/-- Every step along a reference can be taken in a walk. -/
theorem exists_take?_of_refers (h : b.Refers location other) :
    ∃ position, b.take? location position = some other := by
  obtain ⟨compiled, hc, reference, hr, ht⟩ := h
  obtain ⟨position, hp⟩ := List.getElem?_of_mem hr
  exact ⟨position, (take?_eq_some hc).mpr ⟨reference, hp, ht⟩⟩

/-- Two walks one after the other are one walk. -/
theorem follow_append (first second : List Nat) :
    b.follow location (first ++ second) = (b.follow location first).bind (b.follow · second) := by
  induction first generalizing location with
  | nil => rfl
  | cons position first ih =>
    simp only [List.cons_append, follow]
    cases b.take? location position with
    | none => rfl
    | some next => exact ih

/-- A walk continued by one more position. -/
theorem follow_concat (walk : List Nat) (position : Nat) :
    b.follow location (walk ++ [position]) =
      (b.follow location walk).bind (b.take? · position) := by
  rw [follow_append]
  congr 1
  funext next
  simp only [follow]
  cases b.take? next position <;> rfl

/-- A walk leads to what can be reached. -/
theorem reflTransGen_of_follow {walk : List Nat} (h : b.follow location walk = some other) :
    Relation.ReflTransGen b.Refers location other := by
  induction walk generalizing location with
  | nil =>
    cases h
    exact .refl
  | cons position walk ih =>
    obtain ⟨next, hn, hw⟩ := Option.bind_eq_some_iff.mp h
    exact .head (refers_of_take? hn) (ih hw)

/-- What can be reached is where a walk leads. -/
theorem exists_follow_of_reflTransGen (h : Relation.ReflTransGen b.Refers location other) :
    ∃ walk, b.follow location walk = some other := by
  induction h with
  | refl => exact ⟨[], rfl⟩
  | tail _ hstep ih =>
    obtain ⟨walk, hw⟩ := ih
    obtain ⟨position, hp⟩ := exists_take?_of_refers hstep
    exact ⟨walk ++ [position], by rw [follow_concat, hw, Option.bind_some, hp]⟩

/-- Every location that can be reached is canonical. -/
theorem Reaches.isCanonical (h : b.Reaches entry location) : location.IsCanonical := by
  cases h with
  | refl => exact Path.isCanonical_normalize _ _
  | tail _ hstep =>
    obtain ⟨_, _, _, _, ht⟩ := hstep
    exact isCanonical_of_resolve ht

end Builder

end Bundler
