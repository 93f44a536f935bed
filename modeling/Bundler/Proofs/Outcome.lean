import Mathlib

/-!
# Outcomes

Steps that may fail, one after the other or for each item of a list: what it takes for all of them to
succeed.
-/

set_option autoImplicit false

namespace Bundler

variable {ε δ α β : Type}

/-- Two steps succeed if the first one does, and the second one with its value. -/
theorem bind_eq_ok {x : Except ε α} {f : α → Except ε β} {b : β} :
    x >>= f = .ok b ↔ ∃ a, x = .ok a ∧ f a = .ok b := by
  cases x with
  | error e =>
    constructor
    · intro h
      cases h
    · rintro ⟨a, ha, _⟩
      cases ha
  | ok a =>
    constructor
    · intro h
      exact ⟨a, rfl, h⟩
    · rintro ⟨a', ha, hb⟩
      cases ha
      exact hb

/-- After a first step that succeeds, the second one is taken with its value. -/
theorem bind_of_ok {x : Except ε α} {f : α → Except ε β} {a : α} (h : x = .ok a) :
    x >>= f = f a := by
  rw [h]
  rfl

/-- Two steps fail if the first one does, or the second one with its value. -/
theorem bind_eq_error {x : Except ε α} {f : α → Except ε β} {e : ε} :
    x >>= f = .error e ↔ x = .error e ∨ ∃ a, x = .ok a ∧ f a = .error e := by
  cases x with
  | error e' => simp [bind, Except.bind]
  | ok a => simp [bind, Except.bind]

/-- What becomes of errors makes no difference to a value. -/
theorem mapError_eq_ok {x : Except ε α} {f : ε → δ} {a : α} :
    x.mapError f = .ok a ↔ x = .ok a := by
  cases x with
  | error e =>
    constructor <;> intro h <;> cases h
  | ok a' =>
    constructor <;> intro h <;> cases h <;> rfl

/-- An error comes from one before. -/
theorem mapError_eq_error {x : Except ε α} {f : ε → δ} {e : δ} :
    x.mapError f = .error e ↔ ∃ e', x = .error e' ∧ f e' = e := by
  cases x with
  | error e' => simp [Except.mapError]
  | ok a => simp [Except.mapError]

/-- A step that is done for each item of a list has succeeded for each of them. -/
theorem forall₂_of_mapM {f : α → Except ε β} {l : List α} {l' : List β} (h : l.mapM f = .ok l') :
    List.Forall₂ (fun a b => f a = .ok b) l l' := by
  induction l generalizing l' with
  | nil =>
    cases h
    exact .nil
  | cons a l ih =>
    rw [List.mapM_cons] at h
    obtain ⟨b, hb, h⟩ := bind_eq_ok.mp h
    obtain ⟨rest, hrest, h⟩ := bind_eq_ok.mp h
    cases h
    exact .cons hb (ih hrest)

/-- A step that has a value for each item of a list can be done for all of them. -/
theorem exists_mapM {f : α → Except ε β} {l : List α} (h : ∀ a ∈ l, ∃ b, f a = .ok b) :
    ∃ l', l.mapM f = .ok l' := by
  induction l with
  | nil => exact ⟨[], rfl⟩
  | cons a l ih =>
    obtain ⟨b, hb⟩ := h a List.mem_cons_self
    obtain ⟨rest, hrest⟩ := ih fun a ha => h a (List.mem_cons_of_mem _ ha)
    refine ⟨b :: rest, ?_⟩
    rw [List.mapM_cons, bind_of_ok hb, bind_of_ok hrest]
    rfl

/-- A step that is done for each item of a list fails if it does so for one of them. -/
theorem exists_error_of_mapM {f : α → Except ε β} {l : List α} {e : ε} (h : l.mapM f = .error e) :
    ∃ a ∈ l, f a = .error e := by
  induction l with
  | nil => cases h
  | cons a l ih =>
    rw [List.mapM_cons] at h
    rcases bind_eq_error.mp h with ha | ⟨b, _, h⟩
    · exact ⟨a, List.mem_cons_self, ha⟩
    · rcases bind_eq_error.mp h with hl | ⟨bs, _, h⟩
      · obtain ⟨other, hother, hfails⟩ := ih hl
        exact ⟨other, List.mem_cons_of_mem _ hother, hfails⟩
      · cases h

/-! ## Steps with a state -/

section State

variable {σ : Type} {s s' : σ}

/-- Two steps with a state succeed if the first one does, and the second one from where it ends. -/
theorem stateful_bind_eq_ok {x : EStateM ε σ α} {f : α → EStateM ε σ β} {b : β} :
    (x >>= f) s = .ok b s' ↔ ∃ a t, x s = .ok a t ∧ f a t = .ok b s' := by
  change EStateM.bind x f s = _ ↔ _
  unfold EStateM.bind
  cases hx : x s with
  | error e t =>
    constructor
    · intro h
      cases h
    · rintro ⟨a, t, ha, _⟩
      cases ha
  | ok a t =>
    constructor
    · intro h
      exact ⟨a, t, rfl, h⟩
    · rintro ⟨a', t', ha, hb⟩
      cases ha
      exact hb

/-- Two steps with a state fail if the first one does, or the second one from where it ends. -/
theorem stateful_bind_eq_error {x : EStateM ε σ α} {f : α → EStateM ε σ β} {e : ε} :
    (x >>= f) s = .error e s' ↔ x s = .error e s' ∨ ∃ a t, x s = .ok a t ∧ f a t = .error e s' := by
  change EStateM.bind x f s = _ ↔ _
  unfold EStateM.bind
  cases hx : x s with
  | error e' t => simp
  | ok a t => simp

/-- After a first step with a state that succeeds, the second one is taken from where it ends. -/
theorem stateful_bind_of_ok {x : EStateM ε σ α} {f : α → EStateM ε σ β} {a : α} {t : σ}
    (h : x s = .ok a t) : (x >>= f) s = f a t := by
  change EStateM.bind x f s = _
  rw [EStateM.bind, h]

/-- After a first step with a state that fails, nothing else is done. -/
theorem stateful_bind_of_error {x : EStateM ε σ α} {f : α → EStateM ε σ β} {e : ε}
    (h : x s = .error e s') : (x >>= f) s = .error e s' := by
  change EStateM.bind x f s = _
  rw [EStateM.bind, h]

/-- Asking for the state gives it and keeps it. -/
theorem get_eq_ok {t : σ} : (get : EStateM ε σ σ) s = .ok t s' ↔ t = s ∧ s' = s := by
  constructor
  · intro h
    cases h
    exact ⟨rfl, rfl⟩
  · rintro ⟨rfl, rfl⟩
    rfl

/-- Giving a value keeps the state. -/
theorem pure_eq_ok {a b : α} : (pure a : EStateM ε σ α) s = .ok b s' ↔ b = a ∧ s' = s := by
  constructor
  · intro h
    cases h
    exact ⟨rfl, rfl⟩
  · rintro ⟨rfl, rfl⟩
    rfl

/-- Dropping a result keeps the state that was left. -/
theorem discard_eq_ok {x : EStateM ε σ α} {u : PUnit} :
    (discard x) s = .ok u s' ↔ ∃ a, x s = .ok a s' := by
  constructor
  · intro h
    obtain ⟨a, t, hx, ht⟩ := stateful_bind_eq_ok.mp h
    cases ht
    exact ⟨a, hx⟩
  · rintro ⟨a, hx⟩
    exact stateful_bind_eq_ok.mpr ⟨a, s', hx, rfl⟩

/-- The state that steps leave behind, however they end. -/
def stateAfter (x : EStateM ε σ α) (s : σ) : σ :=
  match x s with
  | .ok _ t => t
  | .error _ t => t

/-- The state after success. -/
theorem stateAfter_of_ok {x : EStateM ε σ α} {a : α} (h : x s = .ok a s') : stateAfter x s = s' := by
  rw [stateAfter, h]

/-- The state after a failure. -/
theorem stateAfter_of_error {x : EStateM ε σ α} {e : ε} (h : x s = .error e s') :
    stateAfter x s = s' := by
  rw [stateAfter, h]

/-- The second one of two steps is taken from where the first one ends, unless that one fails. -/
theorem stateAfter_bind (x : EStateM ε σ α) (f : α → EStateM ε σ β) (s : σ) :
    stateAfter (x >>= f) s = stateAfter x s ∨
      ∃ a t, x s = .ok a t ∧ stateAfter (x >>= f) s = stateAfter (f a) t := by
  have hbind : (x >>= f) s = EStateM.bind x f s := rfl
  unfold stateAfter
  rw [hbind, EStateM.bind]
  cases hx : x s with
  | ok a t => exact .inr ⟨a, t, rfl, rfl⟩
  | error e t => exact .inl rfl

/-- Asking for the state first makes no difference to what is left. -/
theorem stateAfter_get_bind (f : σ → EStateM ε σ β) (s : σ) :
    stateAfter (get >>= f) s = stateAfter (f s) s :=
  rfl

/-- Steps that keep a property of the state, however they end. -/
def Keeps (P : σ → Prop) (x : EStateM ε σ α) : Prop :=
  ∀ s, P s → P (stateAfter x s)

variable {P : σ → Prop}

/-- Two steps keep what both keep, where the second one follows a result of the first one. -/
theorem Keeps.bind_of_ok {x : EStateM ε σ α} {f : α → EStateM ε σ β} (hx : Keeps P x)
    (hf : ∀ a s t, x s = .ok a t → Keeps P (f a)) : Keeps P (x >>= f) := by
  intro s hs
  rcases stateAfter_bind x f s with h | ⟨a, t, hxs, h⟩
  · rw [h]
    exact hx s hs
  · rw [h]
    refine hf a s t hxs t ?_
    have hx' := hx s hs
    rwa [stateAfter_of_ok hxs] at hx'

/-- Two steps keep what both keep. -/
theorem Keeps.bind {x : EStateM ε σ α} {f : α → EStateM ε σ β} (hx : Keeps P x)
    (hf : ∀ a, Keeps P (f a)) : Keeps P (x >>= f) :=
  hx.bind_of_ok fun a _ _ _ => hf a

/-- Giving a value keeps everything. -/
theorem keeps_pure (a : α) : Keeps P (pure a : EStateM ε σ α) :=
  fun _ hs => hs

/-- Asking for the state keeps everything. -/
theorem keeps_get : Keeps P (get : EStateM ε σ σ) :=
  fun _ hs => hs

/-- Failing keeps everything. -/
theorem keeps_throw (e : ε) : Keeps P (throw e : EStateM ε σ α) :=
  fun _ hs => hs

end State

end Bundler
