import Bundler.Proofs.Graph.Exploration

/-!
# Walks in order

Walks are ordered by their length, and walks of one length lexicographically. A build follows
references in the order of their walks, because the references of an earlier record come before
those of a later one. So the walks of its records ascend, and the record that a reference leads to
was never found later than by that reference. When nothing is pending any more, every location that
a walk leads to has a record with a walk that is no later.
-/

set_option autoImplicit false

namespace Bundler

/-! ## The order of walks -/

section Order

variable {first second third : List Nat}

/-- A walk before an earlier one is earlier. -/
theorem shortlex_trans (h : List.Shortlex (· < ·) first second)
    (h' : List.Shortlex (· < ·) second third) : List.Shortlex (· < ·) first third := by
  rw [List.shortlex_def] at h h' ⊢
  rcases h with h | ⟨hlength, hlex⟩
  · rcases h' with h' | ⟨hlength', _⟩
    · exact .inl (h.trans h')
    · exact .inl (hlength' ▸ h)
  · rcases h' with h' | ⟨hlength', hlex'⟩
    · exact .inl (hlength ▸ h')
    · exact .inr ⟨hlength.trans hlength', List.lex_trans Nat.lt_trans hlex hlex'⟩

/-- Of two walks of one length, the one that is less stays less with one more position each. -/
theorem lex_concat (hlength : first.length = second.length)
    (h : List.Lex (· < ·) first second) (i j : Nat) :
    List.Lex (· < ·) (first ++ [i]) (second ++ [j]) := by
  induction h with
  | nil => cases hlength
  | cons _ ih => exact .cons (ih (Nat.succ.inj hlength))
  | rel hlt => exact .rel hlt

/-- What continues an earlier walk is earlier. -/
theorem shortlex_concat (h : List.Shortlex (· < ·) first second) (i j : Nat) :
    List.Shortlex (· < ·) (first ++ [i]) (second ++ [j]) := by
  rw [List.shortlex_def] at h
  rcases h with h | ⟨hlength, hlex⟩
  · apply List.Shortlex.of_length_lt
    rw [List.length_append, List.length_append]
    exact Nat.add_lt_add_right h 1
  · apply List.Shortlex.of_lex
    · rw [List.length_append, List.length_append, hlength]
      rfl
    · exact lex_concat hlength hlex i j

/-- Continuations of one walk are ordered by their last positions. -/
theorem shortlex_siblings (walk : List Nat) {i j : Nat} (h : i < j) :
    List.Shortlex (· < ·) (walk ++ [i]) (walk ++ [j]) :=
  List.Shortlex.append_left ((List.shortlex_singleton_iff i j).mpr h) walk

/-- The empty walk is before every walk that goes on. -/
theorem shortlex_nil_concat (walk : List Nat) (i : Nat) :
    List.Shortlex (· < ·) [] (walk ++ [i]) := by
  apply List.Shortlex.of_length_lt
  rw [List.length_append]
  exact Nat.succ_pos walk.length

/-- No walk is before itself. -/
theorem not_shortlex_self (walk : List Nat) : ¬ List.Shortlex (· < ·) walk walk := by
  intro h
  exact Std.Asymm.asymm _ _ h h

end Order

namespace Builder

variable {b : Builder} {entry : String} {x y : Exploration}

/-- The references of one record ascend. -/
theorem pairwise_tasksAt (identity : Nat) (v : Visit) :
    (b.tasksAt identity v).Pairwise fun t u => List.Shortlex (· < ·) t.walk u.walk := by
  rw [List.pairwise_iff_getElem]
  intro i j hi hj hlt
  simp only [tasksAt, List.getElem_mapIdx]
  exact shortlex_siblings v.walk hlt

/-- The references of records that ascend do so, too. -/
theorem pairwise_tasksFrom {visits : List Visit}
    (h : visits.Pairwise fun v w => List.Shortlex (· < ·) v.walk w.walk) (identity : Nat) :
    (b.tasksFrom identity visits).Pairwise fun t u => List.Shortlex (· < ·) t.walk u.walk := by
  induction visits generalizing identity with
  | nil => exact .nil
  | cons v rest ih =>
    obtain ⟨hv, hrest⟩ := List.pairwise_cons.mp h
    rw [tasksFrom, List.pairwise_append]
    refine ⟨pairwise_tasksAt identity v, ih hrest (identity + 1), ?_⟩
    intro t ht u hu
    obtain ⟨i, _, _, rfl⟩ := mem_tasksAt.mp ht
    obtain ⟨k, w, hw, hmem⟩ := mem_tasksFrom.mp hu
    obtain ⟨j, _, _, rfl⟩ := mem_tasksAt.mp hmem
    exact shortlex_concat (hv w (List.mem_of_getElem? hw)) i j

/-! ## The order of a build -/

/-- The records of an exploration were found in the order of their walks. -/
structure IsOrdered (x : Exploration) : Prop where
  /-- The walks of the records ascend. -/
  walks : x.visits.Pairwise fun v w => List.Shortlex (· < ·) v.walk w.walk
  /-- Every record but the first was found by following a reference. -/
  found : ∀ v ∈ x.visits, v.walk = [] ∨ ∃ l ∈ x.links, l.task.walk = v.walk
  /-- A reference leads to a record that was not found later than by that reference. -/
  least : ∀ l ∈ x.links, ∀ v, x.visits[l.target]? = some v →
    v.walk = l.task.walk ∨ List.Shortlex (· < ·) v.walk l.task.walk

/-- A pending reference comes after every record. -/
theorem IsOrdered.shortlex_pending (h : IsOrdered x) (hc : b.IsConsistent entry x) {v : Visit}
    (hv : v ∈ x.visits) {t : Task} (ht : t ∈ x.pending) :
    List.Shortlex (· < ·) v.walk t.walk := by
  rcases h.found v hv with hnil | ⟨l, hl, hwalk⟩
  · obtain ⟨w, _, i, _, _, _, ht, _⟩ := hc.exists_visit (hc.pending_mem ht)
    rw [hnil, ht]
    exact shortlex_nil_concat w.walk i
  · have hledger := pairwise_tasksFrom (b := b) h.walks 0
    rw [← hc.ledger, List.pairwise_append] at hledger
    rw [← hwalk]
    exact hledger.2.2 l.task (List.mem_map_of_mem hl) t ht

/-- A step keeps the order. -/
theorem IsOrdered.step (h : IsOrdered x) (hc : b.IsConsistent entry x) (hs : b.Step x y) :
    IsOrdered y := by
  cases hs with
  | @seen visits links t pending location identity resolved known =>
    refine ⟨h.walks, ?_, ?_⟩
    · intro v hv
      refine (h.found v hv).imp_right ?_
      rintro ⟨l, hl, hwalk⟩
      exact ⟨l, List.mem_append_left _ hl, hwalk⟩
    · intro l hl v hv
      rcases List.mem_append.mp hl with hl | hl
      · exact h.least l hl v hv
      · rw [List.mem_singleton.mp hl]
        exact .inr (h.shortlex_pending hc (List.mem_of_getElem? hv) List.mem_cons_self)
  | @fresh visits links t pending location compiled resolved unknown room compiles =>
    refine ⟨?_, ?_, ?_⟩
    · rw [List.pairwise_append]
      refine ⟨h.walks, List.pairwise_singleton _ _, ?_⟩
      intro v hv w hw
      rw [List.mem_singleton.mp hw]
      exact h.shortlex_pending hc hv List.mem_cons_self
    · intro v hv
      rcases List.mem_append.mp hv with hv | hv
      · refine (h.found v hv).imp_right ?_
        rintro ⟨l, hl, hwalk⟩
        exact ⟨l, List.mem_append_left _ hl, hwalk⟩
      · rw [List.mem_singleton.mp hv]
        exact .inr ⟨⟨t, visits.length, false⟩, List.mem_append_right _ List.mem_cons_self, rfl⟩
    · intro l hl v hv
      rcases List.mem_append.mp hl with hl | hl
      · -- The target of an earlier link is an earlier record.
        obtain ⟨w, hw, _⟩ := hc.linked l hl
        have hlt := (List.getElem?_eq_some_iff.mp hw).1
        rw [List.getElem?_append_left hlt] at hv
        exact h.least l hl v hv
      · obtain rfl := List.mem_singleton.mp hl
        rw [List.getElem?_concat_length] at hv
        rw [← Option.some.inj hv]
        exact .inl rfl

/-- Every exploration that a build goes through is in order. -/
theorem Explores.isOrdered (h : b.Explores entry x) : IsOrdered x := by
  induction h.steps with
  | refl =>
    refine ⟨List.pairwise_singleton _ _, ?_, ?_⟩
    · intro v hv
      rw [List.mem_singleton.mp hv]
      exact .inl rfl
    · intro l hl
      cases hl
  | tail hsteps hs ih =>
    have hx : b.Explores entry _ := ⟨h.room, h.compiles, hsteps⟩
    exact (ih hx).step hx.isConsistent hs

/-! ## Complete explorations -/

/-- A reference of a record that is not pending any more has been followed to where it leads. -/
theorem IsConsistent.exists_link (h : b.IsConsistent entry x) {i : Nat} {v : Visit}
    (hv : x.visits[i]? = some v) {compiled : CompiledModule}
    (hcompiled : b.frontend v.location = .ok compiled) {position : Nat} {reference : String}
    (hr : compiled.references[position]? = some reference)
    (hnot : ⟨i, v.location, v.walk ++ [position], reference⟩ ∉ x.pending) :
    ∃ l ∈ x.links, l.task = ⟨i, v.location, v.walk ++ [position], reference⟩ ∧
      ∃ w, x.visits[l.target]? = some w ∧ b.target v.location reference = .ok w.location := by
  have hmem : (⟨i, v.location, v.walk ++ [position], reference⟩ : Task) ∈
      b.tasksFrom 0 x.visits := by
    refine mem_tasksFrom.mpr ⟨i, v, hv, mem_tasksAt.mpr ⟨position, reference, ?_, ?_⟩⟩
    · rw [compiledAt_eq hcompiled, hr]
    · rw [Nat.zero_add]
  rw [← h.ledger] at hmem
  obtain ⟨l, hl, htask⟩ := List.mem_map.mp ((List.mem_append.mp hmem).resolve_right hnot)
  obtain ⟨w, hw, htarget⟩ := h.linked l hl
  rw [htask] at htarget
  exact ⟨l, hl, htask, w, hw, htarget⟩

/-- A walk before all pending references leads to a record that was found no later. -/
theorem Explores.exists_visit_of_follow (h : b.Explores entry x) {walk : List Nat}
    (hbefore : ∀ t ∈ x.pending, List.Shortlex (· < ·) walk t.walk) {location : Path}
    (hw : b.follow (b.start entry) walk = some location) :
    ∃ v ∈ x.visits, v.location = location ∧
      (v.walk = walk ∨ List.Shortlex (· < ·) v.walk walk) := by
  have hc := h.isConsistent
  induction walk using List.reverseRecOn generalizing location with
  | nil =>
    obtain ⟨rest, hrest⟩ := hc.first
    refine ⟨⟨b.start entry, []⟩, ?_, Option.some.inj hw, .inl rfl⟩
    rw [hrest]
    exact List.mem_cons_self
  | append_singleton walk position ih =>
    rw [follow_concat, Option.bind_eq_some_iff] at hw
    obtain ⟨middle, hmiddle, htake⟩ := hw
    have hshorter : ∀ t ∈ x.pending, List.Shortlex (· < ·) walk t.walk := by
      intro t ht
      have hlength : walk.length < (walk ++ [position]).length := by simp
      exact shortlex_trans (.of_length_lt hlength) (hbefore t ht)
    obtain ⟨v, hv, rfl, hle⟩ := ih hshorter hmiddle
    obtain ⟨compiled, hcompiled⟩ := hc.compiles v hv
    obtain ⟨reference, hr, htarget⟩ := (take?_eq_some hcompiled).mp htake
    obtain ⟨i, hi⟩ := List.getElem?_of_mem hv
    have hnext : v.walk ++ [position] = walk ++ [position] ∨
        List.Shortlex (· < ·) (v.walk ++ [position]) (walk ++ [position]) :=
      hle.imp (congrArg (· ++ [position])) fun hlt => shortlex_concat hlt position position
    -- The reference of the record is no later than the walk, so it is not pending.
    have hnot : ⟨i, v.location, v.walk ++ [position], reference⟩ ∉ x.pending := by
      intro hpending
      have hlater := hbefore _ hpending
      rcases hnext with heq | hlt
      · exact not_shortlex_self _ (heq ▸ hlater)
      · exact not_shortlex_self _ (shortlex_trans hlater hlt)
    obtain ⟨l, hl, htask, w, hw, hwtarget⟩ := hc.exists_link hi hcompiled hr hnot
    have hlocation : w.location = location := by
      rw [htarget] at hwtarget
      exact (Except.ok.inj hwtarget).symm
    refine ⟨w, List.mem_of_getElem? hw, hlocation, ?_⟩
    -- The record was found no later than by the reference, whose record was found no later.
    have hleast := h.isOrdered.least l hl w hw
    rw [htask] at hleast
    rcases hleast with heq | hbefore
    · exact heq ▸ hnext
    · exact .inr (hnext.elim (fun heq => heq ▸ hbefore) (shortlex_trans hbefore))

/-- Once nothing is pending, every walk is before all pending references. -/
theorem before_of_pending_nil (hp : x.pending = []) (walk : List Nat) :
    ∀ t ∈ x.pending, List.Shortlex (· < ·) walk t.walk := by
  rw [hp]
  exact List.forall_mem_nil _

/-- Once nothing is pending, all that can be reached has records. -/
theorem Explores.mem_locations_iff (h : b.Explores entry x) (hp : x.pending = [])
    {location : Path} : location ∈ x.locations ↔ b.Reaches entry location := by
  constructor
  · intro hl
    obtain ⟨v, hv, rfl⟩ := List.mem_map.mp hl
    exact h.reaches hv
  · intro hr
    obtain ⟨walk, hw⟩ := exists_follow_of_reflTransGen hr
    obtain ⟨v, hv, rfl, _⟩ := h.exists_visit_of_follow (before_of_pending_nil hp walk) hw
    exact List.mem_map_of_mem hv

/-- Once nothing is pending, all that can be reached is sound. -/
theorem Explores.isSound (h : b.Explores entry x) (hp : x.pending = []) {location : Path}
    (hr : b.Reaches entry location) : b.IsSound location := by
  have hc := h.isConsistent
  obtain ⟨v, hv, rfl⟩ := List.mem_map.mp ((h.mem_locations_iff hp).mpr hr)
  obtain ⟨compiled, hcompiled⟩ := hc.compiles v hv
  refine ⟨compiled, hcompiled, ?_⟩
  intro reference href
  obtain ⟨i, hi⟩ := List.getElem?_of_mem hv
  obtain ⟨position, hposition⟩ := List.getElem?_of_mem href
  obtain ⟨_, _, _, w, _, htarget⟩ := hc.exists_link hi hcompiled hposition (hp ▸ List.not_mem_nil)
  exact ⟨w.location, htarget⟩

end Builder

end Bundler
