import Bundler.Proofs.Graph.Reach

/-!
# The exploration behind a build

A build follows references one at a time, the oldest one first. How far it has come is told by an
exploration: the visits are the records that have been created, by identity; the links are the
references that have been followed, and the pending tasks those that have not. A step follows the
first pending reference. It leads to a record that is there already, or to a new one whose own
references join the end of the queue.

What holds of every exploration that a build goes through is proved here from what one step does.
The links and the pending tasks together are always the references of all visits, in order, so that
nothing is passed over or followed twice.
-/

set_option autoImplicit false

namespace Bundler

/-- A record that has been created. -/
structure Visit where
  /-- The location of its module. -/
  location : Path
  /-- The walk by which it was found. -/
  walk : List Nat

/-- A reference that is to be followed. -/
structure Task where
  /-- The identity of the record with the reference. -/
  source : Nat
  /-- The location of that record. -/
  location : Path
  /-- The walk to that record, and then along the reference. -/
  walk : List Nat
  /-- The reference. -/
  reference : String

/-- The origin of an error that comes from a task. -/
def Task.origin (t : Task) : Origin :=
  ⟨some t.reference, some t.location.toString⟩

/-- A reference that has been followed. -/
structure Link where
  /-- What was to be followed. -/
  task : Task
  /-- The identity of the record that it leads to. -/
  target : Nat
  /-- Whether that record was there before. -/
  seen : Bool

/-- How far a build has come. -/
structure Exploration where
  /-- The records that have been created, by identity. -/
  visits : List Visit
  /-- The references that have been followed, in order. -/
  links : List Link
  /-- The references that are to be followed, in order. -/
  pending : List Task

/-- The locations that have records, by identity. -/
def Exploration.locations (x : Exploration) : List Path :=
  x.visits.map Visit.location

/-- One more record adds its location. -/
theorem Exploration.locations_concat (visits : List Visit) (v : Visit) (links : List Link)
    (pending : List Task) :
    Exploration.locations ⟨visits ++ [v], links, pending⟩ =
      visits.map Visit.location ++ [v.location] := by
  rw [locations, List.map_append]
  rfl

namespace Builder

/-- What the frontend returns for a location; a module without references if it fails. -/
def compiledAt (b : Builder) (location : Path) : CompiledModule :=
  (b.frontend location).toOption.getD ⟨[], ""⟩

/-- The references of a record, by position. -/
def tasksAt (b : Builder) (identity : Nat) (v : Visit) : List Task :=
  (b.compiledAt v.location).references.mapIdx fun position reference =>
    ⟨identity, v.location, v.walk ++ [position], reference⟩

/-- The references of records with successive identities. -/
def tasksFrom (b : Builder) (identity : Nat) : List Visit → List Task
  | [] => []
  | v :: rest => b.tasksAt identity v ++ b.tasksFrom (identity + 1) rest

/-- The record that a reference to a location shares, if the policy lets it share one. -/
def known? (b : Builder) (visits : List Visit) (location : Path) : Option Nat :=
  if b.settings.policy = .perLocation then (visits.map Visit.location).idxOf? location else none

/-- The first pending reference is followed. -/
inductive Step (b : Builder) : Exploration → Exploration → Prop where
  /-- It leads to a record that is there already. -/
  | seen {visits : List Visit} {links : List Link} {t : Task} {pending : List Task}
      {location : Path} {identity : Nat}
      (resolved : b.target t.location t.reference = .ok location)
      (known : b.known? visits location = some identity) :
      Step b ⟨visits, links, t :: pending⟩ ⟨visits, links ++ [⟨t, identity, true⟩], pending⟩
  /-- It leads to a new record. -/
  | fresh {visits : List Visit} {links : List Link} {t : Task} {pending : List Task}
      {location : Path} {compiled : CompiledModule}
      (resolved : b.target t.location t.reference = .ok location)
      (unknown : b.known? visits location = none)
      (room : visits.length < b.settings.maxModules)
      (compiles : b.frontend location = .ok compiled) :
      Step b ⟨visits, links, t :: pending⟩
        ⟨visits ++ [⟨location, t.walk⟩], links ++ [⟨t, visits.length, false⟩],
          pending ++ b.tasksAt visits.length ⟨location, t.walk⟩⟩

/-- The first pending reference cannot be followed; the frontend may have been called in vain. -/
inductive Stops (b : Builder) : Exploration → List Path → Failure BuildError → Prop where
  /-- The reference leads nowhere. -/
  | unresolved {visits : List Visit} {links : List Link} {t : Task} {pending : List Task}
      {failure : Failure ResolutionError}
      (failed : b.target t.location t.reference = .error failure) :
      Stops b ⟨visits, links, t :: pending⟩ [] (failure.map .resolution)
  /-- There is no room for a new record. -/
  | full {visits : List Visit} {links : List Link} {t : Task} {pending : List Task}
      {location : Path}
      (resolved : b.target t.location t.reference = .ok location)
      (unknown : b.known? visits location = none)
      (noRoom : b.settings.maxModules ≤ visits.length) :
      Stops b ⟨visits, links, t :: pending⟩ []
        (.refused (.limit ⟨b.settings.maxModules, t.origin⟩))
  /-- The module does not compile. -/
  | refused {visits : List Visit} {links : List Link} {t : Task} {pending : List Task}
      {location : Path} {failure : Failure FrontendError}
      (resolved : b.target t.location t.reference = .ok location)
      (unknown : b.known? visits location = none)
      (room : visits.length < b.settings.maxModules)
      (failed : b.frontend location = .error failure) :
      Stops b ⟨visits, links, t :: pending⟩ [location] (attributed t.origin failure)

/-- The exploration in which only the entry module has a record. -/
def outset (b : Builder) (entry : String) : Exploration :=
  ⟨[⟨b.start entry, []⟩], [], b.tasksAt 0 ⟨b.start entry, []⟩⟩

/-- The explorations that the build of an entry module goes through. -/
structure Explores (b : Builder) (entry : String) (x : Exploration) : Prop where
  /-- There is room for the entry module. -/
  room : 0 < b.settings.maxModules
  /-- The entry module compiles. -/
  compiles : ∃ compiled, b.frontend (b.start entry) = .ok compiled
  /-- Steps lead there. -/
  steps : Relation.ReflTransGen b.Step (b.outset entry) x

variable {b : Builder} {entry : String} {x y : Exploration}

/-- A step leads from one exploration of a build to another. -/
theorem Explores.step (h : b.Explores entry x) (hs : b.Step x y) : b.Explores entry y :=
  ⟨h.room, h.compiles, h.steps.tail hs⟩

/-- What is returned for a location is what the frontend returns. -/
theorem compiledAt_eq {location : Path} {compiled : CompiledModule}
    (h : b.frontend location = .ok compiled) : b.compiledAt location = compiled := by
  rw [compiledAt, h]
  rfl

/-! ## The references of records -/

/-- The references of two lists of records, one after the other. -/
theorem tasksFrom_append (identity : Nat) (first second : List Visit) :
    b.tasksFrom identity (first ++ second) =
      b.tasksFrom identity first ++ b.tasksFrom (identity + first.length) second := by
  induction first generalizing identity with
  | nil => rfl
  | cons v first ih =>
    rw [List.cons_append, tasksFrom, tasksFrom, ih, List.append_assoc, List.length_cons,
      Nat.add_assoc, Nat.add_comm 1]

/-- The references of a record are those that the frontend returns. -/
theorem map_reference_tasksAt (identity : Nat) (v : Visit) :
    (b.tasksAt identity v).map Task.reference = (b.compiledAt v.location).references := by
  apply List.ext_getElem?
  intro i
  simp only [tasksAt, List.getElem?_map, List.getElem?_mapIdx, Option.map_map]
  exact Option.map_id'

/-- A reference of a record stands at a position in its module. -/
theorem mem_tasksAt {identity : Nat} {v : Visit} {t : Task} :
    t ∈ b.tasksAt identity v ↔
      ∃ position reference, (b.compiledAt v.location).references[position]? = some reference ∧
        t = ⟨identity, v.location, v.walk ++ [position], reference⟩ := by
  unfold tasksAt
  rw [List.mem_mapIdx]
  constructor
  · rintro ⟨position, h, rfl⟩
    exact ⟨position, _, List.getElem?_eq_getElem h, rfl⟩
  · rintro ⟨position, reference, h, rfl⟩
    obtain ⟨hlt, rfl⟩ := List.getElem?_eq_some_iff.mp h
    exact ⟨position, hlt, rfl⟩

/-- A reference of several records is one of the record that it names as its source. -/
theorem mem_tasksFrom {identity : Nat} {visits : List Visit} {t : Task} :
    t ∈ b.tasksFrom identity visits ↔
      ∃ i v, visits[i]? = some v ∧ t ∈ b.tasksAt (identity + i) v := by
  induction visits generalizing identity with
  | nil => simp [tasksFrom]
  | cons v rest ih =>
    rw [tasksFrom, List.mem_append, ih]
    constructor
    · rintro (h | ⟨i, w, hw, ht⟩)
      · exact ⟨0, v, rfl, h⟩
      · refine ⟨i + 1, w, hw, ?_⟩
        rwa [Nat.add_assoc, Nat.add_comm 1] at ht
    · rintro ⟨i, w, hw, ht⟩
      cases i with
      | zero =>
        cases hw
        exact .inl ht
      | succ i =>
        refine .inr ⟨i, w, hw, ?_⟩
        rwa [Nat.add_assoc, Nat.add_comm 1]

/-! ## One step after the other -/

/-- There is at most one next step. -/
theorem step_rightUnique : Relator.RightUnique b.Step := by
  intro x y z hy hz
  cases hy with
  | seen resolved known =>
    cases hz with
    | seen resolved' known' =>
      cases resolved.symm.trans resolved'
      cases known.symm.trans known'
      rfl
    | fresh resolved' unknown' =>
      cases resolved.symm.trans resolved'
      cases known.symm.trans unknown'
  | fresh resolved unknown =>
    cases hz with
    | seen resolved' known' =>
      cases resolved.symm.trans resolved'
      cases unknown.symm.trans known'
    | fresh resolved' =>
      cases resolved.symm.trans resolved'
      rfl

/-- No step follows once nothing is pending. -/
theorem not_step_of_pending_nil (h : x.pending = []) : ¬ b.Step x y := by
  intro hs
  cases hs <;> cases h

/-- No step follows where the build stops. -/
theorem Stops.not_step {calls : List Path} {failure : Failure BuildError}
    (h : b.Stops x calls failure) : ¬ b.Step x y := by
  intro hs
  cases h with
  | unresolved failed =>
    cases hs with
    | seen resolved => cases failed.symm.trans resolved
    | fresh resolved => cases failed.symm.trans resolved
  | full resolved unknown noRoom =>
    cases hs with
    | seen resolved' known =>
      cases resolved.symm.trans resolved'
      cases unknown.symm.trans known
    | fresh resolved' _ room => omega
  | refused resolved unknown room failed =>
    cases hs with
    | seen resolved' known =>
      cases resolved.symm.trans resolved'
      cases unknown.symm.trans known
    | fresh resolved' _ _ compiles =>
      cases resolved.symm.trans resolved'
      cases failed.symm.trans compiles

/-- A build stops in one way only. -/
theorem Stops.unique {calls calls' : List Path} {failure failure' : Failure BuildError}
    (h : b.Stops x calls failure) (h' : b.Stops x calls' failure') :
    calls = calls' ∧ failure = failure' := by
  cases h with
  | unresolved failed =>
    cases h' with
    | unresolved failed' =>
      cases failed.symm.trans failed'
      exact ⟨rfl, rfl⟩
    | full resolved => cases failed.symm.trans resolved
    | refused resolved => cases failed.symm.trans resolved
  | full resolved _ noRoom =>
    cases h' with
    | unresolved failed => cases failed.symm.trans resolved
    | full => exact ⟨rfl, rfl⟩
    | refused _ _ room => omega
  | refused resolved _ room failed =>
    cases h' with
    | unresolved failed' => cases failed'.symm.trans resolved
    | full _ _ noRoom => omega
    | refused resolved' _ _ failed' =>
      cases resolved.symm.trans resolved'
      cases failed.symm.trans failed'
      exact ⟨rfl, rfl⟩

/-- A build ends in one exploration only. -/
theorem Explores.eq_of_not_step (hx : b.Explores entry x) (hy : b.Explores entry y)
    (hnx : ∀ z, ¬ b.Step x z) (hny : ∀ z, ¬ b.Step y z) : x = y := by
  rcases Relation.ReflTransGen.total_of_right_unique step_rightUnique hx.steps hy.steps with h | h
  · rcases h.cases_head with rfl | ⟨z, hz, _⟩
    · rfl
    · exact absurd hz (hnx z)
  · rcases h.cases_head with rfl | ⟨z, hz, _⟩
    · rfl
    · exact absurd hz (hny z)

/-! ## What holds throughout -/

/-- What holds of every exploration that a build goes through. -/
structure IsConsistent (b : Builder) (entry : String) (x : Exploration) : Prop where
  /-- The first record is that of the entry module. -/
  first : ∃ rest, x.visits = ⟨b.start entry, []⟩ :: rest
  /-- There are no more records than allowed. -/
  bounded : x.visits.length ≤ b.settings.maxModules
  /-- Only modules that compile have records. -/
  compiles : ∀ v ∈ x.visits, ∃ compiled, b.frontend v.location = .ok compiled
  /-- The walk of a record leads to its location. -/
  follows : ∀ v ∈ x.visits, b.follow (b.start entry) v.walk = some v.location
  /-- The references of all records are those that have been followed and then those pending. -/
  ledger : x.links.map Link.task ++ x.pending = b.tasksFrom 0 x.visits
  /-- A reference that has been followed leads to the location of its target. -/
  linked : ∀ l ∈ x.links, ∃ v, x.visits[l.target]? = some v ∧
    b.target l.task.location l.task.reference = .ok v.location

/-- The record that a reference shares is at the location that the reference leads to. -/
theorem getElem?_of_known? {visits : List Visit} {location : Path} {identity : Nat}
    (h : b.known? visits location = some identity) :
    ∃ v, visits[identity]? = some v ∧ v.location = location := by
  unfold known? at h
  split at h
  · obtain ⟨hlt, heq, _⟩ := List.idxOf?_eq_some_iff.mp h
    rw [List.length_map] at hlt
    rw [List.getElem_map] at heq
    exact ⟨visits[identity], List.getElem?_eq_getElem hlt, heq⟩
  · cases h

/-- A record that is not shared is a new one. -/
theorem known?_perReference (h : b.settings.policy = .perReference) (visits : List Visit)
    (location : Path) : b.known? visits location = none := by
  rw [known?, h]
  rfl

/-- A reference that shares a record leads to a location with one. -/
theorem mem_of_known? {visits : List Visit} {location : Path} {identity : Nat}
    (h : b.known? visits location = some identity) : location ∈ visits.map Visit.location := by
  obtain ⟨v, hv, rfl⟩ := getElem?_of_known? h
  exact List.mem_map_of_mem (List.mem_of_getElem? hv)

/-- Every location with a record compiles. -/
theorem IsConsistent.compiles_location (h : b.IsConsistent entry x) {location : Path}
    (hl : location ∈ x.locations) : ∃ compiled, b.frontend location = .ok compiled := by
  obtain ⟨v, hv, rfl⟩ := List.mem_map.mp hl
  exact h.compiles v hv

/-- A task of a consistent exploration is a reference of one of its records. -/
theorem IsConsistent.exists_visit (h : b.IsConsistent entry x) {t : Task}
    (ht : t ∈ b.tasksFrom 0 x.visits) :
    ∃ v compiled position, x.visits[t.source]? = some v ∧ v ∈ x.visits ∧
      t.location = v.location ∧ t.walk = v.walk ++ [position] ∧
      b.frontend v.location = .ok compiled ∧
      compiled.references[position]? = some t.reference := by
  obtain ⟨i, v, hv, hmem⟩ := mem_tasksFrom.mp ht
  obtain ⟨position, reference, hr, rfl⟩ := mem_tasksAt.mp hmem
  have hin : v ∈ x.visits := List.mem_of_getElem? hv
  obtain ⟨compiled, hc⟩ := h.compiles v hin
  rw [compiledAt_eq hc] at hr
  exact ⟨v, compiled, position, by simpa using hv, hin, rfl, rfl, hc, hr⟩

/-- A walk along a task leads where its reference leads. -/
theorem IsConsistent.follow_task (h : b.IsConsistent entry x) {t : Task}
    (ht : t ∈ b.tasksFrom 0 x.visits) {location : Path}
    (hl : b.target t.location t.reference = .ok location) :
    b.follow (b.start entry) t.walk = some location := by
  obtain ⟨v, compiled, position, _, hin, hloc, hwalk, hc, hr⟩ := h.exists_visit ht
  rw [hwalk, follow_concat, h.follows v hin, Option.bind_some]
  exact (take?_eq_some hc).mpr ⟨t.reference, hr, hloc ▸ hl⟩

/-- A pending task is a reference of some record. -/
theorem IsConsistent.pending_mem (h : b.IsConsistent entry x) {t : Task} (ht : t ∈ x.pending) :
    t ∈ b.tasksFrom 0 x.visits := by
  rw [← h.ledger]
  exact List.mem_append_right _ ht

/-- A task that has been followed is a reference of some record. -/
theorem IsConsistent.link_mem (h : b.IsConsistent entry x) {l : Link} (hl : l ∈ x.links) :
    l.task ∈ b.tasksFrom 0 x.visits := by
  rw [← h.ledger]
  exact List.mem_append_left _ (List.mem_map_of_mem hl)

/-- A build begins consistently. -/
theorem isConsistent_outset (hroom : 0 < b.settings.maxModules)
    (hc : ∃ compiled, b.frontend (b.start entry) = .ok compiled) :
    b.IsConsistent entry (b.outset entry) where
  first := ⟨[], rfl⟩
  bounded := hroom
  compiles := by
    intro v hv
    rw [List.mem_singleton.mp hv]
    exact hc
  follows := by
    intro v hv
    rw [List.mem_singleton.mp hv]
    rfl
  ledger := by
    simp only [outset, tasksFrom, List.map_nil, List.nil_append, List.append_nil]
  linked := by
    intro l hl
    cases hl

/-- A step keeps an exploration consistent. -/
theorem IsConsistent.step (h : b.IsConsistent entry x) (hs : b.Step x y) :
    b.IsConsistent entry y := by
  cases hs with
  | @seen visits links t pending location identity resolved known =>
    refine ⟨h.first, h.bounded, h.compiles, h.follows, ?_, ?_⟩
    · simpa using h.ledger
    · intro l hl
      rcases List.mem_append.mp hl with hl | hl
      · exact h.linked l hl
      · rw [List.mem_singleton.mp hl]
        obtain ⟨v, hv, hloc⟩ := getElem?_of_known? known
        exact ⟨v, hv, by rw [hloc, resolved]⟩
  | @fresh visits links t pending location compiled resolved unknown room compiles =>
    have hfollow := h.follow_task (h.pending_mem List.mem_cons_self) resolved
    obtain ⟨rest, hrest⟩ := h.first
    refine ⟨⟨rest ++ [⟨location, t.walk⟩], ?_⟩, ?_, ?_, ?_, ?_, ?_⟩
    · dsimp only at hrest ⊢
      rw [hrest, List.cons_append]
    · dsimp only
      rw [List.length_append, List.length_singleton]
      omega
    · intro v hv
      rcases List.mem_append.mp hv with hv | hv
      · exact h.compiles v hv
      · rw [List.mem_singleton.mp hv]
        exact ⟨compiled, compiles⟩
    · intro v hv
      rcases List.mem_append.mp hv with hv | hv
      · exact h.follows v hv
      · rw [List.mem_singleton.mp hv]
        exact hfollow
    · have hledger := h.ledger
      dsimp only at hledger ⊢
      rw [tasksFrom_append, ← hledger, Nat.zero_add]
      simp [tasksFrom]
    · intro l hl
      rcases List.mem_append.mp hl with hl | hl
      · obtain ⟨v, hv, ht⟩ := h.linked l hl
        exact ⟨v, by rw [List.getElem?_append_left (List.getElem?_eq_some_iff.mp hv).1, hv], ht⟩
      · rw [List.mem_singleton.mp hl]
        exact ⟨⟨location, t.walk⟩, by simp, resolved⟩

/-- Every exploration that a build goes through is consistent. -/
theorem Explores.isConsistent (h : b.Explores entry x) : b.IsConsistent entry x := by
  induction h.steps with
  | refl => exact isConsistent_outset h.room h.compiles
  | tail hsteps hs ih => exact (ih ⟨h.room, h.compiles, hsteps⟩).step hs

/-- Only locations that can be reached have records. -/
theorem Explores.reaches (h : b.Explores entry x) {v : Visit} (hv : v ∈ x.visits) :
    b.Reaches entry v.location :=
  reflTransGen_of_follow (h.isConsistent.follows v hv)

/-- A pending reference is one of a compiled module that can be reached. -/
theorem Explores.exists_compiled_of_pending (h : b.Explores entry x) {t : Task}
    (ht : t ∈ x.pending) :
    ∃ location compiled, t.location = location ∧ b.Reaches entry location ∧
      b.frontend location = .ok compiled ∧ t.reference ∈ compiled.references := by
  obtain ⟨v, compiled, position, _, hv, hlocation, _, hcompiled, hreference⟩ :=
    h.isConsistent.exists_visit (h.isConsistent.pending_mem ht)
  exact ⟨v.location, compiled, hlocation, h.reaches hv, hcompiled,
    List.mem_of_getElem? hreference⟩

/-- Where all that can be reached is sound, a build only stops at the limit: a pending reference
leads to a location for which there is no room. -/
theorem Stops.full_of_sound {calls : List Path} {failure : Failure BuildError}
    (h : b.Stops x calls failure) (hx : b.Explores entry x)
    (hsound : ∀ location, b.Reaches entry location → b.IsSound location) :
    ∃ t location, t ∈ x.pending ∧ b.target t.location t.reference = .ok location ∧
      b.known? x.visits location = none ∧ b.settings.maxModules ≤ x.visits.length ∧
      calls = [] ∧ failure = .refused (.limit ⟨b.settings.maxModules, t.origin⟩) := by
  have hc := hx.isConsistent
  cases h with
  | @unresolved visits links t pending failure failed =>
    obtain ⟨v, compiled, position, _, hv, hloc, _, hcompiled, hr⟩ :=
      hc.exists_visit (hc.pending_mem List.mem_cons_self)
    obtain ⟨compiled', hcompiled', hall⟩ := hsound v.location (hx.reaches hv)
    rw [hcompiled] at hcompiled'
    obtain rfl := Except.ok.inj hcompiled'
    obtain ⟨other, hother⟩ := hall t.reference (List.mem_of_getElem? hr)
    rw [hloc, hother] at failed
    cases failed
  | @full visits links t pending location resolved unknown noRoom =>
    exact ⟨t, location, List.mem_cons_self, resolved, unknown, noRoom, rfl, rfl⟩
  | @refused visits links t pending location failure resolved unknown room failed =>
    have hfollow := hc.follow_task (hc.pending_mem List.mem_cons_self) resolved
    obtain ⟨compiled, hcompiled, _⟩ := hsound location (reflTransGen_of_follow hfollow)
    cases failed.symm.trans hcompiled

end Builder

end Bundler
