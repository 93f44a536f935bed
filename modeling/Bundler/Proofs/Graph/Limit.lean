import Bundler.Proofs.Graph.Unrolling

/-!
# The limit on the number of records

The limit is looked at only where a record is to be created. So builds of one entry module under two
limits go through the same explorations as long as both have room, and what the limit decides is
where they are cut short: a build that gets along with its limit gets along with every larger one,
and a graph of some size is returned under that size and above, but not below. Below, the build ends
with the reference that leads to the first record too many.

The limit is also why a build comes to an end at all. The loop is stated here without a bound on its
rounds, and shown to end with what the build returns.
-/

set_option autoImplicit false

namespace Bundler

/-- The record with the reference, and the reference, by which a record was found: the first one that
led there. -/
def BuildRun.discovery? (r : BuildRun) (identity : Nat) : Option (Nat × String) :=
  (r.links.find? fun (_, _, target, _) => target = identity).map
    fun (source, reference, _, _) => (source, reference)

/-- A build has ended at the limit. -/
def BuildRun.IsLimited (r : BuildRun) : Prop :=
  ∃ e, r.outcome = .error (.refused (.limit e))

/-- A graph is known by its records. -/
theorem ModuleGraph.eq_of_records_eq {g g' : ModuleGraph} (h : g.records = g'.records) : g = g' := by
  obtain ⟨entry, others, _⟩ := g
  obtain ⟨entry', others', _⟩ := g'
  obtain ⟨rfl, rfl⟩ := List.cons.inj h
  rfl

namespace Builder

variable {b : Builder} {entry : String} {x y : Exploration} {limit limit' : Nat}

/-! ## The loop without a bound -/

/-- How the loop of a build ends that goes on until no record waits, however many rounds that
takes. -/
inductive Loops (b : Builder) : (done queue : List ModuleRecord) → BuildState →
    EStateM.Result (Failure BuildError) BuildState (List ModuleRecord) → Prop where
  /-- No record waits. -/
  | finished {done : List ModuleRecord} {s : BuildState} :
      Loops b done [] s (.ok done.reverse s)
  /-- A reference of the first record that waits cannot be followed. -/
  | failed {done queue : List ModuleRecord} {record : ModuleRecord} {s s' : BuildState}
      {failure : Failure BuildError}
      (round : b.resolveReferences record [] record.references s = .error failure s') :
      Loops b done (record :: queue) s (.error failure s')
  /-- The first record that waits is processed, and the loop goes on. -/
  | round {done queue created : List ModuleRecord} {record : ModuleRecord} {s s' : BuildState}
      {referenceMap : List (String × Int)}
      {result : EStateM.Result (Failure BuildError) BuildState (List ModuleRecord)}
      (round : b.resolveReferences record [] record.references s = .ok (referenceMap, created) s')
      (rest : Loops b ({ record with referenceMap } :: done) (queue ++ created) s' result) :
      Loops b done (record :: queue) s result

/-- A build comes to an end: the loop that begins with the record of the entry module ends with what
the build goes on with. -/
def Terminates (b : Builder) (entry : String) : Prop :=
  ∀ first s, b.createRecord (b.start entry) {} {} = .ok first s →
    b.Loops [] [first] s (b.processQueue b.settings.maxModules [] [first] s)

/-- A loop with a number of rounds ends like the one without a bound, or it returns more records than
it has rounds for. -/
theorem loops_or_lt_length (rounds : Nat) (done queue : List ModuleRecord) (s : BuildState) :
    b.Loops done queue s (b.processQueue rounds done queue s) ∨
      ∃ records s', b.processQueue rounds done queue s = .ok records s' ∧
        done.length + rounds < records.length := by
  induction rounds generalizing done queue s with
  | zero =>
    cases queue with
    | nil => exact .inl .finished
    | cons record queue =>
      refine .inr ⟨done.reverse ++ record :: queue, s, rfl, ?_⟩
      rw [List.length_append, List.length_reverse, List.length_cons]
      omega
  | succ rounds ih =>
    cases queue with
    | nil => exact .inl .finished
    | cons record queue =>
      cases hround : b.resolveReferences record [] record.references s with
      | error failure s' =>
        rw [processQueue_stopped hround]
        exact .inl (.failed hround)
      | ok result s' =>
        obtain ⟨referenceMap, created⟩ := result
        rw [processQueue_done hround]
        rcases ih ({ record with referenceMap } :: done) (queue ++ created) s' with
          hloops | ⟨records, s'', hresult, hlt⟩
        · exact .inl (.round hround hloops)
        · refine .inr ⟨records, s'', hresult, ?_⟩
          rw [List.length_cons] at hlt
          omega

/-- Every build comes to an end. -/
theorem terminates (b : Builder) (entry : String) : b.Terminates entry := by
  intro first s hcreate
  rcases loops_or_lt_length b.settings.maxModules [] [first] s with hloops | ⟨records, s', hr, hlt⟩
  · exact hloops
  · -- The loop returns the records of an exploration, and those are no more than allowed.
    exfalso
    have hloop := isLoop_of_createRecord hcreate (Nat.le_refl _)
    rw [hr] at hloop
    cases hloop with
    | done explores finished described =>
      have hbounded := explores.isConsistent.bounded
      rw [length_recordsFrom, List.length_nil] at hlt
      omega

/-! ## One exploration under two limits -/

/-- No step takes a visit back. -/
theorem Step.length_visits_le (h : b.Step x y) : x.visits.length ≤ y.visits.length := by
  cases h with
  | seen => exact Nat.le_refl _
  | fresh =>
    rw [List.length_append]
    exact Nat.le_add_right _ _

/-- A step can be taken under every limit that has room for the records after it. -/
theorem Step.withLimit (h : (b.withLimit limit).Step x y) (hroom : y.visits.length ≤ limit') :
    (b.withLimit limit').Step x y := by
  cases h with
  | seen resolved known => exact .seen resolved known
  | fresh resolved unknown room compiles =>
    rw [List.length_append, List.length_singleton] at hroom
    exact .fresh resolved unknown hroom compiles

/-- An exploration can be reached under every limit that has room for its records. -/
theorem Explores.withLimit (h : (b.withLimit limit).Explores entry x)
    (hroom : x.visits.length ≤ limit') : (b.withLimit limit').Explores entry x := by
  obtain ⟨_, hcompiles, hsteps⟩ := h
  induction hsteps with
  | refl => exact ⟨hroom, hcompiles, .refl⟩
  | tail _ hs ih => exact (ih (hs.length_visits_le.trans hroom)).step (hs.withLimit hroom)

/-- Where a build stops, it stops under every limit that is no smaller, unless it was the limit that
stopped it. -/
theorem Stops.withLimit {calls : List Path} {failure : Failure BuildError}
    (h : (b.withLimit limit).Stops x calls failure)
    (hfailure : ∀ e, failure ≠ .refused (.limit e)) (hle : limit ≤ limit') :
    (b.withLimit limit').Stops x calls failure := by
  cases h with
  | unresolved failed => exact .unresolved failed
  | full => exact absurd rfl (hfailure _)
  | refused resolved unknown room failed =>
    exact .refused resolved unknown (Nat.lt_of_lt_of_le room hle) failed

/-- Records do not depend on the limit. -/
theorem recordsFrom_withLimit (maps : Nat → List (String × Int)) (identity : Nat)
    (visits : List Visit) :
    (b.withLimit limit).recordsFrom maps identity visits = b.recordsFrom maps identity visits := by
  induction visits generalizing identity with
  | nil => rfl
  | cons v rest ih =>
    rw [recordsFrom, recordsFrom, ih]
    rfl

/-- The frontend is not called more often than there may be records. -/
theorem length_calls_le (b : Builder) (entry : String) :
    (b.run entry).calls.length ≤ b.settings.maxModules := by
  cases isBuild_run b entry with
  | noRoom _ _ calls =>
    rw [calls]
    exact Nat.zero_le _
  | entryRefused room _ _ calls =>
    rw [calls]
    exact room
  | stopped explores stops _ calls =>
    have hbounded := explores.isConsistent.bounded
    rw [calls, List.length_append, Exploration.locations, List.length_map]
    cases stops with
    | refused _ _ room => exact room
    | _ => exact hbounded
  | complete explores _ _ _ calls =>
    rw [calls, Exploration.locations, List.length_map]
    exact explores.isConsistent.bounded

/-- A build whose steps lead to where nothing is pending returns the graph of the records there. -/
theorem Explores.run_finished (hx : b.Explores entry x) (hp : x.pending = []) {g : ModuleGraph}
    (hrecords : g.records = b.recordsFrom x.mapOf 0 x.visits) :
    (b.run entry).outcome = .ok g ∧ (b.run entry).calls = x.locations := by
  obtain ⟨g', houtcome, hrecords'⟩ := hx.run_complete hp
  obtain rfl := ModuleGraph.eq_of_records_eq (hrecords.trans hrecords'.symm)
  obtain ⟨y, hy, hpy, _, hcalls, _⟩ := exists_explores_of_ok houtcome
  obtain rfl := hx.eq_of_not_step hy (fun _ => not_step_of_pending_nil hp)
    (fun _ => not_step_of_pending_nil hpy)
  exact ⟨houtcome, hcalls⟩

/-- A build that does not end at its limit ends in the same way under every larger one. -/
theorem run_eq_of_le (hle : limit ≤ limit')
    (h : ¬ ((b.withLimit limit).run entry).IsLimited) :
    ((b.withLimit limit').run entry).outcome = ((b.withLimit limit).run entry).outcome ∧
      ((b.withLimit limit').run entry).calls = ((b.withLimit limit).run entry).calls := by
  cases isBuild_run (b.withLimit limit) entry with
  | noRoom _ outcome => exact absurd ⟨_, outcome⟩ h
  | entryRefused room failed outcome calls =>
    cases isBuild_run (b.withLimit limit') entry with
    | noRoom noRoom => exact absurd (Nat.lt_of_lt_of_le room hle) (Nat.not_lt.mpr noRoom.le)
    | entryRefused _ failed' outcome' calls' =>
      cases failed.symm.trans failed'
      exact ⟨outcome'.trans outcome.symm, calls'.trans calls.symm⟩
    | stopped explores =>
      obtain ⟨compiled, hc⟩ := explores.compiles
      cases failed.symm.trans hc
    | complete explores =>
      obtain ⟨compiled, hc⟩ := explores.compiles
      cases failed.symm.trans hc
  | @stopped x calls failure explores stops outcome hcalls =>
    have hx := explores.withLimit (explores.isConsistent.bounded.trans hle)
    have hstops := stops.withLimit (fun e he => h ⟨e, he ▸ outcome⟩) hle
    obtain ⟨houtcome', hcalls'⟩ := hx.run_stops hstops
    exact ⟨houtcome'.trans outcome.symm, hcalls'.trans hcalls.symm⟩
  | @complete x g explores finished outcome records calls =>
    have hx := explores.withLimit (explores.isConsistent.bounded.trans hle)
    rw [recordsFrom_withLimit] at records
    obtain ⟨houtcome', hcalls'⟩ := hx.run_finished finished
      (records.trans (recordsFrom_withLimit _ _ _).symm)
    exact ⟨houtcome'.trans outcome.symm, hcalls'.trans calls.symm⟩

/-! ## Where a limit cuts a build short -/

/-- A build that has found more records than a number has been at the reference that leads to the
record of that identity. -/
theorem Explores.exists_cut (h : b.Explores entry x) {n : Nat} (hpos : 0 < n)
    (hlt : n < x.visits.length) :
    ∃ (y : Exploration) (t : Task) (rest : List Task) (location : Path) (later : List Link),
      b.Explores entry y ∧ y.visits.length = n ∧ y.pending = t :: rest ∧
        b.target t.location t.reference = .ok location ∧ b.known? y.visits location = none ∧
        y.visits <+: x.visits ∧ x.links = y.links ++ ⟨t, n, false⟩ :: later := by
  obtain ⟨hroom, hcompiles, hsteps⟩ := h
  induction hsteps with
  | refl =>
    simp only [outset, List.length_singleton] at hlt
    omega
  | @tail middle x hsteps hs ih =>
    by_cases hmiddle : n < middle.visits.length
    · obtain ⟨y, t, rest, location, later, hy, hlength, hpending, resolved, unknown, hvisits,
        hlinks⟩ := ih hmiddle
      cases hs with
      | @seen visits links u pending other identity =>
        refine ⟨y, t, rest, location, later ++ [⟨u, identity, true⟩], hy, hlength, hpending,
          resolved, unknown, hvisits, ?_⟩
        dsimp only at hlinks ⊢
        rw [hlinks, List.append_assoc, List.cons_append]
      | @fresh visits links u pending other =>
        refine ⟨y, t, rest, location, later ++ [⟨u, visits.length, false⟩], hy, hlength, hpending,
          resolved, unknown, hvisits.trans (List.prefix_append _ _), ?_⟩
        dsimp only at hlinks ⊢
        rw [hlinks, List.append_assoc, List.cons_append]
    · -- The step is the one that creates the record.
      cases hs with
      | seen => exact absurd hlt hmiddle
      | @fresh visits links t pending location compiled resolved unknown =>
        rw [List.length_append, List.length_singleton] at hlt
        obtain rfl : visits.length = n :=
          Nat.le_antisymm (Nat.le_of_not_lt hmiddle) (Nat.le_of_lt_succ hlt)
        exact ⟨⟨visits, links, t :: pending⟩, t, pending, location, [],
          ⟨hroom, hcompiles, hsteps⟩, rfl, rfl, resolved, unknown, List.prefix_append _ _, rfl⟩

/-- The first link that leads to a record is the one that was followed when it was created. -/
theorem discovery?_eq {r : BuildRun} {links later : List Link} {l : Link}
    (hlinks : r.links = (links ++ l :: later).map Link.noted)
    (hearlier : ∀ m ∈ links, m.target < l.target) :
    r.discovery? l.target = some (l.task.source, l.task.reference) := by
  have hnone : (links.map Link.noted).find? (fun (_, _, target, _) => target = l.target) = none := by
    rw [List.find?_eq_none]
    intro noted hnoted
    obtain ⟨m, hm, rfl⟩ := List.mem_map.mp hnoted
    show ¬ decide (m.target = l.target) = true
    rw [decide_eq_true_eq]
    exact (hearlier m hm).ne
  rw [BuildRun.discovery?, hlinks, List.map_append, List.find?_append, hnone, Option.none_or,
    List.map_cons, List.find?_cons_of_pos (by simp only [Link.noted, decide_true])]
  rfl

/-- A graph that is returned under one limit is returned under every one that has room for it. -/
theorem run_ok_of_size_le {g : ModuleGraph} (h : ((b.withLimit limit).run entry).outcome = .ok g)
    (hroom : g.size ≤ limit') : ((b.withLimit limit').run entry).outcome = .ok g := by
  obtain ⟨x, hx, hp, hrecords, _⟩ := exists_explores_of_ok h
  rw [ModuleGraph.size, hrecords, length_recordsFrom] at hroom
  rw [recordsFrom_withLimit] at hrecords
  exact ((hx.withLimit hroom).run_finished hp
    (hrecords.trans (recordsFrom_withLimit _ _ _).symm)).1

/-- The build of a graph is cut short under a limit: it calls the frontend as often as allowed, and
it ends with the reference by which the whole build `r` found the first record too many. -/
structure IsCutShort (b : Builder) (entry : String) (r : BuildRun) (g : ModuleGraph) (limit : Nat) :
    Prop where
  calls : ((b.withLimit limit).run entry).calls.length = limit
  /-- The error tells the limit, the reference and the referring record. -/
  outcome : ∃ source reference referrer, r.discovery? limit = some (source, reference) ∧
    g.records[source]? = some referrer ∧
    ((b.withLimit limit).run entry).outcome =
      .error (.refused (.limit ⟨limit, ⟨some reference, some referrer.location⟩⟩))

/-- A graph is not returned under a limit that has no room for it. -/
theorem isCutShort_of_lt_size {g : ModuleGraph}
    (h : ((b.withLimit limit).run entry).outcome = .ok g) (hpos : 0 < limit')
    (hlt : limit' < g.size) :
    b.IsCutShort entry ((b.withLimit limit).run entry) g limit' := by
  obtain ⟨x, hx, hp, hrecords, _, hlinks⟩ := exists_explores_of_ok h
  rw [ModuleGraph.size, hrecords, length_recordsFrom] at hlt
  obtain ⟨y, t, rest, location, later, hy, hlength, hpending, resolved, unknown, hvisits, hcut⟩ :=
    hx.exists_cut hpos hlt
  have hstops : (b.withLimit limit').Stops y []
      (.refused (.limit ⟨limit', t.origin⟩)) := by
    obtain ⟨visits, links, pending⟩ := y
    dsimp only at hpending hlength
    subst hpending
    exact .full resolved unknown hlength.ge
  obtain ⟨houtcome, hcalls⟩ := (hy.withLimit hlength.le).run_stops hstops
  refine ⟨?_, ?_⟩
  · rw [hcalls, List.append_nil, Exploration.locations, List.length_map, hlength]
  · have hdiscovery : ((b.withLimit limit).run entry).discovery? limit' =
        some (t.source, t.reference) := by
      refine discovery?_eq (l := ⟨t, limit', false⟩) (hcut ▸ hlinks) fun m hm => ?_
      obtain ⟨v, hv, _⟩ := hy.isConsistent.linked m hm
      rw [← hlength]
      exact (List.getElem?_eq_some_iff.mp hv).1
    obtain ⟨v, _, _, hv, _, hlocation, _⟩ := hy.isConsistent.exists_visit
      (hy.isConsistent.pending_mem (hpending ▸ List.mem_cons_self))
    have hvx : x.visits[t.source]? = some v := by
      obtain ⟨new, hnew⟩ := hvisits
      rw [← hnew, List.getElem?_append_left (List.getElem?_eq_some_iff.mp hv).1, hv]
    refine ⟨t.source, t.reference, (b.withLimit limit).recordAt t.source v (x.mapOf t.source),
      hdiscovery, ?_, ?_⟩
    · rw [hrecords, getElem?_recordsFrom, hvx, Option.map_some, Nat.zero_add]
    · rw [houtcome, Task.origin, hlocation]
      rfl

/-! ## Limits -/

/-- A build under any limit comes to an end after no more calls of the frontend than allowed. If it
does not end at the limit, it ends in the same way under every larger one. A graph is returned under
every limit that is no smaller than its size, and its build is cut short under every other one. -/
theorem run_withLimit (b : Builder) (entry : String) (limit : Nat) :
    (b.withLimit limit).Terminates entry ∧
    ((b.withLimit limit).run entry).calls.length ≤ limit ∧
    (∀ limit' ≥ limit, ¬ ((b.withLimit limit).run entry).IsLimited →
      ((b.withLimit limit').run entry).outcome = ((b.withLimit limit).run entry).outcome ∧
        ((b.withLimit limit').run entry).calls = ((b.withLimit limit).run entry).calls) ∧
    ∀ g, ((b.withLimit limit).run entry).outcome = .ok g →
      (∀ limit' ≥ g.size, ((b.withLimit limit').run entry).outcome = .ok g) ∧
      ∀ limit', 1 ≤ limit' → limit' < g.size →
        b.IsCutShort entry ((b.withLimit limit).run entry) g limit' := by
  refine ⟨terminates _ entry, length_calls_le _ entry, ?_, ?_⟩
  · intro limit' hle hlimited
    exact run_eq_of_le hle hlimited
  · intro g hg
    refine ⟨?_, ?_⟩
    · intro limit' hroom
      exact run_ok_of_size_le hg hroom
    · intro limit' hpos hlt
      exact isCutShort_of_lt_size hg hpos hlt

/-- Three references of a module to another one make four records. A limit of four is enough for
them, and any larger one does the same. Under a limit of two the second reference is one too many. -/
theorem run_withLimit_twoSpellings :
    ∃ g, (((twoSpellings .perReference 7).withLimit 5).run "a").outcome = .ok g ∧ g.size = 4 ∧
      (((twoSpellings .perReference 7).withLimit 9).run "a").outcome = .ok g ∧
      (((twoSpellings .perReference 7).withLimit 4).run "a").outcome = .ok g ∧
      (((twoSpellings .perReference 7).withLimit 5).run "a").discovery? 2 = some (0, "/b") ∧
      (twoSpellings .perReference 7).IsCutShort "a"
        (((twoSpellings .perReference 7).withLimit 5).run "a") g 2 := by
  have hrun : (((twoSpellings .perReference 7).withLimit 5).run "a").outcome.toOption.map
      ModuleGraph.size = some 4 := by
    cbv
  obtain ⟨g, hg, hsize⟩ := exists_graph_of_map hrun
  obtain ⟨_, _, hsame, hgraph⟩ := run_withLimit (twoSpellings .perReference 7) "a" 5
  obtain ⟨hroom, hcut⟩ := hgraph g hg
  have hunlimited : ¬ (((twoSpellings .perReference 7).withLimit 5).run "a").IsLimited := by
    rintro ⟨e, he⟩
    cases hg.symm.trans he
  refine ⟨g, hg, hsize, ?_, ?_, ?_, ?_⟩
  · exact (hsame 9 (by decide) hunlimited).1.trans hg
  · exact hroom 4 hsize.le
  · cbv
  · exact hcut 2 (by decide) (by rw [hsize]; decide)

end Builder

end Bundler
