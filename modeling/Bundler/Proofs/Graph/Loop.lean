import Bundler.Proofs.Graph.Limit
import Bundler.Proofs.Graph.Sharing

/-!
# The turns of the loop

The loop of a build takes the first record that waits, follows its references, and looks again
whether a record waits. Each time it looks, the records created so far stand in the order of their
identities: first those that have been processed, whose maps are complete and lead to records that are
there, then those that wait, whose maps are empty. The index holds the locations of all of them, with
the least identity for each.

In the middle of a round this is not so, since its new records have been noted and indexed before they
join the queue. What holds there is told by explorations; at a turn of the loop the exploration is
between two rounds, and what holds at the turn is read off from it.

A turn is kept by every later one: records are only added, and only a record that waits is changed,
once, when it gets its map. The last turn decides how the build ends.
-/

set_option autoImplicit false

namespace Bundler

/-- Where the loop of a build is when it looks whether a record waits. -/
structure Turn where
  /-- The records that have been processed, the newest first. -/
  done : List ModuleRecord
  /-- The records that wait. -/
  queue : List ModuleRecord
  /-- The state of the build. -/
  state : BuildState

/-- The records that have been created, the processed ones first. -/
def Turn.records (t : Turn) : List ModuleRecord :=
  t.done.reverse ++ t.queue

/-- A record as it is before its references have been followed. -/
def ModuleRecord.unlinked (r : ModuleRecord) : ModuleRecord :=
  { r with referenceMap := [] }

/-- What the loop of a build with certain settings can rely on at a turn. -/
structure Turn.IsOrderly (settings : Settings) (t : Turn) : Prop where
  /-- There is a record for every identity that has been handed out. -/
  allocated : t.state.allocator.allocated = t.records.length
  /-- There are no more records than allowed. -/
  bounded : t.records.length ≤ settings.maxModules
  /-- The records are those whose creation has been noted, in the same order. -/
  created : t.records.map (fun r => (r.identity, r.location)) =
    t.state.events.reverse.filterMap BuildEvent.created?
  /-- The processed records have the first identities, in order. -/
  processed : t.done.reverse.map ModuleRecord.identity = List.range t.done.length
  /-- The records that wait have all further identities, in order. -/
  waiting : t.queue.map ModuleRecord.identity =
    List.range' t.done.length (t.records.length - t.done.length)
  /-- The map of a processed record has all its references as keys. -/
  linked : ∀ r ∈ t.done, r.referenceMap.map Prod.fst = r.references.eraseDups
  /-- The map of a processed record leads to records that are there. -/
  below : ∀ r ∈ t.done, ∀ target ∈ r.referenceMap.map Prod.snd,
    0 ≤ target ∧ target < t.records.length
  /-- The map of a record that waits is empty. -/
  unlinked : ∀ r ∈ t.queue, r.referenceMap = []
  /-- The index holds the locations of the records and no others. -/
  indexed : ∀ name, t.state.index.contains name = true ↔
    name ∈ t.records.map ModuleRecord.location
  /-- It holds the least identity of each location. -/
  least : ∀ name identity, t.state.index.get? name = some identity →
    IsLeast {i | (t.records.map ModuleRecord.location)[i]? = some name} identity
  /-- If records are shared, each identity is that of one location. -/
  shared : settings.policy = .perLocation →
    ∀ identity < t.records.length, ∃! name, t.state.index.get? name = some identity

/-- What a later turn of a loop leaves as it was at a turn. -/
structure Turn.IsKeptBy (t later : Turn) : Prop where
  /-- The processed records, with their maps. -/
  processed : t.done.reverse <+: later.done.reverse
  /-- All records, but for the maps that have been empty. -/
  created : t.records.map ModuleRecord.unlinked <+: later.records.map ModuleRecord.unlinked

namespace Builder

variable {b : Builder} {entry : String} {t t' later : Turn}

/-- A round leads from one turn of the loop to the next one. -/
inductive Advances (b : Builder) : Turn → Turn → Prop where
  /-- The first record that waits is processed. -/
  | round {done queue created : List ModuleRecord} {record : ModuleRecord} {s s' : BuildState}
      {referenceMap : List (String × Int)}
      (round : b.resolveReferences record [] record.references s = .ok (referenceMap, created) s') :
      Advances b ⟨done, record :: queue, s⟩
        ⟨{ record with referenceMap } :: done, queue ++ created, s'⟩

/-- The loop of the build of an entry module comes to a turn. -/
def ComesTo (b : Builder) (entry : String) (t : Turn) : Prop :=
  ∃ first s, b.createRecord (b.start entry) {} {} = .ok first s ∧
    Relation.ReflTransGen b.Advances ⟨[], [first], s⟩ t

/-- A build ends at a turn of its loop. -/
inductive EndsAt (b : Builder) : Except (Failure BuildError) ModuleGraph → Turn → Prop where
  /-- No record waits, and the records that have been processed form the graph. -/
  | finished {g : ModuleGraph} {done : List ModuleRecord} {s : BuildState}
      (records : g.records = done.reverse) : EndsAt b (.ok g) ⟨done, [], s⟩
  /-- A reference of the first record that waits cannot be followed. -/
  | failed {done queue : List ModuleRecord} {record : ModuleRecord} {s s' : BuildState}
      {failure : Failure BuildError}
      (round : b.resolveReferences record [] record.references s = .error failure s') :
      EndsAt b (.error failure) ⟨done, record :: queue, s⟩

/-! ## One turn after the other -/

/-- There is at most one next turn. -/
theorem advances_rightUnique : Relator.RightUnique b.Advances := by
  intro t u v hu hv
  cases hu with
  | round hround =>
    cases hv with
    | round hround' =>
      cases hround.symm.trans hround'
      rfl

/-- No turn follows where the build ends. -/
theorem EndsAt.not_advances {outcome : Except (Failure BuildError) ModuleGraph}
    (h : b.EndsAt outcome t) : ¬ b.Advances t t' := by
  intro ht
  cases h with
  | finished => cases ht
  | failed hfailed =>
    cases ht with
    | round hround => cases hfailed.symm.trans hround

/-- A loop that returns records comes to a turn at which they have all been processed. -/
theorem Loops.advances_of_ok {done queue records : List ModuleRecord} {s s' : BuildState}
    (h : b.Loops done queue s (.ok records s')) :
    Relation.ReflTransGen b.Advances ⟨done, queue, s⟩ ⟨records.reverse, [], s'⟩ := by
  generalize hresult : EStateM.Result.ok records s' = result at h
  induction h with
  | finished =>
    cases hresult
    rw [List.reverse_reverse]
  | failed => cases hresult
  | round hround _ ih => exact .head (.round hround) (ih hresult)

/-- A loop that fails comes to a turn at which a reference of the first record that waits cannot be
followed. -/
theorem Loops.advances_of_error {done queue : List ModuleRecord} {s s' : BuildState}
    {failure : Failure BuildError} (h : b.Loops done queue s (.error failure s')) :
    ∃ last, Relation.ReflTransGen b.Advances ⟨done, queue, s⟩ last ∧
      b.EndsAt (.error failure) last := by
  generalize hresult : EStateM.Result.error failure s' = result at h
  induction h with
  | finished => cases hresult
  | failed hround =>
    cases hresult
    exact ⟨_, .refl, .failed hround⟩
  | round hround _ ih =>
    obtain ⟨last, hsteps, hends⟩ := ih hresult
    exact ⟨last, .head (.round hround) hsteps, hends⟩

/-- From the first turn the loop comes to one at which the build ends. -/
theorem exists_last_of_createRecord {first : ModuleRecord} {s : BuildState}
    (h : b.createRecord (b.start entry) {} {} = .ok first s) :
    ∃ last, Relation.ReflTransGen b.Advances ⟨[], [first], s⟩ last ∧
      b.EndsAt (b.run entry).outcome last := by
  have hloops := terminates b entry first s h
  have hloop := isLoop_of_createRecord h (Nat.le_refl _)
  have hbuild := build_eq b entry
  rw [h] at hbuild
  dsimp only at hbuild
  generalize b.processQueue b.settings.maxModules [] [first] s = result at hloops hloop hbuild
  cases hloop with
  | @done y s' explores finished described =>
    obtain ⟨g, hg, hrecords⟩ := exists_ofRecords explores.isConsistent
    simp only [hg] at hbuild
    refine ⟨_, hloops.advances_of_ok, ?_⟩
    rw [run_eq_ok hbuild]
    apply EndsAt.finished
    rw [hrecords, List.reverse_reverse]
  | stopped =>
    rw [run_eq_error hbuild]
    exact hloops.advances_of_error

/-- From every turn the loop comes to one at which the build ends. -/
theorem ComesTo.exists_last (h : b.ComesTo entry t) :
    ∃ last, Relation.ReflTransGen b.Advances t last ∧ b.EndsAt (b.run entry).outcome last := by
  obtain ⟨first, s, hcreate, hsteps⟩ := h
  obtain ⟨last, hlast, hends⟩ := exists_last_of_createRecord hcreate
  refine ⟨last, ?_, hends⟩
  rcases Relation.ReflTransGen.total_of_right_unique advances_rightUnique hsteps hlast with h | h
  · exact h
  · rcases h.cases_head with rfl | ⟨next, hnext, _⟩
    · exact .refl
    · exact absurd hnext hends.not_advances

/-! ## What later turns keep -/

/-- The next turn keeps a turn. -/
theorem Advances.isKeptBy (h : b.Advances t t') : t.IsKeptBy t' := by
  cases h with
  | @round done queue created record s s' referenceMap hround =>
    refine ⟨?_, ?_⟩
    · show done.reverse <+: ({ record with referenceMap } :: done).reverse
      rw [List.reverse_cons]
      exact List.prefix_append _ _
    · refine ⟨created.map ModuleRecord.unlinked, ?_⟩
      simp [Turn.records, ModuleRecord.unlinked]

/-- All later turns keep a turn. -/
theorem isKeptBy_of_advances (h : Relation.ReflTransGen b.Advances t later) :
    t.IsKeptBy later := by
  induction h with
  | refl => exact ⟨List.prefix_rfl, List.prefix_rfl⟩
  | tail _ hstep ih =>
    have hnext := hstep.isKeptBy
    exact ⟨ih.processed.trans hnext.processed, ih.created.trans hnext.created⟩

/-! ## What holds at a turn -/

/-- A turn of the loop shows an exploration between two rounds: the records of its `old` visits have
been processed, and those of the `rest` wait. -/
structure Shows (b : Builder) (entry : String) (t : Turn) (old rest : List Visit)
    (x : Exploration) : Prop where
  between : b.IsBetween entry old rest x t.state
  done : t.done = (b.recordsFrom x.mapOf 0 old).reverse
  queue : t.queue = b.recordsFrom (fun _ => []) old.length rest

/-- If a turn shows an exploration, so does the next one. -/
theorem Shows.next {old rest : List Visit} {x : Exploration} (h : b.Shows entry t old rest x)
    (hstep : b.Advances t t') : ∃ old' rest' y, b.Shows entry t' old' rest' y := by
  cases hstep with
  | @round done queue created record s s' referenceMap hround =>
    obtain ⟨hbetween, hdone, hqueue⟩ := h
    dsimp only at hbetween hdone hqueue
    cases rest with
    | nil => cases hqueue
    | cons v rest =>
      obtain ⟨rfl, rfl⟩ := List.cons.inj hqueue
      obtain ⟨y, new, hnext, hdone', hqueue'⟩ := hbetween.exists_next hround
      refine ⟨old ++ [v], rest ++ new, y, hnext, ?_, hqueue'.symm⟩
      show _ :: done = _
      rw [hdone', hdone, List.reverse_append]
      rfl

/-- Every turn that the loop comes to shows an exploration. -/
theorem ComesTo.exists_shows (h : b.ComesTo entry t) : ∃ old rest x, b.Shows entry t old rest x := by
  obtain ⟨first, s, hcreate, hsteps⟩ := h
  induction hsteps with
  | refl =>
    obtain ⟨hbetween, hfirst⟩ := isBetween_outset hcreate
    exact ⟨[], _, _, hbetween, rfl, hfirst.symm⟩
  | tail _ hstep ih =>
    obtain ⟨old, rest, x, hshows⟩ := ih
    exact hshows.next hstep

namespace Shows

variable {old rest : List Visit} {x : Exploration}

/-- The records at a turn are those of the visits. -/
theorem records_eq (h : b.Shows entry t old rest x) :
    t.records = b.recordsFrom x.mapOf 0 x.visits := by
  have hempty : b.recordsFrom (fun _ => []) old.length rest =
      b.recordsFrom x.mapOf old.length rest :=
    recordsFrom_congr fun _ hi _ => (h.between.mapOf_eq_nil hi).symm
  rw [Turn.records, h.done, h.queue, List.reverse_reverse, hempty, h.between.visits,
    recordsFrom_append, Nat.zero_add]

/-- There is a record for every visit. -/
theorem length_records (h : b.Shows entry t old rest x) : t.records.length = x.visits.length := by
  rw [h.records_eq, length_recordsFrom]

/-- What has been processed is done. -/
theorem length_done (h : b.Shows entry t old rest x) : t.done.length = old.length := by
  rw [h.done, List.length_reverse, length_recordsFrom]

/-- The records stand at the locations of the visits. -/
theorem map_location_records (h : b.Shows entry t old rest x) :
    t.records.map ModuleRecord.location = x.locations.map Path.toString := by
  rw [h.records_eq]
  exact map_location_recordsFrom x.mapOf 0 x.visits

/-- A processed record is that of a visit whose references have all been followed. -/
theorem exists_visit_of_mem_done (h : b.Shows entry t old rest x) {r : ModuleRecord}
    (hr : r ∈ t.done) :
    ∃ i v, x.visits[i]? = some v ∧ r = b.recordAt i v (x.mapOf i) ∧ x.IsSettled i := by
  rw [h.done, List.mem_reverse] at hr
  obtain ⟨i, v, hv, rfl⟩ := exists_visit_of_mem_recordsFrom hr
  have hi := (List.getElem?_eq_some_iff.mp hv).1
  refine ⟨i, v, ?_, rfl, ?_⟩
  · rw [h.between.visits, List.getElem?_append_left hi, hv]
  · -- The references that are pending are those of later records.
    intro task htask hsource
    rw [h.between.pending] at htask
    obtain ⟨j, w, _, hmem⟩ := mem_tasksFrom.mp htask
    obtain ⟨_, _, _, rfl⟩ := mem_tasksAt.mp hmem
    dsimp only at hsource
    omega

/-- The index tells the first position of a location among those of the records. -/
theorem index_get? (h : b.Shows entry t old rest x) (name : String) :
    t.state.index.get? name = (t.records.map ModuleRecord.location).idxOf? name := by
  rw [h.map_location_records, h.between.described.index]

/-- What is found under a location is its least identity. -/
theorem isLeast_of_get? (h : b.Shows entry t old rest x) {name : String} {identity : Nat}
    (hi : t.state.index.get? name = some identity) :
    IsLeast {i | (t.records.map ModuleRecord.location)[i]? = some name} identity := by
  rw [h.index_get?] at hi
  obtain ⟨hlt, hname, hbefore⟩ := List.idxOf?_eq_some_iff.mp hi
  refine ⟨?_, ?_⟩
  · show (t.records.map ModuleRecord.location)[identity]? = some name
    rw [List.getElem?_eq_getElem hlt, hname]
  · intro i hmem
    by_contra hnot
    obtain ⟨_, heq⟩ := List.getElem?_eq_some_iff.mp hmem
    exact hbefore i (Nat.lt_of_not_le hnot) heq

/-- With one record for each location, an identity is found under its own location only. -/
theorem existsUnique_get? (h : b.Shows entry t old rest x)
    (hpolicy : b.settings.policy = .perLocation) {identity : Nat}
    (hi : identity < t.records.length) : ∃! name, t.state.index.get? name = some identity := by
  have hnodup : (t.records.map ModuleRecord.location).Nodup := by
    rw [h.map_location_records]
    exact h.between.explores.nodup_names hpolicy
  have hlt : identity < (t.records.map ModuleRecord.location).length := by
    rw [List.length_map]
    exact hi
  refine ⟨(t.records.map ModuleRecord.location)[identity], ?_, ?_⟩
  · show t.state.index.get? _ = some identity
    rw [h.index_get?, List.idxOf?_eq_some_iff]
    refine ⟨hlt, rfl, ?_⟩
    intro i hbefore heq
    have heq' := (List.Nodup.getElem_inj_iff hnodup).mp heq
    omega
  · intro name hname
    have hmem : (t.records.map ModuleRecord.location)[identity]? = some name :=
      (h.isLeast_of_get? hname).1
    rw [List.getElem?_eq_getElem hlt] at hmem
    exact (Option.some.inj hmem).symm

/-- What the loop can rely on follows from the exploration that a turn shows. -/
theorem isOrderly (h : b.Shows entry t old rest x) : t.IsOrderly b.settings where
  allocated := by rw [h.between.described.allocated, h.length_records]
  bounded := by
    rw [h.length_records]
    exact h.between.explores.isConsistent.bounded
  created := by
    rw [h.between.described.created, h.records_eq]
    exact map_noted_recordsFrom x.mapOf x
  processed := by
    rw [h.length_done, h.done, List.reverse_reverse, map_identity_recordsFrom,
      List.range_eq_range']
  waiting := by
    have hlength : t.records.length - t.done.length = rest.length := by
      rw [h.length_records, h.length_done, h.between.visits, List.length_append]
      omega
    rw [hlength, h.length_done, h.queue, map_identity_recordsFrom]
  linked := by
    intro r hr
    obtain ⟨i, v, hv, rfl, hsettled⟩ := h.exists_visit_of_mem_done hr
    exact h.between.explores.isConsistent.keys_mapOf hsettled hv
  below := by
    intro r hr target htarget
    obtain ⟨i, v, hv, rfl, _⟩ := h.exists_visit_of_mem_done hr
    rw [h.length_records]
    exact h.between.explores.isConsistent.target_lt hv htarget
  unlinked := by
    intro r hr
    rw [h.queue] at hr
    exact referenceMap_of_mem_recordsFrom hr
  indexed := by
    intro name
    rw [LocationIndex.contains, h.index_get?, List.isSome_idxOf?]
  least := fun _ _ hi => h.isLeast_of_get? hi
  shared := fun hpolicy _ hi => h.existsUnique_get? hpolicy hi

end Shows

/-! ## The loop -/

/-- The loop goes on from every turn that it comes to: it takes one round less for each record that
has been processed. -/
theorem ComesTo.processQueue_eq (h : b.ComesTo entry t) :
    ∃ first s, b.createRecord (b.start entry) {} {} = .ok first s ∧
      b.processQueue b.settings.maxModules [] [first] s =
        b.processQueue (b.settings.maxModules - t.done.length) t.done t.queue t.state := by
  obtain ⟨first, s, hcreate, hsteps⟩ := h
  refine ⟨first, s, hcreate, ?_⟩
  induction hsteps with
  | refl => rfl
  | @tail t t' hsteps hstep ih =>
    have hcomes : b.ComesTo entry t := ⟨first, s, hcreate, hsteps⟩
    obtain ⟨old, rest, x, hshows⟩ := hcomes.exists_shows
    rw [ih]
    cases hstep with
    | @round done queue created record s s' referenceMap hround =>
      -- A record waits, so there is a round left for it.
      have hbounded : done.length + (queue.length + 1) ≤ b.settings.maxModules := by
        simpa [Turn.records] using hshows.isOrderly.bounded
      have hrounds : b.settings.maxModules - done.length =
          b.settings.maxModules - (done.length + 1) + 1 := by
        omega
      show b.processQueue (b.settings.maxModules - done.length) done (record :: queue) s = _
      rw [hrounds]
      exact processQueue_done hround

/-- What has been processed at a turn is final: it is the beginning of the graph that is built. -/
theorem ComesTo.processed_final (h : b.ComesTo entry t) {g : ModuleGraph}
    (hg : (b.run entry).outcome = .ok g) : t.done.reverse <+: g.records := by
  obtain ⟨last, hsteps, hends⟩ := h.exists_last
  have hkept := isKeptBy_of_advances hsteps
  rw [hg] at hends
  cases hends with
  | finished hrecords =>
    rw [hrecords]
    exact hkept.processed

/-- Each time the loop of a build looks whether a record waits, its records and its index are in order.
The loop goes on from there. It only adds records, and maps to those that wait, until it comes to the
turn at which the build ends. What has been processed stands in the graph as it is. -/
theorem loop_orderly (b : Builder) (entry : String) (t : Turn) (h : b.ComesTo entry t) :
    t.IsOrderly b.settings ∧
    (∃ first s, b.createRecord (b.start entry) {} {} = .ok first s ∧
      b.processQueue b.settings.maxModules [] [first] s =
        b.processQueue (b.settings.maxModules - t.done.length) t.done t.queue t.state) ∧
    (∀ later, Relation.ReflTransGen b.Advances t later → t.IsKeptBy later) ∧
    (∃ last, Relation.ReflTransGen b.Advances t last ∧ b.EndsAt (b.run entry).outcome last) ∧
    ∀ g, (b.run entry).outcome = .ok g → t.done.reverse <+: g.records := by
  refine ⟨?_, h.processQueue_eq, ?_, h.exists_last, ?_⟩
  · obtain ⟨old, rest, x, hshows⟩ := h.exists_shows
    exact hshows.isOrderly
  · intro later hsteps
    exact isKeptBy_of_advances hsteps
  · intro g hg
    exact h.processed_final hg

/-- With a record for each reference, three records of one location wait at the second turn. The index
holds the first of them. -/
theorem loop_orderly_twoSpellings :
    ∃ t, (twoSpellings .perReference 4).ComesTo "a" t ∧
      t.done.map ModuleRecord.referenceMap = [[("b", 3), ("/b", 2)]] ∧
      t.queue.map ModuleRecord.location = ["/b", "/b", "/b"] ∧
      t.state.index.get? "/b" = some 1 ∧
      t.IsOrderly (twoSpellings .perReference 4).settings ∧
      ∀ g, ((twoSpellings .perReference 4).run "a").outcome = .ok g →
        t.done.reverse <+: g.records := by
  have hfirst : (twoSpellings .perReference 4).createRecord
      ((twoSpellings .perReference 4).start "a") {} {} =
        .ok ⟨0, "/a", ["b", "/b", "b"], "x = 1", []⟩
          { allocator := ⟨1⟩
            index := ⟨[("/a", 0)]⟩
            events := [.created 0 "/a", .compiling ⟨.root, ["a"]⟩] } := by
    cbv
  have hround : (twoSpellings .perReference 4).resolveReferences
      ⟨0, "/a", ["b", "/b", "b"], "x = 1", []⟩ [] ["b", "/b", "b"]
        { allocator := ⟨1⟩
          index := ⟨[("/a", 0)]⟩
          events := [.created 0 "/a", .compiling ⟨.root, ["a"]⟩] } =
        .ok ([("b", 3), ("/b", 2)],
            [⟨1, "/b", [], "y = 2", []⟩, ⟨2, "/b", [], "y = 2", []⟩, ⟨3, "/b", [], "y = 2", []⟩])
          { allocator := ⟨4⟩
            index := ⟨[("/b", 1), ("/a", 0)]⟩
            events :=
              [.linked 0 "b" 3 false, .created 3 "/b", .compiling ⟨.root, ["b"]⟩,
                .linked 0 "/b" 2 false, .created 2 "/b", .compiling ⟨.root, ["b"]⟩,
                .linked 0 "b" 1 false, .created 1 "/b", .compiling ⟨.root, ["b"]⟩,
                .created 0 "/a", .compiling ⟨.root, ["a"]⟩] } := by
    cbv
  have hturn : (twoSpellings .perReference 4).ComesTo "a" _ := ⟨_, _, hfirst, .single (.round hround)⟩
  obtain ⟨horderly, _, _, _, hfinal⟩ := loop_orderly (twoSpellings .perReference 4) "a" _ hturn
  exact ⟨_, hturn, rfl, rfl, rfl, horderly, hfinal⟩

end Builder

end Bundler
