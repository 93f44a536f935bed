import Bundler.Proofs.Graph.Run

/-!
# The records of a built graph

A graph that a build returns holds the record of each visit at the position that is its identity. A
record carries what the frontend returned for its location, and its map leads each of its references
to the record of the location that the reference resolves to. This holds under both policies: whether
a record is shared or new only decides which identity stands in a map.
-/

set_option autoImplicit false

namespace Bundler

/-! ## Identities -/

/-- Records of which none is misplaced have consecutive identities. -/
theorem map_identity_of_misplaced? {position : Nat} {records : List ModuleRecord}
    (h : misplaced? position records = none) :
    records.map ModuleRecord.identity = List.range' position records.length := by
  induction records generalizing position with
  | nil => rfl
  | cons r records ih =>
    rw [misplaced?] at h
    split at h
    · rename_i hr
      rw [List.map_cons, ih h, hr, List.length_cons, List.range'_succ]
    · cases h

/-- The records of a graph stand in the order of their identities. -/
theorem ModuleGraph.map_identity_records (g : ModuleGraph) :
    g.records.map ModuleRecord.identity = List.range g.size :=
  (map_identity_of_misplaced? g.placed).trans List.range_eq_range'.symm

/-! ## Targets of links -/

/-- One more link sets the target of its reference. -/
theorem targetsOf_concat (links : List Link) (l : Link) :
    targetsOf (links ++ [l]) = setEntry (targetsOf links) l.task.reference l.target := by
  simp only [targetsOf, List.foldl_append, List.foldl_cons, List.foldl_nil]

/-- The keys are the references, each at its first occurrence. -/
theorem keys_targetsOf (links : List Link) :
    (targetsOf links).map Prod.fst = (links.map (·.task.reference)).eraseDups := by
  induction links using List.reverseRecOn with
  | nil => rfl
  | append_singleton links l ih =>
    rw [targetsOf_concat, keys_setEntry, ih, List.map_append, List.map_cons, List.map_nil,
      eraseDups_concat]
    simp only [List.mem_eraseDups]

/-- Every target comes from a link with its reference. -/
theorem exists_link_of_mem_targetsOf {links : List Link} {reference : String} {identity : Int}
    (h : (reference, identity) ∈ targetsOf links) :
    ∃ l ∈ links, l.task.reference = reference ∧ (l.target : Int) = identity := by
  induction links using List.reverseRecOn with
  | nil => cases h
  | append_singleton links l ih =>
    rw [targetsOf_concat] at h
    rcases mem_setEntry h with h | h
    · obtain ⟨rfl, rfl⟩ := Prod.mk.inj h
      exact ⟨l, List.mem_append_right _ List.mem_cons_self, rfl, rfl⟩
    · obtain ⟨m, hm, hr, ht⟩ := ih h
      exact ⟨m, List.mem_append_left _ hm, hr, ht⟩

/-- No reference of a record is pending. -/
def Exploration.IsSettled (x : Exploration) (identity : Nat) : Prop :=
  ∀ t ∈ x.pending, t.source ≠ identity

/-- Without pending references, those of every record are settled. -/
theorem Exploration.isSettled_of_pending_nil {x : Exploration} (h : x.pending = [])
    {identity : Nat} : x.IsSettled identity := by
  intro t ht
  rw [h] at ht
  cases ht

namespace Builder

variable {b : Builder} {entry : String} {x : Exploration}

/-! ## Records by identity -/

/-- The record of a visit stands at its identity. -/
theorem getElem?_recordsFrom (maps : Nat → List (String × Int)) (identity : Nat)
    (visits : List Visit) (i : Nat) :
    (b.recordsFrom maps identity visits)[i]? =
      visits[i]?.map fun v => b.recordAt (identity + i) v (maps (identity + i)) := by
  induction visits generalizing identity i with
  | nil => rfl
  | cons v rest ih =>
    rw [recordsFrom]
    cases i with
    | zero => rfl
    | succ i =>
      rw [List.getElem?_cons_succ, List.getElem?_cons_succ, ih, Nat.add_assoc, Nat.add_comm 1]

/-- What records say of their locations can be told from the visits. -/
theorem map_recordsFrom {β : Type} {f : ModuleRecord → β} {f' : Visit → β}
    (h : ∀ i v targets, f (b.recordAt i v targets) = f' v) (maps : Nat → List (String × Int))
    (identity : Nat) (visits : List Visit) :
    (b.recordsFrom maps identity visits).map f = visits.map f' := by
  induction visits generalizing identity with
  | nil => rfl
  | cons v rest ih => rw [recordsFrom, List.map_cons, List.map_cons, ih, h]

/-- The locations of records are those of the visits. -/
theorem map_location_recordsFrom (maps : Nat → List (String × Int)) (identity : Nat)
    (visits : List Visit) :
    (b.recordsFrom maps identity visits).map ModuleRecord.location =
      (visits.map Visit.location).map Path.toString := by
  rw [List.map_map]
  exact map_recordsFrom (fun _ _ _ => rfl) maps identity visits

/-- There is one record for each visit. -/
theorem length_recordsFrom (maps : Nat → List (String × Int)) (identity : Nat)
    (visits : List Visit) : (b.recordsFrom maps identity visits).length = visits.length := by
  have hmap := congrArg List.length (map_location_recordsFrom (b := b) maps identity visits)
  simpa only [List.length_map] using hmap

/-- Records have successive identities. -/
theorem map_identity_recordsFrom (maps : Nat → List (String × Int)) (identity : Nat)
    (visits : List Visit) :
    (b.recordsFrom maps identity visits).map ModuleRecord.identity =
      List.range' identity visits.length := by
  have hplaced := map_identity_of_misplaced? (misplaced?_recordsFrom (b := b) maps identity visits)
  rwa [length_recordsFrom] at hplaced

/-- The records are those whose creation has been noted. -/
theorem map_noted_recordsFrom (maps : Nat → List (String × Int)) (x : Exploration) :
    (b.recordsFrom maps 0 x.visits).map (fun r => (r.identity, r.location)) = x.noted := by
  apply List.ext_getElem?
  intro i
  rw [List.getElem?_map, getElem?_recordsFrom, Option.map_map, Nat.zero_add, Exploration.noted,
    List.getElem?_mapIdx]
  rfl

/-- Records whose references have not been followed have empty maps. -/
theorem referenceMap_of_mem_recordsFrom {identity : Nat} {visits : List Visit} {r : ModuleRecord}
    (h : r ∈ b.recordsFrom (fun _ => []) identity visits) : r.referenceMap = [] := by
  obtain ⟨i, hi⟩ := List.getElem?_of_mem h
  rw [getElem?_recordsFrom, Option.map_eq_some_iff] at hi
  obtain ⟨v, _, rfl⟩ := hi
  rfl

/-- Every record is that of a visit. -/
theorem exists_visit_of_mem_recordsFrom {maps : Nat → List (String × Int)} {visits : List Visit}
    {r : ModuleRecord} (h : r ∈ b.recordsFrom maps 0 visits) :
    ∃ i v, visits[i]? = some v ∧ r = b.recordAt i v (maps i) := by
  obtain ⟨i, hi⟩ := List.getElem?_of_mem h
  rw [getElem?_recordsFrom, Option.map_eq_some_iff] at hi
  obtain ⟨v, hv, rfl⟩ := hi
  exact ⟨i, v, hv, by rw [Nat.zero_add]⟩

/-- The references whose source is a certain record are the references of that record. -/
theorem filter_source_tasksFrom (identity : Nat) {i : Nat} {visits : List Visit} {v : Visit}
    (h : visits[i]? = some v) :
    (b.tasksFrom identity visits).filter (·.source = identity + i) =
      b.tasksAt (identity + i) v := by
  -- The references of other records are dropped, those of the record itself kept.
  have hkeep : ∀ j w, (b.tasksAt j w).filter (·.source = j) = b.tasksAt j w := by
    intro j w
    rw [List.filter_eq_self]
    intro t ht
    obtain ⟨_, _, _, rfl⟩ := mem_tasksAt.mp ht
    exact decide_eq_true rfl
  induction visits generalizing identity i with
  | nil => cases h
  | cons w rest ih =>
    rw [tasksFrom, List.filter_append]
    cases i with
    | zero =>
      cases h
      have hlater : (b.tasksFrom (identity + 1) rest).filter (·.source = identity) = [] := by
        rw [List.filter_eq_nil_iff]
        intro t ht hsource
        obtain ⟨j, u, _, hmem⟩ := mem_tasksFrom.mp ht
        obtain ⟨_, _, _, rfl⟩ := mem_tasksAt.mp hmem
        simp only [decide_eq_true_eq] at hsource
        omega
      rw [Nat.add_zero, hlater, hkeep, List.append_nil]
    | succ i =>
      have hearlier : (b.tasksAt identity w).filter (·.source = identity + (i + 1)) = [] := by
        rw [List.filter_eq_nil_iff]
        intro t ht hsource
        obtain ⟨_, _, _, rfl⟩ := mem_tasksAt.mp ht
        simp only [decide_eq_true_eq] at hsource
        omega
      have hrest := ih (identity + 1) h
      rw [hearlier, List.nil_append, show identity + (i + 1) = identity + 1 + i by omega, hrest]

/-- Once no reference of a record is pending, the links from it are its references in order. -/
theorem IsConsistent.map_task_linksFrom (h : b.IsConsistent entry x) {i : Nat}
    (hi : x.IsSettled i) {v : Visit} (hv : x.visits[i]? = some v) :
    (x.linksFrom i).map Link.task = b.tasksAt i v := by
  have hpending : x.pending.filter (·.source = i) = [] := by
    rw [List.filter_eq_nil_iff]
    intro t ht hsource
    exact hi t ht (of_decide_eq_true hsource)
  have hfilter := filter_source_tasksFrom (b := b) 0 hv
  rw [Nat.zero_add, ← h.ledger, List.filter_append, hpending, List.append_nil,
    List.filter_map] at hfilter
  exact hfilter

/-- Once no reference of a record is pending, the links from it have its references in order. -/
theorem IsConsistent.map_reference_linksFrom (h : b.IsConsistent entry x) {i : Nat}
    (hi : x.IsSettled i) {v : Visit} (hv : x.visits[i]? = some v) :
    (x.linksFrom i).map (·.task.reference) = (b.compiledAt v.location).references := by
  rw [← map_reference_tasksAt i v, ← h.map_task_linksFrom hi hv, List.map_map]
  rfl

/-- Once no reference of a record is pending, the keys of its map are its distinct references. -/
theorem IsConsistent.keys_mapOf (h : b.IsConsistent entry x) {i : Nat} (hi : x.IsSettled i)
    {v : Visit} (hv : x.visits[i]? = some v) :
    (x.mapOf i).map Prod.fst = (b.compiledAt v.location).references.eraseDups := by
  rw [Exploration.mapOf, keys_targetsOf, h.map_reference_linksFrom hi hv]

/-- A map leads a reference to a record of the location that the reference leads to. -/
theorem IsConsistent.exists_of_mem_mapOf (h : b.IsConsistent entry x) {i : Nat} {v : Visit}
    (hv : x.visits[i]? = some v) {reference : String} {identity : Int}
    (hmem : (reference, identity) ∈ x.mapOf i) :
    ∃ (j : Nat) (w : Visit), identity = j ∧ x.visits[j]? = some w ∧
      b.target v.location reference = .ok w.location := by
  obtain ⟨l, hl, rfl, rfl⟩ := exists_link_of_mem_targetsOf hmem
  obtain ⟨hlinks, hsource⟩ := List.mem_filter.mp hl
  obtain ⟨w, hw, htarget⟩ := h.linked l hlinks
  -- The source of the link is the visit itself.
  obtain ⟨u, _, _, hu, _, htask, _⟩ := h.exists_visit (h.link_mem hlinks)
  rw [of_decide_eq_true hsource] at hu
  obtain rfl : v = u := Option.some.inj (hv.symm.trans hu)
  rw [htask] at htarget
  exact ⟨l.target, w, rfl, hw, htarget⟩

/-- A map leads to identities of records. -/
theorem IsConsistent.target_lt (h : b.IsConsistent entry x) {i : Nat} {v : Visit}
    (hv : x.visits[i]? = some v) {target : Int} (ht : target ∈ (x.mapOf i).map Prod.snd) :
    0 ≤ target ∧ target < x.visits.length := by
  obtain ⟨⟨reference, _⟩, hmem, rfl⟩ := List.mem_map.mp ht
  obtain ⟨j, w, rfl, hw, _⟩ := h.exists_of_mem_mapOf hv hmem
  have hlt := (List.getElem?_eq_some_iff.mp hw).1
  omega

/-! ## Built graphs -/

/-- What a record of a built graph says about its module, and about the other records. -/
structure Describes (b : Builder) (records : List ModuleRecord) (r : ModuleRecord) : Prop where
  /-- The references and the code are what the frontend returns for the location. -/
  compiled : b.frontend (Path.ofString r.location) = .ok ⟨r.references, r.code⟩
  /-- The keys of the map are the distinct references, in order of their first occurrences. -/
  keys : r.referenceMap.map Prod.fst = r.references.eraseDups
  /-- Every reference is led to a record of the location that it resolves to. -/
  targets : ∀ reference identity, (reference, identity) ∈ r.referenceMap →
    ∃ (j : Nat) (other : ModuleRecord) (location : Path),
      identity = j ∧ records[j]? = some other ∧ other.location = location.toString ∧
        resolve b.disk (Path.ofString r.location).parent reference r.location
          b.settings.suffixes = .ok location

/-- The record of a visit describes its module once nothing is pending. -/
theorem Explores.describes (h : b.Explores entry x) (hp : x.pending = []) {i : Nat} {v : Visit}
    (hv : x.visits[i]? = some v) :
    b.Describes (b.recordsFrom x.mapOf 0 x.visits) (b.recordAt i v (x.mapOf i)) := by
  have hc := h.isConsistent
  have hin : v ∈ x.visits := List.mem_of_getElem? hv
  have hloc : Path.ofString v.location.toString = v.location :=
    Path.ofString_toString (h.reaches hin).isCanonical
  refine ⟨?_, ?_, ?_⟩
  · obtain ⟨compiled, hcompiled⟩ := hc.compiles v hin
    dsimp only [recordAt]
    rw [hloc, compiledAt_eq hcompiled, hcompiled]
  · dsimp only [recordAt]
    rw [hc.keys_mapOf (Exploration.isSettled_of_pending_nil hp) hv]
  · intro reference identity hmem
    obtain ⟨j, w, rfl, hw, htarget⟩ := hc.exists_of_mem_mapOf hv hmem
    refine ⟨j, b.recordAt j w (x.mapOf j), w.location, rfl, ?_, rfl, ?_⟩
    · rw [getElem?_recordsFrom, hw, Option.map_some, Nat.zero_add]
    · dsimp only [recordAt]
      rw [hloc]
      exact htarget

/-- A module that refers to another one under two spellings, and twice under the first of them. -/
def twoSpellings (policy : IdentityPolicy) (maxModules : Nat) : Builder where
  frontend := fun location =>
    if location.names = ["a"] then .ok ⟨["b", "/b", "b"], "x = 1"⟩ else .ok ⟨[], "y = 2"⟩
  disk :=
    { entries := [(["a"], .file []), (["b"], .file [])]
      current := ⟨.root, []⟩ }
  settings := { policy, maxModules, suffixes := [] }

/-- A build that gets through its queue returns a graph. In the graph the identity of a record is
its position, the first record is that of the entry module, and every record describes its
module. -/
theorem run_describes (b : Builder) (entry : String) :
    ((∃ size name, BuildEvent.built size name ∈ (b.run entry).events) →
      ∃ g, (b.run entry).outcome = .ok g) ∧
    ∀ g, (b.run entry).outcome = .ok g →
      (∀ (i : Nat) (r : ModuleRecord), g.records[i]? = some r → r.identity = i) ∧
      g.entry.location = ((Path.ofString entry).normalize b.disk.current).toString ∧
      ∀ r ∈ g.records, b.Describes g.records r := by
  constructor
  · rintro ⟨size, name, hmem⟩
    cases isBuild_run b entry with
    | noRoom _ _ _ unfinished => exact absurd hmem (unfinished size name)
    | entryRefused _ _ _ _ unfinished => exact absurd hmem (unfinished size name)
    | stopped _ _ _ _ _ unfinished => exact absurd hmem (unfinished size name)
    | complete _ _ outcome => exact ⟨_, outcome⟩
  · intro g hg
    obtain ⟨x, hx, hp, hrecords, _, _⟩ := exists_explores_of_ok hg
    refine ⟨?_, ?_, ?_⟩
    · intro i r hr
      rw [hrecords, getElem?_recordsFrom, Option.map_eq_some_iff] at hr
      obtain ⟨v, _, rfl⟩ := hr
      exact Nat.zero_add i
    · obtain ⟨rest, hrest⟩ := hx.isConsistent.first
      rw [hrest, recordsFrom] at hrecords
      have hentry : g.entry = _ := (List.cons.inj hrecords).1
      rw [hentry]
      rfl
    · intro r hr
      rw [hrecords] at hr ⊢
      obtain ⟨i, v, hv, rfl⟩ := exists_visit_of_mem_recordsFrom hr
      exact hx.describes hp hv

/-- With a record for each reference, the map of the first record leads both spellings to records of
their own, the repeated one to the later of its two. -/
theorem run_describes_twoSpellings :
    ∃ g, ((twoSpellings .perReference 4).run "a").outcome = .ok g ∧
      g.entry.referenceMap = [("b", 3), ("/b", 2)] ∧
      ∀ r ∈ g.records, (twoSpellings .perReference 4).Describes g.records r := by
  have hmap : ((twoSpellings .perReference 4).run "a").outcome.toOption.map
      (fun g => g.entry.referenceMap) = some [("b", 3), ("/b", 2)] := by
    cbv
  obtain ⟨g, hg, htargets⟩ := exists_graph_of_map hmap
  have hdescribes := (run_describes (twoSpellings .perReference 4) "a").2
  exact ⟨g, hg, htargets, (hdescribes g hg).2.2⟩

end Builder

end Bundler
