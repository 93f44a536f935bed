import Bundler.Proofs.Graph.Records
import Bundler.Proofs.Graph.Walk

/-!
# One record for each location

Under the policy with one record for each location a build is a breadth first search. It succeeds
just if all that can be reached is sound and the limit leaves room for it. The records are then the
locations that can be reached, each one once, in the order of the least walks that lead to them.
-/

set_option autoImplicit false

namespace Bundler

/-- The map of one record holds the identity of another one. -/
def ModuleGraph.Leads (g : ModuleGraph) (i j : Nat) : Prop :=
  ∃ r, g.records[i]? = some r ∧ (j : Int) ∈ r.referenceMap.map Prod.snd

namespace Builder

variable {b : Builder} {entry : String} {x : Exploration}

/-! ## Distinct records -/

section Distinct

variable (hpolicy : b.settings.policy = .perLocation)

include hpolicy in
/-- A reference that shares no record leads to a new location. -/
theorem not_mem_of_known?_eq_none {visits : List Visit} {location : Path}
    (h : b.known? visits location = none) : location ∉ visits.map Visit.location := by
  rw [known?, if_pos hpolicy, List.idxOf?_eq_none_iff] at h
  exact h

include hpolicy in
/-- No location has two records. -/
theorem Explores.nodup_locations (h : b.Explores entry x) : x.locations.Nodup := by
  induction h.steps with
  | refl => exact List.nodup_singleton _
  | tail hsteps hs ih =>
    have hnodup := ih ⟨h.room, h.compiles, hsteps⟩
    cases hs with
    | seen => exact hnodup
    | @fresh visits links t pending location compiled resolved unknown =>
      have hnew := not_mem_of_known?_eq_none hpolicy unknown
      have hdistinct : (visits.map Visit.location ++ [location]).Nodup :=
        List.nodup_append.mpr ⟨hnodup, List.nodup_singleton _, by
          intro l hl m hm
          rw [List.mem_singleton.mp hm]
          intro heq
          exact hnew (heq ▸ hl)⟩
      rw [Exploration.locations_concat]
      exact hdistinct

include hpolicy in
/-- No text is the location of two records. -/
theorem Explores.nodup_names (h : b.Explores entry x) :
    (x.locations.map Path.toString).Nodup := by
  refine (h.nodup_locations hpolicy).map_on ?_
  intro p hp q hq
  exact (Path.toString_inj (h.isCanonical hp) (h.isCanonical hq)).mp

include hpolicy in
/-- Records of one location are one record. -/
theorem Explores.eq_of_location_eq (h : b.Explores entry x) {i j : Nat} {v w : Visit}
    (hv : x.visits[i]? = some v) (hw : x.visits[j]? = some w) (heq : v.location = w.location) :
    i = j := by
  have hlt : i < x.locations.length := by
    rw [Exploration.locations, List.length_map]
    exact (List.getElem?_eq_some_iff.mp hv).1
  apply (List.getElem?_inj hlt (h.nodup_locations hpolicy)).mp
  rw [Exploration.locations, List.getElem?_map, List.getElem?_map, hv, hw, Option.map_some,
    Option.map_some, heq]

include hpolicy in
/-- A record is led to along maps from the first one. -/
theorem Explores.leads_of_reaches (h : b.Explores entry x) (hp : x.pending = []) {g : ModuleGraph}
    (hrecords : g.records = b.recordsFrom x.mapOf 0 x.visits) {location : Path}
    (hr : b.Reaches entry location) {j : Nat} {w : Visit} (hw : x.visits[j]? = some w)
    (hloc : w.location = location) : Relation.ReflTransGen g.Leads 0 j := by
  have hc := h.isConsistent
  induction hr generalizing j w with
  | refl =>
    obtain ⟨rest, hrest⟩ := hc.first
    have hfirst : x.visits[0]? = some ⟨b.start entry, []⟩ := by
      rw [hrest]
      rfl
    rw [h.eq_of_location_eq hpolicy hw hfirst hloc]
  | @tail middle location hreached hstep ih =>
    obtain ⟨v, hv, rfl⟩ := List.mem_map.mp ((h.mem_locations_iff hp).mpr hreached)
    obtain ⟨i, hi⟩ := List.getElem?_of_mem hv
    obtain ⟨compiled, hcompiled, reference, hreference, htarget⟩ := hstep
    -- The reference is a key of the map, whose value can only be the record of the location.
    have hkey : reference ∈ (x.mapOf i).map Prod.fst := by
      rw [hc.keys_mapOf (Exploration.isSettled_of_pending_nil hp) hi, compiledAt_eq hcompiled,
        List.mem_eraseDups]
      exact hreference
    obtain ⟨⟨_, identity⟩, hmem, rfl⟩ := List.mem_map.mp hkey
    obtain ⟨k, u, rfl, hu, hutarget⟩ := hc.exists_of_mem_mapOf hi hmem
    have hlocation : u.location = w.location := by
      rw [hloc]
      exact Except.ok.inj (hutarget.symm.trans htarget)
    obtain rfl := h.eq_of_location_eq hpolicy hu hw hlocation
    refine (ih hi rfl).tail ⟨b.recordAt i v (x.mapOf i), ?_, List.mem_map_of_mem hmem⟩
    rw [hrecords, getElem?_recordsFrom, hi, Option.map_some, Nat.zero_add]

end Distinct

/-! ## When a build succeeds -/

/-- A build that needs more room than it is allowed can reach more locations. -/
theorem IsFull.lt_encard_reaches (hpolicy : b.settings.policy = .perLocation)
    (h : b.IsFull entry) :
    (b.settings.maxModules : ℕ∞) < {location | b.Reaches entry location}.encard := by
  -- There are distinct locations that can be reached, one more than allowed.
  cases h with
  | first noRoom =>
    refine lt_encard (List.nodup_singleton (b.start entry)) ?_ ?_
    · intro location hl
      rw [List.mem_singleton.mp hl]
      exact .refl
    · rw [noRoom]
      exact Nat.one_pos
  | @pending x t location explores mem resolved unknown noRoom =>
    have hc := explores.isConsistent
    have hnew := not_mem_of_known?_eq_none hpolicy unknown
    have hnodup : (location :: x.locations).Nodup :=
      List.nodup_cons.mpr ⟨hnew, explores.nodup_locations hpolicy⟩
    refine lt_encard hnodup ?_ ?_
    · intro l hl
      rcases List.mem_cons.mp hl with rfl | hl
      · exact reflTransGen_of_follow (hc.follow_task (hc.pending_mem mem) resolved)
      · obtain ⟨v, hv, rfl⟩ := List.mem_map.mp hl
        exact explores.reaches hv
    · rw [List.length_cons, Exploration.locations, List.length_map]
      exact Nat.lt_succ_of_le noRoom

/-! ## The order of the records -/

/-- A graph holds what a breadth first search from an entry module finds. The frontend was called
for `calls`. -/
structure IsSearched (b : Builder) (entry : String) (calls : List Path) (g : ModuleGraph) :
    Prop where
  /-- The frontend was called once for each record, in the order of the identities. -/
  called : g.records.map ModuleRecord.location = calls.map Path.toString
  /-- No location has two records. -/
  distinct : (g.records.map ModuleRecord.location).Nodup
  /-- What can be reached has a record. -/
  complete : ∀ location, location ∈ calls ↔ b.Reaches entry location
  /-- The records are in the order of the least walks that lead to them. -/
  ordered : ∃ walks, List.Forall₂ (b.IsLeastWalk entry) calls walks ∧
    walks.Pairwise (List.Shortlex (· < ·))
  /-- The maps lead from the first record to every other one. -/
  connected : ∀ j < g.size, Relation.ReflTransGen g.Leads 0 j

/-- The walk of a record is the least one to its location, where locations have one record each. -/
theorem Explores.isLeastWalk (hpolicy : b.settings.policy = .perLocation)
    (h : b.Explores entry x) (hp : x.pending = []) {v : Visit} (hv : v ∈ x.visits) :
    b.IsLeastWalk entry v.location v.walk := by
  refine ⟨h.isConsistent.follows v hv, ?_⟩
  intro other hother
  obtain ⟨w, hw, hloc, hle⟩ := h.exists_visit_of_follow (before_of_pending_nil hp other) hother
  obtain ⟨i, hi⟩ := List.getElem?_of_mem hv
  obtain ⟨j, hj⟩ := List.getElem?_of_mem hw
  obtain rfl := h.eq_of_location_eq hpolicy hj hi hloc
  obtain rfl : w = v := Option.some.inj (hj.symm.trans hi)
  exact hle

/-- With one record for each location, a build returns a graph just if all that can be reached is
sound and there is room for it. The graph holds what a breadth first search finds. -/
theorem run_perLocation (b : Builder) (entry : String)
    (hpolicy : b.settings.policy = .perLocation) :
    ((∃ g, (b.run entry).outcome = .ok g) ↔
      (∀ location, b.Reaches entry location → b.IsSound location) ∧
        {location | b.Reaches entry location}.encard ≤ b.settings.maxModules) ∧
    ∀ g, (b.run entry).outcome = .ok g → b.IsSearched entry (b.run entry).calls g := by
  constructor
  · constructor
    · rintro ⟨g, hg⟩
      obtain ⟨x, hx, hp, _⟩ := exists_explores_of_ok hg
      refine ⟨fun location hr => hx.isSound hp hr, ?_⟩
      have hmem : {location | b.Reaches entry location} = {location | location ∈ x.locations} := by
        ext location
        exact (hx.mem_locations_iff hp).symm
      have hbounded := hx.isConsistent.bounded
      rw [hmem]
      refine (encard_mem_le x.locations).trans ?_
      rw [Exploration.locations, List.length_map]
      exact_mod_cast hbounded
    · rintro ⟨hsound, hroom⟩
      rcases ok_or_full b entry hsound with hok | ⟨hfull, _⟩
      · exact hok
      · exact absurd hroom (not_le.mpr (hfull.lt_encard_reaches hpolicy))
  · intro g hg
    obtain ⟨x, hx, hp, hrecords, hcalls, _⟩ := exists_explores_of_ok hg
    have hlocations : g.records.map ModuleRecord.location = x.locations.map Path.toString := by
      rw [hrecords]
      exact map_location_recordsFrom x.mapOf 0 x.visits
    rw [hcalls]
    refine ⟨hlocations, ?_, fun _ => hx.mem_locations_iff hp, ?_, ?_⟩
    · rw [hlocations]
      refine (hx.nodup_locations hpolicy).map_on ?_
      intro l hl m hm heq
      exact (Path.toString_inj (hx.isCanonical hl) (hx.isCanonical hm)).mp heq
    · refine ⟨x.visits.map Visit.walk, ?_, List.pairwise_map.mpr hx.isOrdered.walks⟩
      rw [Exploration.locations, List.forall₂_map_left_iff, List.forall₂_map_right_iff,
        List.forall₂_same]
      intro v hv
      exact hx.isLeastWalk hpolicy hp hv
    · intro j hj
      rw [ModuleGraph.size, hrecords, length_recordsFrom] at hj
      obtain ⟨w, hw⟩ : ∃ w, x.visits[j]? = some w := ⟨_, List.getElem?_eq_getElem hj⟩
      exact hx.leads_of_reaches hpolicy hp hrecords (hx.reaches (List.mem_of_getElem? hw)) hw rfl

/-- Both spellings lead to one record, and two records are enough. -/
theorem run_perLocation_twoSpellings :
    (twoSpellings .perLocation 2).settings.policy = .perLocation ∧
      ∃ g, ((twoSpellings .perLocation 2).run "a").outcome = .ok g ∧
        g.records.map ModuleRecord.location = ["/a", "/b"] ∧
        (twoSpellings .perLocation 2).IsSearched "a" ((twoSpellings .perLocation 2).run "a").calls
          g := by
  have hrun : ((twoSpellings .perLocation 2).run "a").outcome.toOption.map
      (fun g => g.records.map ModuleRecord.location) = some ["/a", "/b"] := by
    cbv
  obtain ⟨g, hg, hlocations⟩ := exists_graph_of_map hrun
  have hsearched := (run_perLocation (twoSpellings .perLocation 2) "a" rfl).2
  exact ⟨rfl, g, hg, hlocations, hsearched g hg⟩

end Builder

end Bundler
