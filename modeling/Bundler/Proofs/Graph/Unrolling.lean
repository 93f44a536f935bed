import Bundler.Proofs.Graph.Records
import Bundler.Proofs.Graph.Walk

/-!
# One record for each reference

Under the policy with one record for each reference every reference that is followed creates a
record. The records unroll the references into the walks from the entry module, in the order of the
walks, and the identity of a record is one more than the number of references followed before it. A
build comes to an end just if there are no more walks than records allowed, so never where a cycle
can be reached.
-/

set_option autoImplicit false

namespace Bundler

/-- The number of references in the records before an identity. -/
def ModuleGraph.referencesBefore (g : ModuleGraph) (i : Nat) : Nat :=
  ((g.records.take i).map fun r => r.references.length).sum

/-- A reference maps to the target of the last link that has it. -/
theorem lookup_targetsOf {first later : List Link} {l : Link}
    (h : l.task.reference ∉ later.map (·.task.reference)) :
    (targetsOf (first ++ l :: later)).lookup l.task.reference = some (l.target : Int) := by
  induction later using List.reverseRecOn with
  | nil => rw [targetsOf_concat, lookup_setEntry, if_pos rfl]
  | append_singleton later m ih =>
    rw [List.map_append, List.mem_append, not_or] at h
    have hother : l.task.reference ≠ m.task.reference := by
      intro heq
      exact h.2 (heq ▸ List.mem_singleton_self _)
    rw [← List.cons_append, ← List.append_assoc, targetsOf_concat, lookup_setEntry,
      if_neg hother]
    exact ih h.1

namespace Builder

variable {b : Builder} {entry : String} {x y : Exploration}

/-! ## Positions of references -/

/-- The number of references of the visits before an identity. -/
def referencesBefore (b : Builder) (visits : List Visit) (i : Nat) : Nat :=
  ((visits.take i).map fun v => (b.compiledAt v.location).references.length).sum

/-- A record has as many references as its module. -/
theorem length_tasksAt (identity : Nat) (v : Visit) :
    (b.tasksAt identity v).length = (b.compiledAt v.location).references.length := by
  rw [tasksAt, List.length_mapIdx]

/-- The number of references of all visits. -/
theorem length_tasksFrom (identity : Nat) (visits : List Visit) :
    (b.tasksFrom identity visits).length = b.referencesBefore visits visits.length := by
  rw [referencesBefore, List.take_length]
  induction visits generalizing identity with
  | nil => rfl
  | cons v rest ih =>
    rw [tasksFrom, List.length_append, length_tasksAt, ih, List.map_cons, List.sum_cons]

/-- A reference stands behind those of earlier records and those before it in its own record. -/
theorem getElem?_tasksFrom (identity : Nat) {visits : List Visit} {i : Nat} {v : Visit}
    (hv : visits[i]? = some v) {j : Nat}
    (hj : j < (b.compiledAt v.location).references.length) :
    (b.tasksFrom identity visits)[b.referencesBefore visits i + j]? =
      (b.tasksAt (identity + i) v)[j]? := by
  induction visits generalizing identity i with
  | nil => cases hv
  | cons w rest ih =>
    rw [tasksFrom]
    cases i with
    | zero =>
      cases hv
      have hzero : b.referencesBefore (v :: rest) 0 = 0 := rfl
      rw [hzero, Nat.zero_add, List.getElem?_append_left (by rw [length_tasksAt]; exact hj)]
      rfl
    | succ i =>
      have hsucc : b.referencesBefore (w :: rest) (i + 1) =
          (b.tasksAt identity w).length + b.referencesBefore rest i := by
        rw [length_tasksAt]
        rfl
      have hrest := ih (identity + 1) hv
      rw [hsucc, List.getElem?_append_right (by omega), Nat.add_assoc, Nat.add_sub_cancel_left,
        hrest, Nat.add_assoc, Nat.add_comm 1]

/-! ## Records and links go together -/

/-- Every link has created the record that it leads to. -/
structure IsUnfolding (x : Exploration) : Prop where
  /-- The walk of a record other than the first is that of the link that created it. -/
  walks : x.visits.map Visit.walk = [] :: x.links.map (·.task.walk)
  /-- The records of the links are those after the first, in order. -/
  targets : ∀ k l, x.links[k]? = some l → l.target = k + 1 ∧ l.seen = false

/-- There is one record more than there are links. -/
theorem IsUnfolding.length_visits (h : IsUnfolding x) :
    x.visits.length = x.links.length + 1 := by
  have hlength := congrArg List.length h.walks
  rw [List.length_map, List.length_cons, List.length_map] at hlength
  exact hlength

/-- The walk of the record that a link leads to is that of the link. -/
theorem IsUnfolding.walk_target (h : IsUnfolding x) {l : Link} (hl : l ∈ x.links) :
    (x.visits.map Visit.walk)[l.target]? = some l.task.walk := by
  obtain ⟨k, hk⟩ := List.getElem?_of_mem hl
  rw [(h.targets k l hk).1, h.walks, List.getElem?_cons_succ, List.getElem?_map, hk]
  rfl

/-- Where no record is shared, every exploration of a build is an unfolding. -/
theorem Explores.isUnfolding (hpolicy : b.settings.policy = .perReference)
    (h : b.Explores entry x) : IsUnfolding x := by
  induction h.steps with
  | refl =>
    refine ⟨rfl, ?_⟩
    intro k l hl
    cases hl
  | tail hsteps hs ih =>
    have hold := ih ⟨h.room, h.compiles, hsteps⟩
    cases hs with
    | @seen visits links t pending location identity resolved known =>
      cases (known?_perReference hpolicy visits location).symm.trans known
    | @fresh visits links t pending location compiled resolved unknown room compiles =>
      refine ⟨?_, ?_⟩
      · have hwalks : visits.map Visit.walk = [] :: links.map (·.task.walk) := hold.walks
        rw [List.map_append, List.map_append, hwalks]
        rfl
      · intro k l hl
        have hlength : visits.length = links.length + 1 := hold.length_visits
        rcases Nat.lt_trichotomy k links.length with hlt | heq | hgt
        · rw [List.getElem?_append_left hlt] at hl
          exact hold.targets k l hl
        · rw [heq, List.getElem?_concat_length] at hl
          rw [← Option.some.inj hl, heq]
          exact ⟨hlength, rfl⟩
        · have hnone : (links ++ [⟨t, visits.length, false⟩])[k]? = none := by
            rw [List.getElem?_eq_none_iff, List.length_append, List.length_singleton]
            omega
          cases hnone.symm.trans hl

/-- No two records have one walk. -/
theorem IsOrdered.nodup_walks (h : IsOrdered x) : (x.visits.map Visit.walk).Nodup := by
  rw [List.nodup_iff_pairwise_ne, List.pairwise_map]
  refine h.walks.imp ?_
  intro v w hlt heq
  rw [heq] at hlt
  exact not_shortlex_self w.walk hlt

/-! ## Complete explorations -/

section Complete

variable (hpolicy : b.settings.policy = .perReference)

include hpolicy in
/-- Once nothing is pending, a reference has created a record whose identity is given by the number
of references before it. -/
theorem Explores.exists_child (h : b.Explores entry x) (hp : x.pending = []) {i : Nat} {v : Visit}
    (hv : x.visits[i]? = some v) {j : Nat} {reference : String}
    (hr : (b.compiledAt v.location).references[j]? = some reference) :
    x.links[b.referencesBefore x.visits i + j]? =
        some ⟨⟨i, v.location, v.walk ++ [j], reference⟩,
          1 + b.referencesBefore x.visits i + j, false⟩ ∧
      (x.visits.map Visit.walk)[1 + b.referencesBefore x.visits i + j]? =
        some (v.walk ++ [j]) := by
  have hunfolding := h.isUnfolding hpolicy
  have hledger := h.isConsistent.ledger
  rw [hp, List.append_nil] at hledger
  have htask : (x.links.map Link.task)[b.referencesBefore x.visits i + j]? =
      some ⟨i, v.location, v.walk ++ [j], reference⟩ := by
    rw [hledger, getElem?_tasksFrom 0 hv (List.getElem?_eq_some_iff.mp hr).1, Nat.zero_add,
      tasksAt, List.getElem?_mapIdx, hr]
    rfl
  rw [List.getElem?_map, Option.map_eq_some_iff] at htask
  obtain ⟨⟨t, target, seen⟩, hl, rfl⟩ := htask
  obtain ⟨htarget, hseen⟩ := hunfolding.targets _ _ hl
  have hidentity : target = 1 + b.referencesBefore x.visits i + j := by
    dsimp only at htarget
    omega
  dsimp only at hseen
  subst hidentity hseen
  have hwalk := hunfolding.walk_target (List.mem_of_getElem? hl)
  exact ⟨hl, hwalk⟩

include hpolicy in
/-- Once nothing is pending, the walks of the records are all the walks there are. -/
theorem Explores.mem_walks_iff (h : b.Explores entry x) (hp : x.pending = []) {walk : List Nat} :
    walk ∈ x.visits.map Visit.walk ↔ (b.follow (b.start entry) walk).isSome := by
  have hc := h.isConsistent
  constructor
  · intro hw
    obtain ⟨v, hv, rfl⟩ := List.mem_map.mp hw
    rw [hc.follows v hv]
    rfl
  · intro hw
    induction walk using List.reverseRecOn with
    | nil =>
      rw [(h.isUnfolding hpolicy).walks]
      exact List.mem_cons_self
    | append_singleton walk j ih =>
      rw [follow_concat] at hw
      obtain ⟨location, hlocation⟩ := Option.isSome_iff_exists.mp hw
      obtain ⟨middle, hmiddle, htake⟩ := Option.bind_eq_some_iff.mp hlocation
      obtain ⟨v, hv, rfl⟩ := List.mem_map.mp (ih (by rw [hmiddle]; rfl))
      obtain rfl : v.location = middle := by
        rw [hc.follows v hv] at hmiddle
        exact Option.some.inj hmiddle
      obtain ⟨compiled, hcompiled⟩ := hc.compiles v hv
      obtain ⟨reference, hr, _⟩ := (take?_eq_some hcompiled).mp htake
      rw [← compiledAt_eq hcompiled] at hr
      obtain ⟨i, hi⟩ := List.getElem?_of_mem hv
      exact List.mem_of_getElem? (h.exists_child hpolicy hp hi hr).2

include hpolicy in
/-- Once nothing is pending, a reference maps to the record that its last occurrence created. -/
theorem Explores.lookup_mapOf (h : b.Explores entry x) (hp : x.pending = []) {i : Nat} {v : Visit}
    (hv : x.visits[i]? = some v) {j : Nat} {reference : String}
    (hr : (b.compiledAt v.location).references[j]? = some reference)
    (hlast : reference ∉ (b.compiledAt v.location).references.drop (j + 1)) :
    (x.mapOf i).lookup reference =
      some ((1 + b.referencesBefore x.visits i + j : Nat) : Int) := by
  have hc := h.isConsistent
  have htasks := hc.map_task_linksFrom (Exploration.isSettled_of_pending_nil hp) hv
  have hreferences := hc.map_reference_linksFrom (Exploration.isSettled_of_pending_nil hp) hv
  obtain ⟨l, hl, hreference⟩ : ∃ l, (x.linksFrom i)[j]? = some l ∧ l.task.reference = reference := by
    rw [← hreferences, List.getElem?_map, Option.map_eq_some_iff] at hr
    exact hr
  obtain ⟨hj, hget⟩ := List.getElem?_eq_some_iff.mp hl
  have hsplit : x.linksFrom i = (x.linksFrom i).take j ++ l :: (x.linksFrom i).drop (j + 1) := by
    rw [← hget, ← List.drop_eq_getElem_cons hj, List.take_append_drop]
  have hlater : l.task.reference ∉ ((x.linksFrom i).drop (j + 1)).map (·.task.reference) := by
    rw [List.map_drop, hreferences, hreference]
    exact hlast
  -- The link created the record of its walk, and no other record has that walk.
  have hwalk : l.task.walk = v.walk ++ [j] := by
    have htask : (b.tasksAt i v)[j]? = some l.task := by
      rw [← htasks, List.getElem?_map, hl]
      rfl
    rw [tasksAt, List.getElem?_mapIdx, hr] at htask
    rw [← Option.some.inj htask]
  have htarget : l.target = 1 + b.referencesBefore x.visits i + j := by
    have hmem : l ∈ x.links := List.mem_of_mem_filter (List.mem_of_getElem? hl)
    have hcreated := (h.isUnfolding hpolicy).walk_target hmem
    have hchild := (h.exists_child hpolicy hp hv hr).2
    have hlt := (List.getElem?_eq_some_iff.mp hcreated).1
    apply (List.getElem?_inj hlt h.isOrdered.nodup_walks).mp
    rw [hcreated, hchild, hwalk]
  rw [Exploration.mapOf, hsplit, ← hreference, lookup_targetsOf hlater, htarget]

end Complete

/-! ## Cycles -/

/-- Where a cycle can be reached, there is no end of walks. -/
theorem infinite_walks_of_cycle {location : Path} (hr : b.Reaches entry location)
    (hcycle : Relation.TransGen b.Refers location location) :
    {walk | (b.follow (b.start entry) walk).isSome}.Infinite := by
  obtain ⟨lead, hlead⟩ := exists_follow_of_reflTransGen hr
  obtain ⟨next, hnext, hback⟩ := Relation.TransGen.head'_iff.mp hcycle
  obtain ⟨position, hposition⟩ := exists_take?_of_refers hnext
  obtain ⟨rest, hrest⟩ := exists_follow_of_reflTransGen hback
  have hround : b.follow location (position :: rest) = some location := by
    rw [follow, hposition, Option.bind_some, hrest]
  -- The walk that goes round the cycle a number of times comes back to the location.
  have hrounds : ∀ n, b.follow location (List.replicate n (position :: rest)).flatten =
      some location := by
    intro n
    induction n with
    | zero => rfl
    | succ n ih =>
      rw [List.replicate_succ, List.flatten_cons, follow_append, hround, Option.bind_some, ih]
  refine Set.infinite_of_injective_forall_mem
    (f := fun n => lead ++ (List.replicate n (position :: rest)).flatten) ?_ ?_
  · intro n m heq
    have hlength := congrArg List.length heq
    simp only [List.length_append, List.length_flatten, List.map_replicate, List.sum_replicate,
      List.length_cons, smul_eq_mul, Nat.add_left_cancel_iff] at hlength
    exact Nat.eq_of_mul_eq_mul_right (Nat.succ_pos rest.length) hlength
  · intro n
    show (b.follow (b.start entry) (lead ++ _)).isSome
    rw [follow_append, hlead, Option.bind_some, hrounds]
    rfl

/-! ## When a build comes to an end -/

/-- A build that needs more room than it is allowed has more walks. -/
theorem IsFull.lt_encard_walks (h : b.IsFull entry) :
    (b.settings.maxModules : ℕ∞) <
      {walk | (b.follow (b.start entry) walk).isSome}.encard := by
  -- There are distinct walks, one more than allowed.
  cases h with
  | first noRoom =>
    refine lt_encard (List.nodup_singleton []) ?_ ?_
    · intro walk hw
      rw [List.mem_singleton.mp hw]
      rfl
    · rw [noRoom]
      exact Nat.one_pos
  | @pending x t location explores mem resolved unknown noRoom =>
    have hc := explores.isConsistent
    have hordered := explores.isOrdered
    have hnew : t.walk ∉ x.visits.map Visit.walk := by
      intro hmem
      obtain ⟨v, hv, heq⟩ := List.mem_map.mp hmem
      have hlt := hordered.shortlex_pending hc hv mem
      rw [heq] at hlt
      exact not_shortlex_self t.walk hlt
    have hnodup : (t.walk :: x.visits.map Visit.walk).Nodup :=
      List.nodup_cons.mpr ⟨hnew, hordered.nodup_walks⟩
    refine lt_encard hnodup ?_ ?_
    · intro walk hw
      rcases List.mem_cons.mp hw with rfl | hw
      · show (b.follow (b.start entry) t.walk).isSome
        rw [hc.follow_task (hc.pending_mem mem) resolved]
        rfl
      · obtain ⟨v, hv, rfl⟩ := List.mem_map.mp hw
        show (b.follow (b.start entry) v.walk).isSome
        rw [hc.follows v hv]
        rfl
    · rw [List.length_cons, List.length_map]
      exact Nat.lt_succ_of_le noRoom

/-- Where no record is shared, a build that returns a graph has room for all walks. -/
theorem encard_walks_le (hpolicy : b.settings.policy = .perReference) {g : ModuleGraph}
    (hg : (b.run entry).outcome = .ok g) :
    {walk | (b.follow (b.start entry) walk).isSome}.encard ≤ b.settings.maxModules := by
  obtain ⟨x, hx, hp, _⟩ := exists_explores_of_ok hg
  have hmem : {walk | (b.follow (b.start entry) walk).isSome} =
      {walk | walk ∈ x.visits.map Visit.walk} := by
    ext walk
    exact (hx.mem_walks_iff hpolicy hp).symm
  have hbounded := hx.isConsistent.bounded
  rw [hmem]
  refine (encard_mem_le (x.visits.map Visit.walk)).trans ?_
  rw [List.length_map]
  exact_mod_cast hbounded

/-! ## Unrolled graphs -/

/-- The same builder under a limit. -/
def withLimit (b : Builder) (maxModules : Nat) : Builder :=
  { b with settings := { b.settings with maxModules } }

/-- A graph unrolls the references from an entry module. They were followed as told by `links`. -/
structure IsUnrolled (b : Builder) (entry : String) (links : List (Nat × String × Nat × Bool))
    (g : ModuleGraph) : Prop where
  /-- There is one record for the entry module and one for each reference. -/
  size : g.size = 1 + (g.records.map fun r => r.references.length).sum
  /-- The records are those of the walks, in order, and the identity of a child is given by the
  number of references before it. -/
  walks : ∃ walks : List (List Nat),
    walks.Pairwise (List.Shortlex (· < ·)) ∧
    (∀ walk, walk ∈ walks ↔ (b.follow (b.start entry) walk).isSome) ∧
    List.Forall₂ (fun walk (r : ModuleRecord) =>
      (b.follow (b.start entry) walk).map Path.toString = some r.location) walks g.records ∧
    ∀ (i j : Nat) (r : ModuleRecord) (walk : List Nat), g.records[i]? = some r →
      walks[i]? = some walk → j < r.references.length →
        walks[1 + g.referencesBefore i + j]? = some (walk ++ [j])
  /-- The child was created when the reference was followed. -/
  created : ∀ (i j : Nat) (r : ModuleRecord) (reference : String), g.records[i]? = some r →
    r.references[j]? = some reference →
      links[g.referencesBefore i + j]? =
        some (i, reference, 1 + g.referencesBefore i + j, false)
  /-- A reference maps to the child of its last occurrence. -/
  last : ∀ (i j : Nat) (r : ModuleRecord) (reference : String), g.records[i]? = some r →
    r.references[j]? = some reference → reference ∉ r.references.drop (j + 1) →
      r.referenceMap.lookup reference = some ((1 + g.referencesBefore i + j : Nat) : Int)

/-- The records have as many references as the visits. -/
theorem map_references_recordsFrom (maps : Nat → List (String × Int)) (visits : List Visit) :
    (b.recordsFrom maps 0 visits).map (fun r => r.references.length) =
      visits.map fun v => (b.compiledAt v.location).references.length :=
  map_recordsFrom (fun _ _ _ => rfl) maps 0 visits

/-- Walks that lead to visits lead to their records. -/
theorem forall₂_recordsFrom {visits : List Visit}
    (h : ∀ v ∈ visits, b.follow (b.start entry) v.walk = some v.location)
    (maps : Nat → List (String × Int)) (identity : Nat) :
    List.Forall₂ (fun walk (r : ModuleRecord) =>
        (b.follow (b.start entry) walk).map Path.toString = some r.location)
      (visits.map Visit.walk) (b.recordsFrom maps identity visits) := by
  induction visits generalizing identity with
  | nil => exact .nil
  | cons v rest ih =>
    refine .cons ?_ (ih (fun w hw => h w (List.mem_cons_of_mem _ hw)) (identity + 1))
    rw [h v List.mem_cons_self]
    rfl

/-- The references before an identity are those of the visits before it. -/
theorem referencesBefore_eq {g : ModuleGraph} {maps : Nat → List (String × Int)}
    {visits : List Visit} (h : g.records = b.recordsFrom maps 0 visits) (i : Nat) :
    g.referencesBefore i = b.referencesBefore visits i := by
  rw [ModuleGraph.referencesBefore, referencesBefore, h, List.map_take, List.map_take,
    map_references_recordsFrom]

/-- Where no record is shared, the graph of a complete exploration is unrolled. -/
theorem Explores.isUnrolled (hpolicy : b.settings.policy = .perReference)
    (h : b.Explores entry x) (hp : x.pending = []) {g : ModuleGraph}
    (hrecords : g.records = b.recordsFrom x.mapOf 0 x.visits) :
    b.IsUnrolled entry (x.links.map Link.noted) g := by
  have hc := h.isConsistent
  have hbefore := referencesBefore_eq hrecords
  have hrecord : ∀ (i : Nat) (r : ModuleRecord), g.records[i]? = some r →
      ∃ v, x.visits[i]? = some v ∧ r = b.recordAt i v (x.mapOf i) := by
    intro i r hr
    rw [hrecords, getElem?_recordsFrom, Option.map_eq_some_iff, Nat.zero_add] at hr
    obtain ⟨v, hv, rfl⟩ := hr
    exact ⟨v, hv, rfl⟩
  refine ⟨?_, ?_, ?_, ?_⟩
  · have hlinks : x.links.length = b.referencesBefore x.visits x.visits.length := by
      have hledger := congrArg List.length hc.ledger
      rw [hp, List.append_nil, List.length_map, length_tasksFrom] at hledger
      exact hledger
    rw [referencesBefore, List.take_length, ← map_references_recordsFrom x.mapOf,
      ← hrecords] at hlinks
    rw [← hlinks, ModuleGraph.size, hrecords, length_recordsFrom,
      (h.isUnfolding hpolicy).length_visits, Nat.add_comm]
  · refine ⟨x.visits.map Visit.walk, List.pairwise_map.mpr h.isOrdered.walks,
      fun _ => h.mem_walks_iff hpolicy hp, ?_, ?_⟩
    · rw [hrecords]
      exact forall₂_recordsFrom hc.follows x.mapOf 0
    · intro i j r walk hr hw hj
      obtain ⟨v, hv, rfl⟩ := hrecord i r hr
      rw [List.getElem?_map, hv] at hw
      obtain rfl := Option.some.inj hw
      rw [hbefore]
      exact (h.exists_child hpolicy hp hv (List.getElem?_eq_getElem hj)).2
  · intro i j r reference hr hreference
    obtain ⟨v, hv, rfl⟩ := hrecord i r hr
    rw [hbefore, List.getElem?_map, (h.exists_child hpolicy hp hv hreference).1]
    rfl
  · intro i j r reference hr hreference hlast
    obtain ⟨v, hv, rfl⟩ := hrecord i r hr
    rw [hbefore]
    exact h.lookup_mapOf hpolicy hp hv hreference hlast

/-- With one record for each reference, and where all that can be reached is sound, a build returns a
graph just if there is room for all walks from the entry module. The graph unrolls the references
then. Where a cycle can be reached, a build under any limit ends there after as many calls of the
frontend as are allowed. -/
theorem run_perReference (b : Builder) (entry : String)
    (hpolicy : b.settings.policy = .perReference)
    (hsound : ∀ location, b.Reaches entry location → b.IsSound location) :
    ((∃ g, (b.run entry).outcome = .ok g) ↔
      {walk | (b.follow (b.start entry) walk).isSome}.encard ≤ b.settings.maxModules) ∧
    (∀ g, (b.run entry).outcome = .ok g → b.IsUnrolled entry (b.run entry).links g) ∧
    ((∃ location, b.Reaches entry location ∧ Relation.TransGen b.Refers location location) →
      ∀ maxModules, ((b.withLimit maxModules).run entry).calls.length = maxModules ∧
        ∃ origin, ((b.withLimit maxModules).run entry).outcome =
          .error (.refused (.limit ⟨maxModules, origin⟩))) := by
  refine ⟨⟨?_, ?_⟩, ?_, ?_⟩
  · rintro ⟨g, hg⟩
    exact encard_walks_le hpolicy hg
  · intro hroom
    rcases ok_or_full b entry hsound with hok | ⟨hfull, _⟩
    · exact hok
    · exact absurd hroom (not_le.mpr hfull.lt_encard_walks)
  · intro g hg
    obtain ⟨x, hx, hp, hrecords, _, hlinks⟩ := exists_explores_of_ok hg
    rw [hlinks]
    exact hx.isUnrolled hpolicy hp hrecords
  · rintro ⟨location, hr, hcycle⟩ maxModules
    rcases ok_or_full (b.withLimit maxModules) entry hsound with ⟨g, hg⟩ | ⟨_, hcalls, horigin⟩
    · have hle := encard_walks_le (b := b.withLimit maxModules) hpolicy hg
      have hinfinite := infinite_walks_of_cycle (b := b.withLimit maxModules) hr hcycle
      rw [hinfinite.encard_eq] at hle
      exact absurd hle (by simp)
    · exact ⟨hcalls, horigin⟩

/-- Both spellings lead to the other module, which refers to nothing. -/
theorem isSound_twoSpellings {location : Path}
    (h : (twoSpellings .perReference 4).Reaches "a" location) :
    (twoSpellings .perReference 4).IsSound location := by
  have htarget : ∀ reference ∈ ["b", "/b", "b"],
      (twoSpellings .perReference 4).target ⟨.root, ["a"]⟩ reference = .ok ⟨.root, ["b"]⟩ := by
    intro reference hreference
    simp only [List.mem_cons, List.not_mem_nil, or_false] at hreference
    rcases hreference with rfl | rfl | rfl <;> cbv
  have hreached : location = ⟨.root, ["a"]⟩ ∨ location = ⟨.root, ["b"]⟩ := by
    induction h with
    | refl =>
      left
      cbv
    | tail _ hstep ih =>
      obtain ⟨compiled, hcompiled, reference, hreference, hlocation⟩ := hstep
      rcases ih with rfl | rfl
      · cases hcompiled
        exact .inr (Except.ok.inj (hlocation.symm.trans (htarget reference hreference)))
      · cases hcompiled
        cases hreference
  rcases hreached with rfl | rfl
  · exact ⟨_, rfl, fun reference hreference => ⟨_, htarget reference hreference⟩⟩
  · exact ⟨_, rfl, fun _ hreference => absurd hreference List.not_mem_nil⟩

/-- A module that refers to itself. -/
def selfReferring : Builder where
  frontend := fun _ => .ok ⟨["a"], "x = 1"⟩
  disk :=
    { entries := [(["a"], .file [])]
      current := ⟨.root, []⟩ }
  settings := { policy := .perReference, suffixes := [] }

/-- A module that refers to itself leads to itself. -/
theorem target_selfReferring :
    selfReferring.target (selfReferring.start "a") "a" = .ok (selfReferring.start "a") := by
  cbv

/-- A module that refers to itself leads nowhere else. -/
theorem isSound_selfReferring {location : Path} (h : selfReferring.Reaches "a" location) :
    selfReferring.IsSound location := by
  have hreached : location = selfReferring.start "a" := by
    induction h with
    | refl => rfl
    | tail _ hstep ih =>
      obtain ⟨compiled, hcompiled, reference, hreference, hlocation⟩ := hstep
      cases hcompiled
      obtain rfl := List.mem_singleton.mp hreference
      rw [ih, target_selfReferring] at hlocation
      exact (Except.ok.inj hlocation).symm
  refine ⟨_, rfl, ?_⟩
  intro reference hreference
  rw [List.mem_singleton.mp hreference, hreached]
  exact ⟨_, target_selfReferring⟩

/-- Three references of a module to another one unroll to four records, and a module that refers to
itself runs into every limit. -/
theorem run_perReference_examples :
    ((twoSpellings .perReference 4).settings.policy = .perReference ∧
      ∃ g, ((twoSpellings .perReference 4).run "a").outcome = .ok g ∧ g.size = 4 ∧
        (twoSpellings .perReference 4).IsUnrolled "a" ((twoSpellings .perReference 4).run "a").links
          g) ∧
    selfReferring.settings.policy = .perReference ∧
      ∀ maxModules, ((selfReferring.withLimit maxModules).run "a").calls.length = maxModules ∧
        ∃ origin, ((selfReferring.withLimit maxModules).run "a").outcome =
          .error (.refused (.limit ⟨maxModules, origin⟩)) := by
  constructor
  · have hrun : ((twoSpellings .perReference 4).run "a").outcome.toOption.map ModuleGraph.size =
        some 4 := by
      cbv
    obtain ⟨g, hg, hsize⟩ := exists_graph_of_map hrun
    have hunrolled := (run_perReference (twoSpellings .perReference 4) "a" rfl
      fun _ => isSound_twoSpellings).2.1
    exact ⟨rfl, g, hg, hsize, hunrolled g hg⟩
  · refine ⟨rfl, ?_⟩
    apply (run_perReference selfReferring "a" rfl fun _ => isSound_selfReferring).2.2
    refine ⟨selfReferring.start "a", .refl, .single ?_⟩
    exact ⟨_, rfl, "a", List.mem_singleton_self _, target_selfReferring⟩

end Builder

end Bundler
