import Bundler.Proofs.Graph.Sharing

/-!
# The two policies agree up to sharing

A build with a record for each reference follows the references of a location once for each of its
records, a build with a record for each location follows them only once. The queue of the first one
covers that of the second: what it holds beyond it has been followed there before. So the first
build runs into nothing new while it is ahead, and each of its steps is either matched or nothing
that the second build has to do.

If the build with a record for each reference returns a graph, or fails other than at the limit, so
does the build with a record for each location.
-/

set_option autoImplicit false

namespace Bundler

/-- What a task is about: a location and a reference in its module. -/
def Task.errand (t : Task) : Path × String :=
  (t.location, t.reference)

/-- Errors on one errand have one origin. -/
theorem Task.origin_eq {t u : Task} (h : u.errand = t.errand) : u.origin = t.origin := by
  obtain ⟨hlocation, hreference⟩ := Prod.mk.inj h
  rw [origin, origin, hlocation, hreference]

/-- The errands of one queue are those of another one, in order, except for some that have been done
before or stand earlier in the queue. -/
inductive Covers {α : Type} : (α → Prop) → List α → List α → Prop where
  /-- Nothing is left in either queue. -/
  | nil {done : α → Prop} : Covers done [] []
  /-- Both queues go on with the same errand. -/
  | both {done : α → Prop} {e : α} {longer shorter : List α}
      (rest : Covers (fun a => a = e ∨ done a) longer shorter) :
      Covers done (e :: longer) (e :: shorter)
  /-- The longer queue goes on with an errand that has been done. -/
  | again {done : α → Prop} {e : α} {longer shorter : List α} (known : done e)
      (rest : Covers done longer shorter) : Covers done (e :: longer) shorter

namespace Covers

variable {α : Type} {done done' : α → Prop} {longer shorter : List α}

/-- A queue covers itself. -/
theorem refl (done : α → Prop) (queue : List α) : Covers done queue queue := by
  induction queue generalizing done with
  | nil => exact .nil
  | cons e queue ih => exact .both (ih _)

/-- A queue covers another one all the more if more has been done. -/
theorem mono (h : Covers done longer shorter) (hle : ∀ a, done a → done' a) :
    Covers done' longer shorter := by
  induction h generalizing done' with
  | nil => exact .nil
  | both _ ih => exact .both (ih fun a ha => ha.imp_right (hle a))
  | again known _ ih => exact .again (hle _ known) (ih hle)

/-- Both queues may grow by the same errands. -/
theorem append (h : Covers done longer shorter) (added : List α) :
    Covers done (longer ++ added) (shorter ++ added) := by
  induction h with
  | nil => exact refl _ added
  | both _ ih => exact .both ih
  | again known _ ih => exact .again known ih

/-- The longer queue may grow by errands that have been done or that both queues hold. -/
theorem append_longer (h : Covers done longer shorter) {added : List α}
    (hadded : ∀ a ∈ added, done a ∨ a ∈ shorter) : Covers done (longer ++ added) shorter := by
  induction h with
  | nil =>
    rw [List.nil_append]
    induction added with
    | nil => exact .nil
    | cons a added ih =>
      have hknown := (hadded a List.mem_cons_self).resolve_right List.not_mem_nil
      exact .again hknown (ih fun other hother => hadded other (List.mem_cons_of_mem _ hother))
  | both _ ih =>
    refine .both (ih ?_)
    intro a ha
    rcases hadded a ha with hdone | hmem
    · exact .inl (.inr hdone)
    · exact (List.mem_cons.mp hmem).imp_left .inl
  | again known _ ih => exact .again known (ih hadded)

/-- Nothing is covered by an empty queue but an empty one. -/
theorem eq_nil (h : Covers done [] shorter) : shorter = [] := by
  cases h
  rfl

end Covers

/-- Records of two graphs say the same, and their maps lead each reference to records of one
location. -/
structure ModuleGraph.Agree (t g : ModuleGraph) (r s : ModuleRecord) : Prop where
  /-- The records are of one location. -/
  location : s.location = r.location
  /-- They have the same references. -/
  references : s.references = r.references
  /-- They have the same code. -/
  code : s.code = r.code
  /-- They have the same references mapped in the same order, to records of the same locations. -/
  targets : List.Forall₂
    (fun (p q : String × Int) => q.1 = p.1 ∧ ∃ (i j : Nat) (u v : ModuleRecord),
      p.2 = i ∧ q.2 = j ∧ t.records[i]? = some u ∧ g.records[j]? = some v ∧
        v.location = u.location)
    r.referenceMap s.referenceMap

namespace Builder

/-- The same builder under a policy. -/
def withPolicy (b : Builder) (policy : IdentityPolicy) : Builder :=
  { b with settings := { b.settings with policy } }

variable {b : Builder} {entry : String} {x y z : Exploration}

/-! ## Errands -/

/-- The errands of a record are those of its location. -/
theorem map_errand_tasksAt (identity : Nat) (v : Visit) :
    (b.tasksAt identity v).map Task.errand =
      (b.compiledAt v.location).references.map fun reference => (v.location, reference) := by
  have hlocation : ∀ t ∈ b.tasksAt identity v, t.errand = (v.location, t.reference) := by
    intro t ht
    obtain ⟨_, _, _, rfl⟩ := mem_tasksAt.mp ht
    rfl
  rw [← map_reference_tasksAt identity v, List.map_map]
  exact List.map_congr_left hlocation

/-- An errand has been done if a reference has been followed on it. -/
def HasDone (x : Exploration) (e : Path × String) : Prop :=
  ∃ l ∈ x.links, l.task.errand = e

/-- An errand that has been done leads to a location with a record. -/
theorem IsConsistent.exists_target (h : b.IsConsistent entry x) {t : Task}
    (hdone : HasDone x t.errand) :
    ∃ location ∈ x.locations, b.target t.location t.reference = .ok location := by
  obtain ⟨l, hl, herrand⟩ := hdone
  obtain ⟨w, hw, htarget⟩ := h.linked l hl
  obtain ⟨hlocation, hreference⟩ := Prod.mk.inj herrand
  rw [hlocation, hreference] at htarget
  exact ⟨w.location, List.mem_map_of_mem (List.mem_of_getElem? hw), htarget⟩

/-- The errands of a location with a record have been done or are pending. -/
theorem IsConsistent.done_or_pending (h : b.IsConsistent entry x) {v : Visit}
    (hv : v.location ∈ x.locations) (identity : Nat) :
    ∀ e ∈ (b.tasksAt identity v).map Task.errand,
      HasDone x e ∨ e ∈ x.pending.map Task.errand := by
  intro e he
  obtain ⟨w, hw, hloc⟩ := List.mem_map.mp hv
  obtain ⟨i, hi⟩ := List.getElem?_of_mem hw
  rw [map_errand_tasksAt, ← hloc, ← map_errand_tasksAt (0 + i)] at he
  obtain ⟨t, ht, rfl⟩ := List.mem_map.mp he
  have hmem : t ∈ b.tasksFrom 0 x.visits := mem_tasksFrom.mpr ⟨i, w, hi, ht⟩
  rw [← h.ledger, List.mem_append] at hmem
  rcases hmem with hlink | hpending
  · obtain ⟨l, hl, rfl⟩ := List.mem_map.mp hlink
    exact .inl ⟨l, hl, rfl⟩
  · exact .inr (List.mem_map_of_mem hpending)

/-! ## One step with a record for each reference -/

/-- The second exploration has come as far as the first one, sharing the records of a location. -/
structure Matches (x y : Exploration) : Prop where
  /-- It has the same locations, each of them once. -/
  locations : y.locations = x.locations.eraseDups
  /-- Its queue is covered by that of the first one. -/
  covers : Covers (HasDone y) (x.pending.map Task.errand) (y.pending.map Task.errand)

/-- The first pending errand has been done, or it comes first in the other queue, too. -/
theorem Matches.next {visits : List Visit} {links : List Link} {t : Task} {pending : List Task}
    (h : Matches ⟨visits, links, t :: pending⟩ y) :
    (HasDone y t.errand ∧
      Covers (HasDone y) (pending.map Task.errand) (y.pending.map Task.errand)) ∨
    ∃ u rest, y.pending = u :: rest ∧ u.errand = t.errand ∧
      Covers (fun e => e = t.errand ∨ HasDone y e) (pending.map Task.errand)
        (rest.map Task.errand) := by
  have hcovers := h.covers
  dsimp only [List.map_cons] at hcovers
  generalize hq : y.pending.map Task.errand = queue at hcovers ⊢
  cases hcovers with
  | both rest =>
    obtain ⟨u, others, hpending, herrand, rfl⟩ := List.map_eq_cons_iff.mp hq
    exact .inr ⟨u, others, hpending, herrand, rest⟩
  | again known rest => exact .inl ⟨known, rest⟩

/-- The second exploration has no more records. -/
theorem Matches.length_le (h : Matches x y) : y.visits.length ≤ x.visits.length := by
  have hle := length_eraseDups_le x.locations
  rw [← h.locations, Exploration.locations, Exploration.locations, List.length_map,
    List.length_map] at hle
  exact hle

/-- What has been done stays done when one more reference has been followed. -/
theorem hasDone_concat {visits visits' : List Visit} {links : List Link} {l : Link}
    {pending pending' : List Task} {e : Path × String}
    (h : e = l.task.errand ∨ HasDone ⟨visits, links, pending⟩ e) :
    HasDone ⟨visits', links ++ [l], pending'⟩ e := by
  rcases h with rfl | ⟨m, hm, herrand⟩
  · exact ⟨l, List.mem_append_right _ List.mem_cons_self, rfl⟩
  · exact ⟨m, List.mem_append_left _ hm, herrand⟩

section Step

variable {visits : List Visit} {links : List Link} {t : Task} {pending : List Task}
  {location : Path}

/-- One more record for a location that has one adds nothing to what has to be done. -/
theorem matches_of_mem (hc : b.IsConsistent entry y)
    (hlocations : y.locations = (visits.map Visit.location).eraseDups)
    (hmem : location ∈ y.locations)
    (hcovers : Covers (HasDone y) (pending.map Task.errand) (y.pending.map Task.errand)) :
    Matches ⟨visits ++ [⟨location, t.walk⟩], links ++ [⟨t, visits.length, false⟩],
      pending ++ b.tasksAt visits.length ⟨location, t.walk⟩⟩ y := by
  refine ⟨?_, ?_⟩
  · rw [Exploration.locations_concat, eraseDups_concat,
      if_pos (List.mem_eraseDups.mp (hlocations ▸ hmem))]
    exact hlocations
  · rw [List.map_append]
    exact hcovers.append_longer (hc.done_or_pending hmem visits.length)

/-- A new record for a location without one is added on both sides. -/
theorem matches_of_not_mem {yvisits : List Visit} {ylinks : List Link} {u : Task}
    {ypending : List Task} (herrand : u.errand = t.errand)
    (hlocations : yvisits.map Visit.location = (visits.map Visit.location).eraseDups)
    (hnew : location ∉ yvisits.map Visit.location)
    (hcovers : Covers (fun e => e = t.errand ∨ HasDone ⟨yvisits, ylinks, u :: ypending⟩ e)
      (pending.map Task.errand) (ypending.map Task.errand)) :
    Matches
      ⟨visits ++ [⟨location, t.walk⟩], links ++ [⟨t, visits.length, false⟩],
        pending ++ b.tasksAt visits.length ⟨location, t.walk⟩⟩
      ⟨yvisits ++ [⟨location, u.walk⟩], ylinks ++ [⟨u, yvisits.length, false⟩],
        ypending ++ b.tasksAt yvisits.length ⟨location, u.walk⟩⟩ := by
  refine ⟨?_, ?_⟩
  · have hnot : location ∉ visits.map Visit.location := by
      rwa [hlocations, List.mem_eraseDups] at hnew
    rw [Exploration.locations_concat, Exploration.locations_concat, eraseDups_concat, if_neg hnot,
      hlocations]
  · rw [List.map_append, List.map_append, map_errand_tasksAt, map_errand_tasksAt]
    refine (hcovers.mono ?_).append _
    intro e he
    rw [← herrand] at he
    exact hasDone_concat he

end Step

/-- A step is matched by a step of the other build, or by nothing. -/
theorem Matches.step (h : Matches x y) (hy : (b.withPolicy .perLocation).Explores entry y)
    (hs : (b.withPolicy .perReference).Step x z) :
    ∃ y', (b.withPolicy .perLocation).Explores entry y' ∧ Matches z y' := by
  cases hs with
  | @seen visits links t pending location identity resolved known =>
    cases (known?_perReference rfl visits location).symm.trans known
  | @fresh visits links t pending location compiled resolved unknown room compiles =>
    rcases h.next with ⟨hdone, hrest⟩ | ⟨u, rest, hpending, herrand, hrest⟩
    · -- The errand has been done, so there is nothing to do.
      obtain ⟨found, hfound, htarget⟩ := hy.isConsistent.exists_target hdone
      obtain rfl : location = found := Except.ok.inj (resolved.symm.trans htarget)
      exact ⟨y, hy, matches_of_mem (b := b.withPolicy .perLocation) hy.isConsistent h.locations
        hfound hrest⟩
    · obtain ⟨yvisits, ylinks, ypending⟩ := y
      dsimp only at hpending
      subst hpending
      obtain ⟨hloc, href⟩ := Prod.mk.inj herrand
      have hresolved : (b.withPolicy .perLocation).target u.location u.reference =
          .ok location := by
        rw [hloc, href]
        exact resolved
      cases hk : (b.withPolicy .perLocation).known? yvisits location with
      | some identity =>
        have hnext := hy.step (.seen hresolved hk)
        refine ⟨_, hnext, matches_of_mem (b := b.withPolicy .perLocation) hnext.isConsistent
          h.locations (mem_of_known? hk) ?_⟩
        refine hrest.mono ?_
        intro e he
        rw [← herrand] at he
        exact hasDone_concat he
      | none =>
        have hroom : yvisits.length < b.settings.maxModules := lt_of_le_of_lt h.length_le room
        have hnew := not_mem_of_known?_eq_none rfl hk
        exact ⟨_, hy.step (.fresh hresolved hk hroom compiles),
          matches_of_not_mem herrand h.locations hnew hrest⟩

/-- Where a build with a record for each reference fails other than at the limit, the other build
fails in the same way. -/
theorem Matches.stops (h : Matches x y) (hy : (b.withPolicy .perLocation).Explores entry y)
    {calls : List Path} {failure : Failure BuildError}
    (hs : (b.withPolicy .perReference).Stops x calls failure)
    (hlimit : ∀ e, failure ≠ .refused (.limit e)) :
    (b.withPolicy .perLocation).Stops y calls failure := by
  cases hs with
  | @unresolved visits links t pending failure failed =>
    rcases h.next with ⟨hdone, _⟩ | ⟨u, rest, hpending, herrand, _⟩
    · obtain ⟨_, _, htarget⟩ := hy.isConsistent.exists_target hdone
      cases failed.symm.trans htarget
    · obtain ⟨yvisits, ylinks, ypending⟩ := y
      dsimp only at hpending
      subst hpending
      obtain ⟨hloc, href⟩ := Prod.mk.inj herrand
      rw [← hloc, ← href] at failed
      exact .unresolved failed
  | full => exact absurd rfl (hlimit _)
  | @refused visits links t pending location failure resolved unknown room failed =>
    rcases h.next with ⟨hdone, _⟩ | ⟨u, rest, hpending, herrand, _⟩
    · obtain ⟨found, hfound, htarget⟩ := hy.isConsistent.exists_target hdone
      obtain rfl : location = found := Except.ok.inj (resolved.symm.trans htarget)
      obtain ⟨compiled, hcompiled⟩ := hy.isConsistent.compiles_location hfound
      cases failed.symm.trans hcompiled
    · obtain ⟨yvisits, ylinks, ypending⟩ := y
      dsimp only at hpending
      subst hpending
      obtain ⟨hloc, href⟩ := Prod.mk.inj herrand
      rw [← hloc, ← href] at resolved
      cases hk : (b.withPolicy .perLocation).known? yvisits location with
      | some identity =>
        obtain ⟨compiled, hcompiled⟩ := hy.isConsistent.compiles_location (mem_of_known? hk)
        cases failed.symm.trans hcompiled
      | none =>
        have hroom : yvisits.length < b.settings.maxModules := lt_of_le_of_lt h.length_le room
        rw [← Task.origin_eq herrand]
        exact .refused resolved hk hroom failed

/-! ## Whole runs -/

/-- Whatever one build goes through is matched in the other one. -/
theorem exists_matched (hx : (b.withPolicy .perReference).Explores entry x) :
    ∃ y, (b.withPolicy .perLocation).Explores entry y ∧ Matches x y := by
  induction hx.steps with
  | refl =>
    refine ⟨(b.withPolicy .perLocation).outset entry, ⟨hx.room, hx.compiles, .refl⟩, ?_, ?_⟩
    · exact (eraseDups_concat [] (b.start entry)).symm
    · exact Covers.refl _ _
  | tail hsteps hs ih =>
    obtain ⟨y, hy, hmatches⟩ := ih ⟨hx.room, hx.compiles, hsteps⟩
    exact hmatches.step hy hs

/-- A build fails where its entry module does not compile. -/
theorem run_of_refused (hroom : 0 < b.settings.maxModules) {failure : Failure FrontendError}
    (hf : b.frontend (b.start entry) = .error failure) :
    (b.run entry).outcome = .error (attributed {} failure) := by
  cases isBuild_run b entry with
  | noRoom noRoom => omega
  | entryRefused _ failed outcome =>
    cases hf.symm.trans failed
    exact outcome
  | stopped explores =>
    obtain ⟨compiled, hcompiled⟩ := explores.compiles
    cases hf.symm.trans hcompiled
  | complete explores =>
    obtain ⟨compiled, hcompiled⟩ := explores.compiles
    cases hf.symm.trans hcompiled

/-- Every record of the longer graph agrees with one of the shorter graph. -/
theorem Matches.exists_agree (h : Matches x y)
    (hx : (b.withPolicy .perReference).Explores entry x)
    (hy : (b.withPolicy .perLocation).Explores entry y) (hxp : x.pending = [])
    (hyp : y.pending = []) {t g : ModuleGraph}
    (ht : t.records = (b.withPolicy .perReference).recordsFrom x.mapOf 0 x.visits)
    (hg : g.records = (b.withPolicy .perLocation).recordsFrom y.mapOf 0 y.visits)
    {r : ModuleRecord} (hr : r ∈ t.records) :
    ∃ s ∈ g.records, t.Agree g r s := by
  rw [ht] at hr
  obtain ⟨i, v, hv, rfl⟩ := exists_visit_of_mem_recordsFrom hr
  have hmem : v.location ∈ y.locations := by
    rw [h.locations, List.mem_eraseDups]
    exact List.mem_map_of_mem (List.mem_of_getElem? hv)
  obtain ⟨w, hw, hloc⟩ := List.mem_map.mp hmem
  obtain ⟨j, hj⟩ := List.getElem?_of_mem hw
  have hs : g.records[j]? = some ((b.withPolicy .perLocation).recordAt j w (y.mapOf j)) := by
    rw [hg, getElem?_recordsFrom, hj, Option.map_some, Nat.zero_add]
  refine ⟨_, List.mem_of_getElem? hs, ?_, ?_, ?_, ?_⟩
  · exact congrArg Path.toString hloc
  · exact congrArg (fun location => (b.compiledAt location).references) hloc
  · exact congrArg (fun location => (b.compiledAt location).code) hloc
  · have hkeys : (x.mapOf i).map Prod.fst = (y.mapOf j).map Prod.fst := by
      have hxkeys := hx.isConsistent.keys_mapOf (Exploration.isSettled_of_pending_nil hxp) hv
      have hykeys := hy.isConsistent.keys_mapOf (Exploration.isSettled_of_pending_nil hyp) hj
      rw [hloc] at hykeys
      exact hxkeys.trans hykeys.symm
    refine forall₂_of_keys hkeys ?_
    rintro ⟨reference, identity⟩ hp ⟨reference', identity'⟩ hq heq
    dsimp only at heq
    subst heq
    obtain ⟨k, u, rfl, hu, hutarget⟩ := hx.isConsistent.exists_of_mem_mapOf hv hp
    obtain ⟨l, z, rfl, hz, hztarget⟩ := hy.isConsistent.exists_of_mem_mapOf hj hq
    rw [hloc] at hztarget
    have hsame : z.location = u.location := Except.ok.inj (hztarget.symm.trans hutarget)
    refine ⟨rfl, k, l, b.recordAt k u (x.mapOf k), b.recordAt l z (y.mapOf l), rfl, rfl, ?_, ?_,
      congrArg Path.toString hsame⟩
    · rw [ht, getElem?_recordsFrom, hu, Option.map_some, Nat.zero_add]
      rfl
    · rw [hg, getElem?_recordsFrom, hz, Option.map_some, Nat.zero_add]
      rfl

/-- The two policies agree up to sharing. Where a build with a record for each reference returns a
graph, one with a record for each location returns the graph in which later records of a location
are left out and the maps lead to the first ones. Where the former fails other than at the limit,
the latter fails in the same way. -/
theorem run_withPolicy (b : Builder) (entry : String) :
    (∀ t, ((b.withPolicy .perReference).run entry).outcome = .ok t →
      ∃ g, ((b.withPolicy .perLocation).run entry).outcome = .ok g ∧
        g.records.map ModuleRecord.location =
          (t.records.map ModuleRecord.location).eraseDups ∧
        ∀ r ∈ t.records, ∃ s ∈ g.records, t.Agree g r s) ∧
    ∀ failure, ((b.withPolicy .perReference).run entry).outcome = .error failure →
      (∀ e, failure ≠ .refused (.limit e)) →
      ((b.withPolicy .perLocation).run entry).outcome = .error failure := by
  constructor
  · intro t ht
    obtain ⟨x, hx, hxp, hxrecords, _, _⟩ := exists_explores_of_ok ht
    obtain ⟨y, hy, hmatches⟩ := exists_matched hx
    have hyp : y.pending = [] := by
      have hcovers := hmatches.covers
      rw [hxp] at hcovers
      exact List.map_eq_nil_iff.mp hcovers.eq_nil
    obtain ⟨g, hg, hyrecords⟩ := hy.run_complete hyp
    refine ⟨g, hg, ?_, ?_⟩
    · rw [hxrecords, hyrecords, map_location_recordsFrom, map_location_recordsFrom]
      have hinj : ∀ l ∈ x.locations, ∀ m ∈ x.locations, l.toString = m.toString → l = m := by
        intro l hl m hm heq
        exact (Path.toString_inj (hx.isCanonical hl) (hx.isCanonical hm)).mp heq
      have hmap := eraseDups_map hinj
      rw [← hmatches.locations] at hmap
      exact hmap.symm
    · intro r hr
      exact hmatches.exists_agree hx hy hxp hyp hxrecords hyrecords hr
  · intro failure hf hlimit
    cases isBuild_run (b.withPolicy .perReference) entry with
    | noRoom _ outcome =>
      cases hf.symm.trans outcome
      exact absurd rfl (hlimit _)
    | entryRefused room failed outcome =>
      cases hf.symm.trans outcome
      exact run_of_refused (b := b.withPolicy .perLocation) room failed
    | stopped explores stops outcome =>
      cases hf.symm.trans outcome
      obtain ⟨y, hy, hmatches⟩ := exists_matched explores
      exact (hy.run_stops (hmatches.stops hy stops hlimit)).1
    | complete _ _ outcome => cases hf.symm.trans outcome

/-- Of the four records of a module and three references to another one, two are left. -/
theorem run_withPolicy_twoSpellings :
    ∃ t g, (((twoSpellings .perLocation 4).withPolicy .perReference).run "a").outcome = .ok t ∧
      (((twoSpellings .perLocation 4).withPolicy .perLocation).run "a").outcome = .ok g ∧
      t.records.map ModuleRecord.location = ["/a", "/b", "/b", "/b"] ∧
      g.records.map ModuleRecord.location = ["/a", "/b"] ∧
      ∀ r ∈ t.records, ∃ s ∈ g.records, t.Agree g r s := by
  have hrun :
      (((twoSpellings .perLocation 4).withPolicy .perReference).run "a").outcome.toOption.map
        (fun g => g.records.map ModuleRecord.location) = some ["/a", "/b", "/b", "/b"] := by
    cbv
  obtain ⟨t, ht, htlocations⟩ := exists_graph_of_map hrun
  have hagree := (run_withPolicy (twoSpellings .perLocation 4) "a").1
  obtain ⟨g, hg, hglocations, hall⟩ := hagree t ht
  refine ⟨t, g, ht, hg, htlocations, ?_, hall⟩
  rw [hglocations, htlocations]
  decide

end Builder

end Bundler
