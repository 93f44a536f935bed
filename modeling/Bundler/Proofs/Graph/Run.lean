import Bundler.Proofs.Graph.Exploration

/-!
# Builds as explorations

The loop of a build processes a queue of records, and the references of each record in order. Here
it is shown to do what the steps of an exploration do: the state of a build describes the
exploration reached, and the outcome is given by where no further step is possible. The number of
rounds that the loop is given is never used up.
-/

set_option autoImplicit false

namespace Bundler

/-- The location that is about to be compiled. -/
def BuildEvent.compiled? : BuildEvent → Option Path
  | .compiling location => some location
  | _ => none

/-- The identity and the location of a record that has been created. -/
def BuildEvent.created? : BuildEvent → Option (Nat × String)
  | .created identity location => some (identity, location)
  | _ => none

/-- The identity of a referring record, the reference, the identity that it leads to, and whether
that record was there before. -/
def BuildEvent.linked? : BuildEvent → Option (Nat × String × Nat × Bool)
  | .linked identity reference target seen => some (identity, reference, target, seen)
  | _ => none

/-- The locations for which the frontend was called, in order. -/
def BuildRun.calls (r : BuildRun) : List Path :=
  r.events.filterMap BuildEvent.compiled?

/-- The records that were created, in order. -/
def BuildRun.created (r : BuildRun) : List (Nat × String) :=
  r.events.filterMap BuildEvent.created?

/-- The references that were followed, in order. -/
def BuildRun.links (r : BuildRun) : List (Nat × String × Nat × Bool) :=
  r.events.filterMap BuildEvent.linked?

/-- The records of an exploration as their creation is noted. -/
def Exploration.noted (x : Exploration) : List (Nat × String) :=
  x.visits.mapIdx fun identity v => (identity, v.location.toString)

/-- A link as it is noted. -/
def Link.noted (l : Link) : Nat × String × Nat × Bool :=
  (l.task.source, l.task.reference, l.target, l.seen)

/-- The targets of links under their references. Where several links have one reference, the last
one counts. -/
def targetsOf (links : List Link) : List (String × Int) :=
  links.foldl (fun targets l => setEntry targets l.task.reference l.target) []

/-- The links that lead from a record. -/
def Exploration.linksFrom (x : Exploration) (identity : Nat) : List Link :=
  x.links.filter (·.task.source = identity)

/-- The targets of the references of a record as far as they have been followed. -/
def Exploration.mapOf (x : Exploration) (identity : Nat) : List (String × Int) :=
  targetsOf (x.linksFrom identity)

/-- The record of a visit. -/
def Builder.recordAt (b : Builder) (identity : Nat) (v : Visit)
    (referenceMap : List (String × Int)) : ModuleRecord where
  identity := identity
  location := v.location.toString
  references := (b.compiledAt v.location).references
  code := (b.compiledAt v.location).code
  referenceMap := referenceMap

/-- The records of visits with successive identities. -/
def Builder.recordsFrom (b : Builder) (maps : Nat → List (String × Int)) (identity : Nat) :
    List Visit → List ModuleRecord
  | [] => []
  | v :: rest =>
    b.recordAt identity v (maps identity) :: b.recordsFrom maps (identity + 1) rest

/-- What the state of a build tells about an exploration. The frontend may have been called for
further locations, without success. -/
structure Exploration.IsDescribedBy (x : Exploration) (calls : List Path) (s : BuildState) :
    Prop where
  /-- Every record has an identity. -/
  allocated : s.allocator.allocated = x.visits.length
  /-- The index holds the least identity of every location. -/
  index : ∀ name, s.index.get? name = (x.locations.map Path.toString).idxOf? name
  /-- The frontend was called once for every record, in order. -/
  calls : s.events.reverse.filterMap BuildEvent.compiled? = x.locations ++ calls
  /-- The creation of every record has been noted. -/
  created : s.events.reverse.filterMap BuildEvent.created? = x.noted
  /-- The links have been noted. -/
  links : s.events.reverse.filterMap BuildEvent.linked? = x.links.map Link.noted
  /-- The end has not been noted. -/
  unfinished : ∀ size name, BuildEvent.built size name ∉ s.events

namespace Builder

variable {b : Builder} {entry : String} {x y : Exploration}

/-! ## The steps of the loop -/

section Steps

variable {s s' : BuildState} {location : Path} {origin : Origin} {record child : ModuleRecord}
  {targets : List (String × Int)} {reference : String} {rest : List String}

/-- An event is noted in front of the earlier ones. -/
theorem note_eq (e : BuildEvent) : note e s = .ok () { s with events := e :: s.events } := rfl

/-- No record is created beyond the limit, and the frontend is not called. -/
theorem createRecord_full (h : b.settings.maxModules ≤ s.allocator.allocated) :
    b.createRecord location origin s =
      .error (.refused (.limit ⟨b.settings.maxModules, origin⟩)) s := by
  unfold createRecord
  simp only [bind, EStateM.bind, get, getThe, MonadStateOf.get, EStateM.get, h, if_true]
  rfl

/-- No record is created for a module that does not compile. -/
theorem createRecord_refused {failure : Failure FrontendError}
    (h : s.allocator.allocated < b.settings.maxModules)
    (hf : b.frontend location = .error failure) :
    b.createRecord location origin s =
      .error (attributed origin failure) { s with events := .compiling location :: s.events } := by
  have hroom : ¬ b.settings.maxModules ≤ s.allocator.allocated := Nat.not_le.mpr h
  unfold createRecord
  simp only [bind, EStateM.bind, get, getThe, MonadStateOf.get, EStateM.get, hroom, if_false, hf]
  rfl

/-- A record is created for a module that compiles. -/
theorem createRecord_ok {compiled : CompiledModule}
    (h : s.allocator.allocated < b.settings.maxModules)
    (hf : b.frontend location = .ok compiled) :
    b.createRecord location origin s =
      .ok { identity := s.allocator.allocated, location := location.toString,
            references := compiled.references, code := compiled.code }
        { allocator := ⟨s.allocator.allocated + 1⟩
          index := s.index.add location.toString s.allocator.allocated
          events := .created s.allocator.allocated location.toString :: .compiling location ::
            s.events } := by
  have hroom : ¬ b.settings.maxModules ≤ s.allocator.allocated := Nat.not_le.mpr h
  unfold createRecord
  simp only [bind, EStateM.bind, get, getThe, MonadStateOf.get, EStateM.get, hroom, if_false, hf]
  rfl

/-- A record is created only where there is room for it, and for a module that compiles. -/
theorem exists_compiled_of_createRecord (h : b.createRecord location origin s = .ok record s') :
    s.allocator.allocated < b.settings.maxModules ∧
      ∃ compiled, b.frontend location = .ok compiled := by
  have hroom : s.allocator.allocated < b.settings.maxModules := by
    by_contra hnone
    rw [createRecord_full (Nat.le_of_not_lt hnone)] at h
    cases h
  refine ⟨hroom, ?_⟩
  cases hf : b.frontend location with
  | error failure =>
    rw [createRecord_refused hroom hf] at h
    cases h
  | ok compiled => exact ⟨compiled, rfl⟩

variable (hr : resolve b.disk (Path.ofString record.location).parent reference record.location
  b.settings.suffixes = .ok location)

/-- A reference that leads nowhere ends the round. -/
theorem resolveReferences_unresolved {failure : Failure ResolutionError}
    (hr : resolve b.disk (Path.ofString record.location).parent reference record.location
      b.settings.suffixes = .error failure) :
    b.resolveReferences record targets (reference :: rest) s =
      .error (failure.map .resolution) s := by
  rw [resolveReferences]
  simp only [hr]
  rfl

include hr in
/-- A reference to a record that it may share is noted, and the round goes on. -/
theorem resolveReferences_seen {identity : Nat}
    (hk : (if b.settings.policy = .perLocation then s.index.get? location.toString else none) =
      some identity) :
    b.resolveReferences record targets (reference :: rest) s =
      b.resolveReferences record (setEntry targets reference identity) rest
        { s with events := .linked record.identity reference identity true :: s.events } := by
  rw [resolveReferences]
  simp only [hr, bind, EStateM.bind, get, getThe, MonadStateOf.get, EStateM.get, hk]
  rfl

variable (hk : (if b.settings.policy = .perLocation then s.index.get? location.toString
  else none) = none)

include hr hk in
/-- A round ends where a record cannot be created. -/
theorem resolveReferences_refused {failure : Failure BuildError}
    (hc : b.createRecord location ⟨some reference, some record.location⟩ s = .error failure s') :
    b.resolveReferences record targets (reference :: rest) s = .error failure s' := by
  rw [resolveReferences]
  simp only [hr, bind, EStateM.bind, get, getThe, MonadStateOf.get, EStateM.get, hk, hc]

include hr hk in
/-- A record that is created comes first among those that the round creates. -/
theorem resolveReferences_fresh {s'' : BuildState} {targets' : List (String × Int)}
    {created : List ModuleRecord}
    (hc : b.createRecord location ⟨some reference, some record.location⟩ s = .ok child s')
    (hrest : b.resolveReferences record (setEntry targets reference child.identity) rest
      { s' with
        events := .linked record.identity reference child.identity false :: s'.events } =
      .ok (targets', created) s'') :
    b.resolveReferences record targets (reference :: rest) s =
      .ok (targets', child :: created) s'' := by
  rw [resolveReferences]
  simp only [hr, bind, EStateM.bind, get, getThe, MonadStateOf.get, EStateM.get, hk, hc, note_eq,
    hrest]
  rfl

include hr hk in
/-- A round fails after the creation of a record where its rest fails. -/
theorem resolveReferences_fresh_error {s'' : BuildState} {failure : Failure BuildError}
    (hc : b.createRecord location ⟨some reference, some record.location⟩ s = .ok child s')
    (hrest : b.resolveReferences record (setEntry targets reference child.identity) rest
      { s' with
        events := .linked record.identity reference child.identity false :: s'.events } =
      .error failure s'') :
    b.resolveReferences record targets (reference :: rest) s = .error failure s'' := by
  rw [resolveReferences]
  simp only [hr, bind, EStateM.bind, get, getThe, MonadStateOf.get, EStateM.get, hk, hc, note_eq,
    hrest]

end Steps

/-! ## Records, maps and the index -/

/-- The records of two lists of visits, one after the other. -/
theorem recordsFrom_append (maps : Nat → List (String × Int)) (identity : Nat)
    (first second : List Visit) :
    b.recordsFrom maps identity (first ++ second) =
      b.recordsFrom maps identity first ++
        b.recordsFrom maps (identity + first.length) second := by
  induction first generalizing identity with
  | nil => rfl
  | cons v first ih =>
    rw [List.cons_append, recordsFrom, recordsFrom, ih, List.cons_append, List.length_cons,
      Nat.add_assoc, Nat.add_comm 1]

/-- Records depend on the maps of their own identities only. -/
theorem recordsFrom_congr {maps maps' : Nat → List (String × Int)} {identity : Nat}
    {visits : List Visit}
    (h : ∀ i, identity ≤ i → i < identity + visits.length → maps i = maps' i) :
    b.recordsFrom maps identity visits = b.recordsFrom maps' identity visits := by
  induction visits generalizing identity with
  | nil => rfl
  | cons v rest ih =>
    rw [recordsFrom, recordsFrom, h identity (Nat.le_refl _) (by simp)]
    rw [ih fun i hlo hhi => h i (by omega) (by simp only [List.length_cons]; omega)]

/-- Following one more reference extends the map of its own record. -/
theorem mapOf_concat (visits visits' : List Visit) (links : List Link) (l : Link)
    (pending pending' : List Task) (identity : Nat) :
    Exploration.mapOf ⟨visits', links ++ [l], pending'⟩ identity =
      if l.task.source = identity then
        setEntry (Exploration.mapOf ⟨visits, links, pending⟩ identity) l.task.reference l.target
      else Exploration.mapOf ⟨visits, links, pending⟩ identity := by
  unfold Exploration.mapOf Exploration.linksFrom targetsOf
  rw [List.filter_append, List.foldl_append]
  by_cases h : l.task.source = identity <;> simp [h]

/-- Canonical locations stand where their texts stand. -/
theorem idxOf?_map_toString {locations : List Path} {location : Path}
    (hall : ∀ other ∈ locations, other.IsCanonical) (h : location.IsCanonical) :
    (locations.map Path.toString).idxOf? location.toString = locations.idxOf? location := by
  induction locations with
  | nil => rfl
  | cons first rest ih =>
    have hfirst := hall first List.mem_cons_self
    have hrest := ih fun other hother => hall other (List.mem_cons_of_mem _ hother)
    rw [List.map_cons, List.idxOf?_cons, List.idxOf?_cons, hrest]
    simp only [beq_iff_eq, Path.toString_inj hfirst h]

/-- Every location with a record is canonical. -/
theorem Explores.isCanonical (h : b.Explores entry x) {location : Path}
    (hl : location ∈ x.locations) : location.IsCanonical := by
  obtain ⟨v, hv, rfl⟩ := List.mem_map.mp hl
  exact (h.reaches hv).isCanonical

/-- The index of a build finds the record that a reference may share. -/
theorem index_eq_known? {s : BuildState} {calls : List Path} (hx : b.Explores entry x)
    (hs : x.IsDescribedBy calls s) {location : Path} (h : location.IsCanonical) :
    (if b.settings.policy = .perLocation then s.index.get? location.toString else none) =
      b.known? x.visits location := by
  unfold known?
  rw [hs.index, idxOf?_map_toString (fun _ => hx.isCanonical) h]
  rfl

/-- Sharing a record is noted. -/
theorem isDescribedBy_seen {s : BuildState} {visits : List Visit} {links : List Link} {t : Task}
    {pending : List Task} {identity : Nat}
    (h : Exploration.IsDescribedBy ⟨visits, links, t :: pending⟩ [] s) :
    Exploration.IsDescribedBy ⟨visits, links ++ [⟨t, identity, true⟩], pending⟩ []
      { s with events := .linked t.source t.reference identity true :: s.events } where
  allocated := h.allocated
  index := h.index
  calls := by
    rw [List.reverse_cons, List.filterMap_append, h.calls]
    simp [Exploration.locations, BuildEvent.compiled?]
  created := by
    rw [List.reverse_cons, List.filterMap_append, h.created]
    exact List.append_nil _
  links := by
    rw [List.reverse_cons, List.filterMap_append, h.links, List.map_append]
    rfl
  unfinished := by
    intro size name hmem
    rcases List.mem_cons.mp hmem with hmem | hmem
    · cases hmem
    · exact h.unfinished size name hmem

/-- Creating a record and leading the reference there is noted. -/
theorem isDescribedBy_fresh {s : BuildState} {visits : List Visit} {links : List Link} {t : Task}
    {pending : List Task} {location : Path}
    (h : Exploration.IsDescribedBy ⟨visits, links, t :: pending⟩ [] s) :
    Exploration.IsDescribedBy
      ⟨visits ++ [⟨location, t.walk⟩], links ++ [⟨t, visits.length, false⟩],
        pending ++ b.tasksAt visits.length ⟨location, t.walk⟩⟩ []
      { allocator := ⟨s.allocator.allocated + 1⟩
        index := s.index.add location.toString s.allocator.allocated
        events := .linked t.source t.reference s.allocator.allocated false ::
          .created s.allocator.allocated location.toString :: .compiling location ::
            s.events } where
  allocated := by
    rw [h.allocated, List.length_append, List.length_singleton]
  index := by
    intro name
    rw [LocationIndex.get?_add, h.index, h.index, h.allocated]
    simp only [Exploration.locations, List.map_append, List.map_cons, List.map_nil,
      idxOf?_concat, List.length_map]
  calls := by
    rw [List.reverse_cons, List.reverse_cons, List.reverse_cons, List.filterMap_append,
      List.filterMap_append, List.filterMap_append, h.calls]
    simp [Exploration.locations, BuildEvent.compiled?]
  created := by
    rw [List.reverse_cons, List.reverse_cons, List.reverse_cons, List.filterMap_append,
      List.filterMap_append, List.filterMap_append, h.created, h.allocated]
    simp [Exploration.noted, List.filterMap_cons, BuildEvent.created?, List.mapIdx_concat]
  links := by
    rw [List.reverse_cons, List.reverse_cons, List.reverse_cons, List.filterMap_append,
      List.filterMap_append, List.filterMap_append, h.links, h.allocated]
    simp [List.filterMap_cons, BuildEvent.linked?, Link.noted]
  unfinished := by
    intro size name hmem
    simp only [List.mem_cons, reduceCtorEq, false_or] at hmem
    exact h.unfinished size name hmem

/-- A call of the frontend without success is noted. -/
theorem isDescribedBy_refused {s : BuildState} (h : x.IsDescribedBy [] s) (location : Path) :
    x.IsDescribedBy [location] { s with events := .compiling location :: s.events } where
  allocated := h.allocated
  index := h.index
  calls := by
    rw [List.reverse_cons, List.filterMap_append, h.calls]
    simp [BuildEvent.compiled?]
  created := by
    rw [List.reverse_cons, List.filterMap_append, h.created]
    exact List.append_nil _
  links := by
    rw [List.reverse_cons, List.filterMap_append, h.links]
    simp [List.filterMap_cons, BuildEvent.linked?]
  unfinished := by
    intro size name hmem
    rcases List.mem_cons.mp hmem with hmem | hmem
    · cases hmem
    · exact h.unfinished size name hmem

/-! ## Rounds of the loop -/

/-- How a round of the loop ends, which follows the references of one record. -/
inductive IsRound (b : Builder) (entry : String) (identity : Nat) (x : Exploration)
    (others : List Task) :
    EStateM.Result (Failure BuildError) BuildState (List (String × Int) × List ModuleRecord) →
      Prop where
  /-- All references have been followed, and those of the new records are pending. -/
  | done {y : Exploration} {s : BuildState} {new : List Visit}
      (explores : b.Explores entry y) (described : y.IsDescribedBy [] s)
      (visits : y.visits = x.visits ++ new)
      (pending : y.pending = others ++ b.tasksFrom x.visits.length new)
      (maps : ∀ i, i ≠ identity → y.mapOf i = x.mapOf i) :
      IsRound b entry identity x others
        (.ok (y.mapOf identity, b.recordsFrom (fun _ => []) x.visits.length new) s)
  /-- One reference could not be followed. -/
  | stopped {y : Exploration} {s : BuildState} {calls : List Path} {failure : Failure BuildError}
      (explores : b.Explores entry y) (stops : b.Stops y calls failure)
      (described : y.IsDescribedBy calls s) :
      IsRound b entry identity x others (.error failure s)

section Round

variable {visits : List Visit} {links : List Link} {t : Task} {rest others : List Task}
  {record : ModuleRecord} {s : BuildState} {found : Path}

/-- A round that begins with a shared record. -/
theorem isRound_seen {identity target : Nat} (hsource : t.source = identity)
    {result : EStateM.Result (Failure BuildError) BuildState
      (List (String × Int) × List ModuleRecord)}
    (h : b.IsRound entry identity ⟨visits, links ++ [⟨t, target, true⟩], rest ++ others⟩ others
      result) :
    b.IsRound entry identity ⟨visits, links, t :: (rest ++ others)⟩ others result := by
  cases h with
  | done explores described hv hp maps =>
    refine .done explores described hv hp fun i hi => ?_
    rw [maps i hi, mapOf_concat visits _ links _ (t :: (rest ++ others))]
    exact if_neg (hsource ▸ Ne.symm hi)
  | stopped explores stops described => exact .stopped explores stops described

/-- A round that begins with a new record. -/
theorem isRound_fresh {compiled : CompiledModule} {index : LocationIndex Nat}
    {events : List BuildEvent} (hsource : t.source = record.identity)
    (hr : resolve b.disk (Path.ofString record.location).parent t.reference record.location
      b.settings.suffixes = .ok found)
    (hk : (if b.settings.policy = .perLocation then index.get? found.toString else none) = none)
    (hroom : visits.length < b.settings.maxModules) (hf : b.frontend found = .ok compiled)
    (h : b.IsRound entry record.identity
      ⟨visits ++ [⟨found, t.walk⟩], links ++ [⟨t, visits.length, false⟩],
        rest ++ others ++ b.tasksAt visits.length ⟨found, t.walk⟩⟩
      (others ++ b.tasksAt visits.length ⟨found, t.walk⟩)
      (b.resolveReferences record
        (setEntry (Exploration.mapOf ⟨visits, links, t :: (rest ++ others)⟩ record.identity)
          t.reference visits.length)
        (rest.map Task.reference)
        { allocator := ⟨visits.length + 1⟩
          index := index.add found.toString visits.length
          events := .linked record.identity t.reference visits.length false ::
            .created visits.length found.toString :: .compiling found :: events })) :
    b.IsRound entry record.identity ⟨visits, links, t :: (rest ++ others)⟩ others
      (b.resolveReferences record
        (Exploration.mapOf ⟨visits, links, t :: (rest ++ others)⟩ record.identity)
        (t.reference :: rest.map Task.reference) ⟨⟨visits.length⟩, index, events⟩) := by
  have hcreate : b.createRecord found ⟨some t.reference, some record.location⟩
      ⟨⟨visits.length⟩, index, events⟩ = _ := createRecord_ok hroom hf
  generalize hresult : b.resolveReferences record (setEntry _ t.reference _) _ _ = result at h
  cases h with
  | @done y s new explores described hv hp maps =>
    rw [resolveReferences_fresh hr hk hcreate hresult]
    have hnew : y.visits = visits ++ (⟨found, t.walk⟩ :: new) := by
      rw [hv, List.append_assoc]
      rfl
    have hpending : y.pending = others ++ b.tasksFrom visits.length (⟨found, t.walk⟩ :: new) := by
      rw [hp, List.append_assoc, tasksFrom, List.length_append, List.length_singleton]
    have hrecords : b.recordsFrom (fun _ => []) visits.length (⟨found, t.walk⟩ :: new) =
        { identity := visits.length, location := found.toString,
          references := compiled.references, code := compiled.code } ::
          b.recordsFrom (fun _ => []) (visits ++ [(⟨found, t.walk⟩ : Visit)]).length new := by
      rw [recordsFrom, recordAt, compiledAt_eq hf, List.length_append, List.length_singleton]
    rw [← hrecords]
    refine .done explores described hnew hpending fun i hi => ?_
    rw [maps i hi, mapOf_concat visits _ links _ (t :: (rest ++ others))]
    exact if_neg (hsource ▸ Ne.symm hi)
  | stopped explores stops described =>
    rw [resolveReferences_fresh_error hr hk hcreate hresult]
    exact .stopped explores stops described

end Round

/-- A round follows the references of a record, or stops at one of them. -/
theorem isRound_resolveReferences {record : ModuleRecord} {location : Path}
    (hloc : record.location = location.toString) (hcanonical : location.IsCanonical)
    (tasks others : List Task) (x : Exploration) (s : BuildState)
    (htasks : ∀ t ∈ tasks, t.source = record.identity ∧ t.location = location)
    (hx : b.Explores entry x) (hpending : x.pending = tasks ++ others)
    (hs : x.IsDescribedBy [] s) :
    b.IsRound entry record.identity x others
      (b.resolveReferences record (x.mapOf record.identity) (tasks.map Task.reference) s) := by
  induction tasks generalizing others x s with
  | nil =>
    have hdone : b.IsRound entry record.identity x others
        (.ok (x.mapOf record.identity, b.recordsFrom (fun _ => []) x.visits.length []) s) :=
      .done hx hs (List.append_nil _).symm (by simpa [tasksFrom] using hpending) fun _ _ => rfl
    exact hdone
  | cons t rest ih =>
    obtain ⟨visits, links, pending⟩ := x
    dsimp only [List.cons_append] at hpending
    subst hpending
    obtain ⟨⟨allocated⟩, index, events⟩ := s
    obtain rfl : allocated = visits.length := hs.allocated
    obtain ⟨hsource, htloc⟩ := htasks t List.mem_cons_self
    have hrest : ∀ t ∈ rest, t.source = record.identity ∧ t.location = location :=
      fun t ht => htasks t (List.mem_cons_of_mem _ ht)
    -- The loop resolves a reference from the text of the location, a task from the location.
    have hresolve : resolve b.disk (Path.ofString record.location).parent t.reference
        record.location b.settings.suffixes = b.target t.location t.reference := by
      rw [hloc, Path.ofString_toString hcanonical, ← htloc]
      rfl
    have horigin : t.origin = ⟨some t.reference, some record.location⟩ := by
      rw [Task.origin, hloc, htloc]
    rw [List.map_cons]
    cases ht : b.target t.location t.reference with
    | error failure =>
      rw [resolveReferences_unresolved (hresolve.trans ht)]
      exact .stopped hx (.unresolved ht) hs
    | ok found =>
      have hr := hresolve.trans ht
      have hindex := index_eq_known? hx hs (isCanonical_of_resolve ht)
      cases hk : b.known? visits found with
      | some identity =>
        have hnext := ih others _ _ hrest (hx.step (.seen ht hk)) rfl (isDescribedBy_seen hs)
        rw [mapOf_concat visits _ links _ (t :: (rest ++ others)), if_pos hsource, hsource] at hnext
        rw [resolveReferences_seen hr (hindex.trans hk)]
        exact isRound_seen hsource hnext
      | none =>
        have hkindex := hindex.trans hk
        by_cases hroom : visits.length < b.settings.maxModules
        · cases hf : b.frontend found with
          | error failure =>
            rw [resolveReferences_refused hr hkindex (createRecord_refused hroom hf), ← horigin]
            exact .stopped hx (.refused ht hk hroom hf) (isDescribedBy_refused hs found)
          | ok compiled =>
            have hnext := ih (others ++ b.tasksAt visits.length ⟨found, t.walk⟩) _ _ hrest
              (hx.step (.fresh ht hk hroom hf)) (List.append_assoc _ _ _)
              (isDescribedBy_fresh hs)
            rw [mapOf_concat visits _ links _ (t :: (rest ++ others)), if_pos hsource,
              hsource] at hnext
            exact isRound_fresh hsource hr hkindex hroom hf hnext
        · have hfull := Nat.le_of_not_lt hroom
          rw [resolveReferences_refused hr hkindex (createRecord_full hfull), ← horigin]
          exact .stopped hx (.full ht hk hfull) hs

/-! ## The whole loop -/

/-- How the loop ends. -/
inductive IsLoop (b : Builder) (entry : String) :
    EStateM.Result (Failure BuildError) BuildState (List ModuleRecord) → Prop where
  /-- All references of all records have been followed. -/
  | done {y : Exploration} {s : BuildState} (explores : b.Explores entry y)
      (finished : y.pending = []) (described : y.IsDescribedBy [] s) :
      IsLoop b entry (.ok (b.recordsFrom y.mapOf 0 y.visits) s)
  /-- One reference could not be followed. -/
  | stopped {y : Exploration} {s : BuildState} {calls : List Path} {failure : Failure BuildError}
      (explores : b.Explores entry y) (stops : b.Stops y calls failure)
      (described : y.IsDescribedBy calls s) :
      IsLoop b entry (.error failure s)

/-- A record is processed by a round. -/
theorem processQueue_done {rounds : Nat} {done queue created : List ModuleRecord}
    {record : ModuleRecord} {referenceMap : List (String × Int)} {s s' : BuildState}
    (h : b.resolveReferences record [] record.references s = .ok (referenceMap, created) s') :
    b.processQueue (rounds + 1) done (record :: queue) s =
      b.processQueue rounds ({ record with referenceMap } :: done) (queue ++ created) s' := by
  rw [processQueue]
  simp only [bind, EStateM.bind, h]

/-- The loop fails where a round fails. -/
theorem processQueue_stopped {rounds : Nat} {done queue : List ModuleRecord}
    {record : ModuleRecord} {s s' : BuildState} {failure : Failure BuildError}
    (h : b.resolveReferences record [] record.references s = .error failure s') :
    b.processQueue (rounds + 1) done (record :: queue) s = .error failure s' := by
  rw [processQueue]
  simp only [bind, EStateM.bind, h]

/-- The source of a reference is one of the records. -/
theorem source_lt_of_mem_tasksFrom {identity : Nat} {visits : List Visit} {t : Task}
    (h : t ∈ b.tasksFrom identity visits) : t.source < identity + visits.length := by
  obtain ⟨i, v, hv, hmem⟩ := mem_tasksFrom.mp h
  obtain ⟨_, _, _, rfl⟩ := mem_tasksAt.mp hmem
  have hi := (List.getElem?_eq_some_iff.mp hv).1
  exact Nat.add_lt_add_left hi identity

/-- The loop is between two rounds: the `old` records of an exploration have been processed, and the
references of the `waiting` ones are pending. -/
structure IsBetween (b : Builder) (entry : String) (old waiting : List Visit) (x : Exploration)
    (s : BuildState) : Prop where
  /-- The build has come that far. -/
  explores : b.Explores entry x
  /-- All records have been processed or wait. -/
  visits : x.visits = old ++ waiting
  /-- No reference of a waiting record has been followed. -/
  pending : x.pending = b.tasksFrom old.length waiting
  /-- The state tells about the exploration. -/
  described : x.IsDescribedBy [] s

section Between

variable {old waiting : List Visit} {v : Visit} {s s' : BuildState}

/-- The references that have been followed are those of the processed records. -/
theorem IsBetween.map_task_links (h : b.IsBetween entry old waiting x s) :
    x.links.map Link.task = b.tasksFrom 0 old := by
  have hledger := h.explores.isConsistent.ledger
  rw [h.pending, h.visits, tasksFrom_append, Nat.zero_add, List.append_left_inj] at hledger
  exact hledger

/-- Nothing has been followed from a record that waits. -/
theorem IsBetween.mapOf_eq_nil (h : b.IsBetween entry old waiting x s) {i : Nat}
    (hi : old.length ≤ i) : x.mapOf i = [] := by
  have hnone : x.linksFrom i = [] := by
    rw [Exploration.linksFrom, List.filter_eq_nil_iff]
    intro l hl hsource
    have hmem : l.task ∈ b.tasksFrom 0 old := by
      rw [← h.map_task_links]
      exact List.mem_map_of_mem hl
    have hlt := source_lt_of_mem_tasksFrom hmem
    simp only [decide_eq_true_eq] at hsource
    omega
  rw [Exploration.mapOf, hnone]
  rfl

/-- The loop ends when no record waits. -/
theorem IsBetween.isLoop (h : b.IsBetween entry old [] x s) (rounds : Nat) :
    b.IsLoop entry
      (b.processQueue rounds (b.recordsFrom x.mapOf 0 old).reverse
        (b.recordsFrom (fun _ => []) old.length []) s) := by
  have hdone := IsLoop.done h.explores h.pending h.described
  rw [h.visits, List.append_nil] at hdone
  rw [recordsFrom, processQueue, List.reverse_reverse]
  exact hdone

/-- The first record that waits is processed by a round. -/
theorem IsBetween.isRound {rest : List Visit} (h : b.IsBetween entry old (v :: rest) x s) :
    b.IsRound entry old.length x (b.tasksFrom (old.length + 1) rest)
      (b.resolveReferences (b.recordAt old.length v []) []
        (b.recordAt old.length v []).references s) := by
  have hin : v ∈ x.visits := by
    rw [h.visits]
    exact List.mem_append_right _ List.mem_cons_self
  have hloc : (b.recordAt old.length v []).location = v.location.toString := rfl
  have htasks : ∀ t ∈ b.tasksAt old.length v,
      t.source = (b.recordAt old.length v []).identity ∧ t.location = v.location := by
    intro t ht
    obtain ⟨_, _, _, rfl⟩ := mem_tasksAt.mp ht
    exact ⟨rfl, rfl⟩
  have hround := isRound_resolveReferences hloc (h.explores.reaches hin).isCanonical
    (b.tasksAt old.length v) (b.tasksFrom (old.length + 1) rest) x s htasks h.explores h.pending
    h.described
  have hmap : x.mapOf (b.recordAt old.length v []).identity = [] := h.mapOf_eq_nil (Nat.le_refl _)
  have hreferences : (b.tasksAt old.length v).map Task.reference =
      (b.recordAt old.length v []).references := map_reference_tasksAt old.length v
  rw [hmap, hreferences] at hround
  exact hround

/-- After a round its record has been processed, and the new records wait behind the others. -/
theorem IsBetween.next {rest new : List Visit} (h : b.IsBetween entry old (v :: rest) x s)
    (explores : b.Explores entry y) (described : y.IsDescribedBy [] s')
    (visits : y.visits = x.visits ++ new)
    (pending : y.pending =
      b.tasksFrom (old.length + 1) rest ++ b.tasksFrom x.visits.length new) :
    b.IsBetween entry (old ++ [v]) (rest ++ new) y s' := by
  refine ⟨explores, ?_, ?_, described⟩
  · rw [visits, h.visits, List.append_assoc, List.append_assoc]
    rfl
  · have hlength : x.visits.length = old.length + 1 + rest.length := by
      rw [h.visits, List.length_append, List.length_cons]
      omega
    rw [pending, hlength, tasksFrom_append, List.length_append, List.length_singleton]

/-- A round processes the first record that waits, and the records that it creates come last. -/
theorem IsBetween.exists_next {rest : List Visit} {referenceMap : List (String × Int)}
    {created : List ModuleRecord} (h : b.IsBetween entry old (v :: rest) x s)
    (hround : b.resolveReferences (b.recordAt old.length v []) []
      (b.recordAt old.length v []).references s = .ok (referenceMap, created) s') :
    ∃ (y : Exploration) (new : List Visit), b.IsBetween entry (old ++ [v]) (rest ++ new) y s' ∧
      b.recordsFrom y.mapOf 0 (old ++ [v]) =
        b.recordsFrom x.mapOf 0 old ++ [{ b.recordAt old.length v [] with referenceMap }] ∧
      b.recordsFrom (fun _ => []) (old ++ [v]).length (rest ++ new) =
        b.recordsFrom (fun _ => []) (old.length + 1) rest ++ created := by
  have hends := h.isRound
  rw [hround] at hends
  cases hends with
  | @done y _ new explores described visits pending maps =>
    refine ⟨y, new, h.next explores described visits pending, ?_, ?_⟩
    · have hdone : b.recordsFrom y.mapOf 0 old = b.recordsFrom x.mapOf 0 old :=
        recordsFrom_congr fun i _ hi => maps i (by omega)
      rw [recordsFrom_append, hdone, Nat.zero_add]
      rfl
    · have hlength : x.visits.length = old.length + 1 + rest.length := by
        rw [h.visits, List.length_append, List.length_cons]
        omega
      rw [recordsFrom_append, hlength, List.length_append, List.length_singleton]

end Between

/-- The loop processes every record once. It is given a round for each record that may be created,
and so it only ends when the queue is empty or a reference cannot be followed. -/
theorem isLoop_processQueue (rounds : Nat) (old waiting : List Visit) (x : Exploration)
    (s : BuildState) (h : b.IsBetween entry old waiting x s)
    (hrounds : b.settings.maxModules ≤ rounds + old.length) :
    b.IsLoop entry
      (b.processQueue rounds (b.recordsFrom x.mapOf 0 old).reverse
        (b.recordsFrom (fun _ => []) old.length waiting) s) := by
  induction rounds generalizing old waiting x s with
  | zero =>
    cases waiting with
    | nil => exact h.isLoop 0
    | cons v rest =>
      -- The records that have been processed are as many as allowed, so none can wait.
      have hbounded := h.explores.isConsistent.bounded
      rw [h.visits, List.length_append, List.length_cons] at hbounded
      omega
  | succ rounds ih =>
    cases waiting with
    | nil => exact h.isLoop (rounds + 1)
    | cons v rest =>
      rw [recordsFrom]
      cases hround : b.resolveReferences (b.recordAt old.length v []) []
          (b.recordAt old.length v []).references s with
      | ok result s' =>
        obtain ⟨referenceMap, created⟩ := result
        obtain ⟨y, new, hnext, hdone, hqueue⟩ := h.exists_next hround
        have hloop := ih (old ++ [v]) (rest ++ new) y s' hnext
          (by rw [List.length_append, List.length_singleton]; omega)
        rw [processQueue_done hround]
        rw [hdone, hqueue, List.reverse_append] at hloop
        exact hloop
      | error failure s' =>
        have hends := h.isRound
        rw [hround] at hends
        rw [processQueue_stopped hround]
        cases hends with
        | stopped explores stops described => exact .stopped explores stops described

/-! ## The build -/

/-- How the build of an entry module ends. -/
inductive IsBuild (b : Builder) (entry : String) (r : BuildRun) : Prop where
  /-- There is no room for the entry module. -/
  | noRoom (noRoom : b.settings.maxModules = 0)
      (outcome : r.outcome = .error (.refused (.limit ⟨b.settings.maxModules, {}⟩)))
      (calls : r.calls = [])
      (unfinished : ∀ size name, BuildEvent.built size name ∉ r.events)
      (created : r.created = [])
  /-- The entry module does not compile. -/
  | entryRefused {failure : Failure FrontendError} (room : 0 < b.settings.maxModules)
      (failed : b.frontend (b.start entry) = .error failure)
      (outcome : r.outcome = .error (attributed {} failure))
      (calls : r.calls = [b.start entry])
      (unfinished : ∀ size name, BuildEvent.built size name ∉ r.events)
      (created : r.created = [])
  /-- A reference cannot be followed. -/
  | stopped {x : Exploration} {calls : List Path} {failure : Failure BuildError}
      (explores : b.Explores entry x) (stops : b.Stops x calls failure)
      (outcome : r.outcome = .error failure)
      (calls : r.calls = x.locations ++ calls)
      (links : r.links = x.links.map Link.noted)
      (unfinished : ∀ size name, BuildEvent.built size name ∉ r.events)
      (created : r.created = x.noted)
  /-- All references of all records have been followed. -/
  | complete {x : Exploration} {g : ModuleGraph}
      (explores : b.Explores entry x) (finished : x.pending = [])
      (outcome : r.outcome = .ok g)
      (records : g.records = b.recordsFrom x.mapOf 0 x.visits)
      (calls : r.calls = x.locations)
      (links : r.links = x.links.map Link.noted)
      (created : r.created = x.noted)

/-- Records with successive identities stand at their positions. -/
theorem misplaced?_recordsFrom (maps : Nat → List (String × Int)) (identity : Nat)
    (visits : List Visit) : misplaced? identity (b.recordsFrom maps identity visits) = none := by
  induction visits generalizing identity with
  | nil => rfl
  | cons v rest ih =>
    rw [recordsFrom, misplaced?, recordAt, if_pos rfl]
    exact ih (identity + 1)

/-- The records of an exploration form a graph. -/
theorem exists_ofRecords (hx : b.IsConsistent entry x) :
    ∃ g, ModuleGraph.ofRecords (b.recordsFrom x.mapOf 0 x.visits) = .ok g ∧
      g.records = b.recordsFrom x.mapOf 0 x.visits := by
  obtain ⟨rest, hrest⟩ := hx.first
  have hplaced := misplaced?_recordsFrom (b := b) x.mapOf 0 x.visits
  rw [hrest, recordsFrom] at hplaced ⊢
  rw [ModuleGraph.ofRecords]
  split
  · exact ⟨_, rfl, rfl⟩
  · rename_i hfound
    cases hplaced.symm.trans hfound

/-- The state after the record of the entry module has been created. -/
theorem isDescribedBy_outset :
    (b.outset entry).IsDescribedBy []
      { allocator := ⟨1⟩
        index := ({} : LocationIndex Nat).add (b.start entry).toString 0
        events := [.created 0 (b.start entry).toString, .compiling (b.start entry)] } where
  allocated := rfl
  index := by
    intro name
    rw [LocationIndex.get?_add]
    simp only [outset, Exploration.locations, List.map_cons, List.map_nil, List.idxOf?_singleton,
      beq_iff_eq, eq_comm (a := name)]
    rfl
  calls := rfl
  created := rfl
  links := rfl
  unfinished := by
    intro size name hmem
    simp at hmem

/-- A build creates the record of the entry module, and then runs the loop on it. -/
theorem build_eq (b : Builder) (entry : String) :
    b.build entry {} =
      match b.createRecord (b.start entry) {} {} with
      | .error failure s => .error failure s
      | .ok first s =>
        match b.processQueue b.settings.maxModules [] [first] s with
        | .error failure s => .error failure s
        | .ok records s =>
          match ModuleGraph.ofRecords records with
          | .ok g => .ok g { s with events := .built records.length first.location :: s.events }
          | .error crash =>
            .error (.crash crash)
              { s with events := .built records.length first.location :: s.events } := by
  rw [build]
  simp only [bind, EStateM.bind, get, getThe, MonadStateOf.get, EStateM.get, ne_eq,
    not_true_eq_false, if_false, pure]
  rw [show (Path.ofString entry).normalize b.disk.current = b.start entry from rfl]
  cases b.createRecord (b.start entry) {} {} with
  | error failure s => rfl
  | ok first s =>
    dsimp only
    cases b.processQueue b.settings.maxModules [] [first] s with
    | error failure s => rfl
    | ok records s =>
      dsimp only [note_eq]
      cases ModuleGraph.ofRecords records <;> rfl

/-- A run reports the graph that is built. -/
theorem run_eq_ok {g : ModuleGraph} {s : BuildState} (h : b.build entry {} = .ok g s) :
    b.run entry = ⟨.ok g, s.events.reverse⟩ := by
  rw [run, EStateM.run, h]

/-- A run reports why nothing is built. -/
theorem run_eq_error {failure : Failure BuildError} {s : BuildState}
    (h : b.build entry {} = .error failure s) :
    b.run entry = ⟨.error failure, s.events.reverse⟩ := by
  rw [run, EStateM.run, h]

/-- The loop of a build starts between two rounds, with the record of the entry module waiting. -/
theorem isBetween_outset {first : ModuleRecord} {s : BuildState}
    (h : b.createRecord (b.start entry) {} {} = .ok first s) :
    b.IsBetween entry [] (b.outset entry).visits (b.outset entry) s ∧
      b.recordsFrom (fun _ => []) 0 (b.outset entry).visits = [first] := by
  obtain ⟨hroom, compiled, hf⟩ := exists_compiled_of_createRecord h
  have hx : b.Explores entry (b.outset entry) := ⟨hroom, ⟨compiled, hf⟩, .refl⟩
  have hpending : (b.outset entry).pending = b.tasksFrom 0 (b.outset entry).visits :=
    (List.append_nil _).symm
  cases h.symm.trans (createRecord_ok hroom hf)
  refine ⟨⟨hx, rfl, hpending, isDescribedBy_outset⟩, ?_⟩
  simp only [outset, recordsFrom, recordAt, compiledAt_eq hf]

/-- The loop of a build takes no more rounds than there may be records. -/
theorem isLoop_of_createRecord {first : ModuleRecord} {s : BuildState}
    (h : b.createRecord (b.start entry) {} {} = .ok first s) {rounds : Nat}
    (hrounds : b.settings.maxModules ≤ rounds) :
    b.IsLoop entry (b.processQueue rounds [] [first] s) := by
  obtain ⟨hbetween, hfirst⟩ := isBetween_outset h
  have hloop := isLoop_processQueue rounds [] _ _ s hbetween hrounds
  rwa [List.length_nil, hfirst] at hloop

/-- Every build ends in one of these ways. -/
theorem isBuild_run (b : Builder) (entry : String) : b.IsBuild entry (b.run entry) := by
  have hbuild := build_eq b entry
  rcases Nat.eq_zero_or_pos b.settings.maxModules with hzero | hroom
  · rw [createRecord_full (Nat.le_of_eq hzero)] at hbuild
    rw [run_eq_error hbuild]
    exact .noRoom hzero rfl rfl (fun _ _ => List.not_mem_nil) rfl
  · cases hf : b.frontend (b.start entry) with
    | error failure =>
      rw [createRecord_refused hroom hf] at hbuild
      rw [run_eq_error hbuild]
      refine .entryRefused hroom hf rfl rfl (fun _ _ hmem => ?_) rfl
      rcases List.mem_singleton.mp hmem
    | ok compiled =>
      have hcreate : b.createRecord (b.start entry) {} {} = _ := createRecord_ok hroom hf
      have hloop := isLoop_of_createRecord hcreate (Nat.le_refl _)
      rw [hcreate] at hbuild
      dsimp only at hbuild
      generalize b.processQueue b.settings.maxModules [] _ _ = result at hloop hbuild
      cases hloop with
      | @done y s explores finished described =>
        obtain ⟨g, hg, hrecords⟩ := exists_ofRecords explores.isConsistent
        simp only [hg] at hbuild
        rw [run_eq_ok hbuild]
        refine .complete explores finished rfl hrecords ?_ ?_ ?_
        · rw [BuildRun.calls, List.reverse_cons, List.filterMap_append, described.calls]
          simp [BuildEvent.compiled?]
        · rw [BuildRun.links, List.reverse_cons, List.filterMap_append, described.links]
          simp [List.filterMap_cons, BuildEvent.linked?]
        · rw [BuildRun.created, List.reverse_cons, List.filterMap_append, described.created]
          exact List.append_nil _
      | @stopped y s calls failure explores stops described =>
        rw [run_eq_error hbuild]
        exact .stopped explores stops rfl described.calls described.links
          (fun size name hmem => described.unfinished size name (List.mem_reverse.mp hmem))
          described.created

/-- A graph comes from an exploration in which nothing is pending. -/
theorem exists_explores_of_ok {g : ModuleGraph} (h : (b.run entry).outcome = .ok g) :
    ∃ x, b.Explores entry x ∧ x.pending = [] ∧
      g.records = b.recordsFrom x.mapOf 0 x.visits ∧ (b.run entry).calls = x.locations ∧
      (b.run entry).links = x.links.map Link.noted := by
  cases isBuild_run b entry with
  | noRoom _ outcome => cases h.symm.trans outcome
  | entryRefused _ _ outcome => cases h.symm.trans outcome
  | stopped _ _ outcome => cases h.symm.trans outcome
  | @complete x g' explores finished outcome records calls links =>
    cases h.symm.trans outcome
    exact ⟨x, explores, finished, records, calls, links⟩

/-- What is told about the graph of a run is told about a graph that the run returns. -/
theorem exists_graph_of_map {β : Type} {f : ModuleGraph → β} {c : β}
    (h : (b.run entry).outcome.toOption.map f = some c) :
    ∃ g, (b.run entry).outcome = .ok g ∧ f g = c := by
  cases hg : (b.run entry).outcome with
  | error failure =>
    rw [hg] at h
    cases h
  | ok g =>
    rw [hg] at h
    exact ⟨g, rfl, Option.some.inj h⟩

/-- A build whose steps lead to where nothing is pending returns a graph. -/
theorem Explores.run_complete (hx : b.Explores entry x) (hp : x.pending = []) :
    ∃ g, (b.run entry).outcome = .ok g ∧ g.records = b.recordsFrom x.mapOf 0 x.visits := by
  cases isBuild_run b entry with
  | noRoom noRoom => exact absurd hx.room (Nat.not_lt.mpr (Nat.le_of_eq noRoom))
  | entryRefused _ failed =>
    obtain ⟨compiled, hc⟩ := hx.compiles
    cases failed.symm.trans hc
  | @stopped y calls failure explores stops =>
    have heq := hx.eq_of_not_step explores (fun _ => not_step_of_pending_nil hp)
      (fun _ => stops.not_step)
    subst heq
    cases stops <;> cases hp
  | @complete y g explores finished outcome records =>
    have heq := hx.eq_of_not_step explores (fun _ => not_step_of_pending_nil hp)
      (fun _ => not_step_of_pending_nil finished)
    subst heq
    exact ⟨g, outcome, records⟩

/-- A build whose steps lead to where it stops fails there. -/
theorem Explores.run_stops {calls : List Path} {failure : Failure BuildError}
    (hx : b.Explores entry x) (hs : b.Stops x calls failure) :
    (b.run entry).outcome = .error failure ∧ (b.run entry).calls = x.locations ++ calls := by
  cases isBuild_run b entry with
  | noRoom noRoom => exact absurd hx.room (Nat.not_lt.mpr (Nat.le_of_eq noRoom))
  | entryRefused _ failed =>
    obtain ⟨compiled, hc⟩ := hx.compiles
    cases failed.symm.trans hc
  | @stopped y calls' failure' explores stops outcome hcalls =>
    have heq := hx.eq_of_not_step explores (fun _ => hs.not_step) (fun _ => stops.not_step)
    subst heq
    obtain ⟨rfl, rfl⟩ := hs.unique stops
    exact ⟨outcome, hcalls⟩
  | @complete y g explores finished =>
    have heq := hx.eq_of_not_step explores (fun _ => hs.not_step)
      (fun _ => not_step_of_pending_nil finished)
    subst heq
    cases hs <;> cases finished

/-! ## The limit -/

/-- A build needs more room than it is allowed. -/
inductive IsFull (b : Builder) (entry : String) : Prop where
  /-- There is none for the entry module. -/
  | first (noRoom : b.settings.maxModules = 0)
  /-- There is none for the record that a pending reference needs. -/
  | pending {x : Exploration} {t : Task} {location : Path} (explores : b.Explores entry x)
      (mem : t ∈ x.pending) (resolved : b.target t.location t.reference = .ok location)
      (unknown : b.known? x.visits location = none)
      (noRoom : b.settings.maxModules ≤ x.visits.length)

/-- Where all that can be reached is sound, a build returns a graph, or it fails at the limit after
as many calls of the frontend as are allowed. -/
theorem ok_or_full (b : Builder) (entry : String)
    (hsound : ∀ location, b.Reaches entry location → b.IsSound location) :
    (∃ g, (b.run entry).outcome = .ok g) ∨
      b.IsFull entry ∧ (b.run entry).calls.length = b.settings.maxModules ∧
        ∃ origin, (b.run entry).outcome =
          .error (.refused (.limit ⟨b.settings.maxModules, origin⟩)) := by
  cases isBuild_run b entry with
  | noRoom noRoom outcome calls =>
    refine .inr ⟨.first noRoom, ?_, {}, outcome⟩
    rw [calls, noRoom]
    rfl
  | entryRefused _ failed =>
    obtain ⟨compiled, hcompiled, _⟩ := hsound (b.start entry) .refl
    cases failed.symm.trans hcompiled
  | @stopped x _ _ explores stops outcome calls =>
    obtain ⟨t, location, ht, resolved, unknown, noRoom, rfl, rfl⟩ :=
      stops.full_of_sound explores hsound
    refine .inr ⟨.pending explores ht resolved unknown noRoom, ?_, t.origin, outcome⟩
    have hbounded := explores.isConsistent.bounded
    rw [calls, List.append_nil, Exploration.locations, List.length_map]
    omega
  | complete _ _ outcome => exact .inl ⟨_, outcome⟩

end Builder

end Bundler
