import Bundler.Proofs.Graph.Failure

/-!
# What a failed build reports

A build is refused at the entry module or at a reference of a record that it has created. References
are followed in breadth first order, so all those before it have been followed with success, and no
shorter or earlier walk from the entry module comes to a module that does not compile or to a
reference that leads nowhere. The error names the record and the reference. This is the same with one
record for each location and with one for each reference.
-/

set_option autoImplicit false

namespace Bundler

/-- The references that were followed, each with the identity of its record. -/
def BuildRun.followed (r : BuildRun) : List (Nat × String) :=
  r.links.map fun link => (link.1, link.2.1)

namespace Builder

/-- The references of the records that a run has created, in breadth first order. -/
def referencesOf (b : Builder) (r : BuildRun) : List (Nat × String) :=
  r.created.flatMap fun record =>
    (b.compiledAt (Path.ofString record.2)).references.map (Prod.mk record.1)

/-- A walk at whose end a build cannot go on. -/
inductive FailsAt (b : Builder) (entry : String) : List Nat → Prop where
  /-- The entry module does not compile. -/
  | entry {failure : Failure FrontendError} (failed : b.frontend (b.start entry) = .error failure) :
      FailsAt b entry []
  /-- The last reference leads nowhere. -/
  | unresolved {walk : List Nat} {position : Nat} {location : Path} {compiled : CompiledModule}
      {reference : String} {failure : Failure ResolutionError}
      (follows : b.follow (b.start entry) walk = some location)
      (compiles : b.frontend location = .ok compiled)
      (stands : compiled.references[position]? = some reference)
      (failed : b.target location reference = .error failure) : FailsAt b entry (walk ++ [position])
  /-- The last reference leads to a module that does not compile. -/
  | refused {walk : List Nat} {position : Nat} {location other : Path} {compiled : CompiledModule}
      {reference : String} {failure : Failure FrontendError}
      (follows : b.follow (b.start entry) walk = some location)
      (compiles : b.frontend location = .ok compiled)
      (stands : compiled.references[position]? = some reference)
      (resolved : b.target location reference = .ok other)
      (failed : b.frontend other = .error failure) : FailsAt b entry (walk ++ [position])

/-- The reference at which a run has failed, and where it stands. -/
structure IsBlamed (b : Builder) (entry : String) (r : BuildRun) (referrer reference : String) :
    Prop where
  /-- It is a reference of a record that has been created, and all references before it have been
  followed. -/
  next : ∃ identity rest, (identity, referrer) ∈ r.created ∧
    b.referencesOf r = r.followed ++ (identity, reference) :: rest
  /-- It is one of those that the frontend has returned for the location of that record, and a walk
  along it comes before all other walks at whose ends the build cannot go on. -/
  first : ∃ compiled walk position, b.frontend (Path.ofString referrer) = .ok compiled ∧
    compiled.references[position]? = some reference ∧
    b.follow (b.start entry) walk = some (Path.ofString referrer) ∧
    ∀ earlier, List.Shortlex (· < ·) earlier (walk ++ [position]) → ¬ b.FailsAt entry earlier

/-- What the error of a run says. -/
inductive Reports (b : Builder) (entry : String) (r : BuildRun) : BuildError → Prop where
  /-- The entry module does not compile, and the error is that of the frontend. -/
  | entry {e : FrontendError} (failed : b.frontend (b.start entry) = .error (.refused e))
      (origin : e.origin = {}) (created : r.created = []) : Reports b entry r (.frontend e)
  /-- A module does not compile to which a reference leads. -/
  | frontend {own : FrontendError} {referrer reference : String} {location : Path}
      (blamed : b.IsBlamed entry r referrer reference)
      (resolved : resolve b.disk (Path.ofString referrer).parent reference referrer
        b.settings.suffixes = .ok location)
      (failed : b.frontend location = .error (.refused own)) :
      Reports b entry r (.frontend (own.withReference reference referrer))
  /-- None of the candidates of a reference is a file. -/
  | resolution {referrer reference : String} {tried : List Path}
      (blamed : b.IsBlamed entry r referrer reference)
      (formed : candidates b.disk.current (Path.ofString referrer).parent reference
        b.settings.suffixes = .ok tried)
      (absent : ∀ p ∈ tried, b.disk.isFile p = false) :
      Reports b entry r (.resolution ⟨reference, referrer, tried.map Path.toString⟩)
  /-- A reference leads to a location that needs one record more than there may be. -/
  | limit {referrer reference : String} {location : Path}
      (blamed : b.IsBlamed entry r referrer reference)
      (resolved : resolve b.disk (Path.ofString referrer).parent reference referrer
        b.settings.suffixes = .ok location)
      (unknown : b.settings.policy = .perLocation →
        location.toString ∉ r.created.map Prod.snd)
      (full : r.created.length = b.settings.maxModules) :
      Reports b entry r (.limit ⟨b.settings.maxModules, ⟨some reference, some referrer⟩⟩)

variable {b : Builder} {entry : String} {x : Exploration} {t : Task} {rest : List Task}

/-! ## Before the first pending reference -/

/-- A walk before the first pending reference is before all of them. -/
theorem Explores.before_pending (h : b.Explores entry x) (hp : x.pending = t :: rest)
    {walk : List Nat} (hlt : List.Shortlex (· < ·) walk t.walk) :
    ∀ u ∈ x.pending, List.Shortlex (· < ·) walk u.walk := by
  have hledger := pairwise_tasksFrom (b := b) h.isOrdered.walks 0
  rw [← h.isConsistent.ledger, hp, List.pairwise_append] at hledger
  obtain ⟨hfirst, _⟩ := List.pairwise_cons.mp hledger.2.1
  intro u hu
  rw [hp] at hu
  rcases List.mem_cons.mp hu with rfl | hu
  · exact hlt
  · exact shortlex_trans hlt (hfirst u hu)

/-- A reference on a walk before the first pending one leads to a module that compiles. -/
theorem Explores.exists_target_of_before (h : b.Explores entry x) (hp : x.pending = t :: rest)
    {walk : List Nat} {position : Nat} (hlt : List.Shortlex (· < ·) (walk ++ [position]) t.walk)
    {location : Path} {compiled : CompiledModule} {reference : String}
    (hfollows : b.follow (b.start entry) walk = some location)
    (hcompiles : b.frontend location = .ok compiled)
    (hstands : compiled.references[position]? = some reference) :
    ∃ other compiled', b.target location reference = .ok other ∧
      b.frontend other = .ok compiled' := by
  have hc := h.isConsistent
  have hbefore := h.before_pending hp hlt
  have hlength : walk.length < (walk ++ [position]).length := by simp
  have hshorter := h.before_pending hp (shortlex_trans (.of_length_lt hlength) hlt)
  obtain ⟨v, hv, rfl, hle⟩ := h.exists_visit_of_follow hshorter hfollows
  obtain ⟨i, hi⟩ := List.getElem?_of_mem hv
  have hnot : ⟨i, v.location, v.walk ++ [position], reference⟩ ∉ x.pending := by
    intro hpending
    have hlater := hbefore _ hpending
    rcases hle with heq | hless
    · exact not_shortlex_self _ (heq ▸ hlater)
    · exact not_shortlex_self _ (shortlex_trans hlater (shortlex_concat hless position position))
  obtain ⟨_, _, _, w, hw, htarget⟩ := hc.exists_link hi hcompiles hstands hnot
  obtain ⟨compiled', hcompiled'⟩ := hc.compiles w (List.mem_of_getElem? hw)
  exact ⟨w.location, compiled', htarget, hcompiled'⟩

/-- A build does not pass over a walk at whose end it cannot go on. -/
theorem Explores.not_failsAt (h : b.Explores entry x) (hp : x.pending = t :: rest)
    {walk : List Nat} (hlt : List.Shortlex (· < ·) walk t.walk) : ¬ b.FailsAt entry walk := by
  intro hfails
  cases hfails with
  | entry failed =>
    obtain ⟨compiled, hcompiled⟩ := h.compiles
    cases failed.symm.trans hcompiled
  | unresolved follows compiles stands failed =>
    obtain ⟨other, _, htarget, _⟩ := h.exists_target_of_before hp hlt follows compiles stands
    cases failed.symm.trans htarget
  | refused follows compiles stands resolved failed =>
    obtain ⟨other, compiled', htarget, hcompiled'⟩ :=
      h.exists_target_of_before hp hlt follows compiles stands
    cases resolved.symm.trans htarget
    cases failed.symm.trans hcompiled'

/-! ## The first pending reference -/

/-- The references of records with successive identities, told from the locations of the records. -/
theorem map_tasksFrom (identity : Nat) {visits : List Visit}
    (hcanonical : ∀ v ∈ visits, v.location.IsCanonical) :
    (b.tasksFrom identity visits).map (fun t => (t.source, t.reference)) =
      (visits.mapIdx fun i v => (identity + i, v.location.toString)).flatMap fun record =>
        (b.compiledAt (Path.ofString record.2)).references.map (Prod.mk record.1) := by
  induction visits generalizing identity with
  | nil => rfl
  | cons v visits ih =>
    have hv := Path.ofString_toString (hcanonical v List.mem_cons_self)
    have hrest := ih (identity + 1) fun w hw => hcanonical w (List.mem_cons_of_mem _ hw)
    have hshift : (fun i (w : Visit) => (identity + (i + 1), w.location.toString)) =
        fun i w => (identity + 1 + i, w.location.toString) := by
      funext i w
      rw [Nat.add_assoc, Nat.add_comm 1]
    have htasks : (b.tasksAt identity v).map (fun t => (t.source, t.reference)) =
        (b.compiledAt v.location).references.map (Prod.mk identity) := by
      rw [← map_reference_tasksAt identity v, List.map_map]
      refine List.map_congr_left fun t ht => ?_
      obtain ⟨_, _, _, rfl⟩ := mem_tasksAt.mp ht
      rfl
    rw [tasksFrom, List.map_append, List.mapIdx_cons, List.flatMap_cons, hshift, hrest, htasks, hv]
    rfl

/-- The references of the records of an exploration have been followed, and then are pending. -/
theorem Explores.referencesOf_eq (h : b.Explores entry x) {r : BuildRun}
    (hcreated : r.created = x.noted) (hlinks : r.links = x.links.map Link.noted) :
    b.referencesOf r = r.followed ++ x.pending.map fun t => (t.source, t.reference) := by
  have hcanonical : ∀ v ∈ x.visits, v.location.IsCanonical :=
    fun v hv => (h.reaches hv).isCanonical
  have htasks := map_tasksFrom (b := b) 0 hcanonical
  simp only [Nat.zero_add] at htasks
  rw [referencesOf, hcreated, Exploration.noted, ← htasks, ← h.isConsistent.ledger,
    List.map_append, BuildRun.followed, hlinks, List.map_map, List.map_map]
  rfl

/-- The location of a pending reference is read back from its text. -/
theorem Explores.ofString_pending (h : b.Explores entry x) (ht : t ∈ x.pending) :
    Path.ofString t.location.toString = t.location := by
  have hc := h.isConsistent
  obtain ⟨v, _, _, _, hv, hlocation, _⟩ := hc.exists_visit (hc.pending_mem ht)
  rw [hlocation, Path.ofString_toString (h.reaches hv).isCanonical]

/-- A failure at the first pending reference is blamed on it. -/
theorem Explores.isBlamed (h : b.Explores entry x) (hp : x.pending = t :: rest) {r : BuildRun}
    (hcreated : r.created = x.noted) (hlinks : r.links = x.links.map Link.noted) :
    b.IsBlamed entry r t.location.toString t.reference := by
  have hc := h.isConsistent
  have hmem : t ∈ x.pending := hp ▸ List.mem_cons_self
  obtain ⟨v, compiled, position, hsource, hv, hlocation, hwalk, hcompiled, hstands⟩ :=
    hc.exists_visit (hc.pending_mem hmem)
  have hpath : Path.ofString t.location.toString = v.location :=
    (h.ofString_pending hmem).trans hlocation
  refine ⟨⟨t.source, rest.map fun t => (t.source, t.reference), ?_, ?_⟩,
    compiled, v.walk, position, ?_, hstands, ?_, ?_⟩
  · rw [hcreated, Exploration.noted, List.mem_mapIdx]
    obtain ⟨hlt, hget⟩ := List.getElem?_eq_some_iff.mp hsource
    exact ⟨t.source, hlt, by rw [hget, hlocation]⟩
  · rw [h.referencesOf_eq hcreated hlinks, hp]
    rfl
  · rw [hpath, hcompiled]
  · rw [hpath]
    exact hc.follows v hv
  · intro earlier hlt
    exact h.not_failsAt hp (hwalk ▸ hlt)

/-! ## Failed builds -/

/-- A failure that is refused with another error was refused before. -/
theorem map_eq_refused {ε δ : Type} {f : ε → δ} {failure : Failure ε} {e : δ}
    (h : failure.map f = .refused e) : ∃ own, failure = .refused own ∧ e = f own := by
  cases failure with
  | refused own =>
    cases h
    exact ⟨own, rfl, rfl⟩
  | crash c => cases h

/-- A location without a record that may be shared has no record if records are shared. -/
theorem Explores.not_mem_noted (h : b.Explores entry x) {location : Path}
    (hcanonical : location.IsCanonical) (unknown : b.known? x.visits location = none)
    (hpolicy : b.settings.policy = .perLocation) :
    location.toString ∉ x.noted.map Prod.snd := by
  have hnames : x.noted.map Prod.snd = x.locations.map Path.toString := by
    apply List.ext_getElem?
    intro i
    simp only [Exploration.noted, Exploration.locations, List.getElem?_map, List.getElem?_mapIdx,
      Option.map_map]
    rfl
  intro hmem
  rw [hnames] at hmem
  obtain ⟨other, hother, heq⟩ := List.mem_map.mp hmem
  obtain rfl := Path.toString_inj (h.isCanonical hother) hcanonical |>.mp heq
  exact not_mem_of_known?_eq_none hpolicy unknown hother

/-- A build that is refused reports the first failure in breadth first order: the reference that leads
to it and the record with that reference, or the entry module. -/
theorem run_reports (hroom : 0 < b.settings.maxModules)
    (hown : ∀ location e, b.frontend location = .error (.refused e) → e.origin = {})
    {e : BuildError} (h : (b.run entry).outcome = .error (.refused e)) :
    b.Reports entry (b.run entry) e := by
  cases isBuild_run b entry with
  | noRoom noRoom => exact absurd noRoom hroom.ne'
  | complete _ _ outcome => cases h.symm.trans outcome
  | entryRefused _ failed outcome _ _ created =>
    obtain ⟨own, rfl, rfl⟩ :=
      map_eq_refused (Except.error.inj (outcome.symm.trans h))
    exact .entry failed (hown _ own failed) created
  | stopped explores stops outcome _ hlinks _ created =>
    have hfailure := Except.error.inj (outcome.symm.trans h)
    cases stops with
    | @unresolved visits links t pending failure failed =>
      have hpath := explores.ofString_pending (t := t) List.mem_cons_self
      have hblamed := explores.isBlamed rfl created hlinks
      rcases resolve_eq_error failed with ⟨_, rfl, _⟩ | ⟨tried, rfl, hformed, habsent⟩
      · cases hfailure
      · cases hfailure
        exact .resolution hblamed (by rw [hpath]; exact hformed) habsent
    | @full visits links t pending location resolved unknown noRoom =>
      have hpath := explores.ofString_pending (t := t) List.mem_cons_self
      have hblamed := explores.isBlamed rfl created hlinks
      have hbounded := explores.isConsistent.bounded
      cases hfailure
      refine .limit hblamed (by rw [hpath]; exact resolved) ?_ ?_
      · rw [created]
        exact explores.not_mem_noted (isCanonical_of_resolve resolved) unknown
      · rw [created, Exploration.noted, List.length_mapIdx]
        exact Nat.le_antisymm hbounded noRoom
    | @refused visits links t pending location failure resolved unknown room failed =>
      have hpath := explores.ofString_pending (t := t) List.mem_cons_self
      have hblamed := explores.isBlamed rfl created hlinks
      obtain ⟨own, rfl, rfl⟩ := map_eq_refused hfailure
      exact .frontend hblamed (by rw [hpath]; exact resolved) failed

/-- A module that refers to three others, of which the second one does not compile and the third one
does not exist. -/
def secondRefused (policy : IdentityPolicy) : Builder where
  frontend := fun location =>
    if location.names = ["a"] then .ok ⟨["/b", "/c", "/d"], "x = 1"⟩
    else if location.names = ["c"] then .error (.refused { location := "/c", reason := "torn" })
    else .ok ⟨[], "y = 2"⟩
  disk :=
    { entries := [(["a"], .file []), (["b"], .file []), (["c"], .file [])]
      current := ⟨.root, []⟩ }
  settings := { policy, suffixes := [] }

/-- The second reference is reported, and not the third one. -/
theorem run_reports_secondRefused :
    ((secondRefused .perReference).run "a").outcome =
      .error (.refused (.frontend ⟨"/c", "torn", ⟨some "/c", some "/a"⟩⟩)) ∧
    (secondRefused .perReference).Reports "a" ((secondRefused .perReference).run "a")
      (.frontend ⟨"/c", "torn", ⟨some "/c", some "/a"⟩⟩) := by
  have houtcome : ((secondRefused .perReference).run "a").outcome =
      .error (.refused (.frontend ⟨"/c", "torn", ⟨some "/c", some "/a"⟩⟩)) := by
    cbv
  have hown : ∀ location e,
      (secondRefused .perReference).frontend location = .error (.refused e) → e.origin = {} := by
    intro location e h
    unfold secondRefused at h
    dsimp only at h
    split at h
    · cases h
    · split at h
      · cases h
        rfl
      · cases h
  exact ⟨houtcome, run_reports (by decide) hown houtcome⟩

end Builder

end Bundler
