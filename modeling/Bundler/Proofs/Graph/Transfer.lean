import Bundler.Proofs.Graph.Records

/-!
# Builds at other locations

A builder mirrors another one if every location that the other one reaches has an image at which it
does the same: its frontend returns the same module there, and the references of the module lead to
the images of where they lead before. Different locations have different images, so that records
are shared in the same way. What the other builder builds is then built at the images.

The proof follows the steps of a build: the image of each step is a step.
-/

set_option autoImplicit false

namespace Bundler

variable {b b' : Builder} {entry entry' : String} {σ : Path → Path}

/-- A builder does at the images of locations what another one does at the locations that it
reaches. -/
structure Builder.Mirrors (b b' : Builder) (entry entry' : String) (σ : Path → Path) : Prop where
  /-- The settings are the same. -/
  settings : b'.settings = b.settings
  /-- A build starts at the image of where the other one starts. -/
  start : b'.start entry' = σ (b.start entry)
  /-- The frontend returns the same modules. -/
  compiles : ∀ location compiled, b.Reaches entry location →
    b.frontend location = .ok compiled → b'.frontend (σ location) = .ok compiled
  /-- References lead to the images of where they lead for the other builder. -/
  targets : ∀ location compiled reference other, b.Reaches entry location →
    b.frontend location = .ok compiled → reference ∈ compiled.references →
    b.target location reference = .ok other → b'.target (σ location) reference = .ok (σ other)
  /-- Different locations have different images. -/
  separate : ∀ location other, b.Reaches entry location → b.Reaches entry other →
    σ location = σ other → location = other

/-! ## Images -/

/-- A visit of the image of a location. -/
def Visit.image (σ : Path → Path) (v : Visit) : Visit :=
  ⟨σ v.location, v.walk⟩

/-- The same reference at the image of a location. -/
def Task.image (σ : Path → Path) (t : Task) : Task :=
  ⟨t.source, σ t.location, t.walk, t.reference⟩

/-- The same link at the image of a location. -/
def Link.image (σ : Path → Path) (l : Link) : Link :=
  ⟨l.task.image σ, l.target, l.seen⟩

/-- An exploration with all locations replaced by their images. -/
def Exploration.image (σ : Path → Path) (x : Exploration) : Exploration :=
  ⟨x.visits.map (.image σ), x.links.map (.image σ), x.pending.map (.image σ)⟩

/-- A record is another one at the image of its location. -/
def ModuleRecord.IsImage (σ : Path → Path) (location : Path) (r r' : ModuleRecord) : Prop :=
  r.location = location.toString ∧ r' = { r with location := (σ location).toString }

/-- A location that is separate from others stands where its image stands. -/
theorem idxOf?_map_image {locations : List Path} {location : Path}
    (h : ∀ other ∈ locations, σ other = σ location → other = location) :
    (locations.map σ).idxOf? (σ location) = locations.idxOf? location := by
  induction locations with
  | nil => rfl
  | cons first rest ih =>
    have hrest := ih fun other hother => h other (List.mem_cons_of_mem _ hother)
    have hfirst : σ first = σ location ↔ first = location :=
      ⟨h first List.mem_cons_self, congrArg σ⟩
    rw [List.map_cons, List.idxOf?_cons, List.idxOf?_cons, hrest]
    simp only [beq_iff_eq, hfirst]

/-- Links at images lead to the same identities. -/
theorem targetsOf_map_image (links : List Link) :
    targetsOf (links.map (.image σ)) = targetsOf links := by
  unfold targetsOf
  rw [List.foldl_map]
  rfl

/-- The maps of an exploration are those of its image. -/
theorem Exploration.mapOf_image (x : Exploration) : (x.image σ).mapOf = x.mapOf := by
  funext identity
  unfold Exploration.mapOf Exploration.linksFrom Exploration.image
  rw [List.filter_map, targetsOf_map_image]
  rfl

namespace Builder.Mirrors

variable {x y : Exploration}

/-- The image of a location is compiled to the same module. -/
theorem compiledAt_eq (h : b.Mirrors b' entry entry' σ) {location : Path}
    (hl : b.Reaches entry location) {compiled : CompiledModule}
    (hc : b.frontend location = .ok compiled) :
    b'.compiledAt (σ location) = b.compiledAt location := by
  rw [Builder.compiledAt_eq hc, Builder.compiledAt_eq (h.compiles location compiled hl hc)]

/-- The references at the image of a location are the same. -/
theorem tasksAt_eq (h : b.Mirrors b' entry entry' σ) {v : Visit}
    (hv : b.Reaches entry v.location) {compiled : CompiledModule}
    (hc : b.frontend v.location = .ok compiled) (identity : Nat) :
    b'.tasksAt identity (v.image σ) = (b.tasksAt identity v).map (.image σ) := by
  have hcompiled : b'.compiledAt (v.image σ).location = b.compiledAt v.location :=
    h.compiledAt_eq hv hc
  apply List.ext_getElem?
  intro position
  simp only [Builder.tasksAt, hcompiled, List.getElem?_map, List.getElem?_mapIdx, Option.map_map]
  rfl

/-- The image of a location is known if the location is. -/
theorem known?_eq (h : b.Mirrors b' entry entry' σ) (hx : b.Explores entry x) {location : Path}
    (hl : b.Reaches entry location) :
    b'.known? (x.image σ).visits (σ location) = b.known? x.visits location := by
  have hlocations : (x.image σ).visits.map Visit.location = (x.visits.map Visit.location).map σ := by
    unfold Exploration.image
    rw [List.map_map, List.map_map]
    rfl
  unfold Builder.known?
  rw [h.settings, hlocations, idxOf?_map_image]
  intro other hother heq
  obtain ⟨v, hv, rfl⟩ := List.mem_map.mp hother
  exact h.separate _ _ (hx.reaches hv) hl heq

/-- Where the first pending reference of an exploration leads to. -/
theorem target_eq (h : b.Mirrors b' entry entry' σ) (hx : b.Explores entry x) {t : Task}
    (ht : t ∈ x.pending) {other : Path} (hother : b.target t.location t.reference = .ok other) :
    b'.target (t.image σ).location t.reference = .ok (σ other) ∧ b.Reaches entry other := by
  have hconsistent := hx.isConsistent
  obtain ⟨v, compiled, position, _, hv, hlocation, _, hc, hreference⟩ :=
    hconsistent.exists_visit (hconsistent.pending_mem ht)
  have hreached := hx.reaches hv
  have hmem := List.mem_of_getElem? hreference
  rw [hlocation] at hother
  have htarget := h.targets v.location compiled t.reference other hreached hc hmem hother
  refine ⟨?_, hreached.tail ⟨compiled, hc, t.reference, hmem, hother⟩⟩
  rwa [Task.image, hlocation]

/-- The image of a step is a step. -/
theorem step (h : b.Mirrors b' entry entry' σ) (hx : b.Explores entry x) (hs : b.Step x y) :
    b'.Step (x.image σ) (y.image σ) := by
  cases hs with
  | @seen visits links t pending location identity resolved known =>
    obtain ⟨hresolved, hl⟩ := h.target_eq hx List.mem_cons_self resolved
    have hstep : b'.Step
        ⟨visits.map (.image σ), links.map (.image σ), t.image σ :: pending.map (.image σ)⟩
        ⟨visits.map (.image σ), links.map (.image σ) ++ [⟨t.image σ, identity, true⟩],
          pending.map (.image σ)⟩ :=
      .seen hresolved ((h.known?_eq hx hl).trans known)
    simpa [Exploration.image, Link.image] using hstep
  | @fresh visits links t pending location compiled resolved unknown room compiles =>
    obtain ⟨hresolved, hl⟩ := h.target_eq hx List.mem_cons_self resolved
    have hlength : (visits.map (Visit.image σ)).length = visits.length := List.length_map _
    have htasks : b'.tasksAt visits.length ⟨σ location, t.walk⟩ =
        (b.tasksAt visits.length ⟨location, t.walk⟩).map (.image σ) :=
      h.tasksAt_eq (v := ⟨location, t.walk⟩) hl compiles visits.length
    have hstep : b'.Step
        ⟨visits.map (.image σ), links.map (.image σ), t.image σ :: pending.map (.image σ)⟩
        ⟨visits.map (.image σ) ++ [⟨σ location, t.walk⟩],
          links.map (.image σ) ++ [⟨t.image σ, (visits.map (Visit.image σ)).length, false⟩],
          pending.map (.image σ) ++
            b'.tasksAt (visits.map (Visit.image σ)).length ⟨σ location, t.walk⟩⟩ := by
      refine .fresh hresolved ((h.known?_eq hx hl).trans unknown) ?_
        (h.compiles location compiled hl compiles)
      rwa [hlength, h.settings]
    rw [hlength, htasks] at hstep
    simpa [Exploration.image, Link.image, Visit.image] using hstep

/-- The images of the explorations that a build goes through are those that the other build goes
through. -/
theorem explores (h : b.Mirrors b' entry entry' σ) (hx : b.Explores entry x) :
    b'.Explores entry' (x.image σ) := by
  obtain ⟨compiled, hc⟩ := hx.compiles
  have hstart : b.Reaches entry (b.start entry) := .refl
  have hc' := h.compiles (b.start entry) compiled hstart hc
  rw [← h.start] at hc'
  refine ⟨by rw [h.settings]; exact hx.room, ⟨compiled, hc'⟩, ?_⟩
  induction hx.steps with
  | refl =>
    have htasks := h.tasksAt_eq (v := ⟨b.start entry, []⟩) hstart hc 0
    have houtset : (b.outset entry).image σ = b'.outset entry' := by
      unfold Exploration.image Builder.outset
      rw [h.start, ← htasks]
      rfl
    rw [houtset]
  | tail hsteps hs ih =>
    have hbetween := Builder.Explores.mk hx.room hx.compiles hsteps
    exact (ih hbetween).tail (h.step hbetween hs)

/-- The record of the image of a visit is that of the visit at the image of its location. -/
theorem forall₂_recordsFrom (h : b.Mirrors b' entry entry' σ) (maps : Nat → List (String × Int))
    {visits : List Visit} (hvisits : ∀ v ∈ visits, b.Reaches entry v.location ∧
      ∃ compiled, b.frontend v.location = .ok compiled) (identity : Nat) :
    List.Forall₂ (fun r r' => ∃ location, b.Reaches entry location ∧ r.IsImage σ location r')
      (b.recordsFrom maps identity visits)
      (b'.recordsFrom maps identity (visits.map (.image σ))) := by
  induction visits generalizing identity with
  | nil => exact .nil
  | cons v rest ih =>
    obtain ⟨hv, compiled, hc⟩ := hvisits v List.mem_cons_self
    have hcompiled := h.compiledAt_eq hv hc
    refine .cons ⟨v.location, hv, rfl, ?_⟩ (ih (fun w hw => hvisits w (List.mem_cons_of_mem _ hw)) _)
    simp only [Builder.recordAt, Visit.image, hcompiled]

/-- A builder that mirrors another one builds the same records at the images of their locations. -/
theorem run (h : b.Mirrors b' entry entry' σ) {g : ModuleGraph}
    (hrun : (b.run entry).outcome = .ok g) :
    ∃ g', (b'.run entry').outcome = .ok g' ∧
      List.Forall₂ (fun r r' => ∃ location, b.Reaches entry location ∧ r.IsImage σ location r')
        g.records g'.records := by
  obtain ⟨x, hx, hpending, hrecords, _, _⟩ := Builder.exists_explores_of_ok hrun
  have hpending' : (x.image σ).pending = [] := by
    rw [Exploration.image, hpending]
    rfl
  obtain ⟨g', hrun', hrecords'⟩ := (h.explores hx).run_complete hpending'
  refine ⟨g', hrun', ?_⟩
  rw [hrecords, hrecords', Exploration.mapOf_image]
  exact h.forall₂_recordsFrom _ (fun v hv => ⟨hx.reaches hv, hx.isConsistent.compiles v hv⟩) 0

end Builder.Mirrors

end Bundler
