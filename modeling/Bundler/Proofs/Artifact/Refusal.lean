import Bundler.Proofs.Artifact.Writing

/-!
# Refused work

Work on a project looks at its disk until the graph is built, and it writes only afterwards. What is wrong
with a project is announced before that: work that is refused leaves the disk as it was. Once something
has been written, work can only crash.
-/

set_option autoImplicit false

namespace Bundler

namespace Work

variable {ε δ α β : Type}

/-- Work that looks at a disk and changes nothing. -/
def LooksOnly (work : Work ε α) : Prop :=
  ∀ w, (stateAfter work w).disk = w.disk

/-- Work that is never refused. -/
def NeverRefuses (work : Work ε α) : Prop :=
  ∀ w e w', work w ≠ .error (.refused e) w'

/-- Work that leaves the disk as it was when it is refused. -/
def RefusesFirst (work : Work ε α) : Prop :=
  ∀ w e w', work w = .error (.refused e) w' → w'.disk = w.disk

variable {x : Work ε α} {f : α → Work ε β} {w w' : Workspace} {a : α} {failure : Failure ε}

/-! ## Work that looks only -/

/-- Work that looks only leaves the disk as it was when it succeeds. -/
theorem LooksOnly.of_ok (h : x.LooksOnly) (hx : x w = .ok a w') : w'.disk = w.disk := by
  rw [← h w, stateAfter_of_ok hx]

/-- Work that looks only leaves the disk as it was when it fails. -/
theorem LooksOnly.of_error (h : x.LooksOnly) (hx : x w = .error failure w') : w'.disk = w.disk := by
  rw [← h w, stateAfter_of_error hx]

/-- Work that looks only keeps whatever holds of the disk. -/
theorem LooksOnly.keeps {P : Disk → Prop} (h : x.LooksOnly) : Keeps (fun w => P w.disk) x := by
  intro w hw
  rwa [h w]

/-- Two steps that look only do so together. -/
theorem LooksOnly.bind (hx : x.LooksOnly) (hf : ∀ a, (f a).LooksOnly) : (x >>= f).LooksOnly := by
  intro w
  rcases stateAfter_bind x f w with h | ⟨a, between, ha, h⟩
  · rw [h, hx w]
  · rw [h, hf a between, hx.of_ok ha]

/-- Giving a result looks only. -/
theorem looksOnly_pure (a : α) : (pure a : Work ε α).LooksOnly :=
  fun _ => rfl

/-- Asking for the workspace looks only. -/
theorem looksOnly_get : (get : Work ε Workspace).LooksOnly :=
  fun _ => rfl

/-- Requiring an outcome looks only. -/
theorem looksOnly_require (x : Except (Failure ε) α) : (require x).LooksOnly := by
  intro w
  cases x <;> rfl

/-- Requiring an outcome without announced errors looks only. -/
theorem looksOnly_requireOk (cause : δ → Crash) (x : Except δ α) :
    (requireOk cause x : Work ε α).LooksOnly :=
  looksOnly_require _

/-- Noting an event looks only. -/
theorem looksOnly_note (e : Event) : (note e : Work ε Unit).LooksOnly :=
  fun _ => rfl

/-! ## Work that is never refused -/

/-- Two steps that never refuse do not refuse together. -/
theorem NeverRefuses.bind (hx : x.NeverRefuses) (hf : ∀ a, (f a).NeverRefuses) :
    (x >>= f).NeverRefuses := by
  intro w e w' h
  rcases stateful_bind_eq_error.mp h with h | ⟨a, between, _, hb⟩
  · exact hx w e w' h
  · exact hf a between e w' hb

/-- Giving a result never refuses. -/
theorem neverRefuses_pure (a : α) : (pure a : Work ε α).NeverRefuses :=
  nofun

/-- Asking for the workspace never refuses. -/
theorem neverRefuses_get : (get : Work ε Workspace).NeverRefuses :=
  nofun

/-- Noting an event never refuses. -/
theorem neverRefuses_note (e : Event) : (note e : Work ε Unit).NeverRefuses :=
  nofun

/-- Requiring an outcome without announced errors never refuses. -/
theorem neverRefuses_requireOk (cause : δ → Crash) (x : Except δ α) :
    (requireOk cause x : Work ε α).NeverRefuses := by
  intro w e w' h
  cases x <;> cases h

/-- Changing the disk never refuses. -/
theorem neverRefuses_change (c : Disk.Changing α) : (change c : Work ε α).NeverRefuses := by
  intro w e w' h
  unfold change at h
  split at h <;> cases h

/-! ## Work that is refused first -/

/-- Work that looks only refuses before anything has changed. -/
theorem LooksOnly.refusesFirst (h : x.LooksOnly) : x.RefusesFirst :=
  fun _ _ _ hx => h.of_error hx

/-- Work that never refuses does not refuse late either. -/
theorem NeverRefuses.refusesFirst (h : x.NeverRefuses) : x.RefusesFirst :=
  fun w e w' hx => absurd hx (h w e w')

/-- Work that looks only may come before work that is refused first. -/
theorem RefusesFirst.bind (hx : x.LooksOnly) (hf : ∀ a, (f a).RefusesFirst) :
    (x >>= f).RefusesFirst := by
  intro w e w' h
  rcases stateful_bind_eq_error.mp h with h | ⟨a, between, ha, hb⟩
  · exact hx.of_error h
  · exact (hf a between e w' hb).trans (hx.of_ok ha)

/-- Work that is never refused may come after work that is refused first. -/
theorem RefusesFirst.bind_neverRefuses (hx : x.RefusesFirst) (hf : ∀ a, (f a).NeverRefuses) :
    (x >>= f).RefusesFirst := by
  intro w e w' h
  rcases stateful_bind_eq_error.mp h with h | ⟨a, between, _, hb⟩
  · exact hx w e w' h
  · exact absurd hb (hf a between e w')

end Work

/-! ## Work on a project -/

section Writing

variable {ε : Type} {root directory : Path} {g : ModuleGraph}

/-- Assembling a bundle looks only. -/
theorem looksOnly_assembleBundle (root : Path) (cacheExports : Bool) (g : ModuleGraph) :
    (assembleBundle root cacheExports g : Work ε String).LooksOnly := by
  refine Work.looksOnly_get.bind fun _ => ?_
  refine (Work.looksOnly_requireOk _ _).bind fun _ => ?_
  exact (Work.looksOnly_note _).bind fun _ => Work.looksOnly_pure _

/-- Assembling a bundle never refuses. -/
theorem neverRefuses_assembleBundle (root : Path) (cacheExports : Bool) (g : ModuleGraph) :
    (assembleBundle root cacheExports g : Work ε String).NeverRefuses := by
  refine Work.neverRefuses_get.bind fun _ => ?_
  refine (Work.neverRefuses_requireOk _ _).bind fun _ => ?_
  exact (Work.neverRefuses_note _).bind fun _ => Work.neverRefuses_pure _

/-- Writing a bundle never refuses. -/
theorem neverRefuses_writeBundle (name : String) (cacheExports : Bool) :
    (writeBundle root directory name cacheExports g : Work ε Unit).NeverRefuses := by
  refine (Work.neverRefuses_change _).bind fun _ => ?_
  exact (neverRefuses_assembleBundle _ _ _).bind fun _ => Work.neverRefuses_change _

/-- Writing a listing never refuses. -/
theorem neverRefuses_writeListing : (writeListing root directory g : Work ε _).NeverRefuses := by
  refine (Work.neverRefuses_change _).bind fun _ => ?_
  refine Work.neverRefuses_get.bind fun w => ?_
  refine (Work.neverRefuses_requireOk _ _).bind fun modules => ?_
  refine (Work.neverRefuses_change _).bind fun _ => ?_
  cases (jsonLines (modules.map ListedModule.toJson)).2 with
  | none => exact Work.neverRefuses_pure _
  | some e => exact nofun

/-- Writing a summary never refuses. -/
theorem neverRefuses_writeSummary (policy : Except Invalid IdentityPolicy) (bound : Option Int) :
    (writeSummary root directory policy bound g : Work ε _).NeverRefuses := by
  refine (Work.neverRefuses_change _).bind fun _ => ?_
  refine Work.neverRefuses_get.bind fun _ => ?_
  refine (Work.neverRefuses_requireOk _ _).bind fun _ => ?_
  refine (Work.neverRefuses_requireOk _ _).bind fun _ => ?_
  exact (Work.neverRefuses_change _).bind fun _ => Work.neverRefuses_pure _

end Writing

namespace Project

variable (p : Project)

/-- Finding the settings looks only. -/
theorem looksOnly_effectiveSettings : p.effectiveSettings.LooksOnly := by
  unfold effectiveSettings
  cases p.settings with
  | some settings => exact Work.looksOnly_pure _
  | none => exact Work.looksOnly_get.bind fun _ => Work.looksOnly_require _

/-- Finding the directory for artifacts looks only. -/
theorem looksOnly_artifactsDirectory (settings : Settings) (chosen : Option Path) :
    (p.artifactsDirectory settings chosen).LooksOnly := by
  cases chosen with
  | some directory => exact Work.looksOnly_pure _
  | none => exact Work.looksOnly_get.bind fun _ => Work.looksOnly_require _

/-- Noting the events of a build looks only. -/
theorem looksOnly_forM_note {ε : Type} (events : List BuildEvent) :
    (events.forM fun e => Work.note (.build e) : Work ε Unit).LooksOnly := by
  intro w
  rw [stateAfter_of_ok (forM_note events w)]

/-- Building a graph looks only. -/
theorem looksOnly_buildGraph (settings : Settings) : (p.buildGraph settings).LooksOnly := by
  refine Work.looksOnly_get.bind fun _ => ?_
  refine (Work.looksOnly_require _).bind fun _ => ?_
  exact (looksOnly_forM_note _).bind fun _ => Work.looksOnly_require _

/-- Bundling a project changes nothing. -/
theorem looksOnly_bundle : p.bundle.LooksOnly := by
  refine p.looksOnly_effectiveSettings.bind fun settings => ?_
  exact (p.looksOnly_buildGraph settings).bind fun _ => looksOnly_assembleBundle _ _ _

/-- What is wrong with a project is announced before its artifacts are written. -/
theorem refusesFirst_generate (chosen : Option Path) : (p.generate chosen).RefusesFirst := by
  refine .bind p.looksOnly_effectiveSettings fun settings => ?_
  refine .bind (p.looksOnly_artifactsDirectory settings chosen) fun _ => ?_
  refine .bind (p.looksOnly_buildGraph settings) fun _ => ?_
  -- What is written from here on cannot be refused.
  apply Work.NeverRefuses.refusesFirst
  refine (neverRefuses_writeBundle _ _).bind fun _ => ?_
  refine (neverRefuses_writeListing.bind fun _ => Work.neverRefuses_pure _).bind fun _ => ?_
  refine (neverRefuses_writeSummary _ _).bind fun _ => ?_
  exact (Work.neverRefuses_note _).bind fun _ => Work.neverRefuses_pure _

end Project

end Bundler
