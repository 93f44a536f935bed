import Bundler.Disk.Real
import Bundler.Proofs.Disk.Ascent
import Bundler.Proofs.Path.Normal

/-!
# Real paths

Real paths depend on the links of a disk only. The number of entries bounds how deep links are followed
inside each other, since none is followed inside itself; so real paths stay when entries are added
that are no links. They are normal.
-/

set_option autoImplicit false

namespace Bundler.Disk

variable {d d' : Disk}

/-! ## Following links step by step -/

section Steps

variable {depth : Nat} {active : List (List String)} {here rest : List String} {name target : String}

/-- Behind the last name, all links have been followed. -/
theorem realNames_nil : d.realNames depth active here [] = (.complete, here) := by
  rw [realNames]

/-- A dot is skipped. -/
theorem realNames_dot :
    d.realNames depth active here ("." :: rest) = d.realNames depth active here rest := by
  rw [realNames, if_pos rfl]

/-- Two dots lead up. -/
theorem realNames_dots :
    d.realNames depth active here (".." :: rest) = d.realNames depth active here.dropLast rest := by
  rw [realNames, if_neg (by decide), if_pos rfl]

/-- No links are followed behind a name with a NUL character. -/
theorem realNames_null (hdot : name ≠ ".") (hdots : name ≠ "..") (hnull : holdsNull name = true) :
    d.realNames depth active here (name :: rest) = (.nullByte, here ++ name :: rest) := by
  rw [realNames, if_neg hdot, if_neg hdots, if_pos hnull]

section Plain

variable (hdot : name ≠ ".") (hdots : name ≠ "..") (hnull : holdsNull name = false)

include hdot hdots hnull

/-- A name at which there is no link is kept. -/
theorem realNames_plain (h : d.link? (here ++ [name]) = none) :
    d.realNames depth active here (name :: rest) =
      d.realNames depth active (here ++ [name]) rest := by
  rw [realNames, if_neg hdot, if_neg hdots, hnull]
  simp [h]

/-- A link that is being followed is not entered again. -/
theorem realNames_active (h : d.link? (here ++ [name]) = some target)
    (hactive : here ++ [name] ∈ active) :
    d.realNames depth active here (name :: rest) = (.stopped, here ++ [name] ++ rest) := by
  rw [realNames, if_neg hdot, if_neg hdots, hnull]
  simp [h, hactive]

/-- No link is followed where there is no depth left. -/
theorem realNames_deep (h : d.link? (here ++ [name]) = some target)
    (hactive : here ++ [name] ∉ active) :
    d.realNames 0 active here (name :: rest) = (.stopped, here ++ [name] ++ rest) := by
  rw [realNames, if_neg hdot, if_neg hdots, hnull]
  simp [h, hactive]

/-- A link is replaced by the names that it leads to. -/
theorem realNames_followed {there : List String} (h : d.link? (here ++ [name]) = some target)
    (hactive : here ++ [name] ∉ active)
    (hinner : d.realNames depth ((here ++ [name]) :: active) (linkStart here target)
      (steps [target]) = (.complete, there)) :
    d.realNames (depth + 1) active here (name :: rest) =
      d.realNames (depth + 1) active there rest := by
  have hcontains : active.contains (here ++ [name]) = false := by simpa using hactive
  unfold linkStart at hinner
  rw [realNames, if_neg hdot, if_neg hdots, hnull]
  simp only [h, hcontains, Bool.false_eq_true, if_false, hinner]

/-- Where a link cannot be followed to its end, the names behind it are kept. -/
theorem realNames_caught {following : Following} {names : List String}
    (h : d.link? (here ++ [name]) = some target) (hactive : here ++ [name] ∉ active)
    (hcaught : following ≠ .complete)
    (hinner : d.realNames depth ((here ++ [name]) :: active) (linkStart here target)
      (steps [target]) = (following, names)) :
    d.realNames (depth + 1) active here (name :: rest) = (following, names ++ rest) := by
  have hcontains : active.contains (here ++ [name]) = false := by simpa using hactive
  unfold linkStart at hinner
  rw [realNames, if_neg hdot, if_neg hdots, hnull]
  cases following with
  | complete => exact absurd rfl hcaught
  | stopped => simp only [h, hcontains, Bool.false_eq_true, if_false, hinner]
  | nullByte => simp only [h, hcontains, Bool.false_eq_true, if_false, hinner]

end Plain

end Steps

/-- Following links case by case: for no names and for one more, which is a dot, two dots, a name with a
NUL character, no link, a link that is being followed, a link that there is no depth for, or a link that
can be followed, up to its end or not. -/
theorem realNames_induction (d : Disk)
    {motive : Nat → List (List String) → List String → List String → Prop}
    (nil : ∀ depth active here, motive depth active here [])
    (dot : ∀ depth active here rest, motive depth active here rest →
      motive depth active here ("." :: rest))
    (dots : ∀ depth active here rest, motive depth active here.dropLast rest →
      motive depth active here (".." :: rest))
    (null : ∀ depth active here name rest, name ≠ "." → name ≠ ".." → holdsNull name = true →
      motive depth active here (name :: rest))
    (plain : ∀ depth active here name rest, name ≠ "." → name ≠ ".." → holdsNull name = false →
      d.link? (here ++ [name]) = none → motive depth active (here ++ [name]) rest →
      motive depth active here (name :: rest))
    (active : ∀ depth active here name rest target, name ≠ "." → name ≠ ".." →
      holdsNull name = false → d.link? (here ++ [name]) = some target → here ++ [name] ∈ active →
      motive depth active here (name :: rest))
    (deep : ∀ active here name rest target, name ≠ "." → name ≠ ".." → holdsNull name = false →
      d.link? (here ++ [name]) = some target → here ++ [name] ∉ active →
      motive 0 active here (name :: rest))
    (followed : ∀ depth active here name rest target there, name ≠ "." → name ≠ ".." →
      holdsNull name = false → d.link? (here ++ [name]) = some target → here ++ [name] ∉ active →
      d.realNames depth ((here ++ [name]) :: active) (linkStart here target) (steps [target]) =
        (.complete, there) →
      motive depth ((here ++ [name]) :: active) (linkStart here target) (steps [target]) →
      motive (depth + 1) active there rest → motive (depth + 1) active here (name :: rest))
    (caught : ∀ depth active here name rest target following names, name ≠ "." → name ≠ ".." →
      holdsNull name = false → d.link? (here ++ [name]) = some target → here ++ [name] ∉ active →
      following ≠ .complete →
      d.realNames depth ((here ++ [name]) :: active) (linkStart here target) (steps [target]) =
        (following, names) →
      motive depth ((here ++ [name]) :: active) (linkStart here target) (steps [target]) →
      motive (depth + 1) active here (name :: rest))
    (depth : Nat) (links : List (List String)) (here names : List String) :
    motive depth links here names := by
  refine realNames.induct d motive nil dot (fun depth active here rest _ => dots depth active here rest)
    null ?_ ?_ ?_ ?_ ?_ depth links here names
  · intro depth links here name rest hdot hdots hnull link hlink
    exact plain depth links here name rest hdot hdots (by simpa using hnull) hlink
  · intro depth links here name rest hdot hdots hnull link target hlink hcontains
    exact active depth links here name rest target hdot hdots (by simpa using hnull) hlink
      (by simpa using hcontains)
  · intro links here name rest hdot hdots hnull link target hlink hcontains
    exact deep links here name rest target hdot hdots (by simpa using hnull) hlink
      (by simpa using hcontains)
  · intro links here name rest hdot hdots hnull link target hlink hcontains depth start there hinner
    exact followed depth links here name rest target there hdot hdots (by simpa using hnull) hlink
      (by simpa using hcontains) hinner
  · intro links here name rest hdot hdots hnull link target hlink hcontains depth start following names
      hcaught hinner
    exact caught depth links here name rest target following names hdot hdots (by simpa using hnull)
      hlink (by simpa using hcontains) hcaught hinner

/-! ## Links only -/

/-- A link is an entry with a target. -/
theorem link?_eq_some {names : List String} {target : String} :
    d.link? names = some target ↔ d.get? names = some (.link target) := by
  unfold link?
  cases d.get? names with
  | none => simp
  | some e => cases e <;> simp

/-- Different links are being followed, and the depth is enough to follow all others inside them. -/
structure IsDeep (d : Disk) (depth : Nat) (active : List (List String)) : Prop where
  /-- No link is followed inside itself. -/
  nodup : active.Nodup
  /-- Links are followed only. -/
  links : ∀ link ∈ active, d.link? link ≠ none
  /-- There are no more links than entries. -/
  bound : d.entries.length ≤ depth + active.length

/-- There is depth for one more link. -/
theorem IsDeep.exists_enter {depth : Nat} {active : List (List String)} {link : List String}
    {target : String} (h : d.IsDeep depth active) (hlink : d.link? link = some target)
    (hnew : link ∉ active) : ∃ left, depth = left + 1 ∧ d.IsDeep left (link :: active) := by
  have hnodup : (link :: active).Nodup := List.nodup_cons.mpr ⟨hnew, h.nodup⟩
  have hlinks : ∀ other ∈ link :: active, d.link? other ≠ none := by
    intro other hother
    rcases List.mem_cons.mp hother with rfl | hother
    · simp [hlink]
    · exact h.links other hother
  have hkeys : link :: active ⊆ d.entries.map Prod.fst := by
    intro other hother
    obtain ⟨target, htarget⟩ := Option.ne_none_iff_exists'.mp (hlinks other hother)
    rw [link?_eq_some] at htarget
    have hne : other ≠ [] := by
      rintro rfl
      cases htarget
    exact List.mem_map.mpr ⟨_, mem_of_get? hne htarget, rfl⟩
  have hlength := (List.subperm_of_subset hnodup hkeys).length_le
  have hbound := h.bound
  rw [List.length_map, List.length_cons] at hlength
  obtain ⟨left, rfl⟩ : ∃ left, depth = left + 1 := ⟨depth - 1, by omega⟩
  refine ⟨left, rfl, hnodup, hlinks, ?_⟩
  rw [List.length_cons]
  omega

/-- The names without links depend on the links only. -/
theorem realNames_congr (hlinks : ∀ names, d'.link? names = d.link? names) {depth depth' : Nat}
    {active : List (List String)} {here names : List String} (h : d.IsDeep depth active)
    (h' : d'.IsDeep depth' active) :
    d'.realNames depth' active here names = d.realNames depth active here names := by
  induction depth, active, here, names using d.realNames_induction generalizing depth' with
  | nil depth active here => rw [realNames_nil, realNames_nil]
  | dot depth active here rest ih =>
    rw [realNames_dot, realNames_dot]
    exact ih h h'
  | dots depth active here rest ih =>
    rw [realNames_dots, realNames_dots]
    exact ih h h'
  | null depth active here name rest hdot hdots hnull =>
    rw [realNames_null hdot hdots hnull, realNames_null hdot hdots hnull]
  | plain depth active here name rest hdot hdots hnull hlink ih =>
    rw [realNames_plain hdot hdots hnull hlink,
      realNames_plain hdot hdots hnull ((hlinks _).trans hlink)]
    exact ih h h'
  | active depth active here name rest target hdot hdots hnull hlink hmem =>
    rw [realNames_active hdot hdots hnull hlink hmem,
      realNames_active hdot hdots hnull ((hlinks _).trans hlink) hmem]
  | deep active here name rest target hdot hdots hnull hlink hnew =>
    -- The depth is enough to enter the link.
    obtain ⟨left, hleft, _⟩ := h.exists_enter hlink hnew
    cases hleft
  | followed depth active here name rest target there hdot hdots hnull hlink hnew hinner ihinner ih =>
    have hlink' : d'.link? (here ++ [name]) = some target := (hlinks _).trans hlink
    obtain ⟨left, hleft, henter⟩ := h.exists_enter hlink hnew
    obtain ⟨left', rfl, henter'⟩ := h'.exists_enter hlink' hnew
    obtain rfl := Nat.succ.inj hleft
    have hinner' := (ihinner henter henter').trans hinner
    rw [realNames_followed hdot hdots hnull hlink hnew hinner,
      realNames_followed hdot hdots hnull hlink' hnew hinner']
    exact ih h h'
  | caught depth active here name rest target following names hdot hdots hnull hlink hnew hcaught
      hinner ihinner =>
    have hlink' : d'.link? (here ++ [name]) = some target := (hlinks _).trans hlink
    obtain ⟨left, hleft, henter⟩ := h.exists_enter hlink hnew
    obtain ⟨left', rfl, henter'⟩ := h'.exists_enter hlink' hnew
    obtain rfl := Nat.succ.inj hleft
    have hinner' := (ihinner henter henter').trans hinner
    rw [realNames_caught hdot hdots hnull hlink hnew hcaught hinner,
      realNames_caught hdot hdots hnull hlink' hnew hcaught hinner']

/-- The number of entries is enough depth. -/
theorem isDeep_entries (d : Disk) : d.IsDeep d.entries.length [] :=
  ⟨List.nodup_nil, nofun, Nat.le_refl _⟩

/-! ## Real paths -/

section Real

variable {p q : Path}

/-- A path runs into a loop if its look-up does. -/
theorem find_eq_linkLoop : d.find p = .error .linkLoop ↔ d.place p = .error .linkLoop := by
  unfold find Disk.place
  cases d.locate maxLinks [] (d.absoluteSteps p) with
  | error e => simp [bind, Except.bind]
  | ok place => cases hget : d.get? place <;> simp [bind, Except.bind, hget]

/-- How far links on a path are followed. -/
def following (d : Disk) (p : Path) : Following :=
  (d.realNames d.entries.length [] [] (d.absoluteSteps p)).1

/-- The real path of a path, if it has one. -/
def realCandidate (d : Disk) (p : Path) : Path where
  anchor := .root
  names := Path.collapseFrom true []
    ((d.realNames d.entries.length [] [] (d.absoluteSteps p)).2.filter (· != "."))

/-- The real path of a path is its candidate, unless that fails. -/
theorem real_eq (d : Disk) (p : Path) :
    d.real p =
      if d.following p = .nullByte ∨ (d.realCandidate p).hasNull then .error .nullByte
      else
        match d.find (d.realCandidate p) with
        | .error .linkLoop => .error (.loop (d.realCandidate p))
        | _ => .ok (d.realCandidate p) :=
  rfl

/-- A path has no real path because of a NUL character: in a name that is looked up, or in what is left
of the path. -/
theorem real_of_null (h : d.following p = .nullByte ∨ (d.realCandidate p).hasNull = true) :
    d.real p = .error .nullByte := by
  rw [real_eq, if_pos h]

section NoNull

variable (hfollowing : d.following p ≠ .nullByte) (hnull : (d.realCandidate p).hasNull = false)

include hfollowing hnull

/-- A path has no real path if the candidate runs into a loop. -/
theorem real_of_loop (h : d.place (d.realCandidate p) = .error .linkLoop) :
    d.real p = .error (.loop (d.realCandidate p)) := by
  rw [real_eq, if_neg (by simp [hfollowing, hnull]), find_eq_linkLoop.mpr h]

/-- A path has a real path if the candidate runs into no loop. -/
theorem real_of_no_loop (h : d.place (d.realCandidate p) ≠ .error .linkLoop) :
    d.real p = .ok (d.realCandidate p) := by
  rw [real_eq, if_neg (by simp [hfollowing, hnull])]
  split
  · rename_i hloop
    exact absurd (find_eq_linkLoop.mp hloop) h
  · rfl

end NoNull

/-- A path has a real path if nothing that is looked up, or left, stands in the way. -/
theorem real_eq_ok :
    d.real p = .ok q ↔ d.following p ≠ .nullByte ∧ q = d.realCandidate p ∧ q.hasNull = false ∧
      d.place q ≠ .error .linkLoop := by
  constructor
  · intro h
    by_cases hnull : d.following p = .nullByte ∨ (d.realCandidate p).hasNull = true
    · cases (real_of_null hnull).symm.trans h
    · rw [not_or, Bool.not_eq_true] at hnull
      by_cases hloop : d.place (d.realCandidate p) = .error .linkLoop
      · cases (real_of_loop hnull.1 hnull.2 hloop).symm.trans h
      · cases (real_of_no_loop hnull.1 hnull.2 hloop).symm.trans h
        exact ⟨hnull.1, rfl, hnull.2, hloop⟩
  · rintro ⟨hfollowing, rfl, hnull, hloop⟩
    exact real_of_no_loop hfollowing hnull hloop

/-- A disk that has grown has the same links. -/
theorem Grows.link?_eq {written : List (List String)} (h : Grows written d d')
    (names : List String) : d'.link? names = d.link? names := by
  apply Option.ext
  intro target
  rw [link?_eq_some, link?_eq_some, h.get?_link]

/-- Real paths stay while a disk grows, unless they run into a loop of links then. -/
theorem Grows.real {written : List (List String)} (h : Grows written d d')
    (hreal : d.real p = .ok q) (hloop : d'.place q ≠ .error .linkLoop) : d'.real p = .ok q := by
  obtain ⟨hfollowing, rfl, hnull, _⟩ := real_eq_ok.mp hreal
  have hnames : d'.realNames d'.entries.length [] [] (d'.absoluteSteps p) =
      d.realNames d.entries.length [] [] (d.absoluteSteps p) := by
    rw [h.absoluteSteps_eq, realNames_congr h.link?_eq d.isDeep_entries d'.isDeep_entries]
  have hsame : d'.following p = d.following p := by
    rw [following, hnames, following]
  have hcandidate : d'.realCandidate p = d.realCandidate p := by
    rw [realCandidate, hnames, realCandidate]
  exact real_eq_ok.mpr ⟨hsame ▸ hfollowing, hcandidate.symm, hnull, hloop⟩

/-- The real path of a directory stays, if a name below it is never looked up out of a new directory. -/
theorem Grows.real_of_extend {written : List (List String)} {name : String} (h : Grows written d d')
    (hproper : d.IsProper) (hname : IsStepName name) (hold : StaysOnOld d d' (q.extend [name]))
    (hreal : d.real p = .ok q) : d'.real p = .ok q := by
  apply h.real hreal
  intro hloop
  have hsteps : ∀ d : Disk, d.absoluteSteps (q.extend [name]) = d.absoluteSteps q ++ [name] :=
    fun d => absoluteSteps_extend d q (by simpa using hname.toIsName)
  have hloop' : d'.place (q.extend [name]) = .error .linkLoop := by
    rw [place, hsteps]
    exact locate_append_of_error hloop _
  cases hplace : d.place q with
  | ok place =>
    rw [h.place_eq_ok hplace] at hloop
    cases hloop
  | error e =>
    have hbefore : d.place (q.extend [name]) = .error e := by
      rw [place, hsteps]
      exact locate_append_of_error hplace _
    rcases h.place_eq_or hproper hold with heq | ⟨_, hne, _⟩
    · rw [hloop', hbefore, Except.error.injEq] at heq
      rw [← heq] at hplace
      exact (real_eq_ok.mp hreal).2.2.2 hplace
    · exact hne hloop'

/-- A dot or a name, as it stands in a look-up. -/
def IsDotOrName (name : String) : Prop :=
  name ≠ "." → Path.IsName name

/-- A step that is no dot is a name. -/
theorem isName_of_mem_steps {names : List String} {name : String} (hname : name ∈ steps names)
    (hdot : name ≠ ".") : Path.IsName name := by
  obtain ⟨other, hother, hname⟩ := List.mem_flatMap.mp hname
  obtain ⟨hpiece, hempty⟩ := List.mem_filter.mp hname
  obtain ⟨piece, hmem, rfl⟩ := List.mem_map.mp hpiece
  refine ⟨by simpa using hempty, hdot, ?_⟩
  rw [String.toList_ofList]
  exact Text.not_mem_of_mem_splitChars hmem

/-- What is left of a path when links have been followed consists of dots and names. -/
theorem isName_of_mem_realNames {depth : Nat} {active : List (List String)} {here names : List String}
    (hhere : ∀ name ∈ here, IsDotOrName name) (hnames : ∀ name ∈ names, IsDotOrName name) :
    ∀ name ∈ (d.realNames depth active here names).2, IsDotOrName name := by
  have hconcat : ∀ {here rest : List String} {name : String}, (∀ other ∈ here, IsDotOrName other) →
      (∀ other ∈ name :: rest, IsDotOrName other) →
      (∀ other ∈ here ++ [name], IsDotOrName other) ∧ ∀ other ∈ rest, IsDotOrName other := by
    intro here rest name hhere hnames
    rw [List.forall_mem_cons] at hnames
    refine ⟨?_, hnames.2⟩
    simpa [or_imp, forall_and] using ⟨hhere, hnames.1⟩
  have hsteps : ∀ (target : String), ∀ other ∈ steps [target], IsDotOrName other :=
    fun target other hother => isName_of_mem_steps hother
  induction depth, active, here, names using d.realNames_induction with
  | nil depth active here =>
    rw [realNames_nil]
    exact hhere
  | dot depth active here rest ih =>
    rw [realNames_dot]
    exact ih hhere (hconcat hhere hnames).2
  | dots depth active here rest ih =>
    rw [realNames_dots]
    exact ih (fun name hname => hhere name (List.mem_of_mem_dropLast hname)) (hconcat hhere hnames).2
  | null depth active here name rest hdot hdots hnull =>
    rw [realNames_null hdot hdots hnull]
    exact List.forall_mem_append.mpr ⟨hhere, hnames⟩
  | plain depth active here name rest hdot hdots hnull hlink ih =>
    rw [realNames_plain hdot hdots hnull hlink]
    exact ih (hconcat hhere hnames).1 (hconcat hhere hnames).2
  | active depth active here name rest target hdot hdots hnull hlink hmem =>
    rw [realNames_active hdot hdots hnull hlink hmem]
    exact List.forall_mem_append.mpr (hconcat hhere hnames)
  | deep active here name rest target hdot hdots hnull hlink hnew =>
    rw [realNames_deep hdot hdots hnull hlink hnew]
    exact List.forall_mem_append.mpr (hconcat hhere hnames)
  | followed depth active here name rest target there hdot hdots hnull hlink hnew hinner ihinner ih =>
    have hstart : ∀ other ∈ linkStart here target, IsDotOrName other :=
      fun other hother => hhere other (mem_of_mem_linkStart hother)
    rw [realNames_followed hdot hdots hnull hlink hnew hinner]
    rw [hinner] at ihinner
    exact ih (ihinner hstart (hsteps target)) (hconcat hhere hnames).2
  | caught depth active here name rest target following names hdot hdots hnull hlink hnew hcaught
      hinner ihinner =>
    have hstart : ∀ other ∈ linkStart here target, IsDotOrName other :=
      fun other hother => hhere other (mem_of_mem_linkStart hother)
    rw [realNames_caught hdot hdots hnull hlink hnew hcaught hinner]
    rw [hinner] at ihinner
    exact List.forall_mem_append.mpr ⟨ihinner hstart (hsteps target), (hconcat hhere hnames).2⟩

/-- Real paths lead down from the root. -/
theorem isNormal_of_real (hreal : d.real p = .ok q) : q.IsNormal := by
  obtain ⟨_, rfl, _⟩ := real_eq_ok.mp hreal
  refine ⟨rfl, ?_⟩
  intro name hname
  have hdots : name ≠ ".." := by
    rintro rfl
    exact Path.dots_not_mem_collapseFrom List.not_mem_nil hname
  rcases Path.mem_collapseFrom hname with hname | hname | rfl
  · cases hname
  · obtain ⟨hname, hdot⟩ := List.mem_filter.mp hname
    have hsteps : ∀ other ∈ d.absoluteSteps p, IsDotOrName other :=
      fun other hother => isName_of_mem_steps hother
    exact ⟨isName_of_mem_realNames (by simp) hsteps name hname (by simpa using hdot), hdots⟩
  · exact absurd rfl hdots

end Real

end Bundler.Disk
