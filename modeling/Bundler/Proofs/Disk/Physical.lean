import Bundler.Proofs.Disk.Extent
import Bundler.Proofs.Disk.RealPath

/-!
# Physical paths

A physical path has no links on it, so that it leads to itself. The real path of a path is physical
unless a link leads back to itself on the way. In particular the real path of a directory is physical,
since looking up a place takes care of all links before it gets there. What is made or written on a
physical path changes nothing elsewhere.
-/

set_option autoImplicit false

namespace Bundler.Disk

variable {d d' : Disk} {here names place : List String} {name : String}

/-- Names that lead down from the root, with no link on the way. -/
structure IsPhysical (d : Disk) (names : List String) : Prop where
  /-- Every name leads down. -/
  stepNames : ∀ name ∈ names, IsStepName name
  /-- No link stands on the way, nor at its end. -/
  noLink : ∀ n, d.link? (names.take n) = none

/-- There are no links above the root. -/
theorem isPhysical_nil (d : Disk) : d.IsPhysical [] where
  stepNames := nofun
  noLink := by
    intro n
    rw [List.take_nil]
    rfl

/-- The first names of a path without links have none either. -/
theorem IsPhysical.take (h : d.IsPhysical names) (n : Nat) : d.IsPhysical (names.take n) where
  stepNames := fun name hname => h.stepNames name (List.mem_of_mem_take hname)
  noLink := by
    intro m
    rw [List.take_take]
    exact h.noLink _

/-- The directory above a path without links has none either. -/
theorem IsPhysical.dropLast (h : d.IsPhysical names) : d.IsPhysical names.dropLast := by
  rw [List.dropLast_eq_take]
  exact h.take _

/-- A path without links is continued by a name at which there is none. -/
theorem IsPhysical.concat (h : d.IsPhysical names) (hname : IsStepName name)
    (hlink : d.link? (names ++ [name]) = none) : d.IsPhysical (names ++ [name]) where
  stepNames := by
    intro other hother
    rcases List.mem_append.mp hother with hother | hother
    · exact h.stepNames other hother
    · rwa [List.mem_singleton.mp hother]
  noLink := by
    intro n
    by_cases hn : n ≤ names.length
    · rw [List.take_append_of_le_length hn]
      exact h.noLink n
    · rw [List.take_of_length_le (by simp; omega)]
      exact hlink

/-- A path without links leads down from the root. -/
theorem IsPhysical.isNormal (h : d.IsPhysical names) : Path.IsNormal ⟨.root, names⟩ :=
  ⟨rfl, h.stepNames⟩

/-- Where links are followed only, a physical path stays physical. -/
theorem IsPhysical.of_link? (h : d.IsPhysical names)
    (hlinks : ∀ names target, d'.get? names = some (.link target) →
      d.get? names = some (.link target)) : d'.IsPhysical names where
  stepNames := h.stepNames
  noLink := by
    intro n
    rw [Option.eq_none_iff_forall_ne_some]
    intro target htarget
    have hbefore := link?_eq_some.mpr (hlinks _ target (link?_eq_some.mp htarget))
    rw [h.noLink n] at hbefore
    cases hbefore

/-! ## Physical paths lead to themselves -/

/-- A physical path leads to itself, or something on it is missing or a file. -/
theorem IsPhysical.locate_eq_or {links : Nat} (h : d.IsPhysical (here ++ names)) :
    d.locate links here names = .ok (here ++ names) ∨ d.locate links here names = .error .noEntry ∨
      d.locate links here names = .error .notDirectory := by
  induction names generalizing here with
  | nil =>
    rw [locate_nil, List.append_nil]
    exact .inl rfl
  | cons name names ih =>
    have hname : IsStepName name := h.stepNames name (by simp)
    have hlink : d.link? (here ++ [name]) = none := by
      have htake := h.noLink (here.length + 1)
      rwa [List.take_append, List.take_of_length_le (by omega), Nat.add_sub_cancel_left,
        List.take_succ_cons, List.take_zero] at htake
    cases hget : d.get? (here ++ [name]) with
    | none =>
      rw [locate_missing hname.ne_dot hname.ne_dots hget]
      split
      · simp [*]
      · exact .inr (.inl rfl)
    | some e =>
      cases e with
      | file bytes =>
        rw [locate_file hname.ne_dot hname.ne_dots hget]
        split
        · simp [*]
        · exact .inr (.inr rfl)
      | directory =>
        rw [locate_directory hname.ne_dot hname.ne_dots hget]
        have happend : here ++ name :: names = here ++ [name] ++ names := List.append_cons _ _ _
        rw [happend] at h ⊢
        exact ih h
      | link target =>
        rw [link?_eq_some.mpr hget] at hlink
        cases hlink

/-- A path without links leads to itself, or nowhere without a loop. -/
theorem IsPhysical.place_eq_or (h : d.IsPhysical names) :
    d.place ⟨.root, names⟩ = .ok names ∨ d.place ⟨.root, names⟩ = .error .noEntry ∨
      d.place ⟨.root, names⟩ = .error .notDirectory := by
  rw [Disk.place, absoluteSteps_eq h.isNormal.isAbsolute h.isNormal.isCanonical]
  have hnil : d.IsPhysical ([] ++ names) := h
  exact hnil.locate_eq_or

/-- A path without links leads nowhere else than to itself. -/
theorem IsPhysical.eq_of_place (h : d.IsPhysical names)
    (hplace : d.place ⟨.root, names⟩ = .ok place) : place = names := by
  rcases h.place_eq_or with hsame | hmissing | hfile
  · exact Except.ok.inj (hplace.symm.trans hsame)
  · cases hplace.symm.trans hmissing
  · cases hplace.symm.trans hfile

/-! ## Following links to the end -/

/-- A link on a path without others is followed from such a path. -/
theorem IsPhysical.linkStart (h : d.IsPhysical here) (target : String) :
    d.IsPhysical (linkStart here target) := by
  unfold Disk.linkStart
  split
  · exact isPhysical_nil d
  · exact h

/-- Where all links can be followed, the names without links are physical, and no NUL character is
among them. -/
theorem isPhysical_of_realNames {depth : Nat} {active : List (List String)}
    (hhere : d.IsPhysical here) (hnull : ∀ name ∈ here, holdsNull name = false)
    (hnames : ∀ name ∈ names, IsDotOrName name)
    (h : d.realNames depth active here names = (.complete, place)) :
    d.IsPhysical place ∧ ∀ name ∈ place, holdsNull name = false := by
  induction depth, active, here, names using d.realNames_induction generalizing place with
  | nil depth active here =>
    rw [realNames_nil] at h
    cases h
    exact ⟨hhere, hnull⟩
  | dot depth active here rest ih =>
    rw [realNames_dot] at h
    exact ih hhere hnull (List.forall_mem_cons.mp hnames).2 h
  | dots depth active here rest ih =>
    rw [realNames_dots] at h
    exact ih hhere.dropLast (fun name hname => hnull name (List.mem_of_mem_dropLast hname))
      (List.forall_mem_cons.mp hnames).2 h
  | null depth active here name rest hdot hdots hname =>
    rw [realNames_null hdot hdots hname] at h
    cases h
  | plain depth active here name rest hdot hdots hnull' hlink ih =>
    rw [realNames_plain hdot hdots hnull' hlink] at h
    have hname : IsStepName name := ⟨(List.forall_mem_cons.mp hnames).1 hdot, hdots⟩
    refine ih (hhere.concat hname hlink) ?_ (List.forall_mem_cons.mp hnames).2 h
    simpa [or_imp, forall_and] using ⟨hnull, hnull'⟩
  | active depth active here name rest target hdot hdots hnull' hlink hmem =>
    rw [realNames_active hdot hdots hnull' hlink hmem] at h
    cases h
  | deep active here name rest target hdot hdots hnull' hlink hnew =>
    rw [realNames_deep hdot hdots hnull' hlink hnew] at h
    cases h
  | followed depth active here name rest target there hdot hdots hnull' hlink hnew hinner ihinner ih =>
    rw [realNames_followed hdot hdots hnull' hlink hnew hinner] at h
    have hstart : ∀ other ∈ linkStart here target, holdsNull other = false :=
      fun other hother => hnull other (mem_of_mem_linkStart hother)
    obtain ⟨hthere, hclean⟩ :=
      ihinner (hhere.linkStart target) hstart (fun _ => isName_of_mem_steps) hinner
    exact ih hthere hclean (List.forall_mem_cons.mp hnames).2 h
  | caught depth active here name rest target following names hdot hdots hnull' hlink hnew hcaught
      hinner ihinner =>
    rw [realNames_caught hdot hdots hnull' hlink hnew hcaught hinner] at h
    cases h
    exact absurd rfl hcaught

/-- A look-up that leads somewhere leads there with more links as well. -/
theorem locate_eq_ok_of_le {links more : Nat} (hle : links ≤ more)
    (h : d.locate links here names = .ok place) : d.locate more here names = .ok place := by
  induction links, here, names using d.locate_induction generalizing more with
  | nil links here =>
    rw [locate_nil] at h ⊢
    exact h
  | dot links here rest ih =>
    rw [locate_dot] at h ⊢
    exact ih hle h
  | dots links here rest ih =>
    rw [locate_dots] at h ⊢
    exact ih hle h
  | missing links here name rest hdot hdots hget =>
    rw [locate_missing hdot hdots hget] at h ⊢
    exact h
  | file links here name rest bytes hdot hdots hget =>
    rw [locate_file hdot hdots hget] at h ⊢
    exact h
  | directory links here name rest hdot hdots hget ih =>
    rw [locate_directory hdot hdots hget] at h ⊢
    exact ih hle h
  | stuck here name rest target hdot hdots hget =>
    rw [locate_link_zero hdot hdots hget] at h
    cases h
  | link links here name rest target hdot hdots hget ih =>
    obtain ⟨more, rfl⟩ : ∃ n, more = n + 1 := ⟨more - 1, by omega⟩
    rw [locate_link hdot hdots hget] at h ⊢
    exact ih (Nat.le_of_succ_le_succ hle) h

/-- Among the links being followed, none can be looked up with few links only: a look-up with few links
never meets them. -/
def AvoidsActive (d : Disk) (links : Nat) (active : List (List String)) : Prop :=
  ∀ here name, here ++ [name] ∈ active → ∀ fewer ≤ links, ∀ place,
    d.locate fewer here [name] ≠ .ok place

/-- A link that leads somewhere does so with a least number of links, and its text leads there with one
link less. -/
theorem exists_least_links {links : Nat} {name target : String} (hdot : name ≠ ".") (hdots : name ≠ "..")
    (hget : d.get? (here ++ [name]) = some (.link target))
    (h : d.locate links here [name] = .ok place) :
    ∃ left < links, d.locate left (linkStart here target) (steps [target]) = .ok place ∧
      ∀ fewer ≤ left, ∀ other, d.locate fewer here [name] ≠ .ok other := by
  have hexists : ∃ n, d.locate n here [name] = .ok place := ⟨links, h⟩
  have hfind := Nat.find_spec hexists
  obtain ⟨left, hleft⟩ : ∃ left, Nat.find hexists = left + 1 := by
    apply Nat.exists_eq_succ_of_ne_zero
    intro hzero
    rw [hzero, locate_link_zero hdot hdots hget] at hfind
    cases hfind
  have hfew : left + 1 ≤ links := by
    rw [← hleft]
    exact Nat.find_min' hexists h
  refine ⟨left, hfew, ?_, ?_⟩
  · rwa [hleft, locate_link hdot hdots hget, List.append_nil] at hfind
  · intro fewer hfewer other hother
    have hmore := locate_eq_ok_of_le (by omega : fewer ≤ links) hother
    rw [h] at hmore
    cases hmore
    exact Nat.find_min hexists (by omega : fewer < Nat.find hexists) hother

/-- A link that needs more links than are left may be followed next. -/
theorem AvoidsActive.enter {left links : Nat} {active : List (List String)} {name : String}
    (h : d.AvoidsActive links active) (hleft : left ≤ links)
    (hname : ∀ fewer ≤ left, ∀ other, d.locate fewer here [name] ≠ .ok other) :
    d.AvoidsActive left ((here ++ [name]) :: active) := by
  intro other last hmem fewer hfewer place
  rcases List.mem_cons.mp hmem with heq | hmem
  · obtain ⟨rfl, ⟨⟩⟩ := List.append_inj' heq rfl
    exact hname fewer hfewer place
  · exact h other last hmem fewer (hfewer.trans hleft) place

/-- All links that a look-up follows on its way to a place can be followed to their ends, unless a name
that holds a NUL character is met. -/
theorem realNames_of_locate {depth links : Nat} {active : List (List String)}
    (hdeep : d.IsDeep depth active) (havoids : d.AvoidsActive links active)
    (h : d.locate links here names = .ok place) (hopen : d.IsOpen here) :
    d.realNames depth active here names = (.complete, place) ∨
      (d.realNames depth active here names).1 = .nullByte := by
  -- Inside a link there are fewer links left, behind it fewer names.
  induction links using Nat.strongRecOn generalizing depth active here names place with
  | ind links ihlinks =>
  induction names generalizing here with
  | nil =>
    rw [locate_nil] at h
    cases h
    exact .inl realNames_nil
  | cons name rest ih =>
    by_cases hdot : name = "."
    · subst hdot
      rw [locate_dot] at h
      rw [realNames_dot]
      exact ih h hopen
    by_cases hdots : name = ".."
    · subst hdots
      rw [locate_dots] at h
      rw [realNames_dots]
      exact ih h hopen.dropLast
    cases hnull : holdsNull name with
    | true =>
      rw [realNames_null hdot hdots hnull]
      exact .inr rfl
    | false =>
    cases hget : d.get? (here ++ [name]) with
    | none =>
      have hlink : d.link? (here ++ [name]) = none := by simp [link?, hget]
      rw [locate_missing hdot hdots hget] at h
      split at h
      · cases h
        rw [realNames_plain hdot hdots hnull hlink, ‹rest = []›, realNames_nil]
        exact .inl rfl
      · cases h
    | some e =>
      cases e with
      | file bytes =>
        have hlink : d.link? (here ++ [name]) = none := by simp [link?, hget]
        rw [locate_file hdot hdots hget] at h
        split at h
        · cases h
          rw [realNames_plain hdot hdots hnull hlink, ‹rest = []›, realNames_nil]
          exact .inl rfl
        · cases h
      | directory =>
        have hlink : d.link? (here ++ [name]) = none := by simp [link?, hget]
        rw [locate_directory hdot hdots hget] at h
        rw [realNames_plain hdot hdots hnull hlink]
        exact ih h (hopen.concat hget)
      | link target =>
        have hlink : d.link? (here ++ [name]) = some target := link?_eq_some.mpr hget
        -- The link leads somewhere by itself, and the other names are looked up from there.
        obtain ⟨there, hthere, hrest⟩ : ∃ there, d.locate links here [name] = .ok there ∧
            (d.realNames depth active there rest = (.complete, place) ∨
              (d.realNames depth active there rest).1 = .nullByte) := by
          by_cases hnil : rest = []
          · subst hnil
            exact ⟨place, h, .inl realNames_nil⟩
          · rw [← List.singleton_append] at h
            obtain ⟨there, hthere, hopen'⟩ := exists_locate_of_append hopen hnil h
            obtain ⟨left, hleft, hrest⟩ := locate_append hthere hopen'.get?
            rw [hrest] at h
            exact ⟨there, hthere, ih (locate_eq_ok_of_le hleft h) hopen'⟩
        have hnew : here ++ [name] ∉ active :=
          fun hmem => havoids here name hmem links le_rfl there hthere
        -- With the fewest links that are enough, the link is not met again inside itself.
        obtain ⟨left, hleft, hinside, hname⟩ := exists_least_links hdot hdots hget hthere
        obtain ⟨depth, rfl, hdeep'⟩ := hdeep.exists_enter hlink hnew
        have havoids' := havoids.enter hleft.le hname
        rcases ihlinks left hleft hdeep' havoids' hinside (hopen.linkStart target) with hinner | hinner
        · rw [realNames_followed hdot hdots hnull hlink hnew hinner]
          exact hrest
        · have hcaught : (d.realNames (depth + 1) active here (name :: rest)).1 = .nullByte := by
            rw [realNames_caught hdot hdots hnull hlink hnew (by decide) (Prod.ext hinner rfl)]
          exact .inr hcaught

/-! ## Real paths -/

/-- All links on a path can be followed: none of them leads back to itself. -/
def FollowsLinks (d : Disk) (p : Path) : Prop :=
  d.following p = .complete

variable {p q : Path}

/-- Names that are left when all links have been followed are the real path as they are. -/
theorem realCandidate_of_followed
    (h : d.realNames d.entries.length [] [] (d.absoluteSteps p) = (.complete, place)) :
    d.realCandidate p = ⟨.root, place⟩ ∧ d.IsPhysical place ∧
      ∀ name ∈ place, holdsNull name = false := by
  have hsteps : ∀ name ∈ d.absoluteSteps p, IsDotOrName name :=
    fun _ hname => isName_of_mem_steps hname
  obtain ⟨hphysical, hnull⟩ := isPhysical_of_realNames (isPhysical_nil d) (by simp) hsteps h
  have hfilter := List.filter_eq_self.mpr fun name hname =>
    bne_iff_ne.mpr (hphysical.stepNames name hname).ne_dot
  refine ⟨?_, hphysical, hnull⟩
  rw [realCandidate, h, hfilter, Path.collapseFrom_eq [] hphysical.stepNames]
  rfl

/-- The real path is physical where all links can be followed. -/
theorem FollowsLinks.exists_physical (h : d.FollowsLinks p) (hreal : d.real p = .ok q) :
    ∃ names, q = ⟨.root, names⟩ ∧ d.IsPhysical names := by
  obtain ⟨_, rfl, _⟩ := real_eq_ok.mp hreal
  obtain ⟨hcandidate, hphysical, _⟩ := realCandidate_of_followed (Prod.ext h rfl)
  exact ⟨_, hcandidate, hphysical⟩

/-- The real path of a directory is its place. -/
theorem real_of_directory (hreal : d.real p = .ok q) (hplace : d.place p = .ok place)
    (hdirectory : d.get? place = some .directory) :
    q = ⟨.root, place⟩ ∧ d.IsOpen place ∧ d.IsPhysical place := by
  have hopen : d.IsOpen place := by
    obtain hnil | ⟨before, last, rfl⟩ := List.eq_nil_or_concat' place
    · rw [hnil]
      exact isOpen_nil d
    · have hbefore := isOpen_of_locate (isOpen_nil d) hplace
      rw [List.dropLast_concat] at hbefore
      exact hbefore.concat hdirectory
  obtain ⟨hfollowing, rfl, _⟩ := real_eq_ok.mp hreal
  have hfollowed : d.realNames d.entries.length [] [] (d.absoluteSteps p) = (.complete, place) := by
    exact (realNames_of_locate d.isDeep_entries (fun _ _ hmem => absurd hmem List.not_mem_nil)
      hplace (isOpen_nil d)).resolve_right hfollowing
  obtain ⟨hcandidate, hphysical, _⟩ := realCandidate_of_followed hfollowed
  exact ⟨hcandidate, hopen, hphysical⟩

/-! ## Changes below a directory -/

section Changes

variable {before : Disk} {base : List String}

/-- A disk that differs from an earlier one at most below a directory, and has no new links. -/
structure ChangesBelow (base : List String) (before after : Disk) : Prop where
  /-- Nothing changes outside. -/
  outside : ∀ names, ¬ base <+: names → after.get? names = before.get? names
  /-- There are no new links. -/
  links : ∀ names target, after.get? names = some (.link target) →
    before.get? names = some (.link target)

/-- No change is one below a directory. -/
theorem ChangesBelow.refl (base : List String) (d : Disk) : ChangesBelow base d d where
  outside := fun _ _ => rfl
  links := fun _ _ h => h

/-- Putting something that is no link makes no link. -/
theorem ChangesBelow.links_put (h : ChangesBelow base before d) (hne : place ≠ []) {e : Entry}
    (he : ∀ target, e ≠ .link target) (names : List String) (target : String)
    (hget : (d.put place e).get? names = some (.link target)) :
    before.get? names = some (.link target) := by
  rw [get?_put hne] at hget
  split at hget
  · exact absurd (Option.some.inj hget) (he target)
  · exact h.links names target hget

/-- Putting something that is no link below a directory is a change there. -/
theorem ChangesBelow.put (h : ChangesBelow base before d) (hbelow : base <+: place) (hne : place ≠ [])
    {e : Entry} (he : ∀ target, e ≠ .link target) : ChangesBelow base before (d.put place e) where
  outside := by
    intro names hnames
    rw [get?_put hne, if_neg, h.outside names hnames]
    rintro rfl
    exact hnames hbelow
  links := h.links_put hne he

/-- A directory that is made on a physical path to or below another directory is there or below, if
that one stands in an open directory. -/
theorem ChangesBelow.makeDirectory (h : ChangesBelow base before d) (hopen : before.IsOpen base.dropLast)
    (hphysical : before.IsPhysical names) (hbelow : base <+: names) (n : Nat)
    (hmake : d.makeDirectory (Path.upTo ⟨.root, names⟩ n) = .ok d') : ChangesBelow base before d' := by
  obtain ⟨place, hplace, hne, hfree, rfl⟩ := makeDirectory_eq_put hmake
  have hnow : (d.put place .directory).IsPhysical (names.take n) :=
    (hphysical.take n).of_link? (h.links_put hne nofun)
  obtain rfl := hnow.eq_of_place hplace
  refine h.put ?_ hne nofun
  obtain ⟨rest, rfl⟩ := hbelow
  rcases Nat.lt_or_ge n base.length with hlt | hle
  · -- The directories above are there already.
    have htake : (base ++ rest).take n = base.dropLast.take n := by
      rw [List.take_append_of_le_length hlt.le, List.dropLast_eq_take, List.take_take,
        min_eq_left (by omega)]
    by_contra houtside
    rw [h.outside _ houtside, htake, hopen n] at hfree
    cases hfree
  · rw [List.take_append, List.take_of_length_le hle]
    exact List.prefix_append _ _

/-- A file that is written in a directory with a physical path, where no link stands, is in it. -/
theorem ChangesBelow.write (h : ChangesBelow base before d) (hphysical : before.IsPhysical names)
    (hbelow : base <+: names) (hname : IsStepName name) (hlink : before.link? (names ++ [name]) = none)
    {bytes : List UInt8} (hwrite : d.write ((⟨.root, names⟩ : Path) / name) bytes = .ok d') :
    ChangesBelow base before d' := by
  obtain ⟨_, place, hplace, hfree, rfl⟩ := write_eq_ok.mp hwrite
  rw [Path.div_eq_extend hname.toIsName] at hplace
  obtain rfl := ((hphysical.concat hname hlink).of_link? h.links).eq_of_place hplace
  exact h.put (hbelow.trans (List.prefix_append _ _)) (by simp) nofun

/-- Storing files where no links stand in a directory with a physical path changes nothing outside,
however it ends. -/
theorem keeps_store (hopen : before.IsOpen base.dropLast) (hphysical : before.IsPhysical names)
    (hbelow : base <+: names) {files : List (String × List UInt8)}
    (hfiles : ∀ file ∈ files, IsStepName file.1 ∧ before.link? (names ++ [file.1]) = none) :
    Keeps (ChangesBelow base before) (store ⟨.root, names⟩ files) := by
  induction files with
  | nil => exact keeps_pure ()
  | cons file files ih =>
    rw [List.forall_mem_cons] at hfiles
    have hmake : Keeps (ChangesBelow base before) (makeDirectories ⟨.root, names⟩) :=
      keeps_makeDirectoriesUpTo (fun n => keeps_ensureDirectory fun _ _ h hmade =>
        h.makeDirectory hopen hphysical hbelow n hmade) _
    have hwrite : Keeps (ChangesBelow base before) (writeFile ((⟨.root, names⟩ : Path) / file.1) file.2) :=
      keeps_writeFile fun _ _ h hwritten => h.write hphysical hbelow hfiles.1.1 hfiles.1.2 hwritten
    exact hmake.bind fun _ => hwrite.bind fun _ => ih hfiles.2

end Changes

end Bundler.Disk
