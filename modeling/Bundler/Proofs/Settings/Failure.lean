import Bundler.Configuration
import Bundler.Proofs.Disk.Physical
import Bundler.Proofs.Toml.Reading

/-!
# How the configuration of a project fails

Finding the settings, the output directory and the entry module of a project is refused if something
is wrong with them. Few things make it fail otherwise: a configuration file that is no text, holds an
integer with too many digits or is nested too deeply, a NUL character in the path of the output directory
or a link on it that leads back to itself, and an entry module in the home directory of a user who is not
known.
-/

set_option autoImplicit false

namespace Bundler

variable {d : Disk} {root p : Path} {output : String} {c : Crash}

/-! ## Real paths and home directories -/

/-- Why a path has no real path. -/
inductive Disk.HasNoRealPath (d : Disk) (p : Path) : RealPathError → Prop where
  /-- A name that is looked up holds a NUL character. -/
  | met (followed : d.following p = .nullByte) : HasNoRealPath d p .nullByte
  /-- A link on the path leads back to itself, and what is left of the path holds a NUL character. -/
  | left (followed : d.following p = .stopped) (null : (d.realCandidate p).hasNull = true) :
      HasNoRealPath d p .nullByte
  /-- A link on the path leads back to itself, and so does what is left of the path. -/
  | loop (followed : d.following p = .stopped) (null : (d.realCandidate p).hasNull = false)
      (place : d.place (d.realCandidate p) = .error .linkLoop) :
      HasNoRealPath d p (.loop (d.realCandidate p))

/-- Where all links can be followed, there is a real path. -/
theorem Disk.FollowsLinks.real_eq_ok (h : d.FollowsLinks p) :
    d.real p = .ok (d.realCandidate p) := by
  obtain ⟨hcandidate, hphysical, hnull⟩ := realCandidate_of_followed (Prod.ext h rfl)
  refine Disk.real_eq_ok.mpr ⟨?_, rfl, ?_, ?_⟩
  · rw [show d.following p = .complete from h]
    decide
  · rw [hcandidate, Path.hasNull, List.any_eq_false]
    simpa using hnull
  · rw [hcandidate]
    rcases hphysical.place_eq_or with hplace | hplace | hplace <;> simp [hplace]

/-- A path without real path has one of three faults. -/
theorem Disk.real_eq_error {e : RealPathError} : d.real p = .error e ↔ d.HasNoRealPath p e := by
  constructor
  · intro hreal
    cases hfollowed : d.following p with
    | complete =>
      have hok := FollowsLinks.real_eq_ok (d := d) (p := p) hfollowed
      cases hok.symm.trans hreal
    | nullByte =>
      cases (real_of_null (.inl hfollowed)).symm.trans hreal
      exact .met hfollowed
    | stopped =>
      have hne : d.following p ≠ .nullByte := by
        rw [hfollowed]
        decide
      cases hnull : (d.realCandidate p).hasNull with
      | true =>
        cases (real_of_null (.inr hnull)).symm.trans hreal
        exact .left hfollowed hnull
      | false =>
        by_cases hplace : d.place (d.realCandidate p) = .error .linkLoop
        · cases (real_of_loop hne hnull hplace).symm.trans hreal
          exact .loop hfollowed hnull hplace
        · cases (real_of_no_loop hne hnull hplace).symm.trans hreal
  · intro h
    cases h with
    | met hfollowed => exact real_of_null (.inl hfollowed)
    | left hfollowed hnull => exact real_of_null (.inr hnull)
    | loop hfollowed hnull hplace =>
      refine real_of_loop ?_ hnull hplace
      rw [hfollowed]
      decide

/-- A path is relative and begins with a tilde and the name of a user. -/
def Path.BeginsAtHome (p : Path) (user : String) : Prop :=
  p.isAbsolute = false ∧ ∃ rest, p.names = ("~" ++ user) :: rest

/-- The user whose home directory a path begins at is named behind the tilde. -/
theorem Path.user?_eq_some {user : String} : p.user? = some user ↔ p.BeginsAtHome user := by
  have hname : ∀ (first : String) (name : List Char), first.toList = '~' :: name →
      first = "~" ++ String.ofList name := by
    intro first name hfirst
    apply String.toList_injective
    rw [hfirst, String.toList_append]
    simp
  unfold user? BeginsAtHome
  constructor
  · intro h
    split at h
    · rename_i first rest hrelative hnames
      split at h
      · rename_i name hfirst
        cases h
        exact ⟨hrelative, rest, by rw [hnames, hname first name hfirst]⟩
      · cases h
    · cases h
  · rintro ⟨hrelative, rest, hnames⟩
    have hfirst : ("~" ++ user).toList = '~' :: user.toList := by
      rw [String.toList_append]
      rfl
    rw [hrelative, hnames]
    dsimp only
    rw [hfirst]
    simp

/-- Why `~` cannot be replaced in a path. -/
inductive Disk.HasNoHome (d : Disk) (p : Path) : HomeError → Prop where
  /-- The user is not known. -/
  | unknown {user : String} (begins : p.BeginsAtHome user) (null : Char.ofNat 0 ∉ user.toList)
      (stranger : ∀ home, (user, home) ∉ d.homes) : HasNoHome d p .unknown
  /-- The home directory of the user begins with a tilde again. -/
  | tilde {user home : String} (begins : p.BeginsAtHome user) (null : Char.ofNat 0 ∉ user.toList)
      (known : d.homes.lookup user = some home) (tilde : home.startsWith "~" = true) :
      HasNoHome d p .unknown
  /-- There is a NUL character in the name of the user. -/
  | nullByte {user : String} (begins : p.BeginsAtHome user) (null : Char.ofNat 0 ∈ user.toList) :
      HasNoHome d p .nullByte

/-- Looking for a user among those that are known fails if there is none of this name. -/
theorem lookup_homes_eq_none {user : String} :
    d.homes.lookup user = none ↔ ∀ home, (user, home) ∉ d.homes := by
  rw [List.lookup_eq_none_iff]
  constructor
  · intro h home hmem
    simpa using h _ hmem
  · rintro h ⟨other, home⟩ hmem
    rw [bne_iff_ne]
    rintro rfl
    exact h home hmem

/-- A path in which `~` cannot be replaced has one of three faults. -/
theorem Disk.expandHome_eq_error {e : HomeError} : d.expandHome p = .error e ↔ d.HasNoHome p e := by
  have hexpand : ∀ {user}, p.user? = some user →
      (d.expandHome p = .error e ↔ d.home user = .error e) := by
    intro user huser
    unfold Disk.expandHome
    rw [huser]
    cases hhome : d.home user <;> simp [bind, Except.bind, hhome, pure, Except.pure]
  constructor
  · intro h
    cases huser : p.user? with
    | none =>
      rw [Disk.expandHome, huser] at h
      cases h
    | some user =>
      have hbegins := Path.user?_eq_some.mp huser
      rw [hexpand huser, Surroundings.home] at h
      split at h
      · rename_i hnull
        cases h
        exact .nullByte hbegins (holdsNull_eq_true.mp hnull)
      · rename_i hnull
        have hclean : Char.ofNat 0 ∉ user.toList := holdsNull_eq_false.mp (by simpa using hnull)
        split at h
        · rename_i hlookup
          cases h
          exact .unknown hbegins hclean (lookup_homes_eq_none.mp hlookup)
        · rename_i home hlookup
          split at h
          · rename_i htilde
            cases h
            exact .tilde hbegins hclean hlookup htilde
          · cases h
  · intro h
    cases h with
    | unknown begins null stranger =>
      rw [hexpand (Path.user?_eq_some.mpr begins), Surroundings.home, holdsNull_eq_false.mpr null,
        lookup_homes_eq_none.mpr stranger]
      rfl
    | tilde begins null known tilde =>
      rw [hexpand (Path.user?_eq_some.mpr begins), Surroundings.home, holdsNull_eq_false.mpr null,
        known]
      simp only [Bool.false_eq_true, if_false, tilde, if_true]
    | nullByte begins null =>
      rw [hexpand (Path.user?_eq_some.mpr begins), Surroundings.home,
        holdsNull_eq_true.mpr null]
      rfl

/-! ## Settings, output directory and entry module -/

/-- An outcome of which every failure is a crash fails as it did before. -/
theorem crashOn_eq_crash {ε δ α : Type} {cause : δ → Crash} {x : Except δ α} :
    (Failure.crashOn cause x : Except (Failure ε) α) = .error (.crash c) ↔
      ∃ e, x = .error e ∧ c = cause e := by
  unfold Failure.crashOn
  rw [mapError_eq_error]
  refine exists_congr fun e => and_congr_right fun _ => ?_
  constructor
  · rintro ⟨⟩
    rfl
  · rintro rfl
    rfl

/-- What makes the settings of a project unreadable: the configuration file is no text, or there is an
integer with too many digits in it, or its values are nested too deeply. -/
inductive Settings.Unreadable (d : Disk) (root : Path) : Crash → Prop where
  /-- The file is no text. -/
  | undecodable {bytes : List UInt8} {e : Text.Utf8.DecodeError}
      (stored : d.read (root / configurationName) = .ok bytes)
      (decoded : Text.Utf8.decode bytes = .error e) : Unreadable d root (.undecodable e)
  /-- There is an integer with too many digits. -/
  | integer {bytes : List UInt8} {text : String} {digits : Nat}
      (stored : d.read (root / configurationName) = .ok bytes)
      (decoded : Text.Utf8.decode bytes = .ok text)
      (read : Toml.read d.nesting text = .error (.integerDigits digits))
      (long : Toml.HasLongInteger digits text.toList) : Unreadable d root (.integerDigits digits)
  /-- The brackets and braces take all calls that may be nested. -/
  | nesting {bytes : List UInt8} {text : String}
      (stored : d.read (root / configurationName) = .ok bytes)
      (decoded : Text.Utf8.decode bytes = .ok text)
      (read : Toml.read d.nesting text = .error .nesting)
      (deep : d.nesting ≤ Toml.nestingBound text.toList) : Unreadable d root .nesting

/-- The text of a configuration file gives no settings and is not refused either: there is an integer
with too many digits in it, or its values are nested too deeply. -/
theorem Settings.ofToml_eq_crash {calls : Nat} {file : Path} {text : String} :
    Settings.ofToml calls file text = .error (.crash c) ↔
      (∃ digits, Toml.read calls text = .error (.integerDigits digits) ∧ c = .integerDigits digits) ∨
        Toml.read calls text = .error .nesting ∧ c = .nesting := by
  unfold Settings.ofToml
  split
  · rename_i hread
    simp [hread]
  · rename_i digits hread
    simp [hread, eq_comm]
  · rename_i hread
    simp [hread, eq_comm]
  · rename_i members hread
    simp [hread, mapError_eq_error]

/-- The settings of a project are read from the configuration file if there is one. -/
theorem Settings.load_of_read {bytes : List UInt8}
    (h : d.read (root / configurationName) = .ok bytes) :
    Settings.load d root = (do
      let text ← Failure.crashOn .undecodable (Text.Utf8.decode bytes)
      Settings.ofToml d.nesting (root / configurationName) text) := by
  unfold Settings.load
  dsimp only
  rw [if_pos (Disk.isFile_iff_read.mpr ⟨bytes, h⟩), h]
  rfl

/-- Without a configuration file, the settings have their defaults. -/
theorem Settings.load_of_not_isFile (h : d.isFile (root / configurationName) = false) :
    Settings.load d root = .ok {} := by
  unfold Settings.load
  dsimp only
  rw [h]
  rfl

/-- Loading settings fails in an unannounced way if and only if they are unreadable. -/
theorem Settings.load_eq_crash : Settings.load d root = .error (.crash c) ↔ Unreadable d root c := by
  constructor
  · intro h
    cases hfile : d.isFile (root / configurationName) with
    | false =>
      rw [load_of_not_isFile hfile] at h
      cases h
    | true =>
      obtain ⟨bytes, hstored⟩ := Disk.isFile_iff_read.mp hfile
      rw [load_of_read hstored] at h
      rcases bind_eq_error.mp h with h | ⟨text, htext, h⟩
      · obtain ⟨e, hdecoded, rfl⟩ := crashOn_eq_crash.mp h
        exact .undecodable hstored hdecoded
      · have hdecoded : Text.Utf8.decode bytes = .ok text := mapError_eq_ok.mp htext
        rcases ofToml_eq_crash.mp h with ⟨digits, hread, rfl⟩ | ⟨hread, rfl⟩
        · exact .integer hstored hdecoded hread (Toml.hasLongInteger_of_read hread)
        · exact .nesting hstored hdecoded hread (Toml.le_nestingBound_of_read hread)
  · intro h
    cases h with
    | undecodable stored decoded =>
      rw [load_of_read stored]
      apply bind_eq_error.mpr
      exact .inl (crashOn_eq_crash.mpr ⟨_, decoded, rfl⟩)
    | integer stored decoded read long =>
      rw [load_of_read stored]
      refine bind_eq_error.mpr (.inr ⟨_, mapError_eq_ok.mpr decoded, ?_⟩)
      exact ofToml_eq_crash.mpr (.inl ⟨_, read, rfl⟩)
    | nesting stored decoded read deep =>
      rw [load_of_read stored]
      refine bind_eq_error.mpr (.inr ⟨_, mapError_eq_ok.mpr decoded, ?_⟩)
      exact ofToml_eq_crash.mpr (.inr ⟨read, rfl⟩)

/-- What makes the output directory of a project impossible to find: the root, or the directory below
it, has no real path. -/
inductive OutputUnresolvable (d : Disk) (root : Path) (output : String) : Crash → Prop where
  /-- The root has no real path. -/
  | root {e : RealPathError} (fault : d.HasNoRealPath root e) :
      OutputUnresolvable d root output (.realPath e)
  /-- The directory has no real path. -/
  | output {base : Path} {e : RealPathError} (real : d.real root = .ok base)
      (fault : d.HasNoRealPath (base / output) e) : OutputUnresolvable d root output (.realPath e)

/-- Whether a text is accepted as an output directory at first sight: it is a relative path. -/
def IsRelativeOutput (output : String) : Prop :=
  output ≠ "" ∧ output.startsWith "~" = false ∧ (Path.ofString output).isAbsolute = false

/-- A relative output directory is found by way of real paths. -/
theorem outputDirectory_of_isRelative (h : IsRelativeOutput output) :
    outputDirectory d root output = (do
      let base ← Failure.crashOn .realPath (d.real root)
      let directory ← Failure.crashOn .realPath (d.real (base / output))
      if directory.isBelow base then .ok directory
      else .error (.refused (.escapingOutput output))) := by
  obtain ⟨hempty, htilde, habsolute⟩ := h
  unfold outputDirectory
  rw [if_neg hempty, if_neg (by simp [htilde, habsolute])]
  rfl

/-- Any other output directory is refused. -/
theorem outputDirectory_of_not_isRelative (h : ¬ IsRelativeOutput output) :
    ∃ e, outputDirectory d root output = .error (.refused e) := by
  unfold outputDirectory
  by_cases hempty : output = ""
  · exact ⟨_, by rw [if_pos hempty]; rfl⟩
  · refine ⟨.absoluteOutput, ?_⟩
    rw [if_neg hempty, if_pos ?_]
    · rfl
    · by_contra habsolute
      exact h ⟨hempty, by simpa [not_or] using habsolute⟩

/-- Finding the output directory fails in an unannounced way if and only if it is relative and has no
real path. -/
theorem outputDirectory_eq_crash : outputDirectory d root output = .error (.crash c) ↔
    IsRelativeOutput output ∧ OutputUnresolvable d root output c := by
  by_cases hrelative : IsRelativeOutput output
  · rw [outputDirectory_of_isRelative hrelative, and_iff_right hrelative]
    constructor
    · intro h
      rcases bind_eq_error.mp h with h | ⟨base, hbase, h⟩
      · obtain ⟨e, he, rfl⟩ := crashOn_eq_crash.mp h
        exact .root (Disk.real_eq_error.mp he)
      · rcases bind_eq_error.mp h with h | ⟨directory, _, h⟩
        · obtain ⟨e, he, rfl⟩ := crashOn_eq_crash.mp h
          exact .output (mapError_eq_ok.mp hbase) (Disk.real_eq_error.mp he)
        · split at h <;> cases h
    · intro h
      cases h with
      | root fault =>
        refine bind_eq_error.mpr (.inl ?_)
        exact crashOn_eq_crash.mpr ⟨_, Disk.real_eq_error.mpr fault, rfl⟩
      | output hbase fault =>
        refine bind_eq_error.mpr (.inr ⟨_, mapError_eq_ok.mpr hbase, ?_⟩)
        refine bind_eq_error.mpr (.inl ?_)
        exact crashOn_eq_crash.mpr ⟨_, Disk.real_eq_error.mpr fault, rfl⟩
  · obtain ⟨e, he⟩ := outputDirectory_of_not_isRelative hrelative
    rw [he]
    constructor
    · intro h
      cases h
    · intro h
      exact absurd h.1 hrelative

/-- Finding the entry module fails in an unannounced way if and only if it is in a home directory that
cannot be found. -/
theorem entryPath_eq_crash {entry : Option String} {settings : Settings} :
    entryPath d root entry settings = .error (.crash c) ↔
      ∃ chosen e, entry.or settings.entry = some chosen ∧ d.HasNoHome (.ofString chosen) e ∧
        c = .home e := by
  unfold entryPath
  cases entry.or settings.entry with
  | none =>
    constructor
    · intro h
      cases h
    · rintro ⟨chosen, e, hchosen, _⟩
      cases hchosen
  | some chosen =>
    constructor
    · intro h
      rcases bind_eq_error.mp h with h | ⟨path, _, h⟩
      · obtain ⟨e, he, rfl⟩ := crashOn_eq_crash.mp h
        exact ⟨chosen, e, rfl, Disk.expandHome_eq_error.mp he, rfl⟩
      · cases h
    · rintro ⟨other, e, hchosen, fault, rfl⟩
      cases hchosen
      refine bind_eq_error.mpr (.inl ?_)
      exact crashOn_eq_crash.mpr ⟨e, Disk.expandHome_eq_error.mpr fault, rfl⟩

end Bundler
