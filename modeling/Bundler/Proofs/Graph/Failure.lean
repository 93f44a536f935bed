import Bundler.Proofs.Disk.Proper
import Bundler.Proofs.Graph.Sharing
import Bundler.Proofs.Graph.Sources
import Bundler.Proofs.Import.Closure
import Bundler.Proofs.Import.Failure
import Bundler.Proofs.Reference.Failure

/-!
# How the build of a project ends

The build of a project on a disk returns a graph, or it is refused: a source cannot be read or is no
module, a reference leads to no file, or there are too many modules. Few things make it fail otherwise:
a NUL character in the path of the entry module, a suffix with a slash, an import of a keyword, and a
tree that cannot be printed.
-/

set_option autoImplicit false

namespace Bundler

open Bundler.Import (RelativeImport relativeImports replaceBlock finds)
open Bundler.Syntax (Module isKeyword)

variable {d : Disk} {settings : Settings} {suffixes : List String} {location directory : Path}
  {entry reference referrer : String}

/-! ## Sources -/

/-- What is wrong with the source at a location. -/
inductive Disk.HasFault (d : Disk) (location : Path) : SourceFault → Prop where
  /-- The file cannot be read. -/
  | unreadable {error : SystemError} {path : Path}
      (read : d.read location = .error (.system error path)) : HasFault d location (.unreadable error)
  /-- The file is no text. -/
  | undecodable {bytes : List UInt8} {e : Text.Utf8.DecodeError} (read : d.read location = .ok bytes)
      (decoded : Text.Utf8.decode bytes = .error e) : HasFault d location (.undecodable e.fault)
  /-- The text is no module. -/
  | unparsable {text : String} {fault : SourceFault} (read : readSource d location = .ok text)
      (parsed : parseSource text = .error fault) : HasFault d location fault

/-- The source at a location can be read and parsed. -/
def Disk.HoldsTree (d : Disk) (location : Path) (tree : Module) : Prop :=
  ∃ text, readSource d location = .ok text ∧ parseSource text = .ok tree

/-- A source cannot be read because something is wrong with it, or its path holds a NUL character. -/
theorem readSource_eq_error {failure : Failure FrontendError}
    (h : readSource d location = .error failure) :
    failure = .crash (.disk .nullByte) ∧ location.hasNull = true ∨
      ∃ fault, d.HasFault location fault ∧ failure = fault.within location := by
  unfold readSource at h
  cases hread : d.read location with
  | error e =>
    rw [hread] at h
    cases e with
    | nullByte =>
      cases h
      refine .inl ⟨rfl, ?_⟩
      unfold Disk.read at hread
      split at hread
      · assumption
      · split at hread <;> cases hread
    | system error path =>
      cases h
      exact .inr ⟨_, .unreadable hread, rfl⟩
  | ok bytes =>
    rw [hread] at h
    dsimp only at h
    cases hdecode : Text.Utf8.decode bytes with
    | error e =>
      rw [hdecode] at h
      cases h
      exact .inr ⟨_, .undecodable hread hdecode, rfl⟩
    | ok text =>
      rw [hdecode] at h
      cases h

/-! ## References -/

/-- The candidates of a reference of a plain import can be formed unless a suffix holds a slash. -/
theorem candidates_of_import_eq_error {i : RelativeImport} (hplain : i.IsPlain)
    {found : String → Bool} {cwd : Path} {e : PathError}
    (hreference : reference ∈ i.references found ∨ reference ∈ i.probes)
    (h : candidates cwd directory reference suffixes = .error e) :
    ∃ name, e = .invalidName name ∧ ∃ suffix ∈ suffixes, '/' ∈ suffix.toList := by
  refine (candidates_eq_error h).resolve_right fun hslash => ?_
  obtain ⟨name, rfl, hname⟩ := RelativeImport.exists_referenceText hreference
  exact slash_not_mem_referenceText (hplain.names hname) hslash

/-- A NUL character in a normalized path comes from the path or from the current directory. -/
theorem hasNull_of_normalize {p cwd : Path} (h : (p.normalize cwd).hasNull = true) :
    p.hasNull = true ∨ cwd.hasNull = true := by
  simp only [Path.hasNull, holdsNull, List.any_eq_true, List.contains_iff_mem] at *
  obtain ⟨name, hname, hnull⟩ := h
  rcases Path.mem_collapseFrom hname with hnil | hpiece | rfl
  · cases hnil
  · obtain ⟨other, hother, hpiece⟩ := List.mem_flatMap.mp hpiece
    obtain ⟨piece, hmem, rfl⟩ := List.mem_map.mp (List.mem_of_mem_filter hpiece)
    rw [String.toList_ofList] at hnull
    have hother' := Text.mem_of_mem_splitChars hmem hnull
    unfold Path.join at hother
    split at hother
    · exact .inl ⟨other, hother, hother'⟩
    · rcases List.mem_append.mp hother with hother | hother
      · exact .inr ⟨other, hother, hother'⟩
      · exact .inl ⟨other, hother, hother'⟩
  · exact absurd hnull (by decide)

/-- A reference leads to a file, so that there is no NUL character in its path. -/
theorem hasNull_of_resolve (h : resolve d directory reference referrer suffixes = .ok location) :
    location.hasNull = true → d.current.hasNull = true := by
  intro hnull
  obtain ⟨tried, file, _, hfind, rfl⟩ := resolve_eq_ok.mp h
  have hfile := (Disk.isFile_iff.mp (List.find?_some hfind)).1
  rcases hasNull_of_normalize hnull with hnull | hnull
  · rw [hnull] at hfile
    cases hfile
  · exact hnull

/-- A reference is not resolved if no candidate is a file, or if its candidates cannot be formed. -/
theorem resolve_eq_error {failure : Failure ResolutionError}
    (h : resolve d directory reference referrer suffixes = .error failure) :
    (∃ e, failure = .crash (.path e) ∧ candidates d.current directory reference suffixes = .error e) ∨
      ∃ tried, failure = .refused ⟨reference, referrer, tried.map Path.toString⟩ ∧
        candidates d.current directory reference suffixes = .ok tried ∧
        ∀ p ∈ tried, d.isFile p = false := by
  unfold resolve at h
  rcases bind_eq_error.mp h with h | ⟨tried, htried, h⟩
  · obtain ⟨e, he, rfl⟩ := mapError_eq_error.mp h
    exact .inl ⟨e, rfl, he⟩
  · cases hfind : tried.find? d.isFile with
    | some file =>
      rw [hfind] at h
      cases h
    | none =>
      rw [hfind] at h
      cases h
      exact .inr ⟨tried, rfl, mapError_eq_ok.mp htried, by simpa using hfind⟩

/-! ## Compiling -/

/-- Why compiling the module at a location may fail in an unannounced way. -/
inductive CompileCrash (d : Disk) (suffixes : List String) (location : Path) : Crash → Prop where
  /-- The path holds a NUL character. -/
  | nullByte (null : location.hasNull = true) : CompileCrash d suffixes location (.disk .nullByte)
  /-- A suffix holds a slash. -/
  | suffix {name suffix : String} (mem : suffix ∈ suffixes) (slash : '/' ∈ suffix.toList) :
      CompileCrash d suffixes location (.path (.invalidName name))
  /-- A name in an import is a keyword, or is to be bound to one. -/
  | keyword {tree : Module} {i : RelativeImport} {a : Syntax.Alias} {e : Syntax.SyntaxError}
      (holds : d.HoldsTree location tree) (mem : i ∈ relativeImports tree) (name : a ∈ i.names)
      (keyword : isKeyword (Import.Alias.binding a) = true ∨ isKeyword a.name = true) :
      CompileCrash d suffixes location (.statement e)
  /-- The tree cannot be printed. -/
  | print {tree result : Module} {e : Syntax.PrintError} (holds : d.HoldsTree location tree)
      (replaced : result =
        replaceBlock (RelativeImport.block (finds (isModule d suffixes location.parent))) tree)
      (failed : result.print = .error e) : CompileCrash d suffixes location (.print e)

/-- Compiling a module is refused because something is wrong with its source. -/
theorem compile_eq_error {failure : Failure FrontendError}
    (h : compile d suffixes location = .error failure) :
    (∃ fault, d.HasFault location fault ∧ failure = fault.within location) ∨
      ∃ c, failure = .crash c ∧ CompileCrash d suffixes location c := by
  unfold compile at h
  rcases bind_eq_error.mp h with h | ⟨text, htext, h⟩
  · rcases readSource_eq_error h with ⟨rfl, hnull⟩ | hfault
    · exact .inr ⟨_, rfl, .nullByte hnull⟩
    · exact .inl hfault
  rcases bind_eq_error.mp h with h | ⟨tree, htree, h⟩
  · obtain ⟨fault, hfault, rfl⟩ := mapError_eq_error.mp h
    exact .inl ⟨fault, .unparsable htext hfault, rfl⟩
  have hholds : d.HoldsTree location tree := ⟨text, htext, mapError_eq_ok.mp htree⟩
  rcases bind_eq_error.mp h with h | ⟨result, hresult, h⟩
  · obtain ⟨e, he, rfl⟩ := mapError_eq_error.mp h
    obtain ⟨i, hi, hfails⟩ := Import.exists_fails_of_scopeImports he
    cases hfails with
    | keyword mem keyword => exact .inr ⟨_, rfl, .keyword hholds hi mem keyword⟩
    | @probe reference e mem failed =>
      have hcandidates : candidates d.current location.parent reference suffixes = .error e := by
        rcases bind_eq_error.mp failed with h | ⟨_, _, h⟩
        · exact h
        · cases h
      have hreference : reference ∈ i.references (fun _ => true) ∨ reference ∈ i.probes := .inr mem
      have hplain := isPlain_of_parseSource (mapError_eq_ok.mp htree) i hi
      obtain ⟨name, rfl, suffix, hsuffix, hslash⟩ :=
        candidates_of_import_eq_error hplain hreference hcandidates
      exact .inr ⟨_, rfl, .suffix hsuffix hslash⟩
  · rcases bind_eq_error.mp h with h | ⟨body, _, h⟩
    · obtain ⟨e, he, rfl⟩ := mapError_eq_error.mp h
      have hreplaced := (Import.scopeImports_ok (mapError_eq_ok.mp hresult)).1
      exact .inr ⟨_, rfl, .print hholds hreplaced he⟩
    · cases h

/-! ## The end of a build -/

namespace Builder

/-- A NUL character in the start comes from the entry path or from the current directory. -/
theorem hasNull_start {b : Builder} (h : (b.start entry).hasNull = true) :
    Char.ofNat 0 ∈ entry.toList ∨ b.disk.current.hasNull = true := by
  rcases hasNull_of_normalize h with h | h
  · simp only [Path.hasNull, holdsNull, List.any_eq_true, List.contains_iff_mem] at h
    obtain ⟨name, hname, hnull⟩ := h
    obtain ⟨piece, hpiece, rfl⟩ := List.mem_map.mp (List.mem_of_mem_filter hname)
    rw [String.toList_ofList] at hnull
    exact .inl (Text.mem_of_mem_splitChars hpiece hnull)
  · exact .inr h

/-- A NUL character in a location that can be reached comes from the path of the entry module or of
the current directory. -/
theorem Reaches.hasNull {b : Builder} (h : b.Reaches entry location)
    (null : location.hasNull = true) :
    Char.ofNat 0 ∈ entry.toList ∨ b.disk.current.hasNull = true := by
  cases h with
  | refl => exact hasNull_start null
  | tail _ hstep =>
    obtain ⟨_, _, _, _, htarget⟩ := hstep
    exact .inr (hasNull_of_resolve htarget null)

/-- How the build of a project on a disk ends. -/
inductive Ends (d : Disk) (settings : Settings) (entry : String) :
    Except (Failure BuildError) ModuleGraph → Prop where
  /-- A graph is built: all that can be reached compiles, and all references lead somewhere. -/
  | built {g : ModuleGraph} (sound : ∀ location, (ofDisk d settings).Reaches entry location →
      (ofDisk d settings).IsSound location) : Ends d settings entry (.ok g)
  /-- Something is wrong with a source. -/
  | faulty {location : Path} {fault : SourceFault} {origin : Origin}
      (reaches : (ofDisk d settings).Reaches entry location) (found : d.HasFault location fault) :
      Ends d settings entry
        (.error (.refused (.frontend ⟨location.toString, fault.message, origin⟩)))
  /-- A reference leads nowhere. -/
  | unresolved {location : Path} {compiled : CompiledModule} {reference : String}
      {tried : List Path} (reaches : (ofDisk d settings).Reaches entry location)
      (compiles : compile d settings.suffixes location = .ok compiled)
      (mem : reference ∈ compiled.references)
      (formed : candidates d.current location.parent reference settings.suffixes = .ok tried)
      (absent : ∀ p ∈ tried, d.isFile p = false) :
      Ends d settings entry (.error (.refused
        (.resolution ⟨reference, location.toString, tried.map Path.toString⟩)))
  /-- There are too many modules. -/
  | full {origin : Origin} (full : (ofDisk d settings).IsFull entry) :
      Ends d settings entry (.error (.refused (.limit ⟨settings.maxModules, origin⟩)))
  /-- Compiling fails in an unannounced way. -/
  | crashed {location : Path} {c : Crash} (reaches : (ofDisk d settings).Reaches entry location)
      (crash : CompileCrash d settings.suffixes location c)
      (null : location.hasNull = true → Char.ofNat 0 ∈ entry.toList ∨ d.current.hasNull = true) :
      Ends d settings entry (.error (.crash c))

/-- A build ends as it may if the frontend fails at a location that is reached. -/
theorem ends_attributed (reaches : (ofDisk d settings).Reaches entry location) (origin : Origin)
    {failure : Failure FrontendError}
    (failed : compile d settings.suffixes location = .error failure) :
    Ends d settings entry (.error (attributed origin failure)) := by
  rcases compile_eq_error failed with ⟨fault, hfault, rfl⟩ | ⟨c, rfl, hcrash⟩
  · unfold attributed SourceFault.within Failure.map
    dsimp only
    split <;> exact .faulty reaches hfault
  · exact .crashed reaches hcrash fun null => reaches.hasNull null

/-- A reference of a compiled module that is not resolved leads nowhere, or compiling another module
with it would fail just so. -/
theorem ends_unresolved {compiled : CompiledModule} {failure : Failure ResolutionError}
    (reaches : (ofDisk d settings).Reaches entry location)
    (compiles : compile d settings.suffixes location = .ok compiled)
    (mem : reference ∈ compiled.references)
    (failed : (ofDisk d settings).target location reference = .error failure) :
    Ends d settings entry (.error (failure.map .resolution)) := by
  rcases resolve_eq_error failed with ⟨e, rfl, hcandidates⟩ | ⟨tried, rfl, hformed, habsent⟩
  · obtain ⟨tree, _, hscoped⟩ := exists_isScoped compiles
    rw [hscoped.references] at mem
    obtain ⟨i, hi, hreference⟩ := List.mem_flatMap.mp mem
    have hnull : location.hasNull = true →
        Char.ofNat 0 ∈ entry.toList ∨ d.current.hasNull = true := fun null => reaches.hasNull null
    obtain ⟨text, _, htree⟩ := hscoped.source
    obtain ⟨name, rfl, suffix, hsuffix, hslash⟩ :=
      candidates_of_import_eq_error (isPlain_of_parseSource htree i hi) (.inl hreference) hcandidates
    exact .crashed reaches (.suffix hsuffix hslash) hnull
  · exact .unresolved reaches compiles mem hformed habsent

/-- The build of a project on a disk returns a graph, or it is refused for one of three reasons, or
something that can be told from the entry module, the suffixes and the sources makes it fail. -/
theorem run_ends (d : Disk) (settings : Settings) (entry : String) :
    Ends d settings entry ((ofDisk d settings).run entry).outcome := by
  cases isBuild_run (ofDisk d settings) entry with
  | noRoom noRoom outcome =>
    rw [outcome]
    exact .full (.first noRoom)
  | entryRefused _ failed outcome =>
    rw [outcome]
    exact ends_attributed .refl {} failed
  | complete explores finished outcome =>
    rw [outcome]
    exact .built fun _ reaches => explores.isSound finished reaches
  | stopped explores stops outcome =>
    rw [outcome]
    cases stops with
    | @unresolved visits links t pending failure failed =>
      obtain ⟨location, compiled, hlocation, hreaches, hcompiles, hmem⟩ :=
        explores.exists_compiled_of_pending List.mem_cons_self
      rw [hlocation] at failed
      exact ends_unresolved hreaches hcompiles hmem failed
    | full resolved unknown noRoom =>
      exact .full (.pending explores List.mem_cons_self resolved unknown noRoom)
    | @refused visits links t pending location failure resolved unknown room failed =>
      obtain ⟨source, compiled, hsource, hreaches, hcompiles, hmem⟩ :=
        explores.exists_compiled_of_pending List.mem_cons_self
      rw [hsource] at resolved
      exact ends_attributed (hreaches.tail ⟨compiled, hcompiles, _, hmem, resolved⟩) _ failed

/-- No source is read where there is a NUL character in the path. -/
theorem compile_of_hasNull (null : location.hasNull = true) :
    compile d suffixes location = .error (.crash (.disk .nullByte)) := by
  unfold compile readSource Disk.read
  rw [if_pos null]
  rfl

/-- A NUL character in the location of the entry module makes every build fail that has room for a
module. -/
theorem run_of_hasNull (room : 0 < settings.maxModules)
    (null : ((ofDisk d settings).start entry).hasNull = true) :
    ((ofDisk d settings).run entry).outcome = .error (.crash (.disk .nullByte)) := by
  have hcompile : (ofDisk d settings).frontend ((ofDisk d settings).start entry) =
      .error (.crash (.disk .nullByte)) := compile_of_hasNull null
  cases isBuild_run (ofDisk d settings) entry with
  | noRoom noRoom => exact absurd noRoom room.ne'
  | entryRefused _ failed outcome =>
    cases failed.symm.trans hcompile
    exact outcome
  | complete explores =>
    obtain ⟨compiled, hcompiled⟩ := explores.compiles
    cases hcompiled.symm.trans hcompile
  | stopped explores =>
    obtain ⟨compiled, hcompiled⟩ := explores.compiles
    cases hcompiled.symm.trans hcompile

/-- Under the default settings, and on an empty disk, the build from a path with a NUL character fails
in an unannounced way. -/
theorem run_crashes_nullCharacter :
    ((ofDisk { entries := [], current := ⟨.root, []⟩ } {}).run "a\x00.py").outcome =
      .error (.crash (.disk .nullByte)) :=
  run_of_hasNull (by decide) (by decide +kernel)

end Builder

end Bundler
