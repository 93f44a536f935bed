import Bundler.Proofs.Graph.Records
import Bundler.Proofs.Graph.Sources
import Bundler.Proofs.Import.Replacement

/-!
# Requirements are met

The frontend, the resolution of references and the builder each work out for themselves which files
the imports of a module lead to. They agree: what the compiled code of a record requires is listed
among its references and led somewhere by its own map, and a name that the frontend takes for a
module, because it has found a file, is found by the builder as well.

The code itself is printed from a tree, and may be read as another one.
-/

set_option autoImplicit false

namespace Bundler

open Bundler.Import (RelativeImport relativeImports relativeImports_block relativeImports_replaceBlock
  replaceBlock blockRequires_block blockRequires_replaceBlock finds scopeImports_ok)
open Bundler.Syntax (Module blockRequires)
open Bundler.Text (CodePoints)

variable {d : Disk} {suffixes : List String} {settings : Settings} {entry : String}
  {location directory : Path} {compiled : CompiledModule} {reference referrer : String}

/-! ## Probing and resolving -/

/-- A reference that names a module can be resolved. -/
theorem exists_resolve_of_isModule (h : isModule d suffixes directory reference = .ok true) :
    ∃ file, resolve d directory reference referrer suffixes = .ok file := by
  obtain ⟨tried, htried, hany⟩ := bind_eq_ok.mp h
  obtain ⟨candidate, hfind⟩ : ∃ candidate, tried.find? d.isFile = some candidate := by
    rw [← Option.isSome_iff_exists, List.find?_isSome]
    exact List.any_eq_true.mp (Except.ok.inj hany)
  refine ⟨candidate.normalize d.current, ?_⟩
  unfold resolve
  rw [htried]
  unfold Failure.crashOn
  simp only [Except.mapError, bind, Except.bind, hfind]
  rfl

/-- A reference that cannot be resolved names no module. -/
theorem isModule_of_resolve_error {e : ResolutionError}
    (h : resolve d directory reference referrer suffixes = .error (.refused e)) :
    e.reference = reference ∧ e.referrer = referrer ∧
      isModule d suffixes directory reference = .ok false := by
  unfold resolve at h
  unfold isModule
  cases htried : candidates d.current directory reference suffixes with
  | error failure =>
    rw [htried] at h
    cases h
  | ok tried =>
    unfold Failure.crashOn at h
    simp only [htried, Except.mapError, bind, Except.bind] at h ⊢
    cases hfind : tried.find? d.isFile with
    | some candidate =>
      rw [hfind] at h
      cases h
    | none =>
      rw [hfind] at h
      cases h
      refine ⟨rfl, rfl, ?_⟩
      have hany : tried.any d.isFile = false := by
        rw [List.any_eq_false]
        exact List.find?_eq_none.mp hfind
      rw [hany]
      rfl

/-! ## Compiled modules -/

/-- A module has been compiled: the tree of its source, with the relative imports replaced, has been
printed, and the references are those of the imports. -/
structure IsScoped (d : Disk) (suffixes : List String) (location : Path)
    (compiled : CompiledModule) (tree result : Module) : Prop where
  /-- The tree is that of the source. -/
  source : ∃ text, readSource d location = .ok text ∧ parseSource text = .ok tree
  /-- Its relative imports have been replaced. -/
  replaced : result =
    replaceBlock (RelativeImport.block (finds (isModule d suffixes location.parent))) tree
  /-- The replaced tree has been printed. -/
  printed : ∃ body, result.print = .ok body ∧ compiled.code = moduleCode body
  /-- The references are those of the imports. -/
  references : compiled.references = (relativeImports tree).flatMap
    (RelativeImport.references (finds (isModule d suffixes location.parent)))

/-- What the frontend returns for a source has been compiled. -/
theorem exists_isScoped (h : compile d suffixes location = .ok compiled) :
    ∃ tree result, IsScoped d suffixes location compiled tree result := by
  obtain ⟨text, tree, result, body, htext, htree, hresult, hbody, rfl⟩ := compile_eq_ok.mp h
  obtain ⟨hvalue, hreferences⟩ := scopeImports_ok hresult
  exact ⟨tree, result.value, ⟨text, htext, htree⟩, hvalue, ⟨body, hbody, rfl⟩, hreferences⟩

section Scoped

variable {tree result : Module} (h : IsScoped d suffixes location compiled tree result)

include h

/-- The blocks that replace imports require the references of the module. -/
theorem IsScoped.inserted :
    ((relativeImports tree).flatMap fun i =>
      blockRequires (i.block (finds (isModule d suffixes location.parent)))) =
      compiled.references.map CodePoints.ofString := by
  simp only [blockRequires_block, h.references, List.map_flatMap]

/-- No relative import is left. -/
theorem IsScoped.relativeImports_eq : relativeImports result = [] := by
  rw [h.replaced]
  exact relativeImports_replaceBlock _ (relativeImports_block _) tree

/-- Nothing but the references is required where the source requires nothing by itself. -/
theorem IsScoped.blockRequires_eq (hown : blockRequires tree = []) :
    blockRequires result = compiled.references.map CodePoints.ofString := by
  rw [h.replaced, blockRequires_replaceBlock _ hown, h.inserted]

/-- A name that has been taken for a module is a reference. -/
theorem IsScoped.mem_references {i : RelativeImport} (hi : i ∈ relativeImports tree)
    (hr : reference ∈ i.submodules (finds (isModule d suffixes location.parent))) :
    reference ∈ compiled.references := by
  rw [h.references]
  refine List.mem_flatMap.mpr ⟨i, hi, ?_⟩
  unfold RelativeImport.references
  split
  · rename_i hmodule
    unfold RelativeImport.submodules at hr
    rw [Bool.and_eq_true] at hmodule
    rw [hmodule.1, Bool.true_or] at hr
    cases hr
  · exact List.mem_cons_of_mem _ hr

end Scoped

/-- A submodule that an import asks for has been found. -/
theorem isModule_of_mem_submodules {i : RelativeImport}
    (h : reference ∈ i.submodules (finds (isModule d suffixes directory))) :
    isModule d suffixes directory reference = .ok true := by
  have hfinds : finds (isModule d suffixes directory) reference = true := by
    unfold RelativeImport.submodules at h
    split at h
    · cases h
    · exact (List.mem_filter.mp h).2
  unfold finds at hfinds
  cases hm : isModule d suffixes directory reference with
  | error e =>
    rw [hm] at hfinds
    cases hfinds
  | ok found =>
    rw [hm] at hfinds
    rw [← hfinds]

/-! ## Built modules -/

/-- The code of a record requires just what its references say, and its map leads them somewhere. -/
structure RequiresOwn (d : Disk) (suffixes : List String) (r : ModuleRecord)
    (tree result : Module) : Prop where
  isScoped : IsScoped d suffixes (Path.ofString r.location) ⟨r.references, r.code⟩ tree result
  /-- The blocks put in place of the imports require the references, in source order. -/
  inserted : ((relativeImports tree).flatMap fun i => blockRequires
    (i.block (finds (isModule d suffixes (Path.ofString r.location).parent)))) =
      r.references.map CodePoints.ofString
  /-- Nothing else is required where the source requires nothing by itself. -/
  required : blockRequires tree = [] → blockRequires result = r.references.map CodePoints.ofString
  closed : relativeImports result = []
  keys : ∀ reference ∈ r.references, reference ∈ r.referenceMap.map Prod.fst

/-- A reference that a build cannot resolve has been left behind by the frontend as one that names no
module. -/
structure IsNoModule (d : Disk) (suffixes : List String) (e : ResolutionError)
    (compiled : CompiledModule) (tree result : Module) : Prop where
  isScoped : IsScoped d suffixes (Path.ofString e.referrer) compiled tree result
  reference : e.reference ∈ compiled.references
  absent : isModule d suffixes (Path.ofString e.referrer).parent e.reference = .ok false
  /-- The reference is not that of a name that has been taken for a module. -/
  notTaken : ∀ i ∈ relativeImports tree,
    e.reference ∉ i.submodules (finds (isModule d suffixes (Path.ofString e.referrer).parent))

namespace Builder

/-- What fails in the frontend is no failed resolution. -/
theorem attributed_ne_resolution (origin : Origin) (failure : Failure FrontendError)
    (e : ResolutionError) : attributed origin failure ≠ .refused (.resolution e) := by
  intro h
  cases failure with
  | refused error =>
    unfold attributed Failure.map at h
    dsimp only at h
    split at h <;> cases h
  | crash c => cases h

/-- A build that cannot resolve a reference stops at a reference that cannot be resolved. -/
theorem exists_target_error {b : Builder} {e : ResolutionError}
    (h : (b.run entry).outcome = .error (.refused (.resolution e))) :
    ∃ location compiled reference, b.Reaches entry location ∧ b.frontend location = .ok compiled ∧
      reference ∈ compiled.references ∧ b.target location reference = .error (.refused e) := by
  cases isBuild_run b entry with
  | noRoom _ outcome => cases h.symm.trans outcome
  | entryRefused _ _ outcome =>
    cases attributed_ne_resolution _ _ e (Except.error.inj (outcome.symm.trans h))
  | complete _ _ outcome => cases h.symm.trans outcome
  | stopped explores stops outcome =>
    have hfailure := Except.error.inj (outcome.symm.trans h)
    cases stops with
    | full => cases hfailure
    | refused => exact absurd hfailure (attributed_ne_resolution _ _ e)
    | @unresolved visits links t pending failure failed =>
      cases failure with
      | crash c => cases hfailure
      | refused error =>
        cases hfailure
        obtain ⟨location, compiled, hlocation, hreaches, hcompiled, hreference⟩ :=
          explores.exists_compiled_of_pending List.mem_cons_self
        rw [hlocation] at failed
        exact ⟨location, compiled, t.reference, hreaches, hcompiled, hreference, failed⟩

/-- In the build of a project on a disk, every record requires its own references only. A reference
that cannot be resolved was not taken for a module, and every name that was taken for one can be
resolved. -/
theorem run_ofDisk (d : Disk) (settings : Settings) (entry : String) :
    (∀ g, ((ofDisk d settings).run entry).outcome = .ok g →
      ∀ r ∈ g.records, ∃ tree result, RequiresOwn d settings.suffixes r tree result) ∧
    (∀ e, ((ofDisk d settings).run entry).outcome = .error (.refused (.resolution e)) →
      ∃ compiled tree result, IsNoModule d settings.suffixes e compiled tree result) ∧
    ∀ location, (ofDisk d settings).Reaches entry location →
      ∀ compiled tree result, IsScoped d settings.suffixes location compiled tree result →
        ∀ i ∈ relativeImports tree,
          ∀ reference ∈ i.submodules (finds (isModule d settings.suffixes location.parent)),
            reference ∈ compiled.references ∧
              ∃ file, resolve d (Path.ofString location.toString).parent reference
                location.toString settings.suffixes = .ok file := by
  refine ⟨?_, ?_, ?_⟩
  · intro g hg r hr
    obtain ⟨x, hx, hp, hrecords, _⟩ := exists_explores_of_ok hg
    rw [hrecords] at hr
    obtain ⟨i, v, hv, rfl⟩ := exists_visit_of_mem_recordsFrom hr
    -- The record is that of a visited location, and holds what the frontend has returned there.
    have hdescribes := hx.describes hp hv
    obtain ⟨tree, result, hscoped⟩ := exists_isScoped hdescribes.compiled
    refine ⟨tree, result, hscoped, hscoped.inserted, hscoped.blockRequires_eq,
      hscoped.relativeImports_eq, ?_⟩
    intro reference hreference
    rw [hdescribes.keys, List.mem_eraseDups]
    exact hreference
  · intro e he
    obtain ⟨location, compiled, reference, hreaches, hcompiled, hreference, htarget⟩ :=
      exists_target_error he
    -- The build asks the disk what the frontend has asked it, and with the same suffixes.
    obtain ⟨rfl, hreferrer, habsent⟩ := isModule_of_resolve_error htarget
    obtain ⟨tree, result, hscoped⟩ := exists_isScoped hcompiled
    have hlocation : Path.ofString e.referrer = location := by
      rw [hreferrer, Path.ofString_toString hreaches.isCanonical]
    refine ⟨compiled, tree, result, hlocation ▸ hscoped, hreference, hlocation ▸ habsent, ?_⟩
    rw [hlocation]
    intro i _ hmem
    cases (isModule_of_mem_submodules hmem).symm.trans habsent
  · intro location hreaches compiled tree result hscoped i hi reference hreference
    refine ⟨hscoped.mem_references hi hreference, ?_⟩
    rw [Path.ofString_toString hreaches.isCanonical]
    exact exists_resolve_of_isModule (isModule_of_mem_submodules hreference)

end Builder

/-! ## A module that imports a name from its own name -/

/-- The source that `importing` puts on a disk. -/
def importingSource : String := "from .a import a"

/-- A disk with a module that imports the name `a` from the module `a` beside it. -/
def importing (file : String) (others : List (List String × Entry)) : Disk where
  entries :=
    ([file], .file (importingSource.toList.map fun c => UInt8.ofNat c.toNat)) :: others
  current := ⟨.root, []⟩

/-- The disk on which the module is `a` itself. -/
def importingItself : Disk := importing "a.py" []

/-- The disk on which there is a directory `a` with a module `a`, and no module beside `m`. -/
def importingMember : Disk :=
  importing "m.py" [(["a"], .directory), (["a", "a.py"], .file [])]

/-- The tree of the source. -/
def importingTree : Module :=
  [.importFrom (some "a") [⟨"a", none⟩] 1]

/-- Whether a module is the tree of the source. -/
def isImportingTree : Module → Bool
  | [.importFrom (some module) [⟨name, none⟩] 1] => module == "a" && name == "a"
  | _ => false

/-- The check accepts no other tree. -/
theorem eq_importingTree (tree : Module) (h : isImportingTree tree = true) :
    tree = importingTree := by
  unfold isImportingTree at h
  split at h
  · rw [Bool.and_eq_true, beq_iff_eq, beq_iff_eq] at h
    rw [h.1, h.2]
    rfl
  · cases h

/-- A source that is parsed to a tree which meets a check has the only tree that meets it. -/
theorem parseSource_eq_ok {text : String} {tree : Module} {check : Module → Bool}
    (honly : ∀ m, check m = true → m = tree)
    (hparsed : (parseSource text).toOption.any check = true) : parseSource text = .ok tree := by
  cases hparse : parseSource text with
  | error e =>
    rw [hparse] at hparsed
    cases hparsed
  | ok m =>
    rw [hparse] at hparsed
    rw [honly m hparsed]

/-- The source has this tree. -/
theorem parseSource_importing : parseSource importingSource = .ok importingTree :=
  parseSource_eq_ok eq_importingTree (by decide +kernel)

/-- A module compiles if it can be read, parsed, scoped and printed. -/
theorem exists_compile {text : String} {tree : Module} {result : Import.Scoped Module}
    (htext : readSource d location = .ok text) (htree : parseSource text = .ok tree)
    (hresult : Import.scopeImports (isModule d suffixes location.parent) tree = .ok result)
    (hprint : result.value.print.isOk = true) :
    ∃ code, compile d suffixes location = .ok ⟨result.references, code⟩ := by
  cases hbody : result.value.print with
  | error e =>
    rw [hbody] at hprint
    cases hprint
  | ok body =>
    exact ⟨moduleCode body,
      compile_eq_ok.mpr ⟨text, tree, result, body, htext, htree, hresult, hbody, rfl⟩⟩

set_option maxRecDepth 10000 in
/-- The module that imports a name from itself is compiled, with itself as a reference. -/
theorem compile_importingItself :
    ∃ code, compile importingItself [".py"] ⟨.root, ["a.py"]⟩ = .ok ⟨[".a"], code⟩ := by
  have htext : readSource importingItself ⟨.root, ["a.py"]⟩ = .ok importingSource := by
    cbv
  have hresult : Import.scopeImports (isModule importingItself [".py"] ⟨.root, []⟩) importingTree =
      .ok ⟨[Import.publication, .assign [.name Import.temporary] (Import.require ".a"),
        .assign [.name "a"] (.attribute (.name Import.temporary) "a"),
        .delete [.name Import.temporary]], [".a"]⟩ := by
    cbv
  refine exists_compile htext parseSource_importing hresult ?_
  cbv

set_option maxRecDepth 10000 in
/-- The module `m` requires the module in the directory `a`, and before it the directory. -/
theorem compile_importingMember :
    ∃ code, compile importingMember [".py"] ⟨.root, ["m.py"]⟩ = .ok ⟨[".a", ".a.a"], code⟩ := by
  have htext : readSource importingMember ⟨.root, ["m.py"]⟩ = .ok importingSource := by
    cbv
  have hresult : Import.scopeImports (isModule importingMember [".py"] ⟨.root, []⟩) importingTree =
      .ok ⟨[Import.publication, .assign [.name Import.temporary] (Import.require ".a"),
        .assign [.name "a"] (Import.require ".a.a"), .delete [.name Import.temporary]],
        [".a", ".a.a"]⟩ := by
    cbv
  refine exists_compile htext parseSource_importing hresult ?_
  cbv

namespace Builder

variable {references : List String} {code : String}

/-- A module at the root of a disk that has compiled is the outset of the build that begins with
it. -/
theorem explores_ofDisk {file : String}
    (hstart : (ofDisk d {}).start file = ⟨.root, [file]⟩)
    (hcompile : compile d [".py"] ⟨.root, [file]⟩ = .ok ⟨references, code⟩) :
    (ofDisk d {}).Explores file
      ⟨[⟨⟨.root, [file]⟩, []⟩], [], references.mapIdx fun position reference =>
        ⟨0, ⟨.root, [file]⟩, [position], reference⟩⟩ := by
  have hcompiled : (ofDisk d {}).compiledAt ⟨.root, [file]⟩ = ⟨references, code⟩ :=
    compiledAt_eq hcompile
  have hx : (ofDisk d {}).Explores file ((ofDisk d {}).outset file) :=
    ⟨Nat.zero_lt_succ _, ⟨_, hstart ▸ hcompile⟩, .refl⟩
  unfold outset tasksAt at hx
  rw [hstart, hcompiled] at hx
  exact hx

/-- The module that imports a name from itself is built, and requires itself only. -/
theorem run_importingItself :
    ∃ g, ((ofDisk importingItself {}).run "a.py").outcome = .ok g ∧
      g.records.map ModuleRecord.references = [[".a"]] := by
  obtain ⟨code, hcompile⟩ := compile_importingItself
  have hx := explores_ofDisk (by cbv) hcompile
  have htarget : (ofDisk importingItself {}).target ⟨.root, ["a.py"]⟩ ".a" =
      .ok ⟨.root, ["a.py"]⟩ := by
    cbv
  have hknown : (ofDisk importingItself {}).known? [⟨⟨.root, ["a.py"]⟩, []⟩] ⟨.root, ["a.py"]⟩ =
      some 0 := by
    decide
  obtain ⟨g, hg, hrecords⟩ := (hx.step (.seen htarget hknown)).run_complete rfl
  refine ⟨g, hg, ?_⟩
  have hcompiled : (ofDisk importingItself {}).compiledAt ⟨.root, ["a.py"]⟩ = ⟨[".a"], code⟩ :=
    compiledAt_eq hcompile
  rw [hrecords]
  exact congrArg (fun compiled => [compiled.references]) hcompiled

/-- The reference to the directory `a` cannot be resolved. -/
theorem run_importingMember :
    ((ofDisk importingMember {}).run "m.py").outcome =
      .error (.refused (.resolution ⟨".a", "/m.py", ["/a.py", "/a/__init__.py"]⟩)) := by
  obtain ⟨code, hcompile⟩ := compile_importingMember
  have hx := explores_ofDisk (by cbv) hcompile
  have htarget : (ofDisk importingMember {}).target ⟨.root, ["m.py"]⟩ ".a" =
      .error (.refused ⟨".a", "/m.py", ["/a.py", "/a/__init__.py"]⟩) := by
    cbv
  exact (hx.run_stops (.unresolved htarget)).1

/-- The module that requires itself has a graph, in which its reference is a key. Where there is
only a member of the directory, the build stops at the reference to the directory; the member has
been taken for a module and can be resolved. -/
theorem run_ofDisk_importing :
    (∃ g, ((ofDisk importingItself {}).run "a.py").outcome = .ok g ∧
      g.records.map ModuleRecord.references = [[".a"]] ∧
      ∀ r ∈ g.records, ∃ tree result, RequiresOwn importingItself [".py"] r tree result) ∧
    ((ofDisk importingMember {}).run "m.py").outcome =
      .error (.refused (.resolution ⟨".a", "/m.py", ["/a.py", "/a/__init__.py"]⟩)) ∧
    (∃ compiled tree result, IsNoModule importingMember [".py"]
      ⟨".a", "/m.py", ["/a.py", "/a/__init__.py"]⟩ compiled tree result) ∧
    ∃ compiled tree result, IsScoped importingMember [".py"] ⟨.root, ["m.py"]⟩ compiled tree result ∧
      ".a.a" ∈ compiled.references ∧
      ∃ file, resolve importingMember ⟨.root, []⟩ ".a.a" "/m.py" [".py"] = .ok file := by
  obtain ⟨g, hg, hreferences⟩ := run_importingItself
  refine ⟨⟨g, hg, hreferences, (run_ofDisk importingItself {} "a.py").1 g hg⟩,
    run_importingMember, (run_ofDisk importingMember {} "m.py").2.1 _ run_importingMember, ?_⟩
  obtain ⟨code, hcompile⟩ := compile_importingMember
  obtain ⟨tree, result, hscoped⟩ := exists_isScoped hcompile
  refine ⟨_, tree, result, hscoped, ?_⟩
  have hreaches : (ofDisk importingMember {}).Reaches "m.py" ⟨.root, ["m.py"]⟩ := by
    have hstart : (ofDisk importingMember {}).start "m.py" = ⟨.root, ["m.py"]⟩ := by
      cbv
    exact hstart ▸ .refl
  have htree : tree = importingTree := by
    obtain ⟨text, htext, htree⟩ := hscoped.source
    have hsource : readSource importingMember ⟨.root, ["m.py"]⟩ = .ok importingSource := by
      cbv
    cases hsource.symm.trans htext
    exact (Except.ok.inj (parseSource_importing.symm.trans htree)).symm
  subst htree
  have hfound : RelativeImport.submodules (finds (isModule importingMember [".py"] ⟨.root, []⟩))
      ⟨some "a", [⟨"a", none⟩], 1⟩ = [".a.a"] := by
    cbv
  exact (run_ofDisk importingMember {} "m.py").2.2 _ hreaches _ _ _ hscoped
    ⟨some "a", [⟨"a", none⟩], 1⟩ List.mem_cons_self ".a.a"
    (hfound ▸ List.mem_singleton_self _)

end Builder

end Bundler

namespace Bundler.Syntax

/-! ## Code that is read as another module

The parentheses that a tuple is printed in can be taken for those around several context managers, so a
lone tuple in the place of a manager is lost.
-/

/-- The code of a compiled module is read as its tree, with the imports scoped, and the statement that
publishes its names after it. -/
def IsReadBack (compiled : CompiledModule) (result : Module) : Prop :=
  parseSource compiled.code = .ok (result ++ [Import.publication])

/-- A source in which one tuple is the manager of a block. -/
def tupleManagedSource : String := "with ((a, b)):\n    pass\n"

/-- The tree of the source. -/
def tupleManagedTree : Module :=
  [.with false [⟨.tuple [.name "a", .name "b"], none⟩] [.pass]]

/-- A disk with a module of this source. -/
def tupleManaged : Disk where
  entries := [(["a.py"], .file (tupleManagedSource.toList.map fun c => UInt8.ofNat c.toNat))]
  current := ⟨.root, []⟩

/-- Whether a module is the tree of the source. -/
def isTupleManagedTree : Module → Bool
  | [.with false [⟨.tuple [.name first, .name second], none⟩] [.pass]] =>
    first == "a" && second == "b"
  | _ => false

/-- The check accepts no other tree. -/
theorem eq_tupleManagedTree (m : Module) (h : isTupleManagedTree m = true) : m = tupleManagedTree := by
  unfold isTupleManagedTree at h
  split at h
  · rw [Bool.and_eq_true, beq_iff_eq, beq_iff_eq] at h
    rw [h.1, h.2]
    rfl
  · cases h

/-- The number of context managers of the first statement of a module. -/
def managerCount : Module → Option Nat
  | .with _ items _ :: _ => some items.length
  | _ => none

set_option maxRecDepth 10000 in
/-- A module whose block is managed by one tuple is compiled to code that is read as one with two
managers. -/
theorem not_isReadBack_tupleManaged : ∃ compiled result,
    compile tupleManaged [".py"] ⟨.root, ["a.py"]⟩ = .ok compiled ∧
      IsScoped tupleManaged [".py"] ⟨.root, ["a.py"]⟩ compiled tupleManagedTree result ∧
      ¬ IsReadBack compiled result := by
  have htext : readSource tupleManaged ⟨.root, ["a.py"]⟩ = .ok tupleManagedSource := by
    cbv
  have htree : parseSource tupleManagedSource = .ok tupleManagedTree :=
    parseSource_eq_ok eq_tupleManagedTree (by decide +kernel)
  have hresult : Import.scopeImports (isModule tupleManaged [".py"] ⟨.root, []⟩) tupleManagedTree =
      .ok ⟨tupleManagedTree, []⟩ := rfl
  have hbody : Module.print tupleManagedTree = .ok "with (a, b):\n    pass" := rfl
  have hmanagers : (parseSource (moduleCode "with (a, b):\n    pass")).toOption.bind managerCount =
      some 2 := by
    decide +kernel
  have hcompile := compile_eq_ok.mpr ⟨_, _, _, _, htext, htree, hresult, hbody, rfl⟩
  obtain ⟨hreplaced, hreferences⟩ := Import.scopeImports_ok hresult
  refine ⟨_, _, hcompile, ⟨⟨_, htext, htree⟩, hreplaced, ⟨_, hbody, rfl⟩, hreferences⟩, ?_⟩
  intro hread
  -- The tree has one manager in its first statement, not two.
  have hsame : parseSource (moduleCode "with (a, b):\n    pass") =
      .ok (tupleManagedTree ++ [Import.publication]) := hread
  rw [hsame] at hmanagers
  cases hmanagers

end Bundler.Syntax
