import Bundler.Proofs.Graph.Limit
import Bundler.Proofs.Graph.Sources
import Bundler.Proofs.Graph.Transfer
import Bundler.Proofs.Import.Probes

/-!
# What a build asks a disk for

A build reads the modules that it reaches, and it asks which candidates are files: those of the
references that lead from a module, and those of the names that a module imports from another one.
Candidates behind the first file are not looked at. On a disk with the same answers the build gives the
same graph.
-/

set_option autoImplicit false

namespace Bundler

open Bundler.Import (relativeImports)

/-- A path is tried as a candidate of a reference from a directory: no candidate before it is a file. -/
def Disk.Tries (d : Disk) (suffixes : List String) (directory : Path) (reference : String)
    (p : Path) : Prop :=
  ∃ before after, candidates d.current directory reference suffixes = .ok (before ++ p :: after) ∧
    ∀ q ∈ before, d.isFile q = false

/-- The module at a location has a reference, or it imports a name which may be that of a module. -/
def Disk.LooksFor (d : Disk) (suffixes : List String) (location : Path) (reference : String) : Prop :=
  (∃ compiled, compile d suffixes location = .ok compiled ∧ reference ∈ compiled.references) ∨
    ∃ text tree, readSource d location = .ok text ∧ parseSource text = .ok tree ∧
      ∃ i ∈ relativeImports tree, reference ∈ i.probes

/-- A path that the build from an entry module asks about: a candidate that is tried for a module that
is reached. -/
def Disk.Probes (d : Disk) (settings : Settings) (entry : String) (p : Path) : Prop :=
  ∃ location reference, (Builder.ofDisk d settings).Reaches entry location ∧
    d.LooksFor settings.suffixes location reference ∧
    d.Tries settings.suffixes location.parent reference p

/-- The first element with a property depends on the elements up to it. -/
theorem find?_eq_of_tried {α : Type} {f f' : α → Bool} {l : List α}
    (h : ∀ before a after, l = before ++ a :: after → (∀ b ∈ before, f b = false) → f' a = f a) :
    l.find? f' = l.find? f := by
  induction l with
  | nil => rfl
  | cons a l ih =>
    have ha : f' a = f a := h [] a l rfl (by simp)
    rw [List.find?_cons, List.find?_cons, ha]
    cases hf : f a with
    | true => rfl
    | false =>
      apply ih
      rintro before b after rfl hbefore
      refine h (a :: before) b after rfl ?_
      intro c hc
      rcases List.mem_cons.mp hc with rfl | hc
      · exact hf
      · exact hbefore c hc

section Agreement

variable {d d' : Disk} {settings : Settings} {suffixes : List String} {directory location : Path}
  {reference entry : String}

/-- Where the candidates that are tried are the same files, a reference leads to the same place. -/
theorem find?_candidates_eq (htried : ∀ p, d.Tries suffixes directory reference p →
    d'.isFile p = d.isFile p) {tried : List Path}
    (h : candidates d.current directory reference suffixes = .ok tried) :
    tried.find? d'.isFile = tried.find? d.isFile := by
  apply find?_eq_of_tried
  rintro before p after rfl hbefore
  exact htried p ⟨before, after, h, hbefore⟩

/-- A reference is resolved again if the same candidates are files. -/
theorem resolve_eq_of_tried (hcurrent : d'.current = d.current)
    (htried : ∀ p, d.Tries suffixes directory reference p → d'.isFile p = d.isFile p)
    {referrer : String} (h : resolve d directory reference referrer suffixes = .ok location) :
    resolve d' directory reference referrer suffixes = .ok location := by
  obtain ⟨tried, file, hcandidates, hfind, rfl⟩ := resolve_eq_ok.mp h
  refine resolve_eq_ok.mpr ⟨tried, file, by rwa [hcurrent], ?_, by rw [hcurrent]⟩
  rw [find?_candidates_eq htried hcandidates, hfind]

/-- A reference names a module again if the same candidates are files. -/
theorem isModule_eq_of_tried (hcurrent : d'.current = d.current)
    (htried : ∀ p, d.Tries suffixes directory reference p → d'.isFile p = d.isFile p) :
    isModule d' suffixes directory reference = isModule d suffixes directory reference := by
  unfold isModule
  rw [hcurrent]
  cases hcandidates : candidates d.current directory reference suffixes with
  | error e => rfl
  | ok tried =>
    have hany : tried.any d'.isFile = tried.any d.isFile := by
      rw [← List.isSome_find?, ← List.isSome_find?, find?_candidates_eq htried hcandidates]
    simp only [bind, Except.bind, hany]

/-- Builds on two disks mirror each other if the modules that are reached are read alike, and if the
same candidates are files. -/
theorem Builder.mirrors_ofDisk (hcurrent : d'.current = d.current)
    (hread : ∀ location bytes, (Builder.ofDisk d settings).Reaches entry location →
      d.read location = .ok bytes → d'.read location = .ok bytes)
    (hprobes : ∀ p, d.Probes settings entry p → d'.isFile p = d.isFile p) :
    (Builder.ofDisk d settings).Mirrors (Builder.ofDisk d' settings) entry entry id where
  settings := rfl
  start := by
    change (Path.ofString entry).normalize d'.current = (Path.ofString entry).normalize d.current
    rw [hcurrent]
  compiles := by
    intro location compiled hreached hcompiled
    obtain ⟨text, tree, result, body, htext, htree, hresult, hbody, rfl⟩ :=
      compile_eq_ok.mp hcompiled
    obtain ⟨bytes, decoded, hbytes, hdecode, htext'⟩ := readSource_eq_ok.mp htext
    refine compile_eq_ok.mpr ⟨text, tree, result, body, ?_, htree, ?_, hbody, rfl⟩
    · exact readSource_eq_ok.mpr ⟨bytes, decoded, hread location bytes hreached hbytes, hdecode, htext'⟩
    · rw [← hresult]
      apply Import.scopeImports_congr
      intro i hi reference hreference
      apply isModule_eq_of_tried hcurrent
      intro p hp
      have hasked : d.LooksFor settings.suffixes location reference :=
        .inr ⟨text, tree, htext, htree, i, hi, hreference⟩
      exact hprobes p ⟨location, reference, hreached, hasked, hp⟩
  targets := by
    intro location compiled reference other hreached hcompiled hreference hother
    apply resolve_eq_of_tried hcurrent _ hother
    intro p hp
    exact hprobes p ⟨location, reference, hreached, .inl ⟨compiled, hcompiled, hreference⟩, hp⟩
  separate := fun _ _ _ _ h => h

/-- The same graph is built on a disk that gives the same answers. -/
theorem Builder.run_ofDisk_eq (hcurrent : d'.current = d.current)
    (hread : ∀ location bytes, (Builder.ofDisk d settings).Reaches entry location →
      d.read location = .ok bytes → d'.read location = .ok bytes)
    (hprobes : ∀ p, d.Probes settings entry p → d'.isFile p = d.isFile p) {g : ModuleGraph}
    (h : ((Builder.ofDisk d settings).run entry).outcome = .ok g) :
    ((Builder.ofDisk d' settings).run entry).outcome = .ok g := by
  obtain ⟨g', hg', hrecords⟩ := (Builder.mirrors_ofDisk hcurrent hread hprobes).run h
  have hsame : List.Forall₂ Eq g.records g'.records := by
    refine hrecords.imp ?_
    rintro r r' ⟨location, _, hlocation, rfl⟩
    rw [id, ← hlocation]
  rw [List.forall₂_eq_eq_eq] at hsame
  rw [hg', ← ModuleGraph.eq_of_records_eq hsame]

end Agreement

end Bundler
