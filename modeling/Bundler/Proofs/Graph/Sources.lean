import Bundler.Frontend
import Bundler.Proofs.Outcome
import Bundler.Proofs.Syntax.Yielding.Statement
import Bundler.Resolution

/-!
# Sources on a disk

What it takes for a reference to be resolved, for a source to be read and for a module to be
compiled: which files are looked for and read, and what is done with them.
-/

set_option autoImplicit false

namespace Bundler

open Bundler.Import (Scoped scopeImports)

variable {d : Disk} {suffixes : List String} {directory location : Path}
  {reference referrer text : String}

/-- A reference leads to the first of its candidates that is a file. -/
theorem resolve_eq_ok :
    resolve d directory reference referrer suffixes = .ok location ↔ ∃ tried file,
      candidates d.current directory reference suffixes = .ok tried ∧
      tried.find? d.isFile = some file ∧ location = file.normalize d.current := by
  unfold resolve Failure.crashOn
  simp only [bind_eq_ok, mapError_eq_ok]
  constructor
  · rintro ⟨tried, htried, h⟩
    cases hfile : tried.find? d.isFile with
    | none =>
      rw [hfile] at h
      cases h
    | some file =>
      rw [hfile] at h
      cases h
      exact ⟨tried, file, htried, hfile, rfl⟩
  · rintro ⟨tried, file, htried, hfile, rfl⟩
    refine ⟨tried, htried, ?_⟩
    rw [hfile]
    rfl

/-- A source is read as UTF-8 text with unified line ends. -/
theorem readSource_eq_ok :
    readSource d location = .ok text ↔ ∃ bytes decoded, d.read location = .ok bytes ∧
      Text.Utf8.decode bytes = .ok decoded ∧ text = String.ofList (unifyLines decoded.toList) := by
  unfold readSource
  cases hread : d.read location with
  | error e => cases e <;> simp
  | ok bytes => cases hdecode : Text.Utf8.decode bytes <;> simp [hdecode, eq_comm]

/-- The imports of a source that can be parsed are plain. -/
theorem isPlain_of_parseSource {tree : Syntax.Module} (h : parseSource text = .ok tree) :
    ∀ i ∈ Import.relativeImports tree, i.IsPlain := by
  unfold parseSource at h
  split at h
  · cases h
  · exact Syntax.isPlain_of_parse (mapError_eq_ok.mp h)

/-- A module compiles if its source can be read and parsed, its imports can be scoped, and the result
can be printed. -/
theorem compile_eq_ok {compiled : CompiledModule} :
    compile d suffixes location = .ok compiled ↔ ∃ text tree result body,
      readSource d location = .ok text ∧ parseSource text = .ok tree ∧
      scopeImports (isModule d suffixes location.parent) tree = .ok result ∧
      result.value.print = .ok body ∧ compiled = ⟨result.references, moduleCode body⟩ := by
  unfold compile Failure.crashOn
  simp only [bind_eq_ok, mapError_eq_ok]
  constructor
  · rintro ⟨text, htext, tree, htree, result, hresult, body, hbody, h⟩
    cases h
    exact ⟨text, tree, result, body, htext, htree, hresult, hbody, rfl⟩
  · rintro ⟨text, tree, result, body, htext, htree, hresult, hbody, rfl⟩
    exact ⟨text, htext, tree, htree, result, hresult, body, hbody, rfl⟩

end Bundler
