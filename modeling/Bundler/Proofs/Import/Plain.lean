import Bundler.Proofs.Import.Replacement

/-!
# Plain names

A reference is put together from dots and names. Where it leads is told by the dots of the import and
the names in it as long as the names are plain: none holds a slash or begins with a dot. The imports
in a block are plain if those in its statements are.
-/

set_option autoImplicit false

namespace Bundler.Import

open Bundler.Syntax

/-- A name that holds no slash and does not begin with a dot. -/
structure IsPlain (name : String) : Prop where
  no_slash : '/' ∉ name.toList
  no_dot : name.toList.head? ≠ some '.'

/-- The names in an import are plain. -/
def RelativeImport.IsPlain (i : RelativeImport) : Prop :=
  ∀ name ∈ i.module.toList ++ i.names.map Alias.name, Import.IsPlain name

/-- The names that a reference of a plain import is made from are plain. -/
theorem RelativeImport.IsPlain.names {i : RelativeImport} (h : i.IsPlain) {name : Option String}
    (hname : ∀ n ∈ name, n ∈ i.names.map Alias.name) :
    ∀ n ∈ i.module.toList ++ name.toList, Import.IsPlain n := by
  intro n hn
  apply h n
  rcases List.mem_append.mp hn with hn | hn
  · exact List.mem_append_left _ hn
  · exact List.mem_append_right _ (hname n (Option.mem_toList.mp hn))

/-- The imports among heads are plain. -/
def ArePlain (heads : List Head) : Prop :=
  ∀ i ∈ heads.filterMap import?, i.IsPlain

variable {head : Head} {heads : List Head} {block : List Stmt}

/-- No heads are plain. -/
theorem arePlain_nil : ArePlain [] :=
  List.forall_mem_nil _

/-- Heads are plain if both parts of them are. -/
theorem arePlain_append {first second : List Head} :
    ArePlain (first ++ second) ↔ ArePlain first ∧ ArePlain second := by
  unfold ArePlain
  rw [List.filterMap_append, List.forall_mem_append]

/-- A head that is no import is not in the way. -/
theorem ArePlain.cons (h : import? head = none) (hheads : ArePlain heads) :
    ArePlain (head :: heads) := by
  unfold ArePlain
  rwa [List.filterMap_cons_none h]

/-- The heads in a block are plain if those in its statements are. -/
theorem arePlain_blockHeads (h : ∀ s ∈ block, ArePlain s.heads) : ArePlain (blockHeads block) := by
  induction block with
  | nil => exact arePlain_nil
  | cons s rest ih =>
    rw [List.forall_mem_cons] at h
    exact arePlain_append.mpr ⟨h.1, ih h.2⟩

/-- The heads of handlers are plain if those of each of them are. -/
theorem arePlain_handlerHeads {handlers : List Handler}
    (h : ∀ one ∈ handlers, ArePlain (handlerHeads [one])) : ArePlain (handlerHeads handlers) := by
  induction handlers with
  | nil => exact arePlain_nil
  | cons one rest ih =>
    rw [List.forall_mem_cons] at h
    obtain ⟨exceptions, name, body⟩ := one
    have hone := h.1
    rw [handlerHeads, handlerHeads, List.append_nil] at hone
    rw [handlerHeads]
    exact arePlain_append.mpr ⟨hone, ih h.2⟩

/-- The heads of cases are plain if those of each of them are. -/
theorem arePlain_caseHeads {cases : List MatchCase}
    (h : ∀ one ∈ cases, ArePlain (caseHeads [one])) : ArePlain (caseHeads cases) := by
  induction cases with
  | nil => exact arePlain_nil
  | cons one rest ih =>
    rw [List.forall_mem_cons] at h
    obtain ⟨pattern, guard, body⟩ := one
    have hone := h.1
    rw [caseHeads, caseHeads, List.append_nil] at hone
    rw [caseHeads]
    exact arePlain_append.mpr ⟨hone, ih h.2⟩

/-- An import is plain if the name of its module and the imported names are. -/
theorem arePlain_importFrom {module : Option String} {names : List Alias} {level : Nat}
    (hmodule : ∀ name ∈ module, IsPlain name) (hnames : ∀ a ∈ names, IsPlain a.name) :
    ArePlain [.statement (.importFrom module names level)] := by
  intro i hi
  obtain ⟨head, hhead, himport⟩ := List.mem_filterMap.mp hi
  obtain rfl := List.mem_singleton.mp hhead
  rw [import?] at himport
  split at himport
  · cases himport
  · cases himport
    intro name hname
    rcases List.mem_append.mp hname with hname | hname
    · exact hmodule name (Option.mem_toList.mp hname)
    · obtain ⟨a, ha, rfl⟩ := List.mem_map.mp hname
      exact hnames a ha

end Bundler.Import
