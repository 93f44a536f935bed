import Bundler.Crash

/-!
# Module graphs

A record is one occurrence of a module in a build. A graph is a list of records, at least one, in
which every record stands at the position that is its identity. The first record is the entry.
-/

set_option autoImplicit false

namespace Bundler

/-- One occurrence of a module in a build. -/
structure ModuleRecord where
  /-- The identity within the build. -/
  identity : Nat
  /-- The location of the module. -/
  location : String
  /-- The references in the module, in order and with repetitions. -/
  references : List String
  /-- The compiled code. -/
  code : String
  /-- The identities that the references lead to, in the order of the references. -/
  referenceMap : List (String × Int) := []
deriving DecidableEq, Repr

/-- The record with the given members, if they are of the right kind. Other members are passed
over. -/
def ModuleRecord.ofMembers (members : List (String × Json)) : Except Invalid ModuleRecord :=
  let identity := Validation.required members "identity"
    (fun j => (Validation.integerFrom 0 j).map Int.toNat)
  let location := Validation.required members "location" Validation.string
  let references :=
    Validation.optional members "dependency_references" (Validation.strings .notList) []
  let code := Validation.required members "generated_code" Validation.string
  let referenceMap := Validation.optional members "reference_map" Validation.integers []
  match identity, location, references, code, referenceMap with
  | .ok identity, .ok location, .ok references, .ok code, .ok referenceMap =>
    .ok { identity, location, references, code, referenceMap }
  | _, _, _, _, _ =>
    .error ⟨"ModuleRecord", identity.issues ++ location.issues ++ references.issues ++
      code.issues ++ referenceMap.issues⟩

/-- The first position that does not hold the record of that identity, and the identity there. -/
def misplaced? (position : Nat) : List ModuleRecord → Option (Nat × Nat)
  | [] => none
  | r :: rest =>
    if r.identity = position then misplaced? (position + 1) rest else some (position, r.identity)

/-- A module graph. -/
structure ModuleGraph where
  /-- The record of the entry module. -/
  entry : ModuleRecord
  /-- The other records. -/
  others : List ModuleRecord
  /-- Every record stands at the position that is its identity. -/
  placed : misplaced? 0 (entry :: others) = none

namespace ModuleGraph

/-- All records, by identity. -/
def records (g : ModuleGraph) : List ModuleRecord :=
  g.entry :: g.others

/-- The number of records. -/
def size (g : ModuleGraph) : Nat :=
  g.records.length

/-- The graph with the given records. -/
def ofRecords : List ModuleRecord → Except Crash ModuleGraph
  | [] => .error .emptyGraph
  | entry :: others =>
    match h : misplaced? 0 (entry :: others) with
    | none => .ok ⟨entry, others, h⟩
    | some (position, identity) => .error (.misplaced position identity)

/-- The distinct pairs of a record and a record that it refers to, by identities, in order. -/
def edges (g : ModuleGraph) : List (Nat × Int) :=
  g.records.flatMap fun r =>
    let targets := r.referenceMap.map Prod.snd
    (targets.mergeSort (· ≤ ·)).eraseReps.map (r.identity, ·)

end ModuleGraph

end Bundler
