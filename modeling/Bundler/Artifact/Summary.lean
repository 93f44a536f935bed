import Bundler.Artifact.Format
import Bundler.Bundle.Assembly
import Bundler.Entries
import Bundler.Settings

/-!
# The summary of a graph

The summary counts the modules, the references and the distinct edges of a graph. For every file it
tells how many edges lead to it and how many lead from it, and it lists the files that most edges
lead to.
-/

set_option autoImplicit false

namespace Bundler

/-- The number of occurrences of every item, in the order of first occurrences. -/
def tally (items : List String) : List (String × Nat) :=
  items.foldl (fun counts item => setEntry counts item ((counts.lookup item).getD 0 + 1)) []

/-- How many edges lead to each item. -/
def fanIn (edges : List (String × String)) : List (String × Nat) :=
  tally (edges.map Prod.snd)

/-- How many edges lead from each item. -/
def fanOut (edges : List (String × String)) : List (String × Nat) :=
  tally (edges.map Prod.fst)

/-- Counts in the order of their items. -/
def sortCounts (counts : List (String × Nat)) : List (String × Nat) :=
  counts.mergeSort fun a b => a.1 ≤ b.1

/-- Whether a count comes before another one: it is larger, or its item is smaller. -/
def rankedBefore (a b : String × Nat) : Bool :=
  b.2 < a.2 || (a.2 == b.2 && a.1 ≤ b.1)

/-- The items with the largest counts. -/
def ranking (counts : List (String × Nat)) : List String :=
  (counts.mergeSort rankedBefore).map Prod.fst

/-- The beginning of a list up to a bound; a negative bound counts from the end, and without a bound
it is the whole list. -/
def takeUpTo {α : Type} (bound : Option Int) (items : List α) : List α :=
  match bound with
  | none => items
  | some n => items.take (if n < 0 then n + items.length else n).toNat

/-- The summary of a graph. -/
structure GraphSummary where
  /-- The file of the entry. -/
  entry : String
  /-- When two references share a record. -/
  policy : IdentityPolicy
  /-- The number of records. -/
  modules : Nat
  /-- The number of references, with repetitions. -/
  references : Nat
  /-- The number of distinct edges. -/
  edges : Nat
  /-- How many edges lead to each file. -/
  fanIn : List (String × Nat)
  /-- How many edges lead from each file. -/
  fanOut : List (String × Nat)
  /-- The files that most edges lead to. -/
  topModules : List String
deriving DecidableEq, Repr

namespace GraphSummary

/-- The policy that a value names. -/
def policyOfJson (j : Json) : Except Invalid IdentityPolicy :=
  (Checked.within (.key "identity_policy") (Validation.among IdentityPolicy.choices j)).mapError
    fun issues => ⟨"GraphSummary", issues⟩

/-- The summary of a graph with at most so many top modules. An edge has to lead to a record; the
policy is looked at last. -/
def ofGraph (cwd root : Path) (policy : Except Invalid IdentityPolicy) (bound : Option Int)
    (g : ModuleGraph) : Except Crash GraphSummary := do
  let path := fun (r : ModuleRecord) => (relativeText cwd r.location root).mapError Crash.path
  let entry ← path g.entry
  let paths := entry :: (← g.others.mapM path)
  let edges ← g.edges.mapM fun (source, target) => do
    let source ← (itemAt paths source).mapError .absent
    let target ← (itemAt paths target).mapError .absent
    return (source, target)
  let policy ← policy.mapError .invalid
  return {
    entry
    policy
    modules := g.size
    references := g.records.foldl (fun n r => n + r.references.length) 0
    edges := g.edges.length
    fanIn := sortCounts (Bundler.fanIn edges)
    fanOut := sortCounts (Bundler.fanOut edges)
    topModules := takeUpTo bound (ranking (Bundler.fanIn edges)) }

/-- Counts as a value. -/
def countsToJson (counts : List (String × Nat)) : Json :=
  .object (counts.map fun (item, n) => (item, .int n))

/-- A summary as a value. -/
def toJson (s : GraphSummary) : Json :=
  .object
    [("schema_version", .int schemaVersion),
    ("entry", .string s.entry),
    ("identity_policy", .string s.policy.name),
    ("module_count", .int s.modules),
    ("reference_count", .int s.references),
    ("edge_count", .int s.edges),
    ("fan_in", countsToJson s.fanIn),
    ("fan_out", countsToJson s.fanOut),
    ("top_modules", .array (s.topModules.map .string))]

end GraphSummary

end Bundler
