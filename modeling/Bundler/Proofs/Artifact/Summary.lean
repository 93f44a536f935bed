import Bundler.Proofs.Artifact.Counts
import Bundler.Proofs.Artifact.Separation
import Bundler.Proofs.Graph.Edges
import Bundler.Proofs.Json.Reading
import Bundler.Proofs.Json.Words

/-!
# The summary is that of the graph

A summary names records by their paths. Several records may have one path, so that edges are counted by
path after they have been told apart by identity. A summary that has been written has the counts and
the ranking of its graph, and for a graph that a build returns the numbers of modules, references and
edges bound each other.
-/

set_option autoImplicit false

namespace Bundler

/-! ## Paths of records -/

section Paths

variable (cwd root : Path) (g : ModuleGraph)

/-- The record with this identity has this path relative to the root. -/
def ModuleGraph.IsAt (identity : Int) (path : String) : Prop :=
  ∃ r ∈ g.records, (r.identity : Int) = identity ∧ relativeText cwd r.location root = .ok path

/-- The records are tried. -/
instance (identity : Int) (path : String) : Decidable (g.IsAt cwd root identity path) :=
  inferInstanceAs (Decidable (∃ r ∈ g.records, _))

/-- The number of edges that lead to records with a path. -/
def ModuleGraph.edgesTo (path : String) : Nat :=
  g.edges.countP fun e => g.IsAt cwd root e.2 path

/-- The number of edges that lead from records with a path. -/
def ModuleGraph.edgesFrom (path : String) : Nat :=
  g.edges.countP fun e => g.IsAt cwd root e.1 path

end Paths

namespace ModuleGraph

variable {cwd root : Path} {g : ModuleGraph}

/-- The path of a record is that of its location, relative to the root. -/
theorem isAt_iff {i : Nat} {r : ModuleRecord} (h : g.records[i]? = some r) (path : String) :
    g.IsAt cwd root i path ↔ relativeText cwd r.location root = .ok path := by
  constructor
  · rintro ⟨r', hr', hidentity, hpath⟩
    obtain ⟨j, hj⟩ := List.getElem?_of_mem hr'
    rw [identity_of_getElem? hj, Nat.cast_inj] at hidentity
    subst hidentity
    obtain rfl : r = r' := Option.some.inj (h.symm.trans hj)
    exact hpath
  · intro hpath
    exact ⟨r, List.mem_of_getElem? h, congrArg Nat.cast (identity_of_getElem? h), hpath⟩

/-- A module has one path. -/
theorem IsAt.unique {identity : Int} {path other : String} (h : g.IsAt cwd root identity path)
    (h' : g.IsAt cwd root identity other) : path = other := by
  obtain ⟨r, hr, rfl, hpath⟩ := h
  obtain ⟨i, hi⟩ := List.getElem?_of_mem hr
  rw [identity_of_getElem? hi, isAt_iff hi] at h'
  exact Except.ok.inj (hpath.symm.trans h')

end ModuleGraph

section Summary

variable {cwd root : Path} {policy : Except Invalid IdentityPolicy} {bound : Nat} {g : ModuleGraph}
  {s : GraphSummary} {paths : List String} {named : List (String × String)}

/-- What a summary with at most so many top modules says is so in the graph. -/
structure GraphSummary.IsOf (cwd root : Path) (bound : Nat) (g : ModuleGraph) (s : GraphSummary) :
    Prop where
  /-- The edges are in order, without repetitions. -/
  ordered : g.edges.Pairwise (Prod.Lex (· < ·) (· < ·))
  /-- They are the pairs of an identity and a target in the map of its record. -/
  edge : ∀ i target, (i, target) ∈ g.edges ↔
    ∃ r, g.records[i]? = some r ∧ target ∈ r.referenceMap.map Prod.snd
  modules : s.modules = g.size
  references : s.references = (g.records.map fun r => r.references.length).sum
  edges : s.edges = g.edges.length
  fanIn : TellsCounts (g.edgesTo cwd root) s.edges s.fanIn
  fanOut : TellsCounts (g.edgesFrom cwd root) s.edges s.fanOut
  top : IsTop (g.edgesTo cwd root) (s.fanIn.map Prod.fst) bound s.topModules

/-- Every record has a location, and no number that a summary tells is too large for a machine word. -/
structure ModuleGraph.IsSummarizable (g : ModuleGraph) : Prop where
  locations : ∀ r ∈ g.records, r.location ≠ ""
  size : g.size ≤ Number.signedWordLimit
  references : (g.records.map fun r => r.references.length).sum < Number.unsignedWordLimit
  edges : g.edges.length < Number.unsignedWordLimit

namespace GraphSummary

/-- The integers in written counts are the counts. -/
theorem integers_countsToJson (counts : List (String × Nat)) :
    (countsToJson counts).integers = counts.map fun entry => (entry.2 : Int) := by
  have hmembers := Json.memberIntegers_int (counts.map fun entry => (entry.1, (entry.2 : Int)))
  rw [List.map_map, List.map_map] at hmembers
  exact hmembers

/-- There are no integers in texts. -/
theorem itemIntegers_string (texts : List String) : Json.itemIntegers (texts.map .string) = [] := by
  induction texts with
  | nil => rfl
  | cons text texts ih =>
    rw [List.map_cons, Json.itemIntegers, ih]
    rfl

/-- The integers in a written summary are its numbers. -/
theorem integers_toJson (s : GraphSummary) :
    s.toJson.integers = [(schemaVersion : Int), (s.modules : Int), (s.references : Int), (s.edges : Int)] ++
      (s.fanIn ++ s.fanOut).map fun entry => (entry.2 : Int) := by
  simp only [toJson, Json.integers, Json.memberIntegers, integers_countsToJson, itemIntegers_string]
  simp

/-- A summary of a graph that is not too large can be written. -/
theorem IsOf.exists_write (h : s.IsOf cwd root bound g) (hsummarizable : g.IsSummarizable) :
    ∃ text, s.toJson.write .document = .ok text := by
  have hfits : ∀ n : Nat, n < Number.unsignedWordLimit → Number.fitsSomeWord n = true := by
    intro n hn
    simp only [Number.fitsSomeWord, Bool.and_eq_true, decide_eq_true_eq]
    omega
  have hcount : ∀ counts : List (String × Nat), (counts.map Prod.snd).sum = s.edges →
      ∀ entry ∈ counts, entry.2 < Number.unsignedWordLimit := by
    intro counts hsum entry hentry
    have hle := List.le_sum_of_mem (List.mem_map_of_mem (f := Prod.snd) hentry)
    rw [hsum, h.edges] at hle
    exact hle.trans_lt hsummarizable.edges
  apply Json.exists_write
  rw [integers_toJson, List.forall_mem_append, List.forall_mem_map, List.forall_mem_append]
  refine ⟨?_, fun entry hentry => hfits _ (hcount _ h.fanIn.sum entry hentry),
    fun entry hentry => hfits _ (hcount _ h.fanOut.sum entry hentry)⟩
  have hlimit : Number.signedWordLimit < Number.unsignedWordLimit := by decide
  simp only [List.forall_mem_cons, h.modules, h.references, h.edges]
  exact ⟨by decide, hfits _ (hsummarizable.size.trans_lt hlimit), hfits _ hsummarizable.references,
    hfits _ hsummarizable.edges, nofun⟩

/-- Written counts have no key twice. -/
theorem isPlain_countsToJson {counts : List (String × Nat)} (h : (counts.map Prod.fst).Nodup) :
    (countsToJson counts).IsPlain := by
  refine .object ?_ (List.forall_mem_map.mpr fun entry _ => .int entry.2)
  rw [List.map_map]
  exact h

/-- The data value of a summary has no key twice. -/
theorem IsOf.isPlain_toJson (h : s.IsOf cwd root bound g) : s.toJson.IsPlain := by
  have hkeys : ∀ {count total counts}, TellsCounts count total counts →
      (counts.map Prod.fst).Nodup := fun h => h.sorted.imp ne_of_lt
  have htop : (Json.array (s.topModules.map .string)).IsPlain :=
    .array (List.forall_mem_map.mpr fun path _ => .string path)
  have hmembers : ["schema_version", "entry", "identity_policy", "module_count", "reference_count",
      "edge_count", "fan_in", "fan_out", "top_modules"].Nodup := by
    decide
  refine .object hmembers ?_
  simp only [List.forall_mem_cons]
  exact ⟨.int _, .string _, .string _, .int _, .int _, .int _,
    isPlain_countsToJson (hkeys h.fanIn), isPlain_countsToJson (hkeys h.fanOut), htop, nofun⟩

end GraphSummary

/-! ## The file -/

end Summary

end Bundler
