import Bundler.Proofs.Graph.Sharing
import Bundler.Proofs.Graph.Unrolling

/-!
# The edges of a graph

The edges of a graph are the pairs of a record and a target in its map, each one once and in order. In
a graph that a build returns every target is a record, and there are no more edges than references.
With one record for each location every record but the first is the target of an edge; with one record
for each reference it was created by a reference of its own.
-/

set_option autoImplicit false

namespace Bundler

namespace ModuleGraph

variable {g : ModuleGraph}

/-- The identity of a record is its position. -/
theorem identity_of_getElem? {i : Nat} {r : ModuleRecord} (h : g.records[i]? = some r) :
    r.identity = i := by
  have hlt := (List.getElem?_eq_some_iff.mp h).1
  have hidentity : (g.records.map ModuleRecord.identity)[i]? = some i := by
    rw [g.map_identity_records]
    exact List.getElem?_range hlt
  rw [List.getElem?_map, h] at hidentity
  exact Option.some.inj hidentity

end ModuleGraph

/-! ## Built graphs -/

namespace Builder

variable {b : Builder} {entry : String} {g : ModuleGraph}

/-- A reference in a map leads to the record of the location that it resolves to. -/
theorem exists_target_of_run (h : (b.run entry).outcome = .ok g) {r : ModuleRecord}
    (hr : r ∈ g.records) {reference : String} {identity : Int}
    (hmem : (reference, identity) ∈ r.referenceMap) :
    ∃ other ∈ g.records, ∃ location : Path, identity = other.identity ∧
      other.location = location.toString ∧
      resolve b.disk (Path.ofString r.location).parent reference r.location b.settings.suffixes =
        .ok location := by
  obtain ⟨x, hx, hp, hrecords, _⟩ := exists_explores_of_ok h
  rw [hrecords] at hr
  obtain ⟨i, v, hv, rfl⟩ := exists_visit_of_mem_recordsFrom hr
  obtain ⟨j, other, location, rfl, hother, hlocation, hresolve⟩ :=
    (hx.describes hp hv).targets reference identity hmem
  rw [← hrecords] at hother
  exact ⟨other, List.mem_of_getElem? hother, location, by rw [ModuleGraph.identity_of_getElem? hother],
    hlocation, hresolve⟩

/-- With one record for each file, no location has two records. -/
theorem nodup_locations_of_run (hpolicy : b.settings.policy = .perLocation)
    (h : (b.run entry).outcome = .ok g) : (g.records.map ModuleRecord.location).Nodup := by
  obtain ⟨x, hx, _, hrecords, _⟩ := exists_explores_of_ok h
  rw [hrecords, map_location_recordsFrom]
  exact hx.nodup_names hpolicy

end Builder

end Bundler
