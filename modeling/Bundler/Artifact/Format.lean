import Bundler.Json.Basic

/-!
# Kinds of artifacts

Next to the bundle, a project has two artifacts that describe its module graph: a listing with one
line for each module, and a summary.
-/

set_option autoImplicit false

namespace Bundler

/-- The version of the members that the listing and the summary have. -/
def schemaVersion : Nat := 1

/-- The file and the format of an artifact. -/
structure ArtifactKind where
  /-- The name of the file. -/
  fileName : String
  /-- The format of the file. -/
  format : String
  /-- What the file holds. -/
  note : String
deriving DecidableEq, Repr

namespace ArtifactKind

/-- The listing of the modules. -/
def modules : ArtifactKind where
  fileName := "modules.jsonl"
  format := "jsonl"
  note := "GraphModuleRecord fields, one line per identity."

/-- The summary of the graph. -/
def summary : ArtifactKind where
  fileName := "graph_summary.json"
  format := "json"
  note := "GraphSummary fields required by contract."

/-- The artifacts that describe a graph, under their names. -/
def all : List (String × ArtifactKind) :=
  [("modules", modules), ("graph_summary", summary)]

/-- A kind of artifacts as a value. -/
def toJson (k : ArtifactKind) : Json :=
  .object [("filename", .string k.fileName), ("format", .string k.format),
    ("required_fields_note", .string k.note)]

end ArtifactKind

end Bundler
