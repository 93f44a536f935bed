import Bundler.Entries
import Bundler.Frontend
import Bundler.Graph.Identity
import Bundler.Graph.Record
import Bundler.Resolution
import Bundler.Settings

/-!
# Building a module graph

A build starts with the entry module and follows references breadth first: records wait in a queue,
and the references of the first one are resolved in order, which may create records that join the
queue at its end. That order alone decides identities.

With one record per file, a reference to a file that has a record leads to that record. With one
record per reference, every reference creates a record, so that a cycle only ends at the limit.
-/

set_option autoImplicit false

namespace Bundler

/-- What happens during a build. -/
inductive BuildEvent where
  /-- A module is about to be compiled. -/
  | compiling (location : Path)
  /-- A record has been created. -/
  | created (identity : Nat) (location : String)
  /-- A reference has been resolved, to a record seen before or to a new one. -/
  | linked (identity : Nat) (reference : String) (target : Nat) (seen : Bool)
  /-- The graph is complete. -/
  | built (size : Nat) (location : String)
deriving DecidableEq, Repr

/-- What a build has done so far. -/
structure BuildState where
  /-- The identities handed out. -/
  allocator : Allocator := {}
  /-- The first identity of every location. -/
  index : LocationIndex Nat := {}
  /-- What has happened, the newest first. -/
  events : List BuildEvent := []

/-- A step of a build, which may fail and keeps what it has done so far. -/
abbrev Building := EStateM (Failure BuildError) BuildState

/-- What builds a graph. -/
structure Builder where
  /-- What compiles modules. -/
  frontend : Frontend
  /-- Where files are looked for. -/
  disk : Disk
  /-- The settings of the build. -/
  settings : Settings

namespace Builder

/-- Notes an event. -/
def note (e : BuildEvent) : Building Unit :=
  modify fun s => { s with events := e :: s.events }

/-- The failure of a frontend, attributed to a reference if there is one. -/
def attributed (origin : Origin) (failure : Failure FrontendError) : Failure BuildError :=
  failure.map fun e =>
    match origin with
    | ⟨some reference, some referrer⟩ => .frontend (e.withReference reference referrer)
    | _ => .frontend e

/-- Creates a record for a location. -/
def createRecord (b : Builder) (location : Path) (origin : Origin) : Building ModuleRecord := do
  let s ← get
  if b.settings.maxModules ≤ s.allocator.allocated then
    throw (.refused (.limit ⟨b.settings.maxModules, origin⟩))
  note (.compiling location)
  match b.frontend location with
  | .error failure => throw (attributed origin failure)
  | .ok compiled => do
    let (identity, allocator) := s.allocator.next
    let name := location.toString
    modify fun s => { s with allocator, index := s.index.add name identity }
    note (.created identity name)
    return { identity, location := name, references := compiled.references, code := compiled.code }

/-- Resolves references of a record in order, onto the targets found so far. Returns the targets and
the records that were created. -/
def resolveReferences (b : Builder) (record : ModuleRecord) (targets : List (String × Int)) :
    List String → Building (List (String × Int) × List ModuleRecord)
  | [] => return (targets, [])
  | reference :: rest => do
    let directory := (Path.ofString record.location).parent
    match resolve b.disk directory reference record.location b.settings.suffixes with
    | .error failure => throw (failure.map .resolution)
    | .ok location =>
      let s ← get
      let known :=
        if b.settings.policy = .perLocation then s.index.get? location.toString else none
      match known with
      | some identity =>
        note (.linked record.identity reference identity true)
        b.resolveReferences record (setEntry targets reference identity) rest
      | none =>
        let child ← b.createRecord location ⟨some reference, some record.location⟩
        note (.linked record.identity reference child.identity false)
        let (targets, created) ←
          b.resolveReferences record (setEntry targets reference child.identity) rest
        return (targets, child :: created)

/-- Processes the waiting records; `done` holds the processed ones, the newest first. Every record is
processed once, so as many rounds as there may be records are enough. -/
def processQueue (b : Builder) :
    (rounds : Nat) → (done queue : List ModuleRecord) → Building (List ModuleRecord)
  | _, done, [] => return done.reverse
  | 0, done, queue => return done.reverse ++ queue
  | rounds + 1, done, record :: queue => do
    let (referenceMap, created) ← b.resolveReferences record [] record.references
    b.processQueue rounds ({ record with referenceMap } :: done) (queue ++ created)

/-- Builds the graph of everything that can be reached from an entry module. A builder that has
created records builds no other graph. -/
def build (b : Builder) (entry : String) : Building ModuleGraph := do
  if (← get).allocator.allocated ≠ 0 then throw (.crash .builderReused)
  let first ← b.createRecord ((Path.ofString entry).normalize b.disk.current) {}
  let records ← b.processQueue b.settings.maxModules [] [first]
  note (.built records.length first.location)
  match ModuleGraph.ofRecords records with
  | .ok graph => return graph
  | .error crash => throw (.crash crash)

/-- The builder that compiles the sources on a disk. -/
def ofDisk (d : Disk) (settings : Settings) : Builder where
  frontend := compile d settings.suffixes
  disk := d
  settings := settings

end Builder

/-- The outcome of a build, and what happened in order. -/
structure BuildRun where
  /-- The graph, or why there is none. -/
  outcome : Except (Failure BuildError) ModuleGraph
  /-- What happened. -/
  events : List BuildEvent

/-- Builds a graph from nothing. -/
def Builder.run (b : Builder) (entry : String) : BuildRun :=
  match EStateM.run (b.build entry) {} with
  | .ok graph s => ⟨.ok graph, s.events.reverse⟩
  | .error failure s => ⟨.error failure, s.events.reverse⟩

end Bundler
