import Bundler.Import.Publication
import Bundler.Syntax.Parser
import Bundler.Text.Quoted

/-!
# Scoped imports

Every relative import of a module becomes a block of statements that obtain the imported names from
`require`, whose argument is a reference: the dots of the import and the dotted names after them.
Each block begins by publishing the names of the module. Absolute imports stay as they are.

* `from .. import a as b` binds each name to the module of that name: `b = require('..a')`.
* `from .m import *` copies the public names of the module into the globals.
* `from .m import a as b` loads the module into a temporary and reads each name from it, unless a
  module `.m.a` exists, which is required instead.
-/

set_option autoImplicit false

namespace Bundler.Import

open Bundler.Syntax

/-- The temporary that holds the module whose names are being bound. -/
def temporary : String := "__modpack_dependency"

/-- The reference of an import: one dot for each level, then the names that are there. -/
def referenceText (level : Nat) (module name : Option String) : String :=
  let names := (module.toList ++ name.toList).filter (!·.isEmpty)
  String.ofList (List.replicate level '.') ++ ".".intercalate names

/-- Why a module's imports cannot be scoped. -/
inductive ScopingError (ε : Type) where
  /-- An imported name normalizes to a keyword, which cannot be assigned to or read. -/
  | keyword (error : SyntaxError)
  /-- It cannot be found out whether a module exists. -/
  | probe (error : ε)

/-- A value together with the references that were required for it, in order. -/
structure Scoped (α : Type) where
  /-- The value. -/
  value : α
  /-- The references. -/
  references : List String

variable {ε : Type}

/-- The call of `require` for a reference. -/
def require (reference : String) : Expr :=
  call (.name "require") [literal reference]

/-- The assignment of a value to a name. Only names that are no keywords can stand in it, so others
are refused with the fault of the written assignment. -/
def bind (name : String) (value : Expr) (names : List String) (written : String) :
    Except (ScopingError ε) Stmt :=
  if names.any isKeyword then
    match parse (name ++ " = " ++ written) with
    | .error e => .error (.keyword e)
    | .ok _ => .error (.keyword ⟨.invalid, 1⟩)
  else .ok (.assign [.name name] value)

/-- Binds a name to a required module. -/
def bindModule (name reference : String) : Except (ScopingError ε) Stmt :=
  bind name (require reference) [name] ("require(" ++ Text.quoted reference ++ ")")

/-- Binds a name to a name of the module in the temporary. -/
def bindMember (name member : String) : Except (ScopingError ε) Stmt :=
  bind name (.attribute (.name temporary) member) [name, member] (temporary ++ "." ++ member)

/-- The statement that copies the public names of a module into the globals. -/
def spread (reference : String) : Stmt :=
  .expr (callMethod globals "update"
    [.dictComp (.name "_name") (.name "_value")
      [.mk nameAndValue (callMethod (call (.name "vars") [require reference]) "items" [])
        [isPublic] false]])

/-- The name that an imported name is bound to. -/
def Alias.binding (a : Alias) : String :=
  (a.asName.filter (!·.isEmpty)).getD a.name

/-- Binds each imported name to the module of that name. -/
def bindModules (level : Nat) : List Alias → Except (ScopingError ε) (Scoped (List Stmt))
  | [] => return ⟨[], []⟩
  | a :: rest => do
    let reference := referenceText level none (some a.name)
    let s ← bindModule (Alias.binding a) reference
    let ⟨ss, references⟩ ← bindModules level rest
    return ⟨s :: ss, reference :: references⟩

/-- Binds each imported name to a submodule or to a name of the module in the temporary. -/
def bindMembers (isModule : String → Except ε Bool) (level : Nat) (module : Option String) :
    List Alias → Except (ScopingError ε) (Scoped (List Stmt))
  | [] => return ⟨[], []⟩
  | a :: rest => do
    let reference := referenceText level module (some a.name)
    let found ← (isModule reference).mapError .probe
    let s ← if found then bindModule (Alias.binding a) reference
      else bindMember (Alias.binding a) a.name
    let ⟨ss, references⟩ ← bindMembers isModule level module rest
    return ⟨s :: ss, if found then reference :: references else references⟩

/-- The block that a relative import becomes. -/
def scopedImport (isModule : String → Except ε Bool) (module : Option String)
    (names : List Alias) (level : Nat) : Except (ScopingError ε) (Scoped (List Stmt)) := do
  let isStar := names.any (·.name == "*")
  if module.isNone && !isStar then
    let ⟨ss, references⟩ ← bindModules level names
    return ⟨publication :: ss, references⟩
  else
    let reference := referenceText level module none
    if isStar then return ⟨[publication, spread reference], [reference]⟩
    else
      let ⟨ss, references⟩ ← bindMembers isModule level module names
      return ⟨[publication, .assign [.name temporary] (require reference)] ++ ss ++
        [.delete [.name temporary]], reference :: references⟩

mutual

/-- What a statement becomes when its imports are scoped. -/
def scopeStmt (isModule : String → Except ε Bool) :
    Stmt → Except (ScopingError ε) (Scoped (List Stmt))
  | .importFrom module names level =>
    if level = 0 then return ⟨[.importFrom module names level], []⟩
    else scopedImport isModule module names level
  | .functionDef isAsync name parameters body decorators returns => do
    let ⟨body, references⟩ ← scopeBlock isModule body
    return ⟨[.functionDef isAsync name parameters body decorators returns], references⟩
  | .classDef name bases keywords body decorators => do
    let ⟨body, references⟩ ← scopeBlock isModule body
    return ⟨[.classDef name bases keywords body decorators], references⟩
  | .for isAsync target iterable body orElse => do
    let ⟨body, references⟩ ← scopeBlock isModule body
    let ⟨orElse, references'⟩ ← scopeBlock isModule orElse
    return ⟨[.for isAsync target iterable body orElse], references ++ references'⟩
  | .while test body orElse => do
    let ⟨body, references⟩ ← scopeBlock isModule body
    let ⟨orElse, references'⟩ ← scopeBlock isModule orElse
    return ⟨[.while test body orElse], references ++ references'⟩
  | .if test body orElse => do
    let ⟨body, references⟩ ← scopeBlock isModule body
    let ⟨orElse, references'⟩ ← scopeBlock isModule orElse
    return ⟨[.if test body orElse], references ++ references'⟩
  | .with isAsync items body => do
    let ⟨body, references⟩ ← scopeBlock isModule body
    return ⟨[.with isAsync items body], references⟩
  | .match subject cases => do
    let ⟨cases, references⟩ ← scopeCases isModule cases
    return ⟨[.match subject cases], references⟩
  | .try isStar body handlers orElse final => do
    let ⟨body, inBody⟩ ← scopeBlock isModule body
    let ⟨handlers, inHandlers⟩ ← scopeHandlers isModule handlers
    let ⟨orElse, inOrElse⟩ ← scopeBlock isModule orElse
    let ⟨final, inFinal⟩ ← scopeBlock isModule final
    return ⟨[.try isStar body handlers orElse final], inBody ++ inHandlers ++ inOrElse ++ inFinal⟩
  | s => return ⟨[s], []⟩

/-- What a block becomes when its imports are scoped. -/
def scopeBlock (isModule : String → Except ε Bool) :
    List Stmt → Except (ScopingError ε) (Scoped (List Stmt))
  | [] => return ⟨[], []⟩
  | s :: rest => do
    let ⟨ss, references⟩ ← scopeStmt isModule s
    let ⟨rest, references'⟩ ← scopeBlock isModule rest
    return ⟨ss ++ rest, references ++ references'⟩

/-- What the cases of a match statement become when their imports are scoped. -/
def scopeCases (isModule : String → Except ε Bool) :
    List MatchCase → Except (ScopingError ε) (Scoped (List MatchCase))
  | [] => return ⟨[], []⟩
  | .mk pattern guard body :: rest => do
    let ⟨body, references⟩ ← scopeBlock isModule body
    let ⟨rest, references'⟩ ← scopeCases isModule rest
    return ⟨.mk pattern guard body :: rest, references ++ references'⟩

/-- What exception handlers become when their imports are scoped. -/
def scopeHandlers (isModule : String → Except ε Bool) :
    List Handler → Except (ScopingError ε) (Scoped (List Handler))
  | [] => return ⟨[], []⟩
  | .mk exceptions name body :: rest => do
    let ⟨body, references⟩ ← scopeBlock isModule body
    let ⟨rest, references'⟩ ← scopeHandlers isModule rest
    return ⟨.mk exceptions name body :: rest, references ++ references'⟩

end

/-- A module with its relative imports scoped, and the references it requires in source order;
`isModule` tells whether a reference names an existing module. -/
def scopeImports (isModule : String → Except ε Bool) (m : Module) :
    Except (ScopingError ε) (Scoped Module) :=
  scopeBlock isModule m

end Bundler.Import
