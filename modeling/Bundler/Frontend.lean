import Bundler.Crash
import Bundler.Graph.Error
import Bundler.Import.Scoping
import Bundler.Reference
import Bundler.Syntax.Printer

/-!
# Frontends

A frontend reads and compiles the module at a location. What it returns is the references of the
module and its code, which nobody looks into.

The source frontend reads the file as text, in which every kind of line end is a line feed, parses
it, scopes its imports and prints it again. The code ends by publishing the names of the module.
-/

set_option autoImplicit false

namespace Bundler

/-- A compiled module. -/
structure CompiledModule where
  /-- The references to other modules, in order and with repetitions. -/
  references : List String
  /-- The code. -/
  code : String
deriving DecidableEq, Repr

namespace CompiledModule

/-- The compiled module with the given members, if they are of the right kind. -/
def ofMembers (members : List (String × Json)) : Except Invalid CompiledModule :=
  let references :=
    Validation.optional members "dependency_references" (Validation.strings .notTuple) []
  let code := Validation.required members "generated_code" Validation.string
  match references, code with
  | .ok references, .ok code => .ok ⟨references, code⟩
  | _, _ => .error ⟨"CompiledModule", references.issues ++ code.issues⟩

end CompiledModule

/-- What compiles the module at a location. -/
abbrev Frontend := Path → Except (Failure FrontendError) CompiledModule

/-- What is wrong with a source. -/
inductive SourceFault where
  /-- The file cannot be read. -/
  | unreadable (error : SystemError)
  /-- The file is no UTF-8 text. -/
  | undecodable (fault : Text.Utf8.DecodeFault)
  /-- The text is no module. -/
  | syntaxError (error : Syntax.SyntaxError)
  /-- The text holds a NUL character. -/
  | nullByte
deriving Repr

/-- The description of what is wrong with a source. -/
def SourceFault.message : SourceFault → String
  | .unreadable error => "cannot read source: " ++ error.text
  | .undecodable fault => "not valid utf-8: " ++ fault.message
  | .syntaxError error =>
    "syntax error at line " ++ toString error.line ++ ": " ++ error.fault.message
  | .nullByte => "source code string cannot contain null bytes"

/-- The error of a source at a location. -/
def SourceFault.within (fault : SourceFault) (location : Path) : Failure FrontendError :=
  .refused { location := location.toString, reason := fault.message }

/-- A text in which every line ends with a line feed. -/
def unifyLines : List Char → List Char
  | '\r' :: '\n' :: cs => '\n' :: unifyLines cs
  | '\r' :: cs => '\n' :: unifyLines cs
  | c :: cs => c :: unifyLines cs
  | [] => []

/-- The text of the source at a location. -/
def readSource (d : Disk) (location : Path) : Except (Failure FrontendError) String :=
  match d.read location with
  | .error .nullByte => .error (.crash (.disk .nullByte))
  | .error (.system e _) => .error ((SourceFault.unreadable e).within location)
  | .ok bytes =>
    match Text.Utf8.decode bytes with
    | .error e => .error ((SourceFault.undecodable e.fault).within location)
    | .ok text => .ok (String.ofList (unifyLines text.toList))

/-- The tree of a text, or what is wrong with it. -/
def parseSource (text : String) : Except SourceFault Syntax.Module :=
  if text.toList.contains (Char.ofNat 0) then .error .nullByte
  else (Syntax.parse text).mapError .syntaxError

/-- Whether a reference from a directory names an existing file. -/
def isModule (d : Disk) (suffixes : List String) (directory : Path) (reference : String) :
    Except PathError Bool := do
  return (← candidates d.current directory reference suffixes).any d.isFile

/-- The crash of a module whose imports cannot be scoped. -/
def Import.ScopingError.crash : Import.ScopingError PathError → Crash
  | .keyword e => .statement e
  | .probe e => .path e

/-- The code of a tree: its text, and the statement that publishes the names of the module. -/
def moduleCode (body : String) : String :=
  if body = "" then Import.publicationText else body ++ "\n" ++ Import.publicationText

/-- Compiles the module at a location. -/
def compile (d : Disk) (suffixes : List String) : Frontend := fun location => do
  let text ← readSource d location
  let tree ← (parseSource text).mapError (·.within location)
  let result ← Failure.crashOn Import.ScopingError.crash
    (Import.scopeImports (isModule d suffixes location.parent) tree)
  let body ← Failure.crashOn .print (Syntax.Module.print result.value)
  return ⟨result.references, moduleCode body⟩

end Bundler
