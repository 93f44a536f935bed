import Bundler.Disk.Real
import Bundler.Json.Writer
import Bundler.Position
import Bundler.Syntax.Fault
import Bundler.Syntax.Printer.Literal
import Bundler.Validation

/-!
# Crashes

Some inputs make an operation fail in a way that it does not announce. Such a crash passes through
every caller unchanged. A failure is an announced error or a crash.
-/

set_option autoImplicit false

namespace Bundler

/-- An unannounced failure. -/
inductive Crash where
  /-- No path can be formed. -/
  | path (e : PathError)
  /-- The system refuses an operation. -/
  | disk (e : DiskError)
  /-- A path has no real path. -/
  | realPath (e : RealPathError)
  /-- A home directory is unknown. -/
  | home (e : HomeError)
  /-- A file is no text. -/
  | undecodable (e : Text.Utf8.DecodeError)
  /-- A statement made for an import is no statement. -/
  | statement (e : Syntax.SyntaxError)
  /-- A tree cannot be printed. -/
  | print (e : Syntax.PrintError)
  /-- A value cannot be written. -/
  | json (e : Json.WriteError)
  /-- A value is refused. -/
  | invalid (e : Invalid)
  /-- A graph was to have no records. -/
  | emptyGraph
  /-- A record does not stand at the position that is its identity. -/
  | misplaced (position : Nat) (identity : Int)
  /-- No record stands at a position. -/
  | absent (e : PositionError)
  /-- A builder was asked for a second graph. -/
  | builderReused
  /-- The digits of an integer in a configuration file are too many. -/
  | integerDigits (digits : Nat)
  /-- The values in a configuration file are nested too deeply. -/
  | nesting
deriving Repr

/-- The description of a crash. -/
def Crash.message : Crash → String
  | .path e => e.message
  | .disk e => e.message
  | .realPath e => e.message
  | .home e => e.message
  | .undecodable e => e.message
  | .statement e => e.fault.message ++ " (<unknown>, line " ++ toString e.line ++ ")"
  | .print e => e.message
  | .json e => e.message
  | .invalid e => e.message
  | .emptyGraph => "a module graph needs at least the entry module"
  | .misplaced position identity =>
    "module identities must be contiguous from 0: position " ++ toString position ++
      " holds identity " ++ toString identity
  | .absent e => e.message "list"
  | .builderReused => "a GraphBuilder builds exactly one graph"
  | .integerDigits digits =>
    "Exceeds the limit (" ++ toString Syntax.maxIntegerDigits ++
      " digits) for integer string conversion: value has " ++ toString digits ++
      " digits; use sys.set_int_max_str_digits() to increase the limit"
  | .nesting => "maximum recursion depth exceeded"

/-- An announced error or a crash. -/
inductive Failure (ε : Type) where
  /-- An announced error. -/
  | refused (e : ε)
  /-- A crash. -/
  | crash (c : Crash)

namespace Failure

variable {ε δ α : Type}

/-- A failure with its announced error seen as another one. -/
def map (f : ε → δ) : Failure ε → Failure δ
  | .refused e => .refused (f e)
  | .crash c => .crash c

/-- An outcome of which every failure is a crash. -/
def crashOn (cause : δ → Crash) (x : Except δ α) : Except (Failure ε) α :=
  x.mapError fun e => .crash (cause e)

end Failure

end Bundler
