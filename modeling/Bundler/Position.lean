import Bundler.Number.Word

/-!
# Positions in a sequence

A position counts from the beginning of a sequence, a negative one from its end.
-/

set_option autoImplicit false

namespace Bundler

/-- Why there is no item at a position. -/
inductive PositionError where
  /-- The position is outside the sequence. -/
  | outside
  /-- The position does not fit a machine word. -/
  | tooLarge
deriving DecidableEq, Repr

/-- The description of a position without item. -/
def PositionError.message (sequence : String) : PositionError → String
  | .outside => sequence ++ " index out of range"
  | .tooLarge => "cannot fit 'int' into an index-sized integer"

/-- The item of a list at a position. -/
def itemAt {α : Type} (items : List α) (position : Int) : Except PositionError α :=
  if !Number.fitsSignedWord position then .error .tooLarge
  else
    let p := if position < 0 then position + items.length else position
    if p < 0 then .error .outside
    else
      match items[p.toNat]? with
      | some item => .ok item
      | none => .error .outside

end Bundler
