import Bundler.Number.Binary64

/-!
# Data values

The values that JSON and configuration files hold. Members of an object keep the order in which
they were written. Integers are unbounded, and a number with a point or an exponent is a float.
-/

set_option autoImplicit false

namespace Bundler

/-- A data value. -/
inductive Json where
  /-- The absent value. -/
  | null
  /-- A truth value. -/
  | bool (b : Bool)
  /-- An integer. -/
  | int (n : Int)
  /-- A float, by sign and magnitude. -/
  | float (negative : Bool) (magnitude : Number.Binary64)
  /-- The float that is no number. -/
  | nan
  /-- A date, a time or both. -/
  | moment (text : String)
  /-- A text. -/
  | string (s : String)
  /-- A sequence of values. -/
  | array (items : List Json)
  /-- Named values in the order of their keys' first occurrences. -/
  | object (members : List (String × Json))

namespace Json

/-- The member of an object under a key. -/
def get? (j : Json) (key : String) : Option Json :=
  match j with
  | .object members => members.lookup key
  | _ => none

/-- The text of a string value. -/
def asString? : Json → Option String
  | .string s => some s
  | _ => none

/-- The items of an array. -/
def asArray? : Json → Option (List Json)
  | .array items => some items
  | _ => none

end Json

end Bundler
