import Bundler.Json.Basic
import Bundler.Number.Word
import Bundler.Text.Blank

/-!
# Validation

Data from outside is checked member by member. A value of another kind is accepted if it denotes a
value of the wanted kind without loss: a numeral or a whole float for an integer, `"yes"` or `1` for
a truth value. All that is wrong is reported together, in the order in which the members are
declared.
-/

set_option autoImplicit false

namespace Bundler

/-- A step from a value to one of its parts. -/
inductive Step where
  /-- To a member of an object. -/
  | key (name : String)
  /-- To an item of an array. -/
  | index (n : Nat)
deriving DecidableEq, Repr

/-- What is wrong with a value. -/
inductive Problem where
  | missing
  | extra
  | notString
  | notInteger
  | unreadableInteger
  | hugeInteger
  | fraction
  | notFinite
  | below (least : Int)
  | notBoolean
  | unreadableBoolean
  | notList
  | notTuple
  | notDictionary
  | notAmong (choices : List String)
  | notModel (name : String)
  /-- A rule of the domain is broken. -/
  | rule (message : String)
deriving DecidableEq, Repr

namespace Problem

/-- The name of a kind of problem. -/
def kind : Problem → String
  | .missing => "missing"
  | .extra => "extra_forbidden"
  | .notString => "string_type"
  | .notInteger => "int_type"
  | .unreadableInteger => "int_parsing"
  | .hugeInteger => "int_parsing_size"
  | .fraction => "int_from_float"
  | .notFinite => "finite_number"
  | .below _ => "greater_than_equal"
  | .notBoolean => "bool_type"
  | .unreadableBoolean => "bool_parsing"
  | .notList => "list_type"
  | .notTuple => "tuple_type"
  | .notDictionary => "dict_type"
  | .notAmong _ => "literal_error"
  | .notModel _ => "model_type"
  | .rule _ => "value_error"

/-- Choices in quotes, the last one after `or`. -/
def alternatives (choices : List String) : String :=
  let quoted := choices.map fun c => "'" ++ c ++ "'"
  match quoted.getLast? with
  | none => ""
  | some last =>
    if quoted.length = 1 then last else ", ".intercalate quoted.dropLast ++ " or " ++ last

/-- The description of a problem. -/
def message : Problem → String
  | .missing => "Field required"
  | .extra => "Extra inputs are not permitted"
  | .notString => "Input should be a valid string"
  | .notInteger => "Input should be a valid integer"
  | .unreadableInteger =>
    "Input should be a valid integer, unable to parse string as an integer"
  | .hugeInteger => "Unable to parse input string as an integer, exceeded maximum size"
  | .fraction => "Input should be a valid integer, got a number with a fractional part"
  | .notFinite => "Input should be a finite number"
  | .below least => "Input should be greater than or equal to " ++ toString least
  | .notBoolean => "Input should be a valid boolean"
  | .unreadableBoolean => "Input should be a valid boolean, unable to interpret input"
  | .notList => "Input should be a valid list"
  | .notTuple => "Input should be a valid tuple"
  | .notDictionary => "Input should be a valid dictionary"
  | .notAmong choices => "Input should be " ++ alternatives choices
  | .notModel name => "Input should be a valid dictionary or instance of " ++ name
  | .rule message => "Value error, " ++ message

end Problem

/-- A problem and where it is. -/
structure Issue where
  /-- The steps to the value. -/
  steps : List Step
  /-- What is wrong with it. -/
  problem : Problem
deriving DecidableEq, Repr

/-- A value that was refused. -/
structure Invalid where
  /-- The name of what it should be. -/
  model : String
  /-- What is wrong with it. -/
  issues : List Issue
deriving DecidableEq, Repr

/-- The first line of the report on a refused value. -/
def Invalid.message (e : Invalid) : String :=
  toString e.issues.length ++ " validation error" ++ (if e.issues.length = 1 then "" else "s") ++
    " for " ++ e.model

/-- The outcome of a check. -/
abbrev Checked (α : Type) := Except (List Issue) α

namespace Checked

variable {α β : Type}

/-- A problem with the value itself. -/
def refuse (p : Problem) : Checked α := .error [⟨[], p⟩]

/-- The outcome of a check of a part. -/
def within (step : Step) (c : Checked α) : Checked α :=
  c.mapError (List.map fun issue => { issue with steps := step :: issue.steps })

/-- The issues of an outcome. -/
def issues : Checked α → List Issue
  | .ok _ => []
  | .error issues => issues

/-- Checks all items of a list and collects what is wrong with any of them. -/
def all (check : α → Nat → Checked β) (start : Nat) : List α → Checked (List β)
  | [] => .ok []
  | x :: xs =>
    match check x start, all check (start + 1) xs with
    | .ok y, .ok ys => .ok (y :: ys)
    | first, rest => .error (first.issues ++ rest.issues)

end Checked

namespace Validation

/-- The value of a run of decimal digits, if there is one. -/
def digits? (cs : List Char) : Option Nat :=
  if cs.isEmpty || !cs.all Char.isDigit then none
  else some (cs.foldl (fun n c => 10 * n + (c.toNat - '0'.toNat)) 0)

/-- The value of a plain numeral: an optional minus and digits without needless zeros. -/
def plainInteger? (cs : List Char) : Option Int :=
  let (negative, digits) := match cs with
    | '-' :: rest => (true, rest)
    | _ => (false, cs)
  match digits with
  | '0' :: _ :: _ => none
  | _ => (digits? digits).map fun n => if negative then -(n : Int) else n

/-- Drops needless zeros, along with underscores between them, after a first zero `last`. -/
def dropZeros? (last : Char) : List Char → Option (List Char)
  | [] => some [last]
  | c :: cs =>
    if c = '0' ∨ c = '_' then dropZeros? c cs
    else if '1' ≤ c ∧ c ≤ '9' then some (c :: cs)
    else if c = '.' then some (last :: c :: cs)
    else none

/-- Drops needless zeros at the beginning of a numeral. -/
def dropLeadingZeros? : List Char → Option (List Char)
  | '0' :: cs => dropZeros? '0' cs
  | c :: cs => if ('1' ≤ c ∧ c ≤ '9') ∨ c = '-' then some (c :: cs) else none
  | [] => none

/-- Drops a fraction of zeros; any other fraction is refused. -/
def dropZeroFraction? (cs : List Char) : Option (List Char) :=
  let whole := cs.takeWhile (· != '.')
  match cs.dropWhile (· != '.') with
  | [] => some whole
  | _ :: fraction => if fraction.all (· == '0') then some whole else none

/-- Whether two underscores stand side by side. -/
def hasDoubleUnderscore : List Char → Bool
  | '_' :: '_' :: _ => true
  | _ :: cs => hasDoubleUnderscore cs
  | [] => false

/-- Drops underscores between digits. -/
def dropUnderscores (cs : List Char) : List Char :=
  if cs.head? = some '_' ∨ cs.getLast? = some '_' ∨ hasDoubleUnderscore cs then cs
  else cs.filter (· != '_')

/-- A numeral without blanks around it, its plus, needless zeros and underscores. -/
def plainForm? (cs : List Char) : Option (List Char) :=
  let cs := Text.trimBlanks cs
  let unsigned? := match cs with
    | '+' :: '-' :: _ => none
    | '+' :: rest => some rest
    | _ => some cs
  (unsigned?.bind dropLeadingZeros?).bind fun cs => (dropZeroFraction? cs).map dropUnderscores

/-- The most characters that a numeral may have. -/
def maxNumeralLength : Nat := 4300

/-- The integer that a text denotes. -/
def integerOfText (s : String) : Checked Int :=
  let read? := fun (cs : List Char) => (plainInteger? cs).map (·, cs.length)
  let found? := match read? s.toList with
    | some r => some r
    | none => (plainForm? s.toList).bind read?
  match found? with
  | none => .refuse .unreadableInteger
  | some (n, length) => if maxNumeralLength < length then .refuse .hugeInteger else .ok n

/-- The integer that a float is equal to. -/
def integerOfFloat (negative : Bool) : Number.Binary64 → Checked Int
  | .infinite => .refuse .notFinite
  | .finite m e =>
    match (Number.Binary64.finite m e).toNat? with
    | none => .refuse .fraction
    | some n =>
      if n < Number.signedWordLimit then .ok (if negative then -(n : Int) else n) else .refuse .hugeInteger

/-- The integer that a value denotes. -/
def integer : Json → Checked Int
  | .int n => .ok n
  | .bool b => .ok (if b then 1 else 0)
  | .float negative x => integerOfFloat negative x
  | .nan => .refuse .notFinite
  | .string s => integerOfText s
  | _ => .refuse .notInteger

/-- The integer from a least one on that a value denotes. -/
def integerFrom (least : Int) (j : Json) : Checked Int := do
  let n ← integer j
  if n < least then .refuse (.below least) else .ok n

/-- The texts that denote a truth value. -/
def booleanTexts : List (String × Bool) :=
  [("0", false), ("off", false), ("f", false), ("false", false), ("n", false), ("no", false),
    ("1", true), ("on", true), ("t", true), ("true", true), ("y", true), ("yes", true)]

/-- The truth value of zero or one. -/
def booleanOfInteger (n : Int) : Checked Bool :=
  if n = 0 then .ok false else if n = 1 then .ok true else .refuse .unreadableBoolean

/-- The truth value that a value denotes. -/
def boolean : Json → Checked Bool
  | .bool b => .ok b
  | .string s =>
    match booleanTexts.lookup (s.map Char.toLower) with
    | some b => .ok b
    | none => .refuse .unreadableBoolean
  | .int n =>
    if Number.fitsSignedWord n then booleanOfInteger n else .refuse .notBoolean
  | .float negative x =>
    match integerOfFloat negative x with
    | .ok n => booleanOfInteger n
    | .error _ => .refuse .notBoolean
  | _ => .refuse .notBoolean

/-- The text that a value is. -/
def string : Json → Checked String
  | .string s => .ok s
  | _ => .refuse .notString

/-- The text that a value is, if it is not the absent one. -/
def optionalString : Json → Checked (Option String)
  | .null => .ok none
  | .string s => .ok (some s)
  | _ => .refuse .notString

/-- The texts in an array; anything else has the given problem. -/
def strings (otherwise : Problem) : Json → Checked (List String)
  | .array items => Checked.all (fun j i => (string j).within (.index i)) 0 items
  | _ => .refuse otherwise

/-- The integers under the keys of an object. -/
def integers : Json → Checked (List (String × Int))
  | .object members =>
    Checked.all (fun (key, j) _ => Checked.within (.key key) ((integer j).map (key, ·))) 0 members
  | _ => .refuse .notDictionary

/-- One of several texts. -/
def among {α : Type} (choices : List (String × α)) : Json → Checked α
  | .string s =>
    match choices.lookup s with
    | some a => .ok a
    | none => .refuse (.notAmong (choices.map Prod.fst))
  | _ => .refuse (.notAmong (choices.map Prod.fst))

/-- A member that has to be there. -/
def required {α : Type} (members : List (String × Json)) (key : String)
    (check : Json → Checked α) : Checked α :=
  Checked.within (.key key) (match members.lookup key with
    | some j => check j
    | none => .refuse .missing)

/-- A member with a default. -/
def optional {α : Type} (members : List (String × Json)) (key : String)
    (check : Json → Checked α) (default : α) : Checked α :=
  match members.lookup key with
  | some j => (check j).within (.key key)
  | none => .ok default

/-- The members that are not among the known ones. -/
def unknownMembers (members : List (String × Json)) (known : List String) : List Issue :=
  (members.filter fun (key, _) => !known.contains key).map fun (key, _) => ⟨[.key key], .extra⟩

end Validation

end Bundler
