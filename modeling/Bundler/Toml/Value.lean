import Bundler.Entries
import Bundler.Toml.Scalar

/-!
# Keys and values

A dotted key leads through nested tables. In a document it also leads through the last item of an
array of tables. A table or an array that is written as a value cannot be added to later.

A value is read by a call, which reads the values in it by calls inside. Only so many calls may be
nested: a value takes one of them, and what is inside an array takes one more, inside an inline table
two more. The calls that read a comment or a scalar find room in any case.
-/

set_option autoImplicit false

namespace Bundler.Toml

/-- The members of a table. -/
abbrev Members := List (String × Json)

/-- Whether a character may stand in a key without quotes. -/
def isBareKeyChar (c : Char) : Bool := c.isAlphanum || c == '-' || c == '_'

/-- Reads a part of a key. -/
def readKeyPart : Reader String := fun cs =>
  let bare := cs.takeWhile isBareKeyChar
  if !bare.isEmpty then return (String.ofList bare, cs.drop bare.length)
  else
    match cs with
    | '\'' :: rest => readLiteral ['\''] isIllegal rest
    | '"' :: rest => readBasic false rest
    | _ => fail .invalidKey cs

/-- Reads a key of at most so many parts, and the blanks after it. -/
def readKeyParts : (parts : Nat) → Reader Key
  | 0, cs => fail .invalidKey cs
  | parts + 1, cs => do
    let (part, rest) ← readKeyPart cs
    match skipBlanks rest with
    | '.' :: rest =>
      let (key, rest) ← readKeyParts parts (skipBlanks rest)
      return (part :: key, rest)
    | rest => return ([part], rest)

/-- Reads a key, and the blanks after it. -/
def readKey : Reader Key := fun cs => readKeyParts (cs.length + 1) cs

/-- Changes the members of the table that a key leads to. Tables that are missing are made; with
`throughArrays`, an array leads to its last item. Anything else is in the way. -/
def changeTable? (throughArrays : Bool) (change : Members → Option Members) :
    Key → Members → Option Members
  | [], members => change members
  | part :: key, members => do
    let inner := fun table => changeTable? throughArrays change key table
    match members.lookup part with
    | none => return setEntry members part (.object (← inner []))
    | some (.object table) => return setEntry members part (.object (← inner table))
    | some (.array items) =>
      match throughArrays, items.getLast? with
      | true, some (.object table) =>
        return setEntry members part (.array (items.dropLast ++ [.object (← inner table)]))
      | _, _ => none
    | some _ => none

/-- Whether a value has parts. -/
def hasParts : Json → Bool
  | .array _ | .object _ => true
  | _ => false

/-- The outcome of setting a member of the table that a key leads to. -/
inductive Placement where
  /-- The member has been set. -/
  | placed (members : Members)
  /-- Something is in the way. -/
  | blocked
  /-- There is a member of that name. -/
  | taken

/-- Sets a new member under a key. -/
def place? (throughArrays : Bool) (key : Key) (value : Json) (members : Members) : Placement :=
  let name := key.getLastD ""
  match changeTable? throughArrays some key.dropLast members with
  | none => .blocked
  | some _ =>
    let add := fun (table : Members) =>
      if (table.lookup name).isSome then none else some (table ++ [(name, value)])
    match changeTable? throughArrays add key.dropLast members with
    | some members => .placed members
    | none => .taken

mutual

/-- Reads a value, for which so many calls are left. -/
def readValue (calls : Nat) : (fuel : Nat) → Reader Json
  | 0, cs => fail .invalidValue cs
  | fuel + 1, cs =>
    if calls = 0 then .error .nesting
    else
      match readText? cs with
      | some result => result.map fun (text, rest) => (.string text, rest)
      | none =>
        match cs with
        | 't' :: 'r' :: 'u' :: 'e' :: rest => return (.bool true, rest)
        | 'f' :: 'a' :: 'l' :: 's' :: 'e' :: rest => return (.bool false, rest)
        | '[' :: rest => do
          match ← skipGaps rest.length rest with
          | ']' :: rest => return (.array [], rest)
          | rest =>
            let (items, rest) ← readItems (calls - 2) fuel rest
            return (.array items, rest)
        | '{' :: rest =>
          match skipBlanks rest with
          | '}' :: rest => return (.object [], rest)
          | rest => do
            let (members, rest) ← readPairs (calls - 3) [] [] fuel rest
            return (.object members, rest)
        | _ =>
          match readMoment? cs with
          | some result => result
          | none =>
            match readNumber? cs with
            | some result => result
            | none =>
              match readSpecial? cs with
              | some result => return result
              | none => fail .invalidValue cs

/-- Reads the items of an array up to its closing bracket. So many calls are left for each. -/
def readItems (calls : Nat) : (fuel : Nat) → Reader (List Json)
  | 0, cs => fail .unclosedArray cs
  | fuel + 1, cs => do
    let (item, rest) ← readValue calls fuel cs
    match ← skipGaps rest.length rest with
    | ']' :: rest => return ([item], rest)
    | ',' :: rest =>
      match ← skipGaps rest.length rest with
      | ']' :: rest => return ([item], rest)
      | rest =>
        let (items, rest) ← readItems calls fuel rest
        return (item :: items, rest)
    | rest => fail .unclosedArray rest

/-- Reads the pairs of an inline table up to its closing brace, onto the members read so far. So many
calls are left for each value. The keys in `frozen` lead to values with parts. -/
def readPairs (calls : Nat) (frozen : List Key) (members : Members) : (fuel : Nat) → Reader Members
  | 0, cs => fail .unclosedInlineTable cs
  | fuel + 1, cs => do
    let (key, rest) ← readKey cs
    let (value, rest) ← match rest with
      | '=' :: rest => readValue calls fuel (skipBlanks rest)
      | rest => fail .missingEquals rest
    if frozen.any (·.isPrefixOf key) then fail (.immutable key) rest
    else
      match place? false key value members with
      | .blocked => fail .overwritten rest
      | .taken => fail (.duplicateKey (key.getLastD "")) rest
      | .placed members =>
        match skipBlanks rest with
        | '}' :: rest => return (members, rest)
        | ',' :: rest =>
          readPairs calls (if hasParts value then key :: frozen else frozen) members fuel
            (skipBlanks rest)
        | rest => fail .unclosedInlineTable rest

end

/-- Reads a key, an equals sign and a value, for which so many calls are left. -/
def readPair (calls : Nat) : Reader (Key × Json) := fun cs => do
  let (key, rest) ← readKey cs
  match rest with
  | '=' :: rest =>
    let (value, rest) ← readValue calls (2 * rest.length + 2) (skipBlanks rest)
    return ((key, value), rest)
  | rest => fail .missingEquals rest

end Bundler.Toml
