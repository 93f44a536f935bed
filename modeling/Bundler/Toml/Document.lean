import Bundler.Toml.Value

/-!
# Documents

A document is a list of statements, one a line: pairs of a key and a value, headers of tables and
headers of items of arrays of tables. A pair belongs to the table of the last header.

A table that a header has declared, or that a dotted key has led through in an earlier section,
cannot be declared again; an item of an array of tables starts afresh.
-/

set_option autoImplicit false

namespace Bundler.Toml

/-- What has been read of a document. -/
structure DocumentState where
  /-- The members of the document. -/
  members : Members := []
  /-- The keys of the tables that cannot be declared again. -/
  declared : List Key := []
  /-- The keys of the values with parts. -/
  frozen : List Key := []
  /-- The keys that the pairs of this section lead through. -/
  passed : List Key := []
  /-- The key of the last header. -/
  header : Key := []

namespace DocumentState

/-- Whether a key lies at or below a value with parts. -/
def isFrozen (s : DocumentState) (key : Key) : Bool :=
  key != [] && s.frozen.any (·.isPrefixOf key)

/-- Whether a table has been declared. -/
def isDeclared (s : DocumentState) (key : Key) : Bool :=
  key != [] && s.declared.contains key

/-- Starts a new section: the keys that the last one led through count as declared. -/
def newSection (s : DocumentState) : DocumentState :=
  { s with declared := s.passed ++ s.declared, passed := [] }

/-- Forgets everything about a key and the keys below it. -/
def forget (s : DocumentState) (key : Key) : DocumentState :=
  { s with
    declared := s.declared.filter (!key.isPrefixOf ·)
    frozen := s.frozen.filter (!key.isPrefixOf ·) }

end DocumentState

/-- A step through a document. -/
abbrev Statement := DocumentState → List Char → Except ReadError (DocumentState × List Char)

/-- Reads the header of a table after its bracket. -/
def readHeader : Statement := fun s cs => do
  let (key, rest) ← readKey (skipBlanks cs)
  if s.isDeclared key || s.isFrozen key then fail (.declaredTwice key) rest
  else
    match changeTable? true some key s.members with
    | none => fail .overwritten rest
    | some members =>
      match rest with
      | ']' :: rest => return ({ s with members, declared := key :: s.declared, header := key }, rest)
      | rest => fail .unclosedHeader rest

/-- Adds an empty table to the array of tables under a name. -/
def addTable (name : String) (members : Members) : Option Members :=
  match members.lookup name with
  | none => some (members ++ [(name, .array [.object []])])
  | some (.array items) => some (setEntry members name (.array (items ++ [.object []])))
  | some _ => none

/-- Reads the header of an item of an array of tables after its two brackets. -/
def readArrayHeader : Statement := fun s cs => do
  let (key, rest) ← readKey (skipBlanks cs)
  if s.isFrozen key then fail (.immutable key) rest
  else
    let s := s.forget key
    match changeTable? true (addTable (key.getLastD "")) key.dropLast s.members with
    | none => fail .overwritten rest
    | some members =>
      match rest with
      | ']' :: ']' :: rest =>
        return ({ s with members, declared := key :: s.declared, header := key }, rest)
      | rest => fail .unclosedArrayHeader rest

/-- The keys that a key leads through, below a header. -/
def keysWithin (header key : Key) : List Key :=
  (List.range (key.length - 1)).map fun i => header ++ key.take (i + 1)

/-- Reads a pair into the table of the last header. -/
def readMember (calls : Nat) : Statement := fun s cs => do
  let ((key, value), rest) ← readPair calls cs
  let within := keysWithin s.header key
  match within.find? s.isDeclared with
  | some key => fail (.redefined key) rest
  | none =>
    let full := s.header ++ key
    if s.isFrozen full.dropLast then fail (.immutable full.dropLast) rest
    else
      match place? true full value s.members with
      | .blocked | .taken => fail .overwritten rest
      | .placed members =>
        let frozen := if hasParts value then full :: s.frozen else s.frozen
        return ({ s with members, frozen, passed := within ++ s.passed }, rest)

/-- Reads a statement, if there is one. -/
def readStatement (calls : Nat) : Statement := fun s cs =>
  match cs with
  | '[' :: '[' :: rest => readArrayHeader s.newSection rest
  | '[' :: rest => readHeader s.newSection rest
  | '#' :: _ => return (s, cs)
  | c :: _ =>
    if isBareKeyChar c || c == '"' || c == '\'' then readMember calls s cs
    else fail .invalidStatement cs
  | [] => return (s, cs)

/-- Reads the lines of a document, at most so many. -/
def readLines (calls : Nat) : (lines : Nat) → DocumentState → List Char → Except ReadError Members
  | 0, s, _ => return s.members
  | lines + 1, s, cs =>
    match skipBlanks cs with
    | [] => return s.members
    | '\n' :: rest => readLines calls lines s rest
    | cs => do
      let (s, rest) ← readStatement calls s cs
      match ← skipComment (skipBlanks rest) with
      | [] => return s.members
      | '\n' :: rest => readLines calls lines s rest
      | rest => fail .missingLineEnd rest

/-- A text in which a carriage return before a line feed is dropped. -/
def dropCarriageReturns : List Char → List Char
  | '\r' :: '\n' :: cs => '\n' :: dropCarriageReturns cs
  | c :: cs => c :: dropCarriageReturns cs
  | [] => []

/-- Why a text is no document. -/
inductive Error where
  /-- A fault at a place. -/
  | fault (fault : Fault) (place : String)
  /-- A decimal integer has too many digits. -/
  | integerDigits (digits : Nat)
  /-- Values are nested too deeply. -/
  | nesting
deriving DecidableEq, Repr

/-- The members of the document that a text denotes, read with at most so many calls nested in each
other. -/
def read (calls : Nat) (text : String) : Except Error Members :=
  let cs := dropCarriageReturns text.toList
  (readLines calls (cs.length + 1) {} cs).mapError fun
    | .fault fault left => .fault fault (place cs left)
    | .integerDigits digits => .integerDigits digits
    | .nesting => .nesting

end Bundler.Toml
