import Bundler.Json.Basic
import Bundler.Number.Shortest
import Bundler.Number.Word
import Bundler.Text.CodePoints

/-!
# Writing data values

Values are written in UTF-8 with the least escaping: the quote, the backslash and the controls below
the space. A compact text has no blanks. An indented text gives each item its own line, two blanks
deeper than its container, and writes an empty container on one line. Integers outside the 64-bit
ranges, signed or unsigned, have no written form.
-/

set_option autoImplicit false

namespace Bundler.Json

/-- Why a value cannot be written. -/
inductive WriteError where
  /-- An integer fits neither a signed nor an unsigned word of 64 bits. -/
  | integerRange
deriving DecidableEq, Repr

/-- The description of a writing failure. -/
def WriteError.message : WriteError → String
  | .integerRange => "Integer exceeds 64-bit range"

/-- How one character of a text is written. -/
def escapedChar (c : Char) : String :=
  if c = '"' then "\\\""
  else if c = '\\' then "\\\\"
  else if c = '\n' then "\\n"
  else if c = '\r' then "\\r"
  else if c = '\t' then "\\t"
  else if c.toNat = 8 then "\\b"
  else if c.toNat = 12 then "\\f"
  else if c.toNat < 0x20 then "\\u" ++ Text.hexPadded 4 c.toNat
  else c.toString

/-- The written form of a text. -/
def escaped (s : String) : String :=
  "\"" ++ String.join (s.toList.map escapedChar) ++ "\""

/-- The written form of an integer. -/
def integerText (n : Int) : Except WriteError String :=
  if Number.fitsSomeWord n then .ok (toString n) else .error .integerRange

/-- The blanks that begin a line at a given depth. -/
def indentation (depth : Nat) : String :=
  String.ofList (List.replicate (2 * depth) ' ')

/-- Writes a container: its items between two brackets, on lines of their own if `indented`. -/
def enclose (indented : Bool) (depth : Nat) (opening closing : String) (items : List String) :
    String :=
  match items with
  | [] => opening ++ closing
  | _ =>
    if indented then
      opening ++ "\n" ++ indentation (depth + 1) ++
        (",\n" ++ indentation (depth + 1)).intercalate items ++
        "\n" ++ indentation depth ++ closing
    else opening ++ ",".intercalate items ++ closing

/-- How the members of an object and the items of a container are laid out. -/
structure Layout where
  /-- Whether every item has its own line. -/
  indented : Bool := false
  /-- Whether members are sorted by key. -/
  sorted : Bool := false

/-- Orders written members by key. -/
def Layout.arrange (layout : Layout) (members : List (String × String)) : List (String × String) :=
  if layout.sorted then members.mergeSort (fun a b => a.1 ≤ b.1) else members

mutual

/-- The text of a value at a given depth. -/
def textAt (layout : Layout) (depth : Nat) : Json → Except WriteError String
  | .null => .ok "null"
  | .bool b => .ok (if b then "true" else "false")
  | .int n => integerText n
  | .float negative magnitude => .ok ((if negative then "-" else "") ++ magnitude.notate true)
  | .nan => .ok "null"
  | .moment text => .ok (escaped text)
  | .string s => .ok (escaped s)
  | .array items => do
    return enclose layout.indented depth "[" "]" (← itemTexts layout (depth + 1) items)
  | .object members => do
    let written := layout.arrange (← memberTexts layout (depth + 1) members)
    let colon := if layout.indented then ": " else ":"
    return enclose layout.indented depth "\x7b" "\x7d"
      (written.map fun (key, text) => escaped key ++ colon ++ text)

/-- The texts of the items of an array. -/
def itemTexts (layout : Layout) (depth : Nat) : List Json → Except WriteError (List String)
  | [] => .ok []
  | item :: rest => do
    let text ← textAt layout depth item
    return text :: (← itemTexts layout depth rest)

/-- The keys of the members of an object, each with the text of its value. -/
def memberTexts (layout : Layout) (depth : Nat) :
    List (String × Json) → Except WriteError (List (String × String))
  | [] => .ok []
  | (key, value) :: rest => do
    let text ← textAt layout depth value
    return (key, text) :: (← memberTexts layout depth rest)

end

/-- The text of a value in a layout. -/
def write (layout : Layout) (value : Json) : Except WriteError String :=
  textAt layout 0 value

/-- The layout without blanks that keeps the order of members. -/
def Layout.compact : Layout := {}

/-- The layout of a line: without blanks, members sorted by key. -/
def Layout.line : Layout := { sorted := true }

/-- The layout of a document: indented, members sorted by key. -/
def Layout.document : Layout := { indented := true, sorted := true }

end Bundler.Json
