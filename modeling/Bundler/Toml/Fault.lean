import Bundler.Text.Quoted

/-!
# Faults of a TOML document

Why a text is no TOML document. Readers work on the rest of the text, so a fault is located by the
number of characters that are left where it is noticed. The place is given as a line and a column,
or as the end of the document.
-/

set_option autoImplicit false

namespace Bundler.Toml

/-- A dotted key. -/
abbrev Key := List String

/-- The text of a key in messages: a tuple of its parts. -/
def Key.text (key : Key) : String :=
  match key with
  | [part] => "(" ++ Text.quoted part ++ ",)"
  | parts => "(" ++ ", ".intercalate (parts.map Text.quoted) ++ ")"

/-- Why a text is no TOML document. -/
inductive Fault where
  | invalidStatement
  | missingLineEnd
  | expected (text : String)
  | invalidCharacter (c : Char)
  | declaredTwice (key : Key)
  | overwritten
  | unclosedHeader
  | unclosedArrayHeader
  | immutable (key : Key)
  | redefined (key : Key)
  | missingEquals
  | invalidKey
  | unclosedArray
  | unclosedInlineTable
  | duplicateKey (part : String)
  | strayBackslash
  | invalidHex
  | notScalar
  | unterminated
  | illegalCharacter (c : Char)
  | invalidMoment
  | invalidValue
deriving DecidableEq, Repr

/-- The description of a fault. -/
def Fault.message : Fault → String
  | .invalidStatement => "Invalid statement"
  | .missingLineEnd => "Expected newline or end of document after a statement"
  | .expected text => "Expected " ++ Text.quoted text
  | .invalidCharacter c => "Found invalid character " ++ Text.quoted c.toString
  | .declaredTwice key => "Cannot declare " ++ key.text ++ " twice"
  | .overwritten => "Cannot overwrite a value"
  | .unclosedHeader => "Expected ']' at the end of a table declaration"
  | .unclosedArrayHeader => "Expected ']]' at the end of an array declaration"
  | .immutable key => "Cannot mutate immutable namespace " ++ key.text
  | .redefined key => "Cannot redefine namespace " ++ key.text
  | .missingEquals => "Expected '=' after a key in a key/value pair"
  | .invalidKey => "Invalid initial character for a key part"
  | .unclosedArray => "Unclosed array"
  | .unclosedInlineTable => "Unclosed inline table"
  | .duplicateKey part => "Duplicate inline table key " ++ Text.quoted part
  | .strayBackslash => "Unescaped '\\' in a string"
  | .invalidHex => "Invalid hex value"
  | .notScalar => "Escaped character is not a Unicode scalar value"
  | .unterminated => "Unterminated string"
  | .illegalCharacter c => "Illegal character " ++ Text.quoted c.toString
  | .invalidMoment => "Invalid date or datetime"
  | .invalidValue => "Invalid value"

/-- Why reading ended early. -/
inductive ReadError where
  /-- A fault, noticed where that many characters are left. -/
  | fault (fault : Fault) (left : Nat)
  /-- A decimal integer has too many digits. -/
  | integerDigits (digits : Nat)
  /-- Values are nested too deeply. -/
  | nesting
deriving DecidableEq, Repr

/-- A reader returns a value and the rest of the text. -/
abbrev Reader (α : Type) := List Char → Except ReadError (α × List Char)

/-- Reports a fault in front of the rest of the text. -/
def fail {α : Type} (fault : Fault) (rest : List Char) : Except ReadError α :=
  .error (.fault fault rest.length)

/-- The place in a text where that many characters are left. -/
def place (text : List Char) (left : Nat) : String :=
  if left = 0 then "end of document"
  else
    let before := text.take (text.length - left)
    let line := before.count '\n' + 1
    let column := (before.reverse.takeWhile (· != '\n')).length + 1
    "line " ++ toString line ++ ", column " ++ toString column

end Bundler.Toml
