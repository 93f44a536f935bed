import Bundler.Number.Shortest
import Bundler.Syntax.Fault
import Bundler.Syntax.Tree
import Bundler.Text.Quoted

/-!
# Printing literals

Texts are printed in their quoted form, except docstrings and texts within formatted literals. Those
are printed with as few backslashes as a choice of quotes allows: a quote is possible if it does not
occur in the text, and only triple quotes are possible around a line feed.
-/

set_option autoImplicit false

namespace Bundler.Syntax

open Bundler.Text (CodePoints)

/-- Why a tree cannot be printed. -/
inductive PrintError where
  /-- A replacement field of a formatted literal would need a backslash. -/
  | backslashInField
  /-- An integer has more decimal digits than are ever written. -/
  | hugeInteger
deriving DecidableEq, Repr

/-- The description of a printing failure. -/
def PrintError.message : PrintError → String
  | .backslashInField => "Unable to avoid backslash in f-string expression part"
  | .hugeInteger =>
    "Exceeds the limit (" ++ toString maxIntegerDigits ++
      " digits) for integer string conversion; use sys.set_int_max_str_digits() to increase the limit"

/-- The quotes that may stand around a text. -/
inductive Quote where
  | single | double | tripleDouble | tripleSingle
deriving DecidableEq, Repr

namespace Quote

/-- The character that a quote consists of. -/
def char : Quote → Char
  | .single | .tripleSingle => '\''
  | .double | .tripleDouble => '"'

/-- Whether a quote may stand around a line feed. -/
def isTriple : Quote → Bool
  | .single | .double => false
  | .tripleDouble | .tripleSingle => true

/-- The characters of a quote. -/
def mark (q : Quote) : List Char :=
  List.replicate (if q.isTriple then 3 else 1) q.char

/-- The text between two quotes of a kind. -/
def around (q : Quote) (body : List Char) : String :=
  String.ofList (q.mark ++ body ++ q.mark)

/-- All quotes, in order of preference. -/
def all : List Quote := [.single, .double, .tripleDouble, .tripleSingle]

/-- The triple quotes, in order of preference. -/
def triple : List Quote := [.tripleDouble, .tripleSingle]

end Quote

/-- Whether a list of characters occurs within another one. -/
def occursIn (part : List Char) : List Char → Bool
  | [] => part.isEmpty
  | c :: cs => part.isPrefixOf (c :: cs) || occursIn part cs

/-- How one code point is written where the quote is not yet chosen. Line feed and tab are left as
they are unless `escapeBlanks` holds. -/
def escapedPoint (escapeBlanks : Bool) (point : Nat) : String :=
  if point = '\\'.toNat then "\\\\"
  else if point = '\n'.toNat then if escapeBlanks then "\\n" else "\n"
  else if point = '\t'.toNat then if escapeBlanks then "\\t" else "\t"
  else if point = '\r'.toNat then "\\r"
  else if Text.isPrintable point then (Char.ofNat point).toString
  else Text.numericEscape point

/-- The body of a text between quotes, and the quotes of `quotes` that fit it, best first. If none
fits, the body is that of the quoted form, and its own quote is kept if possible. -/
def bodyAndQuotes (escapeBlanks : Bool) (quotes : List Quote) (points : CodePoints) :
    List Char × List Quote :=
  let body := points.flatMap fun p => (escapedPoint escapeBlanks p).toList
  let possible := if body.contains '\n' then quotes.filter Quote.isTriple else quotes
  let possible := possible.filter fun q => !occursIn q.mark body
  match possible, body.getLast? with
  | [], _ =>
    let q := Text.preferredQuote points
    let kept := (quotes.find? fun k => k.char = q).getD (if q = '"' then .double else .single)
    ((Text.quotedBody q points).toList, [kept])
  | _, none => (body, possible)
  | _, some last =>
    -- a quote like the last character would need a backslash before that
    match possible.filter (·.char != last) ++ possible.filter (·.char == last) with
    | [] => (body, [])
    | q :: rest =>
      if q.char = last then (body.dropLast ++ ['\\', last], q :: rest) else (body, q :: rest)

/-- The text between one of the given quotes, with few backslashes. -/
def sparselyQuoted (quotes : List Quote) (points : CodePoints) : String :=
  let (body, fitting) := bodyAndQuotes false quotes points
  (fitting.headD .single).around body

/-- A docstring: triple quotes, with line feeds and tabs as they are. -/
def docstringText (points : CodePoints) (marked : Bool) : String :=
  (if marked then "u" else "") ++ sparselyQuoted Quote.triple points

/-- A part of a formatted literal: its text, and whether it is literal text. -/
structure FormattedPart where
  /-- The text, with doubled braces if it is literal and with single ones around a field. -/
  points : CodePoints
  /-- Whether the part is literal text. -/
  isLiteral : Bool

/-- The bodies of the parts of a formatted literal, and the quotes that fit all of them. -/
def formattedBodies (quotes : List Quote) : List FormattedPart → List Char × List Quote
  | [] => ([], quotes)
  | part :: rest =>
    let (body, quotes) := bodyAndQuotes part.isLiteral quotes part.points
    let (bodies, quotes) := formattedBodies quotes rest
    (body ++ bodies, quotes)

/-- A formatted literal. Line feeds and tabs are escaped in its literal parts only. -/
def formattedText (parts : List FormattedPart) : String :=
  let (body, quotes) := formattedBodies Quote.all parts
  "f" ++ (quotes.headD .single).around body

/-- Literal text of a formatted literal, with its braces doubled. -/
def doubledBraces (points : CodePoints) : CodePoints :=
  points.flatMap fun p => if p = '{'.toNat ∨ p = '}'.toNat then [p, p] else [p]

/-- A replacement field around the text of an expression. -/
def fieldPoints (inner : String) (conversion : Option Conversion) (format : Option CodePoints) :
    Except PrintError CodePoints :=
  if inner.toList.contains '\\' then .error .backslashInField
  else
    let mark := match conversion with
      | none => ""
      | some .str => "!s"
      | some .repr => "!r"
      | some .ascii => "!a"
    let gap := if inner.toList.head? = some '{' then " " else ""
    let format := match format with
      | none => []
      | some points => ':'.toNat :: points
    .ok (CodePoints.ofString ("\x7b" ++ gap ++ inner ++ mark) ++ format ++ ['}'.toNat])

/-- The decimal text of an integer literal. -/
def integerLiteral (n : Nat) : Except PrintError String :=
  if n < Nat.pow 10 maxIntegerDigits then .ok (toString n) else .error .hugeInteger

/-- How texts are printed. -/
inductive TextStyle where
  /-- In their quoted form. -/
  | regular
  /-- With few backslashes, as within a replacement field. -/
  | sparse
deriving DecidableEq, Repr

/-- The text of a literal value. -/
def Constant.print (style : TextStyle) : Constant → Except PrintError String
  | .none => .ok "None"
  | .bool b => .ok (if b then "True" else "False")
  | .ellipsis => .ok "..."
  | .int n => integerLiteral n
  | .float x => .ok (x.notate true)
  | .imaginary x => .ok (x.notate false ++ "j")
  | .bytes b => .ok (Text.quotedBytes b)
  | .text points marked =>
    let body := match style with
      | .regular => Text.quotedPoints points
      | .sparse => sparselyQuoted Quote.all points
    .ok ((if marked then "u" else "") ++ body)

end Bundler.Syntax
