import Bundler.Text.CodePoints

/-!
# Tokens

A source text is a sequence of lines, and a line is a sequence of tokens. Indentation shows as
tokens of its own, and so does the end of a line outside brackets. When no further token can be
formed, the sequence ends with the cause of the failure in place of the end mark.
-/

set_option autoImplicit false

namespace Bundler.Syntax

/-- The lexical class of a token. -/
inductive TokenKind where
  /-- An identifier that is no keyword. -/
  | name
  /-- A reserved word. -/
  | keyword
  /-- A numeral. -/
  | number
  /-- A string literal, with its marks and quotes. -/
  | string
  /-- An operator or a delimiter. -/
  | symbol
  /-- The end of a line. -/
  | newline
  /-- An increase of the indentation. -/
  | indent
  /-- A decrease of the indentation. -/
  | dedent
  /-- The end of the source. -/
  | finish
deriving DecidableEq, Repr

/-- A token and where it stands. -/
structure Token where
  /-- The lexical class. -/
  kind : TokenKind
  /-- The characters of the token, empty for those that only mark layout. -/
  text : String
  /-- The line on which the token begins, counted from one. -/
  line : Nat
  /-- The number of brackets open just after the token. -/
  depth : Nat
deriving Repr

/-- The reserved words. -/
def keywords : List String :=
  ["False", "None", "True", "and", "as", "assert", "async", "await", "break", "class", "continue",
    "def", "del", "elif", "else", "except", "finally", "for", "from", "global", "if", "import",
    "in", "is", "lambda", "nonlocal", "not", "or", "pass", "raise", "return", "try", "while",
    "with", "yield"]

/-- Whether a word is reserved. -/
def isKeyword (word : String) : Bool :=
  keywords.contains word

/-- The words that are keywords in some places only. -/
def softKeywords : List String := ["_", "case", "match"]

/-- The base in which a numeral is written. -/
inductive Radix where
  /-- Base two. -/
  | binary
  /-- Base eight. -/
  | octal
  /-- Base ten. -/
  | decimal
  /-- Base sixteen. -/
  | hexadecimal
deriving DecidableEq, Repr

/-- The name of a base in messages. -/
def Radix.name : Radix → String
  | .binary => "binary"
  | .octal => "octal"
  | .decimal => "decimal"
  | .hexadecimal => "hexadecimal"

/-- Why no token can be formed. -/
inductive LexicalError where
  /-- A line is indented less than the one before it, but like no open block. -/
  | unmatchedDedent
  /-- Tabs and blanks are mixed so that the indentation depends on the width of a tab. -/
  | inconsistentTabs
  /-- More than a hundred blocks are open. -/
  | deepIndentation
  /-- A backslash is followed by something on its line. -/
  | textAfterContinuation
  /-- The source ends after a backslash or within brackets. -/
  | endOfSource
  /-- A numeral of this kind is malformed. -/
  | invalidNumeral (kind : String)
  /-- A decimal digit does not belong to the base. -/
  | invalidDigit (digit : Char) (radix : Radix)
  /-- A decimal integer other than zero begins with a zero. -/
  | leadingZeros
  /-- The source ends within a triple-quoted literal; the line is the last one. -/
  | unterminatedTriple (detected : Nat)
  /-- A line ends within a literal; the line is the one that ends. -/
  | unterminatedString (detected : Nat)
  /-- More than two hundred brackets are open. -/
  | deepBrackets
  /-- A closing bracket has no opening one. -/
  | unmatchedClosing (closing : Char)
  /-- A closing bracket closes another kind; the line is given when it is an earlier one. -/
  | mismatchedClosing (closing opening : Char) (line : Option Nat)
  /-- A visible character stands where none is allowed. -/
  | invalidCharacter (c : Char)
  /-- An invisible character stands where none is allowed. -/
  | nonPrintable (point : Nat)
deriving DecidableEq, Repr

/-- The description of a lexical failure. -/
def LexicalError.message : LexicalError → String
  | .unmatchedDedent => "unindent does not match any outer indentation level"
  | .inconsistentTabs => "inconsistent use of tabs and spaces in indentation"
  | .deepIndentation => "too many levels of indentation"
  | .textAfterContinuation => "unexpected character after line continuation character"
  | .endOfSource => "unexpected EOF while parsing"
  | .invalidNumeral kind => "invalid " ++ kind ++ " literal"
  | .invalidDigit digit radix =>
    "invalid digit '" ++ digit.toString ++ "' in " ++ radix.name ++ " literal"
  | .leadingZeros =>
    "leading zeros in decimal integer literals are not permitted; " ++
      "use an 0o prefix for octal integers"
  | .unterminatedTriple detected =>
    "unterminated triple-quoted string literal (detected at line " ++ toString detected ++ ")"
  | .unterminatedString detected =>
    "unterminated string literal (detected at line " ++ toString detected ++ ")"
  | .deepBrackets => "too many nested parentheses"
  | .unmatchedClosing closing => "unmatched '" ++ closing.toString ++ "'"
  | .mismatchedClosing closing opening line =>
    "closing parenthesis '" ++ closing.toString ++ "' does not match opening parenthesis '" ++
      opening.toString ++ "'" ++
      match line with
      | some n => " on line " ++ toString n
      | none => ""
  | .invalidCharacter c =>
    "invalid character '" ++ c.toString ++ "' (U+" ++ Text.upperHexPadded 4 c.toNat ++ ")"
  | .nonPrintable point => "invalid non-printable character U+" ++ Text.upperHexPadded 4 point

/-- Whether a failure concerns the layout of lines. Such a failure is reported only if the parser
reaches it; any other one takes precedence over an earlier fault of the parser. -/
def LexicalError.isLayout : LexicalError → Bool
  | .unmatchedDedent | .inconsistentTabs | .deepIndentation | .textAfterContinuation
  | .endOfSource => true
  | _ => false

/-- An opening bracket that is not closed yet. -/
structure OpenBracket where
  /-- The bracket. -/
  bracket : Char
  /-- The line on which it stands. -/
  line : Nat
deriving DecidableEq, Repr

/-- Where and why the formation of tokens ended early. -/
structure LexicalFailure where
  /-- The cause. -/
  error : LexicalError
  /-- The line to report. -/
  line : Nat
  /-- The innermost bracket that is open at this point. -/
  innermost : Option OpenBracket
deriving DecidableEq, Repr

/-- The tokens of a source. Without a failure the last token is the end mark. -/
structure TokenStream where
  /-- The tokens in order. -/
  tokens : Array Token
  /-- Why no more tokens follow, if the end mark was not reached. -/
  failure : Option LexicalFailure

end Bundler.Syntax
