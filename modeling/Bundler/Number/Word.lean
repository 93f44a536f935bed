/-!
# Machine words

A signed word of 64 bits holds the integers from `-2 ^ 63` up to, but not including, `2 ^ 63`. An
unsigned word holds as many integers, from zero on.
-/

set_option autoImplicit false

namespace Bundler.Number

/-- The least integer that a signed word cannot hold. -/
def signedWordLimit : Nat := 9223372036854775808

/-- The least integer that an unsigned word cannot hold. -/
def unsignedWordLimit : Nat := 2 * signedWordLimit

/-- Whether a signed word can hold an integer. -/
def fitsSignedWord (n : Int) : Bool :=
  -(signedWordLimit : Int) ≤ n && n < signedWordLimit

/-- Whether a signed or an unsigned word can hold an integer. -/
def fitsSomeWord (n : Int) : Bool :=
  -(signedWordLimit : Int) ≤ n && n < unsignedWordLimit

end Bundler.Number
