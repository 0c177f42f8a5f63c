/-!
# Reading integers

Decimal digits after an optional sign.  The number must fit a signed 64-bit
word.
-/

namespace Reshape
namespace Integer

def magnitude? (cs : List Char) : Option Nat :=
  if !cs.isEmpty && cs.all Char.isDigit then some (Nat.ofDigitChars 10 cs 0)
  else none

def word? (n : Int) : Option Int64 :=
  if -0x8000000000000000 ≤ n ∧ n < 0x8000000000000000 then some (Int64.ofInt n)
  else none

def read? : List Char -> Option Int64
  | '-' :: digits => (magnitude? digits).bind fun n => word? (-n)
  | '+' :: digits => (magnitude? digits).bind fun n => word? n
  | digits => (magnitude? digits).bind fun n => word? n

end Integer
end Reshape
