/-!
# Durations

A duration is counted in nanoseconds and shown in the largest unit of which it
has one, with as many decimals as it needs.
-/

namespace Reshape
namespace Engine

structure Duration where
  nanoseconds : Nat
  deriving DecidableEq

namespace Duration

/-- The decimals of `rest / 10 ^ places`, without zeros at the end. -/
def decimals (places rest : Nat) : List Char :=
  let digits := Nat.toDigits 10 rest
  let padded := List.replicate (places - digits.length) '0' ++ digits
  (padded.reverse.dropWhile (· = '0')).reverse

/-- A number of units, each `10 ^ places` nanoseconds long. -/
def inUnit (places : Nat) (unit : String) (n : Nat) : String :=
  let whole := String.ofList (Nat.toDigits 10 (n / Nat.pow 10 places))
  match decimals places (n % Nat.pow 10 places) with
  | [] => whole ++ unit
  | ds => whole ++ "." ++ String.ofList ds ++ unit

def shown (d : Duration) : String :=
  let n := d.nanoseconds
  if 1000000000 ≤ n then inUnit 9 "s" n
  else if 1000000 ≤ n then inUnit 6 "ms" n
  else if 1000 ≤ n then inUnit 3 "µs" n
  else inUnit 0 "ns" n

end Duration

end Engine
end Reshape
