import Reshape.Number.Binary64

/-!
# The shortest decimal that reads back

A binary number stands for an interval of reals: those that round to it.  Among
the decimals in the interval, the one with the fewest digits is written, and of
those the one nearest to the number.  The search tries one digit, two digits and
so on; on each grid only the two neighbours of the number can lie in the
interval first.
-/

namespace Reshape
namespace Binary64

/-- The reals that round to a number, as numerators over one denominator.  The
ends belong to the interval iff the significand is even. -/
structure Interval where
  low : Nat
  value : Nat
  high : Nat
  den : Nat
  closed : Bool

/-- The gap below a power of two is half as wide as the gap above it. -/
def interval (x : Binary64) : Interval :=
  let below := if x.fractionField = 0 ∧ 1 < x.exponentField then 1 else 2
  let unit := scale 1 1 (x.power - 2)
  { low := (4 * x.significand - below) * unit.1
    value := 4 * x.significand * unit.1
    high := (4 * x.significand + 2) * unit.1
    den := unit.2
    closed := x.significand % 2 == 0 }

/-- What to do with a number exactly half way between two decimals. -/
inductive Tie where
  | toEven
  | up
  deriving DecidableEq

/-- `coefficient · 10 ^ exponent`. -/
structure Decimal where
  coefficient : Nat
  exponent : Int
  deriving DecidableEq

namespace Interval

/-- Numerator and denominator of a decimal over the denominator of the
interval. -/
def place (i : Interval) (d : Decimal) : Nat × Nat :=
  if 0 ≤ d.exponent then
    (d.coefficient * Nat.pow 10 d.exponent.toNat * i.den, 1)
  else (d.coefficient * i.den, Nat.pow 10 d.exponent.natAbs)

def contains (i : Interval) (d : Decimal) : Bool :=
  let p := i.place d
  if i.closed then i.low * p.2 ≤ p.1 && p.1 ≤ i.high * p.2
  else i.low * p.2 < p.1 && p.1 < i.high * p.2

/-- The greatest `k` with `10 ^ k ≤ value / den`. -/
def decade (i : Interval) : Int :=
  let guess := ((i.value.log2 : Int) - i.den.log2) * 30103 / 100000
  let reaches (k : Int) : Bool :=
    if 0 ≤ k then i.den * Nat.pow 10 k.toNat ≤ i.value
    else i.den ≤ i.value * Nat.pow 10 k.natAbs
  if reaches (guess + 1) then guess + 1
  else if reaches guess then guess else guess - 1

/-- The greatest multiple of `10 ^ exponent` that is at most the value. -/
def floor (i : Interval) (exponent : Int) : Nat :=
  if 0 ≤ exponent then i.value / (i.den * Nat.pow 10 exponent.toNat)
  else i.value * Nat.pow 10 exponent.natAbs / i.den

/-- Whether the upper neighbour is to be taken of two that both lie in the
interval. -/
def prefersUpper (i : Interval) (tie : Tie) (low : Decimal) : Bool :=
  let below := i.place low
  let above := i.place ⟨low.coefficient + 1, low.exponent⟩
  let doubled := 2 * i.value * below.2
  if doubled < below.1 + above.1 then false
  else if below.1 + above.1 < doubled then true
  else
    match tie with
    | .toEven => low.coefficient % 2 == 1
    | .up => true

/-- The decimal taken on the grid of an exponent, if a neighbour of the value
lies in the interval. -/
def hit? (i : Interval) (tie : Tie) (exponent : Int) : Option Decimal :=
  let low : Decimal := ⟨i.floor exponent, exponent⟩
  let high : Decimal := ⟨low.coefficient + 1, exponent⟩
  match i.contains low, i.contains high with
  | true, true => some (if i.prefersUpper tie low then high else low)
  | true, false => some low
  | false, true => some high
  | false, false => none

/-- The first hit from a grid on, with `grids` finer grids left to try. -/
def search (i : Interval) (tie : Tie) (exponent : Int) : Nat -> Decimal
  | 0 => ⟨i.floor exponent, exponent⟩
  | grids + 1 => (i.hit? tie exponent).getD (i.search tie (exponent - 1) grids)

end Interval

/-- The same decimal without zeros at the end of its coefficient. -/
def Decimal.normalize (d : Decimal) : Decimal :=
  if h : d.coefficient ≠ 0 ∧ d.coefficient % 10 = 0 then
    Decimal.normalize ⟨d.coefficient / 10, d.exponent + 1⟩
  else d
termination_by d.coefficient
decreasing_by omega

/-- The shortest decimal of a positive finite number.  Seventeen digits always
suffice. -/
def shortest (tie : Tie) (x : Binary64) : Decimal :=
  let i := x.interval
  (i.search tie i.decade 17).normalize

end Binary64
end Reshape
