import Reshape.Number.Shortest

/-!
# How numbers are written

Two notations of the shortest decimal.  JSON changes to an exponent outside of a
range and always shows a fraction before that; text shows every digit in its
place and marks an integer by `.0` as long as it stays below ten quadrillion.
-/

namespace Reshape
namespace Binary64

/-- The digits of a decimal and the exponent of the first of them. -/
structure Spread where
  digits : List Char
  exponent : Int

def Decimal.spread (d : Decimal) : Spread :=
  let digits := Nat.toDigits 10 d.coefficient
  ⟨digits, d.exponent + digits.length - 1⟩

namespace Spread

def whole (s : Spread) : List Char :=
  if s.exponent < 0 then ['0']
  else
    let count := s.exponent.toNat + 1
    s.digits.take count ++ List.replicate (count - s.digits.length) '0'

def fraction (s : Spread) : List Char :=
  if s.exponent < 0 then List.replicate (s.exponent.natAbs - 1) '0' ++ s.digits
  else s.digits.drop (s.exponent.toNat + 1)

/-- Every digit in its place, and a fraction in any case. -/
def pointed (s : Spread) : List Char :=
  s.whole ++ '.' :: if s.fraction.isEmpty then ['0'] else s.fraction

def plain (s : Spread) : List Char :=
  s.whole ++ if s.fraction.isEmpty then [] else '.' :: s.fraction

/-- One digit before the point and an exponent with its sign. -/
def scientific (s : Spread) : List Char :=
  s.digits.take 1 ++
    (if s.digits.length = 1 then [] else '.' :: s.digits.drop 1) ++
    'e' :: (if s.exponent < 0 then '-' else '+') ::
      Nat.toDigits 10 s.exponent.natAbs

end Spread

/-- Zero has one digit, in the place of the units. -/
def spread (tie : Tie) (x : Binary64) : Spread :=
  if x.isZero then ⟨['0'], 0⟩ else (x.shortest tie).spread

def signed (x : Binary64) (magnitude : List Char) : List Char :=
  if x.isNegative then '-' :: magnitude else magnitude

/-!
## The two notations
-/

/-- A finite number in JSON: positional for exponents from -5 to 15. -/
def jsonChars (x : Binary64) : List Char :=
  let s := x.spread .toEven
  x.signed
    (if -5 ≤ s.exponent ∧ s.exponent ≤ 15 then s.pointed else s.scientific)

/-- Whether a finite number is an integer below ten quadrillion in magnitude. -/
def isShortInteger (x : Binary64) : Bool :=
  let scaled := scale x.significand 1 x.power
  x.isIntegral && scaled.1 < 10000000000000000 * scaled.2

/-- A number in running text. -/
def textChars (x : Binary64) : List Char :=
  if x.isNaN then ['N', 'a', 'N']
  else if !x.isFinite then x.signed ['i', 'n', 'f']
  else
    let s := x.spread .up
    x.signed (if x.isShortInteger then s.pointed else s.plain)

end Binary64
end Reshape
