/-!
# Binary64 numbers

The floating-point numbers of records, as the 64 bits that stand for them.  A
finite number is `±significand · 2 ^ power`; sums of bits never pass through the
machine's own arithmetic, so every operation here is a function on natural
numbers.
-/

namespace Reshape

structure Binary64 where
  bits : UInt64
  deriving DecidableEq

namespace Binary64

/-!
## Fields
-/

def isNegative (x : Binary64) : Bool :=
  0x8000000000000000 ≤ x.bits.toNat

def exponentField (x : Binary64) : Nat :=
  x.bits.toNat / 0x10000000000000 % 0x800

def fractionField (x : Binary64) : Nat :=
  x.bits.toNat % 0x10000000000000

def isFinite (x : Binary64) : Bool :=
  x.exponentField != 2047

def isNaN (x : Binary64) : Bool :=
  x.exponentField == 2047 && x.fractionField != 0

def isZero (x : Binary64) : Bool :=
  x.exponentField == 0 && x.fractionField == 0

/-- The significand of a finite number; the least exponent has no hidden bit. -/
def significand (x : Binary64) : Nat :=
  if x.exponentField = 0 then x.fractionField
  else 0x10000000000000 + x.fractionField

def power (x : Binary64) : Int :=
  (max x.exponentField 1 : Nat) - 1075

/-- Whether a finite number is an integer: its significand loses nothing below
the point. -/
def isIntegral (x : Binary64) : Bool :=
  0 ≤ x.power || x.significand % Nat.pow 2 x.power.natAbs == 0

/-- Equality of numbers: the two zeros are equal, and what is not a number
equals nothing. -/
def sameNumber (x y : Binary64) : Bool :=
  !x.isNaN && (x == y || x.isZero && y.isZero)

/-!
## Rounding

`ofQuotient` gives the number nearest to a quotient, the even one of two.
Quotients too large for any finite number give infinity.
-/

def roundDiv (num den : Nat) : Nat :=
  let low := num / den
  let rest := num % den
  if 2 * rest < den then low
  else if den < 2 * rest then low + 1
  else low + low % 2

/-- Numerator and denominator of `num / den · 2 ^ power`. -/
def scale (num den : Nat) (power : Int) : Nat × Nat :=
  if 0 ≤ power then (num * Nat.pow 2 power.toNat, den)
  else (num, den * Nat.pow 2 power.natAbs)

/-- The greatest `k` with `2 ^ k ≤ num / den`, for positive `num` and `den`. -/
def log2Quotient (num den : Nat) : Int :=
  let guess : Int := (num.log2 : Int) - den.log2
  let scaled := scale num den (-guess)
  if scaled.2 ≤ scaled.1 then guess else guess - 1

/-- The bits of the nearest number without its sign.  Adding the rounded
significand to the exponent field carries into it where rounding reaches the
next power of two. -/
def magnitudeBits (num den : Nat) : Nat :=
  if num = 0 then 0
  else
    let power := max (log2Quotient num den - 52) (-1074)
    let scaled := scale num den (-power)
    min ((power + 1074).toNat * 0x10000000000000 + roundDiv scaled.1 scaled.2)
      (2047 * 0x10000000000000)

def ofQuotient (num den : Nat) : Binary64 :=
  ⟨UInt64.ofNat (magnitudeBits num den)⟩

def ofNat (n : Nat) : Binary64 :=
  ofQuotient n 1

def neg (x : Binary64) : Binary64 :=
  ⟨x.bits ^^^ 0x8000000000000000⟩

/-!
## Products and quotients of positive numbers
-/

def mulMagnitude (x y : Binary64) : Binary64 :=
  let scaled := scale (x.significand * y.significand) 1 (x.power + y.power)
  ofQuotient scaled.1 scaled.2

def divMagnitude (x y : Binary64) : Binary64 :=
  let scaled := scale x.significand y.significand (x.power - y.power)
  ofQuotient scaled.1 scaled.2

end Binary64

end Reshape
