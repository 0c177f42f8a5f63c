import Reshape.Json.Basic

/-!
# Numerals

A JSON numeral is read in two steps: its parts are taken off the text, and then
the number is computed.  Without a fraction and an exponent it is an integer if
a 64-bit word holds it.  In all other cases the digits that fit an unsigned word
are scaled by a power of ten in binary64, so the last bit of a long numeral may
be off.
-/

namespace Reshape
namespace Json

structure Numeral where
  negative : Bool
  whole : List Char
  /-- The digits after the point, if there is one. -/
  fraction : Option (List Char)
  exponent : Option Int
  deriving DecidableEq

namespace Numeral

/-!
## The parts
-/

def digits? (cs : List Char) : Option (List Char × List Char) :=
  match cs.takeWhile Char.isDigit with
  | [] => none
  | ds => some (ds, cs.dropWhile Char.isDigit)

/-- The digits of the integer part: a zero stands alone. -/
def whole? : List Char -> Option (List Char × List Char)
  | '0' :: rest =>
      match rest with
      | [] => some (['0'], [])
      | c :: _ => if c.isDigit then none else some (['0'], rest)
  | cs => digits? cs

def fraction? : List Char -> Option (Option (List Char) × List Char)
  | '.' :: rest => (digits? rest).map fun read => (some read.1, read.2)
  | cs => some (none, cs)

/-- The digits of an exponent after its sign. -/
def exponentDigits? (negative : Bool) (cs : List Char) :
    Option (Option Int × List Char) :=
  (digits? cs).map fun read =>
    let n : Int := Nat.ofDigitChars 10 read.1 0
    (some (if negative then -n else n), read.2)

def exponent? : List Char -> Option (Option Int × List Char)
  | c :: rest =>
      if c = 'e' || c = 'E' then
        match rest with
        | '+' :: rest => exponentDigits? false rest
        | '-' :: rest => exponentDigits? true rest
        | rest => exponentDigits? false rest
      else some (none, c :: rest)
  | [] => some (none, [])

def unsigned? (negative : Bool) (cs : List Char) :
    Option (Numeral × List Char) :=
  do
  let (whole, rest) <- whole? cs
  let (fraction, rest) <- fraction? rest
  let (exponent, rest) <- exponent? rest
  return (⟨negative, whole, fraction, exponent⟩, rest)

/-- The numeral at the front of a text, and the rest of the text. -/
def read? : List Char -> Option (Numeral × List Char)
  | '-' :: rest => unsigned? true rest
  | cs => unsigned? false cs

/-!
## The number
-/

/-- Appends digits to a significand as long as an unsigned word holds it; the
digits left over come second. -/
def gather (significand : Nat) : List Char -> Nat × List Char
  | [] => (significand, [])
  | d :: ds =>
      let next := significand * 10 + (d.toNat - '0'.toNat)
      if next < 0x10000000000000000 then gather next ds
      else (significand, d :: ds)

/-- `f · 10 ^ exponent`, rounded after each step, or `none` if the exponent
alone is too large. -/
def scaleByTen (f : Binary64) (exponent : Int) : Option Binary64 :=
  if exponent.natAbs ≤ 308 then
    if 0 ≤ exponent then
      some (f.mulMagnitude (.ofNat (Nat.pow 10 exponent.toNat)))
    else some (f.divMagnitude (.ofNat (Nat.pow 10 exponent.natAbs)))
  else if f.isZero then some f
  else if 0 ≤ exponent then none
  else scaleByTen (f.divMagnitude (.ofNat (Nat.pow 10 308))) (exponent + 308)
termination_by exponent.natAbs
decreasing_by omega

def float? (n : Numeral) : Option Number := do
  let (significand, dropped) := gather 0 n.whole
  let fraction := n.fraction.getD []
  let (significand, ignored) := gather significand fraction
  let exponent :=
    (dropped.length : Int) - (fraction.length - ignored.length) +
      n.exponent.getD 0
  let magnitude <- scaleByTen (.ofNat significand) exponent
  let x := if n.negative then magnitude.neg else magnitude
  if finite : x.isFinite = true then some (.float x finite) else none

/-- The value of a numeral without fraction and exponent, if a 64-bit word holds
it.  The negative zero is no integer. -/
def integer? (n : Numeral) : Option Number :=
  if n.fraction.isNone && n.exponent.isNone then
    let magnitude := Nat.ofDigitChars 10 n.whole 0
    if n.negative then
      if inRange : 0 < magnitude ∧ magnitude ≤ 0x8000000000000000 then
        some (.integer (-magnitude) ⟨by omega, by omega⟩)
      else none
    else
      if inRange : magnitude < 0x10000000000000000 then
        some (.integer magnitude ⟨by omega, by omega⟩)
      else none
  else none

/-- The number that a numeral stands for; `none` if it is too large. -/
def number? (n : Numeral) : Option Number :=
  match n.integer? with
  | some value => some value
  | none => n.float?

end Numeral

end Json
end Reshape
