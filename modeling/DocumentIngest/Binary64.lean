/-!
# Binary floating point with exact semantics

A `Binary64` is one of the 2⁶⁴ double-precision codes.  A finite code stands for
a rational number, and every operation is defined by that number: compute
exactly, then round to the nearest code, a tie going to the even one.  No
operation refers to the machine's own floating point, so each can be reasoned
about through `toRat`.
-/

namespace DocumentIngest

-- powers of numbers are those of the core library, whatever algebra is imported besides
attribute [instance (1100), default_instance 10001] instPowNat

/-- A double-precision number, given by its code: one sign bit, eleven exponent
bits, fifty-two fraction bits. -/
structure Binary64 where
  bits : UInt64
deriving DecidableEq, Repr, Inhabited

namespace Binary64

/-- The number of codes between two consecutive powers of two. -/
def binade : Nat := 2 ^ 52

/-- The least magnitude code that is not finite. -/
def infinityCode : Nat := 2047 * 2 ^ 52

/-- Whether the sign bit is set. -/
def negative (x : Binary64) : Bool :=
  decide (2 ^ 63 ≤ x.bits.toNat)

/-- The code without its sign bit.  Magnitude codes are ordered as the
magnitudes are. -/
def code (x : Binary64) : Nat :=
  x.bits.toNat % 2 ^ 63

/-- The number with a given sign and magnitude code. -/
def ofCode (negative : Bool) (code : Nat) : Binary64 :=
  ⟨UInt64.ofNat (if negative then 2 ^ 63 + code else code)⟩

def isFinite (x : Binary64) : Bool :=
  decide (x.code < infinityCode)

def isInfinite (x : Binary64) : Bool :=
  decide (x.code = infinityCode)

def isNaN (x : Binary64) : Bool :=
  decide (infinityCode < x.code)

def isZero (x : Binary64) : Bool :=
  decide (x.code = 0)

def zero : Binary64 := ofCode false 0

def one : Binary64 := ofCode false (1023 * 2 ^ 52)

def nan : Binary64 := ofCode false (infinityCode + 2 ^ 51)

def infinity (negative : Bool) : Binary64 := ofCode negative infinityCode

/-- The integer significand of a magnitude code. -/
def significand (code : Nat) : Nat :=
  if code < binade then code else binade + code % binade

/-- The power of two that the significand of a magnitude code is multiplied by. -/
def exponent (code : Nat) : Int :=
  if code < binade then -1074 else (code / binade : Nat) - 1075

/-- An integer power of two as a rational number. -/
def powerOfTwo (exponent : Int) : Rat :=
  if 0 ≤ exponent then ((2 ^ exponent.toNat : Nat) : Rat)
  else 1 / ((2 ^ (-exponent).toNat : Nat) : Rat)

/-- The magnitude that a finite magnitude code stands for. -/
def magnitude (code : Nat) : Rat :=
  (significand code : Rat) * powerOfTwo (exponent code)

/-- The rational number that a finite code stands for; zero for the others. -/
def toRat (x : Binary64) : Rat :=
  if x.isFinite then
    if x.negative then -magnitude x.code else magnitude x.code
  else 0

/-- Divides and rounds to the nearest integer, a tie going to the even one. -/
def divideToNearest (numerator denominator : Nat) : Nat :=
  let quotient := numerator / denominator
  let remainder := numerator % denominator
  if 2 * remainder < denominator then quotient
  else if denominator < 2 * remainder then quotient + 1
  else if quotient % 2 = 0 then quotient else quotient + 1

/-- The exponent of the grid on which the positive fraction is rounded: the
quotient has 53 binary digits there, or the grid is the finest one there is. -/
def gridExponent (numerator denominator : Nat) : Int :=
  let estimate : Int := (numerator.log2 : Int) - (denominator.log2 : Int) - 52
  let scaled :=
    if 0 ≤ estimate then decide (numerator < denominator * 2 ^ (52 + estimate.toNat))
    else decide (numerator * 2 ^ (-estimate).toNat < denominator * 2 ^ 52)
  max (if scaled then estimate - 1 else estimate) (-1074)

/-- The magnitude code nearest to a fraction, a tie going to the even code. -/
def nearestCode (numerator denominator : Nat) : Nat :=
  if numerator = 0 then 0
  else
    let exponent := gridExponent numerator denominator
    let rounded :=
      if 0 ≤ exponent then divideToNearest numerator (denominator * 2 ^ exponent.toNat)
      else divideToNearest (numerator * 2 ^ (-exponent).toNat) denominator
    min ((exponent + 1074).toNat * binade + rounded) infinityCode

/-- The nearest number to a fraction with the given sign. -/
def nearest (negative : Bool) (numerator denominator : Nat) : Binary64 :=
  ofCode negative (nearestCode numerator denominator)

/-- The nearest number to an integer. -/
def ofInt (value : Int) : Binary64 :=
  nearest (decide (value < 0)) value.natAbs 1

/-- The nearest number to `digits · 10 ^ exponent`, with the given sign. -/
def ofDecimal (negative : Bool) (digits : Nat) (exponent : Int) : Binary64 :=
  if digits = 0 then ofCode negative 0
  else if 400 < exponent then infinity negative
  else if 0 ≤ exponent then nearest negative (digits * 10 ^ exponent.toNat) 1
  else if exponent < -400 - (digits.log2 : Int) then ofCode negative 0
  else nearest negative digits (10 ^ (-exponent).toNat)

/-- The nearest number to the magnitude of a rational, with the given sign. -/
def ofRat (negative : Bool) (value : Rat) : Binary64 :=
  nearest negative value.num.natAbs value.den

/-- Changes the sign. -/
def neg (x : Binary64) : Binary64 :=
  ofCode (!x.negative) x.code

def mul (x y : Binary64) : Binary64 :=
  let negative := xor x.negative y.negative
  if x.isNaN || y.isNaN then nan
  else if x.isInfinite || y.isInfinite then
    if x.isZero || y.isZero then nan else infinity negative
  else ofRat negative (x.toRat * y.toRat)

def div (x y : Binary64) : Binary64 :=
  let negative := xor x.negative y.negative
  if x.isNaN || y.isNaN then nan
  else if x.isInfinite then if y.isInfinite then nan else infinity negative
  else if y.isInfinite then ofCode negative 0
  else if y.isZero then if x.isZero then nan else infinity negative
  else ofRat negative (x.toRat / y.toRat)

/-- Equality of numbers: the two zeros are equal, and no number equals a NaN. -/
def eq (x y : Binary64) : Bool :=
  !x.isNaN && !y.isNaN && (decide (x = y) || (x.isZero && y.isZero))

/-- The greatest integer not above the number; the sign of a zero is kept. -/
def floor (x : Binary64) : Binary64 :=
  if x.isFinite then ofRat x.negative (x.toRat.floor : Rat) else x

/-- The nearest integer, a half going away from zero; the sign is kept. -/
def round (x : Binary64) : Binary64 :=
  if x.isFinite then ofRat x.negative ((magnitude x.code + 1 / 2).floor : Rat) else x

/-- The integer part of a rational number, towards zero. -/
def integerPart (value : Rat) : Int :=
  Int.tdiv value.num value.den

/-- The integer part, brought into the given bounds; zero for a NaN. -/
def toIntWithin (least greatest : Int) (x : Binary64) : Int :=
  if x.isNaN then 0
  else if x.isInfinite then if x.negative then least else greatest
  else max least (min greatest (integerPart x.toRat))

/-- The integer part as a signed 64-bit integer, the nearest one if it does not
fit. -/
def toInt64 : Binary64 → Int :=
  toIntWithin (-2 ^ 63) (2 ^ 63 - 1)

/-- The integer part as a signed 32-bit integer, the nearest one if it does not
fit. -/
def toInt32 : Binary64 → Int :=
  toIntWithin (-2 ^ 31) (2 ^ 31 - 1)

/-- Whether a finite number is whole. -/
def isWhole (x : Binary64) : Bool :=
  x.isFinite && decide (x.toRat.den = 1)

/-- A natural power by repeated squaring: the factor of the lowest binary digit
first, then the square of the base for the rest. -/
def powNat (base : Binary64) (exponent : Nat) (accumulated : Binary64) : Binary64 :=
  let accumulated := if exponent % 2 = 1 then mul accumulated base else accumulated
  if exponent / 2 = 0 then accumulated
  else powNat (mul base base) (exponent / 2) accumulated
termination_by exponent
decreasing_by omega

/-- An integer power: a negative one is one over the positive one. -/
def powInt (base : Binary64) (exponent : Int) : Binary64 :=
  let power := powNat base exponent.natAbs one
  if exponent < 0 then div one power else power

end Binary64

end DocumentIngest
