import DocumentIngest.Binary64

/-!
# Decimal text of floating point numbers

`shortest` finds the fewest decimal digits that read back as the same number,
and of those the digits nearest to it.  A `DecimalStyle` then says how such
digits are laid out.  `readDecimal` goes the other way and is correctly rounded.
-/

namespace DocumentIngest

/-- The positive decimal number `digits · 10 ^ exponent`. -/
structure Decimal where
  digits : Nat
  exponent : Int
deriving DecidableEq, Repr, Inhabited

namespace Binary64

/-- Whether a positive fraction reads back as the given magnitude code. -/
def readsBackAs (code numerator denominator : Nat) : Bool :=
  decide (nearestCode numerator denominator = code)

/-- The decimal on the grid `10 ^ exponent` that reads back as the given code and
is nearest to the fraction, a tie going to the even digit.  Only the two grid
points around the fraction are candidates. -/
def onGrid? (code numerator denominator : Nat) (exponent : Int) : Option Decimal :=
  let top := if 0 ≤ exponent then numerator else numerator * 10 ^ (-exponent).toNat
  let bottom := if 0 ≤ exponent then denominator * 10 ^ exponent.toNat else denominator
  let below := top / bottom
  let remainder := top % bottom
  let reads (digits : Nat) : Bool :=
    if 0 ≤ exponent then readsBackAs code (digits * 10 ^ exponent.toNat) 1
    else readsBackAs code digits (10 ^ (-exponent).toNat)
  let preferBelow :=
    decide (2 * remainder < bottom) || (decide (2 * remainder = bottom) && decide (below % 2 = 0))
  let belowReads := decide (0 < below) && reads below
  let aboveReads := decide (0 < remainder) && reads (below + 1)
  if belowReads && (preferBelow || !aboveReads) then some ⟨below, exponent⟩
  else if aboveReads then some ⟨below + 1, exponent⟩
  else none

/-- Searches ever finer grids, starting from the coarsest one that can hold a
digit of the number. -/
def searchGrids (code numerator denominator : Nat) (exponent : Int) : Nat → Decimal
  | 0 => ⟨0, 0⟩
  | attempts + 1 =>
      match onGrid? code numerator denominator exponent with
      | some decimal => decimal
      | none => searchGrids code numerator denominator (exponent - 1) attempts

/-- The number of decimal digits of a natural number. -/
def digitCount (value : Nat) : Nat :=
  (Nat.toDigits 10 value).length

/-- Drops trailing zero digits, within the given number of steps. -/
def dropZeros (decimal : Decimal) : Nat → Decimal
  | 0 => decimal
  | steps + 1 =>
      if decimal.digits ≠ 0 ∧ decimal.digits % 10 = 0 then
        dropZeros ⟨decimal.digits / 10, decimal.exponent + 1⟩ steps
      else decimal

/-- The shortest decimal that reads back as the given finite, nonzero magnitude
code, and of those the nearest to it. -/
def shortest (code : Nat) : Decimal :=
  let value := magnitude code
  let numerator := value.num.natAbs
  let denominator := value.den
  let start : Int := (digitCount numerator : Int) - (digitCount denominator : Int)
  dropZeros (searchGrids code numerator denominator start 25) 25

end Binary64

/-- How the digits of a number are laid out as text. -/
structure DecimalStyle where
  /-- The least exponent, as in scientific notation, that is written without an
  exponent; `none` for no limit. -/
  leastPlain : Option Int
  /-- The greatest exponent that is written without an exponent. -/
  greatestPlain : Option Int
  /-- Whether a whole number keeps one zero after its point. -/
  keepsPoint : Bool
deriving Repr

namespace DecimalStyle

def zeros (count : Nat) : List Char :=
  List.replicate count '0'

/-- The digits with their point, without an exponent. -/
def plain (style : DecimalStyle) (digits : List Char) (pointAt : Int) : List Char :=
  if pointAt ≤ 0 then
    '0' :: '.' :: (zeros (-pointAt).toNat ++ digits)
  else if digits.length ≤ pointAt.toNat then
    digits ++ zeros (pointAt.toNat - digits.length) ++ (if style.keepsPoint then ['.', '0'] else [])
  else digits.take pointAt.toNat ++ '.' :: digits.drop pointAt.toNat

/-- The digits in scientific notation; the exponent always has a sign. -/
def scientific (digits : List Char) (scale : Int) : List Char :=
  let mantissa :=
    match digits with
    | [] => ['0']
    | [digit] => [digit]
    | digit :: rest => digit :: '.' :: rest
  let sign := if scale < 0 then '-' else '+'
  mantissa ++ 'e' :: sign :: Nat.toDigits 10 scale.natAbs

/-- The text of a decimal in a style. -/
def layOut (style : DecimalStyle) (decimal : Decimal) : List Char :=
  let digits := Nat.toDigits 10 decimal.digits
  let pointAt : Int := (digits.length : Int) + decimal.exponent
  let scale := pointAt - 1
  let isPlain :=
    (match style.leastPlain with | none => true | some least => decide (least ≤ scale)) &&
    (match style.greatestPlain with | none => true | some greatest => decide (scale ≤ greatest))
  if isPlain then style.plain digits pointAt else scientific digits scale

/-- The text of a number in a style. -/
def render (style : DecimalStyle) (x : Binary64) : String :=
  if x.isNaN then "NaN"
  else
    let body :=
      if x.isInfinite then ['i', 'n', 'f']
      else if x.isZero then (if style.keepsPoint then ['0', '.', '0'] else ['0'])
      else style.layOut (Binary64.shortest x.code)
    String.ofList (if x.negative then '-' :: body else body)

end DecimalStyle

/-- Numbers in documents: an exponent below 1e-5 and from 1e16 on, and always a
point otherwise. -/
def documentStyle : DecimalStyle := ⟨some (-5), some 15, true⟩

/-- Numbers in messages: never an exponent, and no point for a whole number. -/
def messageStyle : DecimalStyle := ⟨none, none, false⟩

namespace Binary64

/-- The value of a decimal digit. -/
def digitValue? (c : Char) : Option Nat :=
  if '0' ≤ c ∧ c ≤ '9' then some (c.toNat - '0'.toNat) else none

/-- Splits off the leading decimal digits: their value, their number, and the
rest. -/
def takeDigits (value count : Nat) : List Char → Nat × Nat × List Char
  | [] => (value, count, [])
  | c :: rest =>
      match digitValue? c with
      | some digit => takeDigits (value * 10 + digit) (count + 1) rest
      | none => (value, count, c :: rest)

/-- Splits off an optional sign. -/
def takeSign : List Char → Bool × List Char
  | '-' :: rest => (true, rest)
  | '+' :: rest => (false, rest)
  | text => (false, text)

/-- Reads an optional exponent that ends the text. -/
def readExponent : List Char → Option Int
  | [] => some 0
  | mark :: rest =>
      if mark = 'e' ∨ mark = 'E' then
        let (negative, rest) := takeSign rest
        match takeDigits 0 0 rest with
        | (value, count + 1, []) =>
            let _ := count
            some (if negative then -(value : Int) else value)
        | _ => none
      else none

/-- Reads an unsigned decimal: digits with an optional point among them, at
least one digit, and an optional exponent. -/
def readUnsigned (negative : Bool) (text : List Char) : Option Binary64 :=
  let (whole, wholeCount, rest) := takeDigits 0 0 text
  let (digits, fractionCount, rest) :=
    match rest with
    | '.' :: rest =>
        let (digits, total, rest) := takeDigits whole 0 rest
        (digits, total, rest)
    | rest => (whole, 0, rest)
  if wholeCount + fractionCount = 0 then none
  else (readExponent rest).map fun exponent =>
    ofDecimal negative digits (exponent - fractionCount)

/-- Reads decimal text: an optional sign, then a decimal number or one of the
words for infinity and not-a-number in any letter case. -/
def readDecimal (text : List Char) : Option Binary64 :=
  let (negative, rest) := takeSign text
  let lowered := rest.map Char.toLower
  if lowered = "inf".toList ∨ lowered = "infinity".toList then some (infinity negative)
  else if lowered = "nan".toList then some (if negative then neg nan else nan)
  else readUnsigned negative rest

end Binary64

end DocumentIngest
