import DocumentIngest.Binary64.Decimal
import DocumentIngest.Calendar.Date
import DocumentIngest.Json

/-!
# TOML scalars

Numbers, truth values, and points in time.  A point in time is kept as the text
of its usual form.
-/

namespace DocumentIngest

namespace Toml

/-- What was read, and what is left. -/
abbrev Reading (α : Type) := Option (α × List Char)

/-- The value of a digit in some base. -/
def digitIn? (base : Nat) (character : Char) : Option Nat :=
  let value :=
    if character.isDigit then some (character.toNat - '0'.toNat)
    else if 'a' ≤ character ∧ character ≤ 'f' then some (character.toNat - 'a'.toNat + 10)
    else if 'A' ≤ character ∧ character ≤ 'F' then some (character.toNat - 'A'.toNat + 10)
    else none
  value.bind fun value => if value < base then some value else none

def isDigitIn (base : Nat) (character : Char) : Bool :=
  (digitIn? base character).isSome

/-- The digits at the start of a text, without the underscores between them. -/
def takeDigits (base : Nat) : List Char → List Char × List Char
  | [] => ([], [])
  | '_' :: digit :: rest =>
      if isDigitIn base digit then
        let (digits, rest) := takeDigits base rest
        (digit :: digits, rest)
      else ([], '_' :: digit :: rest)
  | digit :: rest =>
      if isDigitIn base digit then
        let (digits, rest) := takeDigits base rest
        (digit :: digits, rest)
      else ([], digit :: rest)

/-- Digits that start with a digit. -/
def readDigits (base : Nat) (text : List Char) : Reading (List Char) :=
  match text with
  | digit :: _ => if isDigitIn base digit then some (takeDigits base text) else none
  | [] => none

/-- The number of digits in some base. -/
def digitsValue (base : Nat) (digits : List Char) : Nat :=
  digits.foldl (fun value digit => value * base + (digitIn? base digit).getD 0) 0

/-- A sign, and whether it is a minus. -/
def takeSign (text : List Char) : Option Bool × List Char :=
  match text with
  | '-' :: rest => (some true, rest)
  | '+' :: rest => (some false, rest)
  | rest => (none, rest)

/-- The digits of a decimal integer, which has no superfluous zero in front. -/
def readDecimalDigits (text : List Char) : Reading (List Char) :=
  match text with
  | '0' :: rest => some (['0'], rest)
  | text => readDigits 10 text

/-- An integer, if it fits 64 bits. -/
def integer? (negative : Bool) (magnitude : Nat) : Option Json :=
  let value : Int := if negative then -magnitude else magnitude
  if -(2 ^ 63) ≤ value ∧ value < 2 ^ 63 then some (.ofInt value) else none

/-- The fraction of a number, with its point. -/
def readFraction (text : List Char) : Reading (List Char) :=
  match text with
  | '.' :: rest => (readDigits 10 rest).map fun (digits, rest) => ('.' :: digits, rest)
  | _ => none

/-- The exponent of a number, with its letter. -/
def readExponent (text : List Char) : Reading (List Char) :=
  match text with
  | letter :: rest =>
      if letter == 'e' || letter == 'E' then
        let (sign, rest) := takeSign rest
        let mark : List Char := if sign = some true then ['e', '-'] else ['e']
        (readDigits 10 rest).map fun (digits, rest) => (mark ++ digits, rest)
      else none
  | [] => none

/-- A number with a fraction or an exponent, or one that is not finite. -/
def readReal (text : List Char) : Reading Json :=
  let (sign, unsigned) := takeSign text
  let negative := sign = some true
  let minus : List Char := if negative then ['-'] else []
  let special (length : Nat) (name : String) : Reading Json :=
    (Binary64.readDecimal (minus ++ name.toList)).map fun value =>
      (.number (.real value), unsigned.drop length)
  if "inf".toList.isPrefixOf unsigned then special 3 "inf"
  else if "nan".toList.isPrefixOf unsigned then special 3 "nan"
  else
    match readDecimalDigits unsigned with
    | none => none
    | some (whole, rest) =>
        let (fraction, rest) := (readFraction rest).getD ([], rest)
        let (exponent, rest) := (readExponent rest).getD ([], rest)
        if fraction.isEmpty && exponent.isEmpty then none
        else
          match Binary64.readDecimal (minus ++ whole ++ fraction ++ exponent) with
          | none => none
          | some value =>
              if value = Binary64.infinity false then none
              else some (.number (.real value), rest)

/-- An integer; the prefixed bases have no sign. -/
def readInteger (text : List Char) : Reading Json :=
  let based (base : Nat) (rest : List Char) : Reading Json :=
    (readDigits base rest).bind fun (digits, rest) =>
      (integer? false (digitsValue base digits)).map fun value => (value, rest)
  match text with
  | '0' :: 'x' :: rest => based 16 rest
  | '0' :: 'o' :: rest => based 8 rest
  | '0' :: 'b' :: rest => based 2 rest
  | text =>
      let (sign, rest) := takeSign text
      (readDecimalDigits rest).bind fun (digits, rest) =>
        (integer? (sign = some true) (digitsValue 10 digits)).map fun value => (value, rest)

/-- Exactly so many digits, as a number within bounds. -/
def readField (width least greatest : Nat) (text : List Char) : Reading Nat :=
  let digits := text.take width
  if digits.length = width ∧ digits.all Char.isDigit then
    let value := digitsValue 10 digits
    if least ≤ value ∧ value ≤ greatest then some (value, text.drop width) else none
  else none

/-- Reads one character. -/
def readChar (expected : Char) (text : List Char) : Option (List Char) :=
  match text with
  | character :: rest => if character = expected then some rest else none
  | [] => none

/-- A number with leading zeros. -/
def padded (width value : Nat) : String :=
  let digits := toString value
  String.ofList (List.replicate (width - digits.length) '0') ++ digits

/-- A date, in its usual form. -/
def readDate (text : List Char) : Option (String × List Char) := do
  let (year, rest) ← readField 4 0 9999 text
  let rest ← readChar '-' rest
  let (month, rest) ← readField 2 1 12 rest
  let rest ← readChar '-' rest
  let (day, rest) ← readField 2 1 (Date.daysInMonth year month) rest
  return (padded 4 year ++ "-" ++ padded 2 month ++ "-" ++ padded 2 day, rest)

/-- The fraction of a second, of nine digits at most and without zeros at its
end. -/
def readSecondFraction (text : List Char) : String × List Char :=
  match text with
  | '.' :: rest =>
      let digits := rest.takeWhile Char.isDigit
      if digits.isEmpty then ("", text)
      else
        let kept := ((digits.take 9).reverse.dropWhile (· == '0')).reverse
        (if kept.isEmpty then "" else String.ofList ('.' :: kept), rest.dropWhile Char.isDigit)
  | _ => ("", text)

/-- A time of the day, in its usual form. -/
def readTime (text : List Char) : Option (String × List Char) := do
  let (hour, rest) ← readField 2 0 23 text
  let rest ← readChar ':' rest
  let (minute, rest) ← readField 2 0 59 rest
  let rest ← readChar ':' rest
  let (second, rest) ← readField 2 0 60 rest
  let (fraction, rest) := readSecondFraction rest
  return (padded 2 hour ++ ":" ++ padded 2 minute ++ ":" ++ padded 2 second ++ fraction, rest)

/-- The distance of a time from the standard time, in its usual form. -/
def readOffset (text : List Char) : Option (String × List Char) :=
  match text with
  | 'Z' :: rest => some ("Z", rest)
  | 'z' :: rest => some ("Z", rest)
  | sign :: rest =>
      if sign == '+' || sign == '-' then do
        let (hour, rest) ← readField 2 0 23 rest
        let rest ← readChar ':' rest
        let (minute, rest) ← readField 2 0 59 rest
        return (sign.toString ++ padded 2 hour ++ ":" ++ padded 2 minute, rest)
      else none
  | [] => none

/-- The time of the day that follows a date, and its offset. -/
def readTimeOfDate (text : List Char) : Option (String × List Char) := do
  let mark :: rest := text | none
  if mark == 'T' || mark == 't' || mark == ' ' then
    let (time, rest) ← readTime rest
    let (offset, rest) := (readOffset rest).getD ("", rest)
    return ("T" ++ time ++ offset, rest)
  else none

/-- A point in time: a date, a time of the day, or both. -/
def readStamp (text : List Char) : Reading String :=
  match readDate text with
  | some (date, rest) =>
      let (time, rest) := (readTimeOfDate rest).getD ("", rest)
      some (date ++ time, rest)
  | none => readTime text

/-- The only field of a point in time. -/
def stampField : String := "$__toml_private_datetime"

/-- A number, a truth value or a point in time. -/
def readScalar (text : List Char) : Reading Json :=
  if "true".toList.isPrefixOf text then some (.bool true, text.drop 4)
  else if "false".toList.isPrefixOf text then some (.bool false, text.drop 5)
  else
    match readStamp text with
    | some (stamp, rest) => some (.object [(stampField, .string stamp)], rest)
    | none => (readReal text).or (readInteger text)

end Toml

end DocumentIngest
