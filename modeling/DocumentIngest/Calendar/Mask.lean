import DocumentIngest.Text.Blank

/-!
# Time masks

A mask says how a text spells a point in time: `%Y%m%d_%H%M.json`.  It is cut
into items, each of which reads a part of the text.  A faulty specifier ends the
mask, for nothing behind it is ever reached.
-/

namespace DocumentIngest

/-- A number that a time mask can ask for. -/
inductive TimeNumber where
  | year | yearHundreds | yearRest | isoYear | isoYearRest
  | quarter | month | day | weekFromSunday | weekFromMonday | isoWeek
  | weekdayFromSunday | weekdayFromMonday | ordinal
  | hour | hourOfHalf | minute | second | nanosecond | timestamp
deriving DecidableEq, Repr

/-- One item of a time mask. -/
inductive MaskItem where
  /-- Exactly this text. -/
  | literal (text : List Char)
  /-- Any number of blanks, none included. -/
  | blanks
  | number (field : TimeNumber)
  /-- A month by the first three letters of its name. -/
  | shortMonth
  /-- A month by the first three letters or all of its name. -/
  | longMonth
  | shortWeekday
  | longWeekday
  /-- Before or after noon, `am` or `pm`. -/
  | dayHalf
  /-- A point and digits, or nothing. -/
  | fraction
  /-- A point and exactly so many digits, or nothing. -/
  | fractionOf (digits : Nat)
  /-- Exactly so many digits of a second, without a point. -/
  | digitsOf (digits : Nat)
  /-- Everything up to a blank. -/
  | zoneName
  /-- An offset from universal time such as `+05:30`. -/
  | zoneOffset (allowsZulu allowsHoursOnly : Bool)
  /-- A whole internet time stamp such as `2023-10-19T12:00:00Z`. -/
  | internetStamp
  /-- A specifier that does not exist. -/
  | fault
deriving DecidableEq, Repr

namespace Mask

open MaskItem

/-- The items of a specifier of one letter. -/
def specifier? (letter : Char) : Option (List MaskItem) :=
  match letter with
  | 'A' => some [longWeekday]
  | 'B' => some [longMonth]
  | 'C' => some [number .yearHundreds]
  | 'D' | 'x' =>
      some [number .month, literal ['/'], number .day, literal ['/'], number .yearRest]
  | 'F' => some [number .year, literal ['-'], number .month, literal ['-'], number .day]
  | 'G' => some [number .isoYear]
  | 'H' | 'k' => some [number .hour]
  | 'I' | 'l' => some [number .hourOfHalf]
  | 'M' => some [number .minute]
  | 'P' | 'p' => some [dayHalf]
  | 'R' => some [number .hour, literal [':'], number .minute]
  | 'S' => some [number .second]
  | 'T' | 'X' =>
      some [number .hour, literal [':'], number .minute, literal [':'], number .second]
  | 'U' => some [number .weekFromSunday]
  | 'V' => some [number .isoWeek]
  | 'W' => some [number .weekFromMonday]
  | 'Y' => some [number .year]
  | 'Z' => some [zoneName]
  | 'a' => some [shortWeekday]
  | 'b' | 'h' => some [shortMonth]
  | 'c' =>
      some [shortWeekday, blanks, shortMonth, blanks, number .day, blanks, number .hour,
        literal [':'], number .minute, literal [':'], number .second, blanks, number .year]
  | 'd' | 'e' => some [number .day]
  | 'f' => some [number .nanosecond]
  | 'g' => some [number .isoYearRest]
  | 'j' => some [number .ordinal]
  | 'm' => some [number .month]
  | 'n' | 't' => some [blanks]
  | 'q' => some [number .quarter]
  | 'r' =>
      some [number .hourOfHalf, literal [':'], number .minute, literal [':'], number .second,
        blanks, dayHalf]
  | 's' => some [number .timestamp]
  | 'u' => some [number .weekdayFromMonday]
  | 'v' => some [number .day, literal ['-'], shortMonth, literal ['-'], number .year]
  | 'w' => some [number .weekdayFromSunday]
  | 'y' => some [number .yearRest]
  | 'z' => some [zoneOffset false false]
  | '+' => some [internetStamp]
  | '%' => some [literal ['%']]
  | _ => none

/-- Whether a digit may stand in a specifier of so many digits of a second. -/
def isFractionWidth (c : Char) : Bool :=
  c = '3' || c = '6' || c = '9'

/-- The items of the specifier behind a percent sign, and the rest of the mask. -/
def takeSpecifier (mask : List Char) : Option (List MaskItem × List Char) :=
  match mask with
  | '#' :: 'z' :: rest => some ([zoneOffset true true], rest)
  | ':' :: ':' :: ':' :: 'z' :: rest => some ([zoneOffset false false], rest)
  | ':' :: ':' :: 'z' :: rest => some ([zoneOffset false false], rest)
  | ':' :: 'z' :: rest => some ([zoneOffset false false], rest)
  | '.' :: 'f' :: rest => some ([fraction], rest)
  | '.' :: width :: 'f' :: rest =>
      if isFractionWidth width then some ([fractionOf (width.toNat - 48)], rest) else none
  | letter :: rest =>
      if letter = '-' ∨ letter = '0' ∨ letter = '_' then
        -- padding may only be asked for a single number
        match rest with
        | [] => none
        | letter :: rest =>
            match specifier? letter with
            | some [number field] => some ([number field], rest)
            | _ => none
      else if isFractionWidth letter then
        match rest with
        | 'f' :: rest => some ([digitsOf (letter.toNat - 48)], rest)
        | _ => none
      else (specifier? letter).map fun items => (items, rest)
  | [] => none

/-- Whether a character is neither a blank nor a percent sign. -/
def isPlain (c : Char) : Bool :=
  !Text.isBlank c && c != '%'

/-- Cuts a mask into items.  The length of the mask is enough fuel. -/
def itemsWithin : Nat → List Char → List MaskItem
  | _, [] => []
  | 0, _ => []
  | fuel + 1, c :: rest =>
      if c = '%' then
        match takeSpecifier rest with
        | none => [fault]
        | some (items, rest) => items ++ itemsWithin fuel rest
      else if Text.isBlank c then
        blanks :: itemsWithin fuel (rest.dropWhile Text.isBlank)
      else
        literal (c :: rest.takeWhile isPlain) :: itemsWithin fuel (rest.dropWhile isPlain)

/-- The items of a mask. -/
def items (mask : String) : List MaskItem :=
  itemsWithin mask.toList.length mask.toList

end Mask

end DocumentIngest
