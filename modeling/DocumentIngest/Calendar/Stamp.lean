import DocumentIngest.Calendar.Date
import DocumentIngest.Calendar.Mask

/-!
# Reading a time stamp under a mask

The items of a mask fill in a form of optional fields; a field that is met twice
must agree with itself.  From the form a date and a time are determined, as long
as the fields given are enough, and every other field has to agree with them.
`secondsUnder` reads a date with a time, and failing that a date alone.
-/

namespace DocumentIngest

/-- Why a text is not a time stamp under a mask. -/
inductive StampFault where
  | outOfRange
  | impossible
  | notEnough
  | invalid
  | tooShort
  | tooLong
  | badMask
deriving DecidableEq, Repr

namespace StampFault

def message : StampFault → String
  | outOfRange => "input is out of range"
  | impossible => "no possible date and time matching input"
  | notEnough => "input is not enough for unique date and time"
  | invalid => "input contains invalid characters"
  | tooShort => "premature end of input"
  | tooLong => "trailing input"
  | badMask => "bad or unsupported format string"

end StampFault

/-- What a text has said about a point in time. -/
structure StampForm where
  year : Option Int := none
  yearHundreds : Option Int := none
  yearRest : Option Int := none
  isoYear : Option Int := none
  isoYearRest : Option Int := none
  quarter : Option Nat := none
  month : Option Nat := none
  day : Option Nat := none
  weekFromSunday : Option Nat := none
  weekFromMonday : Option Nat := none
  isoWeek : Option Nat := none
  /-- Monday is zero. -/
  weekday : Option Nat := none
  ordinal : Option Nat := none
  /-- Zero before noon, one after. -/
  half : Option Nat := none
  hourOfHalf : Option Nat := none
  minute : Option Nat := none
  second : Option Nat := none
  nanosecond : Option Nat := none
  timestamp : Option Int := none
  offset : Option Int := none
deriving DecidableEq, Repr, Inhabited

namespace StampForm

/-- Fills in a field that is empty or already holds the same value. -/
def agree {α : Type} [DecidableEq α] (old : Option α) (new : α) : Except StampFault (Option α) :=
  match old with
  | none => .ok (some new)
  | some value => if value = new then .ok (some new) else .error .impossible

/-- A number within bounds. -/
def within (least greatest value : Int) : Except StampFault Nat :=
  if least ≤ value ∧ value ≤ greatest then .ok value.toNat else .error .outOfRange

/-- A year number; it has to fit 32 bits. -/
def yearWithin (least value : Int) : Except StampFault Int :=
  if least ≤ value ∧ value < 2 ^ 31 then .ok value else .error .outOfRange

def setHalf (form : StampForm) (half : Nat) : Except StampFault StampForm := do
  let half ← agree form.half half
  .ok { form with half }

def setHour (form : StampForm) (value : Int) : Except StampFault StampForm := do
  let hour ← within 0 23 value
  let half ← agree form.half (hour / 12)
  let hourOfHalf ← agree form.hourOfHalf (hour % 12)
  .ok { form with half, hourOfHalf }

def setMonth (form : StampForm) (value : Int) : Except StampFault StampForm := do
  let month ← agree form.month (← within 1 12 value)
  .ok { form with month }

def setWeekday (form : StampForm) (value : Nat) : Except StampFault StampForm := do
  let weekday ← agree form.weekday value
  .ok { form with weekday }

def setNanosecond (form : StampForm) (value : Int) : Except StampFault StampForm := do
  let nanosecond ← agree form.nanosecond (← within 0 999999999 value)
  .ok { form with nanosecond }

def setOffset (form : StampForm) (value : Int) : Except StampFault StampForm := do
  let offset ← agree form.offset value
  .ok { form with offset }

/-- Fills in the number that a mask asked for. -/
def setNumber (form : StampForm) (field : TimeNumber) (value : Int) :
    Except StampFault StampForm :=
  match field with
  | .year => do
      let year ← agree form.year (← yearWithin (-2 ^ 31) value)
      .ok { form with year }
  | .yearHundreds => do
      let yearHundreds ← agree form.yearHundreds (← yearWithin 0 value)
      .ok { form with yearHundreds }
  | .yearRest => do
      let yearRest ← agree form.yearRest ((← within 0 99 value : Nat) : Int)
      .ok { form with yearRest }
  | .isoYear => do
      let isoYear ← agree form.isoYear (← yearWithin (-2 ^ 31) value)
      .ok { form with isoYear }
  | .isoYearRest => do
      let isoYearRest ← agree form.isoYearRest ((← within 0 99 value : Nat) : Int)
      .ok { form with isoYearRest }
  | .quarter => do
      let quarter ← agree form.quarter (← within 1 4 value)
      .ok { form with quarter }
  | .month => setMonth form value
  | .day => do
      let day ← agree form.day (← within 1 31 value)
      .ok { form with day }
  | .weekFromSunday => do
      let weekFromSunday ← agree form.weekFromSunday (← within 0 53 value)
      .ok { form with weekFromSunday }
  | .weekFromMonday => do
      let weekFromMonday ← agree form.weekFromMonday (← within 0 53 value)
      .ok { form with weekFromMonday }
  | .isoWeek => do
      let isoWeek ← agree form.isoWeek (← within 1 53 value)
      .ok { form with isoWeek }
  | .weekdayFromSunday => do
      let number ← within 0 6 value
      setWeekday form ((number + 6) % 7)
  | .weekdayFromMonday => do
      let number ← within 1 7 value
      setWeekday form (number - 1)
  | .ordinal => do
      let ordinal ← agree form.ordinal (← within 1 366 value)
      .ok { form with ordinal }
  | .hour => setHour form value
  | .hourOfHalf => do
      let hour ← within 1 12 value
      let hourOfHalf ← agree form.hourOfHalf (hour % 12)
      .ok { form with hourOfHalf }
  | .minute => do
      let minute ← agree form.minute (← within 0 59 value)
      .ok { form with minute }
  | .second => do
      let second ← agree form.second (← within 0 60 value)
      .ok { form with second }
  | .nanosecond => setNanosecond form value
  | .timestamp => do
      let timestamp ← agree form.timestamp value
      .ok { form with timestamp }

/-- A year from its full number, its hundreds and its rest.  A rest alone is one
of the years from 1970 to 2069. -/
def resolveYear (full hundreds rest : Option Int) : Except StampFault (Option Int) :=
  match full, hundreds, rest with
  | year, none, none => .ok year
  | some year, hundreds, rest =>
      if year < 0 then .error .impossible
      else if hundreds.getD (year / 100) = year / 100 ∧ rest.getD (year % 100) = year % 100 then
        .ok (some year)
      else .error .impossible
  | none, some hundreds, some rest =>
      if hundreds * 100 + rest < 2 ^ 31 then .ok (some (hundreds * 100 + rest))
      else .error .outOfRange
  | none, none, some rest => .ok (some (rest + if rest < 70 then 2000 else 1900))
  | none, some _, none => .error .notEnough

/-- Whether a field is empty or holds the given value. -/
def allows {α : Type} [DecidableEq α] (field : Option α) (value : α) : Bool :=
  decide (field.getD value = value)

/-- Whether the hundreds or rest of a year are empty or hold the given value;
a negative year has neither. -/
def allowsPart (field : Option Int) (year part : Int) : Bool :=
  match field with
  | none => true
  | some value => decide (0 ≤ year) && decide (value = part)

def agreesWithMonthDay (form : StampForm) (date : Date) : Bool :=
  allows form.year date.year && allowsPart form.yearHundreds date.year (date.year / 100) &&
    allowsPart form.yearRest date.year (date.year % 100) && allows form.month date.month &&
    allows form.day date.day

def agreesWithIsoWeek (form : StampForm) (date : Date) : Bool :=
  allows form.isoYear date.isoYear &&
    allowsPart form.isoYearRest date.isoYear (date.isoYear % 100) &&
    allows form.isoWeek date.isoWeek && allows form.weekday date.weekday

def agreesWithOrdinal (form : StampForm) (date : Date) : Bool :=
  allows form.ordinal date.ordinal && allows form.weekFromSunday (date.weekFrom 6) &&
    allows form.weekFromMonday (date.weekFrom 0)

/-- The date of a weekday in a week of a year, weeks starting at the given
weekday. -/
def ofWeek (year : Int) (week weekday start : Nat) : Except StampFault Date :=
  match Date.ofOrdinal? year 1 with
  | none => .error .outOfRange
  | some first =>
      let weekOne : Int := 1 + (Date.daysSince start first.weekday : Nat)
      let ordinal := weekOne + ((week : Int) - 1) * 7 + (Date.daysSince weekday start : Nat)
      if ordinal ≤ 0 then .error .impossible
      else
        match Date.ofOrdinal? year ordinal.toNat with
        | some date => .ok date
        | none => .error .impossible

/-- The date that exists, or that a field is out of range. -/
def existing (date : Option Date) : Except StampFault Date :=
  match date with
  | some date => .ok date
  | none => .error .outOfRange

/-- A date that was found from some fields, and whether the others agree. -/
def candidate (form : StampForm) (year isoYear : Option Int) : Except StampFault (Date × Bool) :=
  match year, isoYear, form with
  | some year, _, { month := some month, day := some day, .. } => do
      let date ← existing (Date.ofMonthDay? year month day)
      .ok (date, form.agreesWithIsoWeek date && form.agreesWithOrdinal date)
  | some year, _, { ordinal := some ordinal, .. } => do
      let date ← existing (Date.ofOrdinal? year ordinal)
      .ok (date, form.agreesWithMonthDay date && form.agreesWithIsoWeek date &&
        form.agreesWithOrdinal date)
  | some year, _, { weekFromSunday := some week, weekday := some weekday, .. } => do
      let date ← ofWeek year week weekday 6
      .ok (date, form.agreesWithMonthDay date && form.agreesWithIsoWeek date &&
        form.agreesWithOrdinal date)
  | some year, _, { weekFromMonday := some week, weekday := some weekday, .. } => do
      let date ← ofWeek year week weekday 0
      .ok (date, form.agreesWithMonthDay date && form.agreesWithIsoWeek date &&
        form.agreesWithOrdinal date)
  | _, some isoYear, { isoWeek := some week, weekday := some weekday, .. } => do
      let date ← existing (Date.ofIsoWeek? isoYear week weekday)
      .ok (date, form.agreesWithMonthDay date && form.agreesWithOrdinal date)
  | _, _, _ => .error .notEnough

/-- The date of a form. -/
def date (form : StampForm) : Except StampFault Date := do
  let year ← resolveYear form.year form.yearHundreds form.yearRest
  let isoYear ← resolveYear form.isoYear none form.isoYearRest
  let (date, agrees) ← candidate form year isoYear
  if agrees && allows form.quarter date.quarter then .ok date else .error .impossible

/-- The time of day of a form: its seconds, and whether it is a leap second,
which counts as the second before it. -/
def time (form : StampForm) : Except StampFault (Nat × Bool) :=
  match form.half, form.hourOfHalf, form.minute with
  | some half, some hour, some minute =>
      if form.nanosecond.isSome && form.second.isNone then .error .notEnough
      else
        let second := form.second.getD 0
        .ok ((half * 12 + hour) * 3600 + minute * 60 + min second 59, decide (second = 60))
  | _, _, _ => .error .notEnough

/-- Seconds since the epoch of a date and a second of that day. -/
def secondsAt (date : Date) (second : Nat) : Int :=
  date.dayNumber * Calendar.secondsPerDay + second

/-- Completes a form from its own timestamp. -/
def fromTimestamp (form : StampForm) (timestamp : Int) : Except StampFault Int := do
  let day ← existing (Date.inRange? ⟨timestamp / Calendar.secondsPerDay⟩)
  let moment := timestamp % Calendar.secondsPerDay
  let (day, moment, form) ←
    if form.second = some 60 then
      if moment % 60 = 59 then pure (day, moment, form)
      else if moment % 60 = 0 then
        if moment = 0 then do
          let before ← existing (Date.inRange? ⟨day.dayNumber - 1⟩)
          pure (before, 86399, form)
        else pure (day, moment - 1, form)
      else .error .impossible
    else do
      let form ← setNumber form .second (moment % 60)
      pure (day, moment, form)
  let form ← setNumber form .year day.year
  let form ← setNumber form .ordinal day.ordinal
  let form ← setHour form (moment / 3600)
  let form ← setNumber form .minute (moment / 60 % 60)
  let date ← form.date
  let (second, _) ← form.time
  .ok (secondsAt date second)

/-- Seconds since the epoch of a form that gives a date and a time, or a
timestamp. -/
def seconds (form : StampForm) : Except StampFault Int :=
  match form.date, form.time with
  | .ok date, .ok (second, leap) =>
      let found := secondsAt date second
      match form.timestamp with
      | none => .ok found
      | some given =>
          if given = found ∨ (leap = true ∧ given = found + 1) then .ok found
          else .error .impossible
  | date, time =>
      match form.timestamp with
      | some timestamp =>
          let faults :=
            (match date with | .error fault => [fault] | .ok _ => []) ++
              (match time with | .error fault => [fault] | .ok _ => [])
          if faults.contains .outOfRange then .error .outOfRange
          else if faults.contains .impossible then .error .impossible
          else fromTimestamp form timestamp
      | none =>
          match date, time with
          | .error fault, _ => .error fault
          | _, .error fault => .error fault
          | _, _ => .error .notEnough

end StampForm

namespace StampReader

/-- The number of bytes of a text. -/
def byteLength (text : List Char) : Nat :=
  text.foldl (fun size c => size + c.utf8Size) 0

/-- Reads digits, at most so many; a number beyond 64 bits is out of range. -/
def takeNumber (value : Int) : Option Nat → List Char → Except StampFault (Int × List Char)
  | some 0, text => .ok (value, text)
  | _, [] => .ok (value, [])
  | width, c :: rest =>
      if c.isDigit then
        let grown := value * 10 + (c.toNat - 48 : Nat)
        if grown < 2 ^ 63 then takeNumber grown (width.map (· - 1)) rest else .error .outOfRange
      else .ok (value, c :: rest)

/-- Reads a number of at least one digit and at most the given width. -/
def number (width : Option Nat) (text : List Char) : Except StampFault (Int × List Char) :=
  match text with
  | [] => .error .tooShort
  | c :: _ => if c.isDigit then takeNumber 0 width text else .error .invalid

/-- Reads a number of exactly so many digits. -/
def exactNumber (width : Nat) (text : List Char) : Except StampFault (Int × List Char) :=
  if byteLength text < width then .error .tooShort
  else if (text.take width).all Char.isDigit then takeNumber 0 (some width) text
  else .error .invalid

/-- The widest a number may be, and whether it may have a sign. -/
def widthOf : TimeNumber → Option Nat × Bool
  | .year | .isoYear => (some 4, true)
  | .quarter | .weekdayFromSunday | .weekdayFromMonday => (some 1, false)
  | .ordinal => (some 3, false)
  | .nanosecond => (some 9, false)
  | .timestamp => (none, false)
  | _ => (some 2, false)

/-- Reads the number that a mask asks for.  A number with a sign may be wider
than one without. -/
def timeNumber (field : TimeNumber) (text : List Char) : Except StampFault (Int × List Char) :=
  let (width, signed) := widthOf field
  match Text.trimLeft text with
  | '-' :: rest =>
      if signed then (number none rest).map fun (value, rest) => (-value, rest)
      else .error .invalid
  | '+' :: rest => if signed then number none rest else .error .invalid
  | text => number width text

/-- Finds the three letters that a text starts with in a list of names. -/
def shortName (names : List String) (text : List Char) : Except StampFault (Nat × List Char) :=
  if byteLength text < 3 then .error .tooShort
  else
    let start := (text.take 3).map Char.toLower
    match names.findIdx? fun name => name.toList = start with
    | some index => .ok (index, text.drop 3)
    | none => .error .invalid

/-- Finds a name by its first three letters and takes the rest of it along if it
follows. -/
def longName (names endings : List String) (text : List Char) :
    Except StampFault (Nat × List Char) := do
  let (index, rest) ← shortName names text
  let ending := ((endings[index]?).getD "").toList
  if (rest.take ending.length).map Char.toLower = ending then
    .ok (index, rest.drop ending.length)
  else .ok (index, rest)

def monthNames : List String :=
  ["jan", "feb", "mar", "apr", "may", "jun", "jul", "aug", "sep", "oct", "nov", "dec"]

def monthEndings : List String :=
  ["uary", "ruary", "ch", "il", "", "e", "y", "ust", "tember", "ober", "ember", "ember"]

def weekdayNames : List String :=
  ["mon", "tue", "wed", "thu", "fri", "sat", "sun"]

def weekdayEndings : List String :=
  ["day", "sday", "nesday", "rsday", "day", "urday", "day"]

/-- Reads the digits of a second behind its point; digits beyond nine are passed
over. -/
def fractionDigits (text : List Char) : Except StampFault (Int × List Char) := do
  let (value, rest) ← number (some 9) text
  let places := text.length - rest.length
  .ok (value * 10 ^ (9 - places), rest.dropWhile Char.isDigit)

/-- Reads exactly so many digits of a second. -/
def fractionOf (digits : Nat) (text : List Char) : Except StampFault (Int × List Char) := do
  let (value, rest) ← exactNumber digits text
  .ok (value * 10 ^ (9 - digits), rest)

/-- Reads the minutes of an offset and closes it. -/
def offsetMinutes (hoursOnly : Bool) (text : List Char) : Except StampFault (Int × List Char) :=
  if byteLength text < 2 then
    if !hoursOnly then .error .tooShort
    else if text.isEmpty then .ok (0, [])
    else .error .tooShort
  else
    match text with
    | tens :: ones :: rest =>
        if '0' ≤ tens ∧ tens ≤ '5' ∧ ones.isDigit then
          .ok (((tens.toNat - 48) * 10 + (ones.toNat - 48) : Nat), rest)
        else if '6' ≤ tens ∧ tens ≤ '9' ∧ ones.isDigit then .error .outOfRange
        else .error .invalid
    | _ => .error .invalid

/-- Reads the hours and minutes of an offset behind its sign, in seconds. -/
def offsetTime (hoursOnly : Bool) (text : List Char) : Except StampFault (Int × List Char) :=
  if byteLength text < 2 then .error .tooShort
  else
    match text with
    | tens :: ones :: rest =>
        if tens.isDigit ∧ ones.isDigit then do
          let hours : Int := ((tens.toNat - 48) * 10 + (ones.toNat - 48) : Nat)
          let rest := rest.dropWhile fun c => c == ':' || Text.isBlank c
          let (minutes, rest) ← offsetMinutes hoursOnly rest
          .ok (hours * 3600 + minutes * 60, rest)
        else .error .invalid
    | _ => .error .invalid

/-- Reads an offset from universal time, in seconds. -/
def offset (allowsZulu hoursOnly : Bool) (text : List Char) :
    Except StampFault (Int × List Char) :=
  match text with
  | [] => .error .tooShort
  | c :: rest =>
      if allowsZulu && (c == 'Z' || c == 'z') then .ok (0, rest)
      else if c = '+' then offsetTime hoursOnly rest
      else if c = '-' ∨ c = '\u2212' then
        (offsetTime hoursOnly rest).map fun (value, rest) => (-value, rest)
      else .error .invalid

/-- Reads one item that is not made of other items. -/
def simpleItem (form : StampForm) (text : List Char) (item : MaskItem) :
    Except StampFault (StampForm × List Char) :=
  match item with
  | .literal expected =>
      if byteLength text < byteLength expected then .error .tooShort
      else if text.take expected.length = expected then .ok (form, text.drop expected.length)
      else .error .invalid
  | .blanks => .ok (form, Text.trimLeft text)
  | .number field => do
      let (value, rest) ← timeNumber field text
      .ok (← form.setNumber field value, rest)
  | .shortMonth => do
      let (index, rest) ← shortName monthNames text
      .ok (← form.setMonth (index + 1 : Nat), rest)
  | .longMonth => do
      let (index, rest) ← longName monthNames monthEndings text
      .ok (← form.setMonth (index + 1 : Nat), rest)
  | .shortWeekday => do
      let (index, rest) ← shortName weekdayNames text
      .ok (← form.setWeekday index, rest)
  | .longWeekday => do
      let (index, rest) ← longName weekdayNames weekdayEndings text
      .ok (← form.setWeekday index, rest)
  | .dayHalf =>
      if byteLength text < 2 then .error .tooShort
      else
        match (text.take 2).map Char.toLower with
        | ['a', 'm'] => do .ok (← form.setHalf 0, text.drop 2)
        | ['p', 'm'] => do .ok (← form.setHalf 1, text.drop 2)
        | _ => .error .invalid
  | .fraction =>
      match text with
      | '.' :: rest => do
          let (value, rest) ← fractionDigits rest
          .ok (← form.setNanosecond value, rest)
      | text => .ok (form, text)
  | .fractionOf digits =>
      match text with
      | '.' :: rest => do
          let (value, rest) ← fractionOf digits rest
          .ok (← form.setNanosecond value, rest)
      | text => .ok (form, text)
  | .digitsOf digits => do
      let (value, rest) ← fractionOf digits text
      .ok (← form.setNanosecond value, rest)
  | .zoneName => .ok (form, text.dropWhile fun c => !Text.isBlank c)
  | .zoneOffset allowsZulu hoursOnly => do
      let (value, rest) ← offset allowsZulu hoursOnly (Text.trimLeft text)
      .ok (← form.setOffset value, rest)
  | .internetStamp | .fault => .error .badMask

/-- Reads items one after another. -/
def simpleItems (form : StampForm) (text : List Char) :
    List MaskItem → Except StampFault (StampForm × List Char)
  | [] => .ok (form, text)
  | item :: items => do
      let (form, text) ← simpleItem form text item
      simpleItems form text items

/-- Reads an internet time stamp: a date, a `T` or a blank, a time with an
optional fraction, and an offset or `UTC`. -/
def internetStamp (form : StampForm) (text : List Char) :
    Except StampFault (StampForm × List Char) := do
  let (form, text) ← simpleItems form text
    [.number .year, .blanks, .literal ['-'], .number .month, .blanks, .literal ['-'],
      .number .day]
  let text ←
    match text with
    | [] => .error .tooShort
    | c :: rest => if c = 'T' ∨ c = 't' ∨ c = ' ' then .ok rest else .error .invalid
  let (form, text) ← simpleItems form text
    [.number .hour, .blanks, .literal [':'], .number .minute, .blanks, .literal [':'],
      .number .second, .fraction, .blanks]
  if (text.take 3).map Char.toLower = ['u', 't', 'c'] then
    .ok (← form.setOffset 0, text.drop 3)
  else
    let (value, rest) ← offset true false text
    .ok (← form.setOffset value, rest)

/-- Reads all items of a mask. -/
def readItems (form : StampForm) (text : List Char) :
    List MaskItem → Except StampFault (StampForm × List Char)
  | [] => .ok (form, text)
  | .internetStamp :: items => do
      let (form, text) ← internetStamp form text
      readItems form text items
  | item :: items => do
      let (form, text) ← simpleItem form text item
      readItems form text items

/-- The form that a whole text fills in under a mask. -/
def form (text mask : String) : Except StampFault StampForm :=
  match readItems {} text.toList (Mask.items mask) with
  | .error fault => .error fault
  | .ok (form, []) => .ok form
  | .ok (_, _ :: _) => .error .tooLong

end StampReader

namespace Calendar

/-- Seconds since the epoch of a text under a mask.  A text that gives no time
of day stands for midnight, in universal time. -/
def secondsUnder (text mask : String) : Except StampFault Int := do
  let form ← StampReader.form text mask
  match form.seconds with
  | .ok seconds => .ok seconds
  | .error _ => (form.date).map fun date => StampForm.secondsAt date 0

end Calendar

end DocumentIngest
