import DocumentIngest.Calendar.Stamp
import DocumentIngest.Dataset
import DocumentIngest.Template.Resolved
import DocumentIngest.Text.LetterCase

/-!
# Handlers

The functions that a template can call.  Each takes resolved arguments and
parts and the row at hand, and gives a resolved value or a fault.  Arguments
configure a handler; what it works on is mostly its first part.
-/

namespace DocumentIngest

/-- Everything that a template may look at while it resolves. -/
structure RowContext where
  dataset : Dataset
  row : Nat
  /-- Parameters of the work item and its ingest document. -/
  parameters : Json.Fields
deriving Repr

/-- The resolved inputs of a handler. -/
structure HandlerInputs where
  arguments : List Resolved
  parts : List Resolved
deriving DecidableEq, Repr

/-- The functions that templates can call. -/
inductive Handler where
  | deriveKey | round | scale | upper | lower | coalesce | isoTime | epoch | intervalStart
  | parameter | metadata | rowIndex | column | levels | validEpoch
deriving DecidableEq, Repr

namespace Handler

/-- The name a template calls a handler by. -/
def name : Handler → String
  | deriveKey => "derive_key"
  | round => "round"
  | scale => "scale"
  | upper => "upper"
  | lower => "lower"
  | coalesce => "coalesce"
  | isoTime => "iso_time"
  | epoch => "epoch"
  | intervalStart => "interval_start"
  | parameter => "param"
  | metadata => "metadata"
  | rowIndex => "row_index"
  | column => "column"
  | levels => "levels"
  | validEpoch => "valid_epoch"

/-- The handlers that every builder has. -/
def common : List Handler :=
  [coalesce, deriveKey, epoch, intervalStart, isoTime, lower, metadata, parameter, round,
    rowIndex, scale, upper]

/-- The handler of a name among those provided. -/
def find? (provided : List Handler) (name : String) : Option Handler :=
  provided.find? fun handler => handler.name == name

/-- The names of the handlers provided, in ascending order. -/
def sortedNames (provided : List Handler) : List String :=
  Keyed.keys (Keyed.ofPairs (provided.map fun handler => (handler.name, ())))

/-- The names of the handlers provided, in quotes and in braces. -/
def shownNames (provided : List Handler) : String :=
  String.ofList
    ('\x7b' :: (Shown.separated ((sortedNames provided).map Shown.text) ++ ['\x7d']))

end Handler

/-- Why a handler gave no value. -/
inductive HandlerFault where
  | missingArgument (handler : Handler) (index : Nat)
  | argumentNotText (handler : Handler) (index : Nat)
  | argumentNotNumber (handler : Handler) (index : Nat)
  | unjoinable
  | notNumber (handler : Handler) (value : Resolved)
  | notText (value : Resolved)
  | notSeconds (handler : Handler) (value : Resolved)
  | notSecondsIn (field : String) (value : Resolved)
  | epochOutOfRange (seconds : Binary64)
  | maskMismatch (text mask : String) (fault : StampFault)
  | badInterval (interval : Binary64)
  | badCount (count : Binary64)
  /-- A list is asked for that cannot be held. -/
  | overlong (count : Nat)
deriving DecidableEq, Repr

namespace HandlerFault

def message : HandlerFault → String
  | missingArgument handler index => s!"{handler.name} expects argument #{index + 1}"
  | argumentNotText handler index => s!"{handler.name} argument #{index + 1} must be text"
  | argumentNotNumber handler index => s!"{handler.name} argument #{index + 1} must be a number"
  | unjoinable => "derive_key can only join scalars"
  | notNumber handler value => s!"{handler.name} needs a number, got {value.shown}"
  | notText value => s!"expected text, got {value.shown}"
  | notSeconds handler value => s!"{handler.name} needs epoch seconds, got {value.shown}"
  | notSecondsIn field value =>
      "valid_epoch needs epoch seconds in '" ++ field ++ "', got " ++ value.shown
  | epochOutOfRange seconds => s!"epoch {messageStyle.render seconds} is out of range"
  | maskMismatch text mask fault =>
      "'" ++ text ++ "' does not match mask '" ++ mask ++ "': " ++ fault.message
  | badInterval interval =>
      s!"interval must be a positive number of seconds, got {messageStyle.render interval}"
  | badCount count =>
      s!"levels needs a whole, non-negative count, got {messageStyle.render count}"
  | overlong _ => "capacity overflow"

/-- Whether a fault breaks off the whole build, not only the row. -/
def breaksOff : HandlerFault → Bool
  | overlong _ => true
  | _ => false

end HandlerFault

namespace Calendar

/-- Floors a time to a multiple of an interval, given division, floor,
multiplication and integer part of the numbers it is computed with. -/
def floorWith {α : Type} (divide multiply : α → α → α) (floor : α → α) (toInt : α → Int)
    (seconds interval : α) : Int :=
  toInt (multiply (floor (divide seconds interval)) interval)

/-- The start of the interval that a time lies in. -/
def intervalStart (seconds interval : Binary64) : Except HandlerFault Int :=
  if interval.isFinite && !interval.negative && !interval.isZero then
    .ok (floorWith Binary64.div Binary64.mul Binary64.floor Binary64.toInt64 seconds interval)
  else .error (.badInterval interval)

end Calendar

namespace HandlerInputs

/-- The argument at an index. -/
def argument (inputs : HandlerInputs) (handler : Handler) (index : Nat) :
    Except HandlerFault Resolved :=
  match inputs.arguments[index]? with
  | some value => .ok value
  | none => .error (.missingArgument handler index)

/-- The argument at an index, as text. -/
def argumentText (inputs : HandlerInputs) (handler : Handler) (index : Nat) :
    Except HandlerFault String := do
  match (← inputs.argument handler index).asKey? with
  | some text => .ok text
  | none => .error (.argumentNotText handler index)

/-- The argument at an index, as a number. -/
def argumentNumber (inputs : HandlerInputs) (handler : Handler) (index : Nat) :
    Except HandlerFault Binary64 := do
  match (← inputs.argument handler index).asBinary64? with
  | some value => .ok value
  | none => .error (.argumentNotNumber handler index)

/-- The first part; missing when there is none. -/
def firstPart (inputs : HandlerInputs) : Resolved :=
  inputs.parts.headD .missing

/-- All inputs, arguments first. -/
def all (inputs : HandlerInputs) : List Resolved :=
  inputs.arguments ++ inputs.parts

end HandlerInputs

namespace Handler

/-- The texts of values inside a key, or nothing when a value is missing. -/
def keyParts : List Resolved → Except HandlerFault (Option (List String))
  | [] => .ok (some [])
  | value :: rest =>
      if value.isMissing then .ok none
      else
        match value.asKey? with
        | none => .error .unjoinable
        | some part => (keyParts rest).map fun parts => parts.map (part :: ·)

/-- Applies a function to a text; missing stays missing. -/
def mapText (f : String → String) : Resolved → Except HandlerFault Resolved
  | .missing => .ok .missing
  | .scalar (.string text) => .ok (.ofText (f text))
  | value => .error (.notText value)

/-- Applies a function to a number; missing stays missing. -/
def mapNumber (fault : Resolved → HandlerFault) (f : Binary64 → Except HandlerFault Resolved)
    (value : Resolved) : Except HandlerFault Resolved :=
  if value.isMissing then .ok .missing
  else
    match value.asBinary64? with
    | none => .error (fault value)
    | some number => f number

/-- Ten. -/
def ten : Binary64 := Binary64.ofInt 10

/-- Rounds to a number of decimal places. -/
def roundTo (places value : Binary64) : Resolved :=
  let factor := Binary64.powInt ten places.toInt32
  .ofBinary64 (Binary64.div (Binary64.round (Binary64.mul value factor)) factor)

/-- The length of the longest list that can be held: a list takes at most
`2 ^ 63 - 1` bytes, and each of its values 32.  Memory is taken to be large enough for
every list up to that length. -/
def longestList : Nat := (2 ^ 63 - 1) / 32

/-- The numbers below a count, unless they are more than a list can hold. -/
def countUp (count : Nat) : Except HandlerFault Resolved :=
  if count ≤ longestList then .ok (.list ((List.range count).map Json.ofNat))
  else .error (.overlong count)

/-- What a handler gives for its inputs at a row. -/
def apply (handler : Handler) (inputs : HandlerInputs) (context : RowContext) :
    Except HandlerFault Resolved :=
  match handler with
  | deriveKey => do
      match ← keyParts inputs.all with
      | none => .ok .missing
      | some parts => .ok (.ofText (":".intercalate parts))
  | round => do
      let places ← inputs.argumentNumber handler 0
      mapNumber (.notNumber handler) (fun value => .ok (roundTo places value)) inputs.firstPart
  | scale => do
      let factor ← inputs.argumentNumber handler 0
      mapNumber (.notNumber handler)
        (fun value => .ok (.ofBinary64 (Binary64.mul value factor))) inputs.firstPart
  | upper => mapText LetterCase.upper inputs.firstPart
  | lower => mapText LetterCase.lower inputs.firstPart
  | coalesce => .ok ((inputs.all.find? fun value => !value.isMissing).getD .missing)
  | isoTime =>
      mapNumber (.notSeconds handler)
        (fun seconds =>
          match Calendar.stampText? (Binary64.floor seconds).toInt64 with
          | some text => .ok (.ofText text)
          | none => .error (.epochOutOfRange seconds))
        inputs.firstPart
  | epoch => do
      let mask ← inputs.argumentText handler 0
      match inputs.firstPart.asKey? with
      | none => .ok .missing
      | some text =>
          match Calendar.secondsUnder text mask with
          | .ok seconds => .ok (.scalar (.ofInt seconds))
          | .error fault => .error (.maskMismatch text mask fault)
  | intervalStart => do
      let interval ← inputs.argumentNumber handler 0
      mapNumber (.notSeconds handler)
        (fun seconds =>
          (Calendar.intervalStart seconds interval).map fun start => .scalar (.ofInt start))
        inputs.firstPart
  | parameter => do
      let name ← inputs.argumentText handler 0
      .ok (.ofOption (Keyed.lookup context.parameters name))
  | metadata => do
      let name ← inputs.argumentText handler 0
      .ok (.ofOption (context.dataset.metadata name))
  | rowIndex => .ok (.scalar (.ofNat context.row))
  | column => do
      let name ← inputs.argumentText handler 0
      .ok (match context.dataset.column name with
        | some values => .list values
        | none => .missing)
  | levels => do
      let count ← inputs.argumentNumber handler 0
      if count.isWhole ∧ 0 ≤ count.toRat then countUp count.toRat.num.toNat
      else .error (.badCount count)
  | validEpoch => do
      let field ← inputs.argumentText handler 0
      let interval ← inputs.argumentNumber handler 1
      mapNumber (.notSecondsIn field)
        (fun seconds =>
          (Calendar.intervalStart seconds interval).map fun start => .scalar (.ofInt start))
        (.ofOption (context.dataset.field field context.row))

end Handler

end DocumentIngest
