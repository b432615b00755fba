import DocumentIngest.Json

/-!
# Typed records from JSON

A record names its fields once, in order, with a reader for each; the same list
reads the record from an object and from an array of its values in that order.
The fields of an object are read in key order, so of two faults the one under
the lesser key counts; a missing field counts last.
-/

namespace DocumentIngest

/-- Why a value does not have the expected shape. -/
inductive ShapeFault where
  | wrongType
  | wrongValue
  | wrongLength
  | unknownVariant
  | missingField (name : String)
  | repeatedField (name : String)
deriving DecidableEq, Repr

namespace Shape

/-- A reader of values of one type. -/
abbrev Reader (α : Type) := Json → Except ShapeFault α

/-- How exactly a value has to have its shape. -/
inductive Mode where
  /-- An array must not be longer than the record, and a variant must stand alone. -/
  | strict
  /-- Values beyond the last field, and variants beyond the first, are ignored, and
  numbers that are not finite count as `null`. -/
  | lenient
deriving DecidableEq

def text : Reader String
  | .string content => .ok content
  | _ => .error .wrongType

def natural : Reader Nat
  | .number (.integer value) => if 0 ≤ value then .ok value.toNat else .error .wrongValue
  | _ => .error .wrongType

/-- A signed integer of 64 bits. -/
def integer : Reader Int
  | .number (.integer value) => if value < 2 ^ 63 then .ok value else .error .wrongValue
  | _ => .error .wrongType

mutual

/-- A value with `null` in the place of numbers that are not finite. -/
def onlyFinite : Json → Json
  | .number (.real value) => if value.isFinite then .number (.real value) else .null
  | .array items => .array (onlyFiniteItems items)
  | .object entries => .object (onlyFiniteFields entries)
  | .null => .null
  | .bool value => .bool value
  | .number (.integer value) => .number (.integer value)
  | .string content => .string content

/-- The same for the items of an array. -/
def onlyFiniteItems : List Json → List Json
  | [] => []
  | item :: rest => onlyFinite item :: onlyFiniteItems rest

/-- The same for the fields of an object. -/
def onlyFiniteFields : List (String × Json) → List (String × Json)
  | [] => []
  | (name, value) :: rest => (name, onlyFinite value) :: onlyFiniteFields rest

end

/-- Any value. -/
def any : Mode → Reader Json
  | .strict, value => .ok value
  | .lenient, value => .ok (onlyFinite value)

/-- Any fields of an object. -/
def fields (mode : Mode) : Reader Json.Fields
  | .object entries =>
      match mode with
      | .strict => .ok entries
      | .lenient => .ok (onlyFiniteFields entries)
  | _ => .error .wrongType

/-- Absence is `null`. -/
def optional {α : Type} (reader : Reader α) : Reader (Option α)
  | .null => .ok none
  | value => (reader value).map some

/-- Every item of an array. -/
def list {α : Type} (reader : Reader α) : Reader (List α)
  | .array items => items.mapM reader
  | _ => .error .wrongType

/-- One of several words without content.  A word may also stand as the name of
the only field of an object, with `null` under it. -/
def variant {α : Type} (mode : Mode) (words : List (String × α)) : Reader α
  | .string word =>
      match words.lookup word with
      | some value => .ok value
      | none => .error .unknownVariant
  | .object ((word, content) :: rest) =>
      if mode = .strict ∧ rest ≠ [] then .error .wrongValue
      else
        match words.lookup word with
        | none => .error .unknownVariant
        | some value => if content.isNull then .ok value else .error .wrongType
  | .object [] => .error .wrongType
  | _ => .error .wrongType

/-- A field of a record under construction. -/
structure Field (σ : Type) where
  /-- The names it is found under; the first is its own. -/
  names : List String
  required : Bool
  /-- Reads the value and stores it in the record. -/
  store : σ → Json → Except ShapeFault σ

/-- A field that must be there. -/
def required {σ α : Type} (name : String) (reader : Reader α) (set : σ → α → σ) : Field σ :=
  ⟨[name], true, fun record value => (reader value).map (set record)⟩

/-- A field that keeps its default when it is not there. -/
def defaulted {σ α : Type} (name : String) (reader : Reader α) (set : σ → α → σ) : Field σ :=
  ⟨[name], false, fun record value => (reader value).map (set record)⟩

/-- The own name of a field. -/
def Field.name {σ : Type} (field : Field σ) : String :=
  field.names.headD ""

/-- Reads the entries of an object; `seen` holds the own names of fields met. -/
def readEntries {σ : Type} (known : List (Field σ)) (record : σ) (seen : List String) :
    List (String × Json) → Except ShapeFault (σ × List String)
  | [] => .ok (record, seen)
  | (name, value) :: rest =>
      match known.find? fun field => field.names.contains name with
      | none => readEntries known record seen rest
      | some field =>
          if seen.contains field.name then .error (.repeatedField field.name)
          else
            match field.store record value with
            | .error fault => .error fault
            | .ok record => readEntries known record (field.name :: seen) rest

/-- Reads the values of an array as the fields in order. -/
def readItems {σ : Type} (mode : Mode) :
    List (Field σ) → σ → List Json → Except ShapeFault σ
  | [], record, [] => .ok record
  | [], record, _ :: _ => if mode = .strict then .error .wrongLength else .ok record
  | field :: known, record, [] =>
      if field.required then .error .wrongLength else readItems mode known record []
  | field :: known, record, value :: rest =>
      match field.store record value with
      | .error fault => .error fault
      | .ok record => readItems mode known record rest

/-- Reads a record that starts from its defaults. -/
def record {σ : Type} (mode : Mode) (known : List (Field σ)) (defaults : σ) : Reader σ
  | .object entries =>
      match readEntries known defaults [] entries with
      | .error fault => .error fault
      | .ok (record, seen) =>
          match known.find? fun field => field.required && !seen.contains field.name with
          | some field => .error (.missingField field.name)
          | none => .ok record
  | .array items => readItems mode known defaults items
  | _ => .error .wrongType

end Shape

end DocumentIngest
