import DocumentIngest.Assembly.Compiled
import DocumentIngest.Assembly.Outcome

/-!
# One document a row

Every row becomes a document.  A row whose id is a list becomes one document for
each element: arrays of the same length in the body are shared out among them,
everything else stands in each of them.
-/

namespace DocumentIngest

namespace RowPerDocument

mutual

/-- The share of one element out of `width`: arrays of that length that are
reached through objects give their element. -/
def share (index width : Nat) : Json → Json
  | .array items =>
      if items.length = width then
        match items[index]? with
        | some item => item
        | none => .array items
      else .array items
  | .object fields => .object (shareFields index width fields)
  | .null => .null
  | .bool value => .bool value
  | .number value => .number value
  | .string text => .string text

/-- The share of one element in the fields of an object. -/
def shareFields (index width : Nat) : List (String × Json) → List (String × Json)
  | [] => []
  | (name, value) :: rest => (name, share index width value) :: shareFields index width rest

end

/-- Adds the documents of the elements of an id list, from an index on. -/
def addElements (body : Json) (width index : Nat) (outcome : BuildOutcome) :
    List Json → BuildOutcome
  | [] => outcome
  | element :: rest =>
      let outcome :=
        match (Resolved.ofJson element).asKey? with
        | some id => outcome.put id ((share index width body).withId id)
        | none => outcome.countWithoutId
      addElements body width (index + 1) outcome rest

/-- Adds what one row contributes. -/
def addRow (compiled : CompiledDocument) (context : RowContext) (outcome : BuildOutcome) :
    BuildOutcome :=
  let handlers := BuilderType.rowPerDocument.handlers
  match compiled.id.resolve handlers context false with
  | .error _ => outcome.countWithoutId
  | .ok .missing => outcome.countWithoutId
  | .ok id =>
      match compiled.body.resolve handlers context compiled.optionalFields with
      | .error _ => outcome.countSkipped
      | .ok body =>
          let body := body.getD (.object [])
          match id with
          | .list ids => (addElements body ids.length 0 outcome ids).countOk
          | id =>
              match id.asKey? with
              | some key => (outcome.put key (body.withId key)).countOk
              | none => outcome.countWithoutId

/-- Whether the build breaks off at a row: the id of the row, or its body if it has an
id, asks for a list that cannot be held. -/
def rowBreaksOff (compiled : CompiledDocument) (context : RowContext) : Bool :=
  let handlers := BuilderType.rowPerDocument.handlers
  match compiled.id.resolve handlers context false with
  | .error error => error.breaksOff
  | .ok .missing => false
  | .ok _ =>
      match compiled.body.resolve handlers context compiled.optionalFields with
      | .error error => error.breaksOff
      | .ok _ => false

/-- Whether the build breaks off at some row of a dataset. -/
def breaksOff (compiled : CompiledDocument) (dataset : Dataset) (parameters : Json.Fields) :
    Bool :=
  (List.range dataset.rowCount).any fun row => rowBreaksOff compiled ⟨dataset, row, parameters⟩

/-- Builds all rows of a dataset in order, if the build does not break off. -/
def build (compiled : CompiledDocument) (dataset : Dataset) (parameters : Json.Fields) :
    BuildOutcome :=
  .overRows dataset.rowCount fun outcome row =>
    addRow compiled ⟨dataset, row, parameters⟩ outcome

end RowPerDocument

end DocumentIngest
