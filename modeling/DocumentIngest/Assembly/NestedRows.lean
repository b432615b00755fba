import DocumentIngest.Assembly.Compiled
import DocumentIngest.Assembly.Outcome

/-!
# Many rows in one document

Rows with one id make up one document.  The first of them gives the body; if the
template has a data tree, every one of them enters it under its data key.
-/

namespace DocumentIngest

namespace NestedRows

/-- What a row enters into the data of its document: a key and a value, or
nothing when the template has no data.  `none` means that the row has to be left
out. -/
def entry (compiled : CompiledDocument) (context : RowContext) :
    Option (Option (String × Json)) :=
  let handlers := BuilderType.nestedRows.handlers
  match compiled.data, compiled.dataKey with
  | some data, some key =>
      match key.resolve handlers context false with
      | .error _ => none
      | .ok key =>
          match key.asKey? with
          | none => none
          | some key =>
              match data.resolve handlers context compiled.optionalFields with
              | .error _ => none
              | .ok value => some (some (key, value.getD .null))
  | _, _ => some none

/-- Enters a value into the data of a document. -/
def enter (document : Json) (key : String) (value : Json) : Json :=
  match document with
  | .object fields =>
      match Keyed.lookup fields "data" with
      | none => .object (Keyed.insert fields "data" (.object [(key, value)]))
      | some (.object data) =>
          .object (Keyed.insert fields "data" (.object (Keyed.insert data key value)))
      | some _ => document
  | other => other

/-- The document of an id, started by the row at hand if there is none yet. -/
def documentFor (compiled : CompiledDocument) (context : RowContext) (documents : DocumentMap)
    (id : String) : Option Json :=
  match Keyed.lookup documents id with
  | some document => some document
  | none =>
      match compiled.body.resolve BuilderType.nestedRows.handlers context
          compiled.optionalFields with
      | .error _ => none
      | .ok body => some ((body.getD (.object [])).withId id)

/-- Puts the document of a row in place, with what the row enters into it.  A document
that is no object takes no entry, and its row does not count. -/
def putEntry (outcome : BuildOutcome) (id : String) (document : Json) :
    Option (String × Json) → BuildOutcome
  | none => (outcome.put id document).countOk
  | some (key, value) =>
      match document with
      | .object fields => (outcome.put id (enter (.object fields) key value)).countOk
      | other => outcome.put id other

/-- Adds what one row contributes. -/
def addRow (compiled : CompiledDocument) (context : RowContext) (outcome : BuildOutcome) :
    BuildOutcome :=
  match compiled.id.resolve BuilderType.nestedRows.handlers context false with
  | .error _ => outcome.countWithoutId
  | .ok id =>
      match id.asKey? with
      | none => outcome.countWithoutId
      | some id =>
          match entry compiled context with
          | none => outcome.countSkipped
          | some entry =>
              match documentFor compiled context outcome.documents id with
              | none => outcome.countSkipped
              | some document => putEntry outcome id document entry

/-- Builds all rows of a dataset in order. -/
def build (compiled : CompiledDocument) (dataset : Dataset) (parameters : Json.Fields) :
    BuildOutcome :=
  .overRows dataset.rowCount fun outcome row =>
    addRow compiled ⟨dataset, row, parameters⟩ outcome

end NestedRows

end DocumentIngest
