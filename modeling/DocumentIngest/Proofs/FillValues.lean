import DocumentIngest.Proofs.ExactNumbers
import DocumentIngest.Proofs.Fallible
import DocumentIngest.Proofs.RowSteps
import DocumentIngest.Proofs.StoredCells

/-!
# Fill values

Metadata may name a number that fills the place of values that are not there.  Such a
cell is masked, however the number is written, so a field never gives it and a whole
column has `null` in its place.  Only a cell that is an array itself is not looked
into: what stands in it comes out as it is.
-/

namespace DocumentIngest

namespace Json

def asNumber? : Json → Option Number
  | number value => some value
  | _ => none

theorem asItems?_eq_some_iff {value : Json} {items : List Json} :
    value.asItems? = some items ↔ value = .array items := by
  cases value <;> simp [asItems?]

/-- Whether a value is a number of the same value as another number. -/
def IsSameNumber (value : Json) (other : Number) : Prop :=
  ∃ written, value = .number written ∧ written.SameValue other

end Json

/-- Whether a number is among what a token stands for, by itself or in a list. -/
def Resolved.Shows (other : Number) : Resolved → Prop
  | .missing => False
  | .scalar value => value.IsSameNumber other
  | .list values => ∃ value ∈ values, value.IsSameNumber other

namespace Dataset

/-- The number that metadata name as the fill value. -/
def fillNumber? (metadata : Json.Fields) : Option Number :=
  ["_FillValue", "missing_value"].findSome? fun name =>
    (Keyed.lookup metadata name).bind Json.asNumber?

/-- Whether templates never see the fill value, neither through a field nor through a
whole column. -/
def HidesFill (dataset : Dataset) (fill : Number) : Prop :=
  ∀ (parameters : Json.Fields) (row : Nat),
    (∀ provided optionally name resolved,
      (Token.field name).resolve provided (dataset.contextAt parameters row) optionally =
        .ok resolved → ¬resolved.Shows fill) ∧
    ∀ inputs resolved,
      Handler.column.apply inputs (dataset.contextAt parameters row) = .ok resolved →
        ¬resolved.Shows fill

theorem asBinary64?_eq (value : Json) :
    value.asBinary64? = value.asNumber?.map Number.toBinary64 := by
  cases value <;> rfl

theorem fillValue?_eq (metadata : Json.Fields) :
    fillValue? metadata = (fillNumber? metadata).map Number.toBinary64 := by
  have read (name : String) : (Keyed.lookup metadata name).bind Json.asBinary64? =
      ((Keyed.lookup metadata name).bind Json.asNumber?).map Number.toBinary64 := by
    cases Keyed.lookup metadata name with
    | none => rfl
    | some value => exact asBinary64?_eq value
  simp only [fillValue?, fillNumber?, read, List.findSome?_cons, List.findSome?_nil]
  cases (Keyed.lookup metadata "_FillValue").bind Json.asNumber? with
  | some number => rfl
  | none =>
      cases (Keyed.lookup metadata "missing_value").bind Json.asNumber? with
      | some number => rfl
      | none => rfl

variable {dataset : Dataset} {fill : Number}

/-- A number of the fill value is masked, be it written as an integer or not. -/
theorem isMasked_of_isSameNumber (named : fillNumber? dataset.metadataFields = some fill)
    {cell : Json} (filled : cell.IsSameNumber fill) : isMasked dataset.fill cell = true := by
  obtain ⟨written, rfl, same⟩ := filled
  rw [Dataset.fill, fillValue?_eq, named, Option.map_some]
  exact same.eq_toBinary64

theorem not_isSameNumber_of_unmask (named : fillNumber? dataset.metadataFields = some fill)
    {cell value : Json} (shown : unmask dataset.fill cell = some value) :
    ¬value.IsSameNumber fill := by
  intro filled
  obtain ⟨visible, rfl⟩ := unmask_eq_some_iff.mp shown
  rw [isMasked_of_isSameNumber named filled] at visible
  cases visible

/-- A visible cell that is no array stands for itself, and so not for the fill value. -/
theorem not_shows_ofJson {value : Json} (noArray : value.asItems? = none)
    (visible : ¬value.IsSameNumber fill) : ¬(Resolved.ofJson value).Shows fill := by
  cases value with
  | null => exact id
  | array items => cases noArray
  | _ => exact visible

/-- What a field stands for shows the fill value only out of a cell that is an array. -/
theorem shows_field_iff (named : fillNumber? dataset.metadataFields = some fill) (name : String)
    (row : Nat) :
    (Resolved.ofOption (dataset.field name row)).Shows fill ↔
      ∃ items, dataset.storedCell name row = some (.array items) ∧
        ∃ item ∈ items, item.IsSameNumber fill := by
  rw [field_eq]
  cases dataset.storedCell name row with
  | none => exact iff_of_false id fun ⟨_, absent, _⟩ => nomatch absent
  | some cell =>
      rw [Option.bind_some]
      cases kind : cell.asItems? with
      | some items =>
          obtain rfl := Json.asItems?_eq_some_iff.mp kind
          constructor
          · exact fun shows => ⟨items, rfl, shows⟩
          · rintro ⟨_, same, shows⟩
            cases same
            exact shows
      | none =>
          refine iff_of_false ?_ ?_
          · cases shown : unmask dataset.fill cell with
            | none => exact id
            | some value =>
                have visible := not_isSameNumber_of_unmask named shown
                obtain ⟨_, rfl⟩ := unmask_eq_some_iff.mp shown
                exact not_shows_ofJson kind visible
          · rintro ⟨items, same, _⟩
            cases same
            cases kind

theorem not_isSameNumber_of_scalar (named : fillNumber? dataset.metadataFields = some fill)
    {name : String} {row : Nat} {value : Json}
    (isScalar : Resolved.ofOption (dataset.field name row) = .scalar value) :
    ¬value.IsSameNumber fill := by
  intro filled
  have shows : (Resolved.ofOption (dataset.field name row)).Shows fill := isScalar ▸ filled
  obtain ⟨items, stored, _⟩ := (shows_field_iff named name row).mp shows
  have shown : unmask dataset.fill (.array items) = some (.array items) := rfl
  rw [field_eq, stored, Option.bind_some, shown] at isScalar
  cases isScalar

theorem resolve_field (provided : List Handler) (context : RowContext) (optionally : Bool)
    (name : String) :
    (Token.field name).resolve provided context optionally =
      .ok (.ofOption (context.dataset.field name context.row)) := by
  rw [Token.resolve]

/-- Every entry of a column is what masking leaves of a cell, or `null`. -/
theorem exists_of_mem_column {name : String} {told : List Json}
    (found : dataset.column name = some told) {entry : Json} (member : entry ∈ told) :
    ∃ cell : Option Json, entry = (cell.bind (unmask dataset.fill)).getD .null := by
  cases dataset with
  | rows list =>
      simp only [column, RowList.column] at found
      split at found
      · cases found
      · cases found
        obtain ⟨row, _, rfl⟩ := List.mem_map.mp member
        exact ⟨(rows list).storedCell name row, rfl⟩
  | table columns =>
      rw [column, Table.column] at found
      split at found
      · cases found
        obtain ⟨cell, _, rfl⟩ := List.mem_map.mp member
        exact ⟨some cell, rfl⟩
      · cases found

theorem not_isSameNumber_of_mem_column
    (named : fillNumber? dataset.metadataFields = some fill) {name : String} {told : List Json}
    (found : dataset.column name = some told) {entry : Json} (member : entry ∈ told) :
    ¬entry.IsSameNumber fill := by
  obtain ⟨cell, rfl⟩ := exists_of_mem_column found member
  cases shown : cell.bind (unmask dataset.fill) with
  | none =>
      rintro ⟨_, isNumber, _⟩
      cases isNumber
  | some value =>
      obtain ⟨stored, _, unmasked⟩ := Option.bind_eq_some_iff.mp shown
      exact not_isSameNumber_of_unmask named unmasked

theorem not_shows_column (named : fillNumber? dataset.metadataFields = some fill)
    {parameters : Json.Fields} {row : Nat} {inputs : HandlerInputs} {resolved : Resolved}
    (applied : Handler.column.apply inputs (dataset.contextAt parameters row) = .ok resolved) :
    ¬resolved.Shows fill := by
  obtain ⟨name, _, given⟩ := Fallible.bind_eq_ok_iff.mp applied
  cases found : dataset.column name with
  | none =>
      simp only [contextAt, found, Except.ok.injEq] at given
      subst resolved
      exact id
  | some told =>
      simp only [contextAt, found, Except.ok.injEq] at given
      subst resolved
      rintro ⟨entry, member, same⟩
      exact not_isSameNumber_of_mem_column named found member same

/-- A column never shows the fill value, and a field never stands for it itself.  A field
stands for a list that holds it exactly if the stored cell is an array that does. -/
theorem fill_shown_iff (named : fillNumber? dataset.metadataFields = some fill)
    (parameters : Json.Fields) (row : Nat) :
    (∀ provided optionally name, ∃ resolved,
      (Token.field name).resolve provided (dataset.contextAt parameters row) optionally =
          .ok resolved ∧
        (∀ value, resolved = .scalar value → ¬value.IsSameNumber fill) ∧
        (resolved.Shows fill ↔ ∃ items, dataset.storedCell name row = some (.array items) ∧
          ∃ item ∈ items, item.IsSameNumber fill)) ∧
      ∀ inputs resolved,
        Handler.column.apply inputs (dataset.contextAt parameters row) = .ok resolved →
          ¬resolved.Shows fill := by
  constructor
  · intro provided optionally name
    refine ⟨_, resolve_field provided (dataset.contextAt parameters row) optionally name, ?_, ?_⟩
    · exact fun value isScalar => not_isSameNumber_of_scalar named isScalar
    · exact shows_field_iff named name row
  · exact fun inputs resolved applied => not_shows_column named applied

/-- A row whose temperatures at two levels stand in one cell, one of them not measured. -/
def levelled : Dataset :=
  .rows ⟨[("_FillValue", .ofInt (-9999))],
    [[("station", .string "KDEN"), ("temps", .array [.ofNat 281, .ofInt (-9999)])]]⟩

theorem fill_shown_iff_levelled :
    fillNumber? levelled.metadataFields = some (.integer (-9999)) ∧
      (∃ resolved,
        (Token.field "temps").resolve [] (levelled.contextAt [] 0) false = .ok resolved ∧
          resolved.Shows (.integer (-9999))) ∧
      ∀ inputs resolved,
        Handler.column.apply inputs (levelled.contextAt [] 0) = .ok resolved →
          ¬resolved.Shows (.integer (-9999)) := by
  have named : fillNumber? levelled.metadataFields = some (.integer (-9999)) := rfl
  obtain ⟨fields, columns⟩ := fill_shown_iff named [] 0
  obtain ⟨resolved, stands, _, shows⟩ := fields [] false "temps"
  have stored : levelled.storedCell "temps" 0 = some (.array [.ofNat 281, .ofInt (-9999)]) := rfl
  have filled : (Json.ofInt (-9999)).IsSameNumber (.integer (-9999)) := ⟨_, rfl, _, rfl, rfl⟩
  exact ⟨named, ⟨resolved, stands, shows.mpr ⟨_, stored, _, List.mem_of_getElem? (i := 1) rfl,
    filled⟩⟩, columns⟩

theorem not_hidesFill :
    ¬∀ (dataset : Dataset) (fill : Number),
      fillNumber? dataset.metadataFields = some fill → dataset.HidesFill fill := by
  intro hides
  have hidden := (hides levelled (.integer (-9999)) rfl [] 0).1 [] false "temps" _
    (resolve_field _ _ _ _)
  apply hidden
  exact ⟨.ofInt (-9999), List.mem_cons_of_mem _ List.mem_cons_self, _, rfl, _, rfl, rfl⟩

end Dataset

end DocumentIngest
