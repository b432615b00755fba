import DocumentIngest.Json.Shape
import DocumentIngest.Proofs.KeyedMaps
import Mathlib.Data.List.Nodup
import Mathlib.Data.List.Pairwise
import Mathlib.Tactic.MkIffOfInductiveProp

/-!
# Records read from their forms

A record is read column by column, in the order of the keys.  Columns do not disturb one
another, so what was read once stays, and a record whose columns all read the parts of
another one is that record.  A column that may be missing and stands at its default may
be left out of the form.
-/

namespace DocumentIngest

namespace Keyed

variable {α : Type}

/-- Of pairs with different names each is stored. -/
theorem lookup_ofPairs_of_mem {pairs : List (String × α)} (nodup : (pairs.map Prod.fst).Nodup)
    {name : String} {value : α} (member : (name, value) ∈ pairs) :
    lookup (ofPairs pairs) name = some value := by
  induction pairs using List.reverseRecOn with
  | nil => cases member
  | append_singleton earlier pair ih =>
      rw [List.map_append, List.map_singleton, List.nodup_append_comm, List.singleton_append,
        List.nodup_cons] at nodup
      rw [ofPairs, List.foldl_append, List.foldl_cons, List.foldl_nil]
      rcases List.mem_append.mp member with before | isLast
      · have different : name ≠ pair.1 := by
          rintro rfl
          exact nodup.1 (List.mem_map.mpr ⟨_, before, rfl⟩)
        rw [lookup_insert_of_ne _ _ different]
        exact ih nodup.2 before
      · cases List.mem_singleton.mp isLast
        exact lookup_insert_self _ _ _

/-- The first key of a map stands nowhere behind it. -/
theorem lookup_rest_eq_none {key : String} {value : α} {rest : Keyed α}
    (ascending : Ascending ((key, value) :: rest)) : lookup rest key = none := by
  cases found : lookup rest key with
  | none => rfl
  | some other =>
      have above := (List.pairwise_cons.mp ascending).1 _ (mem_of_lookup found)
      exact absurd above (String.lt_irrefl key)

theorem lookup_of_filter {entries : Keyed α} (ascending : Ascending entries)
    {alike : String × α → Bool} {key : String} {value : α}
    (found : lookup (entries.filter alike) key = some value) : lookup entries key = some value :=
  lookup_of_mem ascending (List.mem_of_mem_filter (mem_of_lookup found))

end Keyed

/-- A value without the fields of some names. -/
def Json.without (value : Json) (omitted : List String) : Json :=
  match value with
  | .object fields => .object (fields.filter fun field => !omitted.contains field.1)
  | value => value

theorem Json.without_nil (value : Json) : value.without [] = value := by
  cases value <;> simp [without]

namespace Shape

/-- A part of a record, with the name that it stands under and the reader of its form. -/
structure Column (σ : Type) where
  name : String
  required : Bool
  {Part : Type}
  reader : Reader Part
  get : σ → Part
  set : σ → Part → σ
  get_set : ∀ record part, get (set record part) = part := by intros; rfl

/-- A column as a field to read. -/
def Column.field {σ : Type} (column : Column σ) : Field σ :=
  ⟨[column.name], column.required, fun record value =>
    (column.reader value).map (column.set record)⟩

/-- Whether two columns have different names and leave each other as they are. -/
@[mk_iff]
structure Column.Apart {σ : Type} (first second : Column σ) : Prop where
  names : first.name ≠ second.name
  second_set : ∀ record part, second.get (first.set record part) = second.get record
  first_set : ∀ record part, first.get (second.set record part) = first.get record

/-- Columns that make up a record. -/
structure Layout (σ : Type) where
  columns : List (Column σ)
  apart : columns.Pairwise Column.Apart
  whole : ∀ first second, (∀ column ∈ columns, column.get first = column.get second) →
    first = second

instance {σ : Type} : Std.Symm (@Column.Apart σ) :=
  ⟨fun _ _ apart => ⟨apart.names.symm, apart.first_set, apart.second_set⟩⟩

namespace Layout

variable {σ : Type} {layout : Layout σ} {column other : Column σ} {record defaults start : σ}
  {entries : Keyed Json}

/-- The fields of the columns, in order. -/
def fields (layout : Layout σ) : List (Field σ) :=
  layout.columns.map Column.field

theorem eq_or_apart (isColumn : column ∈ layout.columns) (isOther : other ∈ layout.columns) :
    column = other ∨ column.Apart other := by
  by_cases same : column = other
  · exact .inl same
  · exact .inr (layout.apart.forall isColumn isOther same)

theorem eq_of_name (isColumn : column ∈ layout.columns) (isOther : other ∈ layout.columns)
    (same : column.name = other.name) : column = other :=
  (eq_or_apart isColumn isOther).resolve_right fun apart => apart.names same

/-- Whether entries hold a form for each part of a record but for those that may be
missing and are at their defaults. -/
structure IsForm (layout : Layout σ) (record defaults : σ) (entries : Keyed Json) : Prop where
  ascending : Keyed.Ascending entries
  present : ∀ column ∈ layout.columns, ∀ form, Keyed.lookup entries column.name = some form →
    column.reader form = .ok (column.get record)
  absent : ∀ column ∈ layout.columns, Keyed.lookup entries column.name = none →
    column.required = false ∧ column.get record = column.get defaults

/-- An entry that is about no column is passed over. -/
theorem readEntries_cons_of_unknown {name : String} {form : Json} {rest : Keyed Json}
    {seen : List String} (unknown : ∀ column ∈ layout.columns, column.name ≠ name) :
    readEntries layout.fields start seen ((name, form) :: rest) =
      readEntries layout.fields start seen rest := by
  have noField : (layout.fields.find? fun field => field.names.contains name) = none := by
    rw [List.find?_eq_none]
    intro field isField
    obtain ⟨column, isColumn, rfl⟩ := List.mem_map.mp isField
    simpa [Column.field] using Ne.symm (unknown column isColumn)
  rw [readEntries, noField]

/-- An entry for a column that was not met before is read into its part. -/
theorem readEntries_cons_of_column {form : Json} {part : column.Part} {rest : Keyed Json}
    {seen : List String} (isColumn : column ∈ layout.columns) (unseen : column.name ∉ seen)
    (reads : column.reader form = .ok part) :
    readEntries layout.fields start seen ((column.name, form) :: rest) =
      readEntries layout.fields (column.set start part) (column.name :: seen) rest := by
  have isField : (layout.fields.find? fun field => field.names.contains column.name) =
      some column.field := by
    cases known : layout.fields.find? fun field => field.names.contains column.name with
    | none =>
        have absent := List.find?_eq_none.mp known _ (List.mem_map_of_mem isColumn)
        exact absurd (by simp [Column.field]) absent
    | some field =>
        obtain ⟨other, isOther, rfl⟩ := List.mem_map.mp (List.mem_of_find?_eq_some known)
        have named : column.name = other.name := by
          simpa [Column.field] using List.find?_some known
        rw [eq_of_name isColumn isOther named]
  have isNew : seen.contains column.name = false := by
    simpa using unseen
  have stores : column.field.store start form = .ok (column.set start part) := by
    change (column.reader form).map _ = _
    rw [reads]
    rfl
  rw [readEntries, isField]
  change (if seen.contains column.name then _ else _) = _
  rw [isNew, if_neg Bool.false_ne_true, stores]
  rfl

/-- Entries whose forms read the parts of a record are read into these parts, and what no
entry is about stays as it was. -/
theorem readEntries_forms {seen : List String} (ascending : Keyed.Ascending entries)
    (unseen : ∀ entry ∈ entries, entry.1 ∉ seen)
    (reads : ∀ column ∈ layout.columns, ∀ form, Keyed.lookup entries column.name = some form →
      column.reader form = .ok (column.get record)) :
    ∃ final seenInAll, readEntries layout.fields start seen entries = .ok (final, seenInAll) ∧
      seen ⊆ seenInAll ∧ ∀ column ∈ layout.columns,
        (∀ form, Keyed.lookup entries column.name = some form →
          column.name ∈ seenInAll ∧ column.get final = column.get record) ∧
        (Keyed.lookup entries column.name = none → column.get final = column.get start) := by
  -- The record under construction and the names met so far grow along the entries.  A part
  -- that was read stays because its name does not come again.
  induction entries generalizing start seen with
  | nil =>
      refine ⟨start, seen, rfl, fun _ => id, fun _ _ => ⟨?_, fun _ => rfl⟩⟩
      intro form found
      cases found
  | cons entry rest ih =>
      obtain ⟨name, form⟩ := entry
      obtain ⟨above, restAscending⟩ := List.pairwise_cons.mp ascending
      obtain ⟨isNew, restUnseen⟩ := List.forall_mem_cons.mp unseen
      have notBehind := Keyed.lookup_rest_eq_none ascending
      have restReads : ∀ column ∈ layout.columns, ∀ form,
          Keyed.lookup rest column.name = some form →
            column.reader form = .ok (column.get record) := by
        intro column isColumn form found
        apply reads column isColumn form
        rw [Keyed.lookup, if_neg, found]
        intro same
        rw [same, notBehind] at found
        cases found
      by_cases known : ∃ column ∈ layout.columns, column.name = name
      · obtain ⟨column, isColumn, rfl⟩ := known
        have readsFirst := reads column isColumn form (if_pos rfl)
        have restNew : ∀ entry ∈ rest, entry.1 ∉ column.name :: seen := by
          intro entry member
          rw [List.mem_cons, not_or]
          exact ⟨(ne_of_lt (above entry member)).symm, restUnseen entry member⟩
        obtain ⟨final, seenInAll, read, more, parts⟩ :=
          @ih (column.set start (column.get record)) _ restAscending restNew restReads
        refine ⟨final, seenInAll, ?_, fun _ member => more (List.mem_cons_of_mem _ member), ?_⟩
        · rw [readEntries_cons_of_column isColumn isNew readsFirst, read]
        · intro other isOther
          rcases eq_or_apart isOther isColumn with rfl | apart
          · rw [Keyed.lookup, if_pos rfl]
            constructor
            · intro _ _
              refine ⟨more List.mem_cons_self, ?_⟩
              rw [(parts other isOther).2 notBehind, other.get_set]
            · intro absent
              cases absent
          · rw [Keyed.lookup, if_neg apart.names, ← apart.first_set start (column.get record)]
            exact parts other isOther
      · have unknown : ∀ column ∈ layout.columns, column.name ≠ name :=
          fun column isColumn named => known ⟨column, isColumn, named⟩
        obtain ⟨final, seenInAll, read, more, parts⟩ := ih restAscending restUnseen restReads
        refine ⟨final, seenInAll, ?_, more, fun column isColumn => ?_⟩
        · rw [readEntries_cons_of_unknown unknown, read]
        · rw [Keyed.lookup, if_neg (unknown column isColumn)]
          exact parts column isColumn

/-- A record is read from each of its forms. -/
theorem IsForm.reads (form : layout.IsForm record defaults entries) (mode : Mode) :
    Shape.record mode layout.fields defaults (.object entries) = .ok record := by
  obtain ⟨final, seen, read, -, parts⟩ :=
    @readEntries_forms _ layout record defaults entries [] form.ascending
      (fun _ _ => List.not_mem_nil) form.present
  have complete : (layout.fields.find? fun field =>
      field.required && !seen.contains field.name) = none := by
    rw [List.find?_eq_none]
    intro field isField
    obtain ⟨column, isColumn, rfl⟩ := List.mem_map.mp isField
    cases found : Keyed.lookup entries column.name with
    | none => simp [Column.field, (form.absent column isColumn found).1]
    | some value => simp [Column.field, Field.name, ((parts column isColumn).1 value found).1]
  have same : final = record := by
    apply layout.whole
    intro column isColumn
    cases found : Keyed.lookup entries column.name with
    | none =>
        rw [(parts column isColumn).2 found, (form.absent column isColumn found).2]
    | some value => exact ((parts column isColumn).1 value found).2
  rw [Shape.record, read]
  dsimp only
  rw [complete, same]

/-- Pairs with different names, among them a form of each part under the name of its
column, make up a form. -/
theorem isForm_ofPairs {pairs : List (String × Json)} (nodup : (pairs.map Prod.fst).Nodup)
    (forms : ∀ column ∈ layout.columns, ∃ form, (column.name, form) ∈ pairs ∧
      column.reader form = .ok (column.get record)) :
    layout.IsForm record defaults (Keyed.ofPairs pairs) := by
  refine ⟨Keyed.ascending_ofPairs pairs, ?_, ?_⟩
  · intro column isColumn form found
    obtain ⟨stored, member, reads⟩ := forms column isColumn
    cases found.symm.trans (Keyed.lookup_ofPairs_of_mem nodup member)
    exact reads
  · intro column isColumn absent
    obtain ⟨stored, member, _⟩ := forms column isColumn
    cases absent.symm.trans (Keyed.lookup_ofPairs_of_mem nodup member)

theorem reads_ofFields (layout : Layout σ) {pairs : List (String × Json)}
    (nodup : (pairs.map Prod.fst).Nodup)
    (forms : ∀ column ∈ layout.columns, ∃ form, (column.name, form) ∈ pairs ∧
      column.reader form = .ok (column.get record)) (mode : Mode) :
    Shape.record mode layout.fields defaults (.ofFields pairs) = .ok record :=
  (isForm_ofPairs nodup forms).reads mode

/-- A form may do without columns that may be missing and are at their defaults. -/
theorem IsForm.filter (form : layout.IsForm record defaults entries) {omitted : List String}
    (mayLack : ∀ column ∈ layout.columns, column.name ∈ omitted →
      column.required = false ∧ column.get record = column.get defaults) :
    layout.IsForm record defaults (entries.filter fun entry => !omitted.contains entry.1) := by
  refine ⟨form.ascending.filter _, fun column isColumn value found => ?_,
    fun column isColumn without => ?_⟩
  · exact form.present column isColumn value (Keyed.lookup_of_filter form.ascending found)
  · by_cases isOmitted : column.name ∈ omitted
    · exact mayLack column isColumn isOmitted
    · apply form.absent column isColumn
      cases found : Keyed.lookup entries column.name with
      | none => rfl
      | some value =>
          have stays : Keyed.lookup (entries.filter fun entry => !omitted.contains entry.1)
              column.name = some value := Keyed.lookup_filter found (by simpa using isOmitted)
          cases without.symm.trans stays

/-- What lacks columns at their defaults is read as if they stood there. -/
theorem reads_without (layout : Layout σ) {pairs : List (String × Json)}
    (nodup : (pairs.map Prod.fst).Nodup)
    (forms : ∀ column ∈ layout.columns, ∃ form, (column.name, form) ∈ pairs ∧
      column.reader form = .ok (column.get record)) {omitted : List String}
    (mayLack : ∀ column ∈ layout.columns, column.name ∈ omitted →
      column.required = false ∧ column.get record = column.get defaults) (mode : Mode) :
    Shape.record mode layout.fields defaults ((Json.ofFields pairs).without omitted) =
      .ok record :=
  ((isForm_ofPairs nodup forms).filter mayLack).reads mode

end Layout

end Shape

end DocumentIngest
