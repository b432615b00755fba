import DocumentIngest.Proofs.PartialFailures

/-!
# Nested rows in any order

The first row that names an id gives the document its header, and the last one that uses
a key stays under it.  So the order of rows can only matter where two rows with one id
disagree about the header, or about the value under one key.  Where no two rows do, the
steps of any two rows commute, and every order of the rows builds the same.
-/

namespace DocumentIngest

namespace BuildOutcome

theorem put_comm (outcome : BuildOutcome) {first second : String} (different : first ≠ second)
    (firstDocument secondDocument : Json) :
    (outcome.put first firstDocument).put second secondDocument =
      (outcome.put second secondDocument).put first firstDocument := by
  simp only [put, Keyed.insert_comm outcome.documents different]

theorem put_put_self (outcome : BuildOutcome) (id : String) (first second : Json) :
    (outcome.put id first).put id second = outcome.put id second := by
  simp only [put, Keyed.insert_insert_self]

end BuildOutcome

namespace NestedRows

variable (compiled : CompiledDocument)

/-- Whether two rows agree on a document that both of them name: its header resolves to
the same at both, and they enter the same value if they enter it under the same key. -/
structure Agree (first second : RowContext) : Prop where
  header : ∀ id, Names compiled first id → Names compiled second id → ∃ header,
    compiled.body.resolve BuilderType.nestedRows.handlers first compiled.optionalFields =
        .ok header ∧
      compiled.body.resolve BuilderType.nestedRows.handlers second compiled.optionalFields =
        .ok header
  value : ∀ id, Names compiled first id → Names compiled second id → ∀ key value other,
    Enters compiled first key value → Enters compiled second key other → value = other

section Entering

/-- Whether a document takes what a row enters, so that the row counts. -/
def takes : Json → Option (String × Json) → Bool
  | .object _, _ => true
  | _, entered => entered.isNone

theorem putEntry_eq (outcome : BuildOutcome) (id : String) (document : Json)
    (entered : Option (String × Json)) :
    putEntry outcome id document entered =
      if takes document entered then (outcome.put id (withEntry document entered)).countOk
      else outcome.put id (withEntry document entered) := by
  rcases entered with _ | ⟨key, value⟩ <;> cases document <;> rfl

theorem withEntry_object (fields : Json.Fields) (entered : Option (String × Json)) :
    ∃ others, withEntry (.object fields) entered = .object others := by
  rcases entered with _ | ⟨key, value⟩
  · exact ⟨fields, rfl⟩
  · simp only [withEntry, enter]
    split <;> exact ⟨_, rfl⟩

theorem takes_withEntry (document : Json) (entered other : Option (String × Json)) :
    takes (withEntry document entered) other = takes document other := by
  cases document with
  | object fields =>
      obtain ⟨others, same⟩ := withEntry_object fields entered
      rw [same]
      rfl
  | null => rcases entered with _ | _ <;> rfl
  | bool flag => rcases entered with _ | _ <;> rfl
  | number number => rcases entered with _ | _ <;> rfl
  | string text => rcases entered with _ | _ <;> rfl
  | array items => rcases entered with _ | _ <;> rfl

variable {key otherKey : String} {value other : Json}

theorem enter_comm (document : Json) (agree : key = otherKey → value = other) :
    enter (enter document key value) otherKey other =
      enter (enter document otherKey other) key value := by
  by_cases same : key = otherKey
  · rw [same, agree same]
  cases document with
  | object fields =>
      cases found : Keyed.lookup fields "data" with
      | none =>
          rw [enter_of_absent found, enter_of_absent found,
            enter_of_present (Keyed.lookup_insert_self _ _ _),
            enter_of_present (Keyed.lookup_insert_self _ _ _), Keyed.insert_insert_self,
            Keyed.insert_insert_self, Keyed.insert_comm _ same]
      | some present =>
          cases present with
          | object data =>
              rw [enter_of_present found, enter_of_present found,
                enter_of_present (Keyed.lookup_insert_self _ _ _),
                enter_of_present (Keyed.lookup_insert_self _ _ _), Keyed.insert_insert_self,
                Keyed.insert_insert_self, Keyed.insert_comm _ same]
          | _ => simp only [enter, found]
  | _ => rfl

theorem withEntry_comm (document : Json) {first second : Option (String × Json)}
    (agree : ∀ key value other, first = some (key, value) → second = some (key, other) →
      value = other) :
    withEntry (withEntry document first) second =
      withEntry (withEntry document second) first := by
  rcases first with _ | ⟨key, value⟩
  · rfl
  rcases second with _ | ⟨otherKey, other⟩
  · rfl
  apply enter_comm
  rintro rfl
  exact agree key value other rfl rfl

end Entering

section Steps

variable {compiled} {context first second : RowContext} {outcome : BuildOutcome}
  {id : String} {entered : Option (String × Json)}

/-- Puts a row in place that has something to enter into the document of an id, or counts
it as left out if there is no document. -/
def settle (id : String) (entered : Option (String × Json)) (outcome : BuildOutcome) :
    Option Json → BuildOutcome
  | none => outcome.countSkipped
  | some document => putEntry outcome id document entered

theorem addRow_eq_settle (names : Names compiled context id)
    (isEntry : entry compiled context = some entered) (outcome : BuildOutcome) :
    addRow compiled context outcome =
      settle id entered outcome (documentFor compiled context outcome.documents id) := by
  obtain ⟨named, resolves, keyText⟩ := names
  simp only [addRow, resolves, keyText, isEntry]
  cases documentFor compiled context outcome.documents id <;> rfl

/-- A row does nothing but count, always in the same way, or it has something to enter into
the document that it names. -/
theorem counts_or_enters (compiled : CompiledDocument) (context : RowContext) :
    (∃ count, (count = BuildOutcome.countWithoutId ∨ count = BuildOutcome.countSkipped) ∧
        ∀ outcome, addRow compiled context outcome = count outcome) ∨
      ∃ id entered, Names compiled context id ∧ entry compiled context = some entered := by
  cases resolves : compiled.id.resolve BuilderType.nestedRows.handlers context false with
  | error fault => exact .inl ⟨_, .inl rfl, fun outcome => by simp only [addRow, resolves]⟩
  | ok named =>
  cases keyText : named.asKey? with
  | none => exact .inl ⟨_, .inl rfl, fun outcome => by simp only [addRow, resolves, keyText]⟩
  | some id =>
  cases isEntry : entry compiled context with
  | none =>
      exact .inl ⟨_, .inr rfl, fun outcome => by simp only [addRow, resolves, keyText, isEntry]⟩
  | some entered => exact .inr ⟨id, entered, ⟨named, resolves, keyText⟩, rfl⟩

theorem settle_count {count : BuildOutcome → BuildOutcome}
    (isCount : count = BuildOutcome.countWithoutId ∨ count = BuildOutcome.countSkipped)
    (outcome : BuildOutcome) (found : Option Json) :
    settle id entered (count outcome) found = count (settle id entered outcome found) := by
  rcases isCount with rfl | rfl <;> rcases found with _ | document
  · rfl
  · simp only [settle, putEntry_eq]
    split <;> rfl
  · rfl
  · simp only [settle, putEntry_eq]
    split <;> rfl

/-- Whether a row counts as left out makes no difference to any other row. -/
theorem addRow_count {count : BuildOutcome → BuildOutcome}
    (isCount : count = BuildOutcome.countWithoutId ∨ count = BuildOutcome.countSkipped)
    (outcome : BuildOutcome) :
    addRow compiled context (count outcome) = count (addRow compiled context outcome) := by
  rcases counts_or_enters compiled context with
    ⟨other, isOther, counts⟩ | ⟨id, entered, names, isEntry⟩
  · rw [counts, counts]
    rcases isCount with rfl | rfl <;> rcases isOther with rfl | rfl <;> rfl
  · have same : (count outcome).documents = outcome.documents := by
      rcases isCount with rfl | rfl <;> rfl
    rw [addRow_eq_settle names isEntry, addRow_eq_settle names isEntry, same,
      settle_count isCount]

theorem putEntry_comm {other : String} (different : id ≠ other) (outcome : BuildOutcome)
    (document otherDocument : Json) (entered otherEntered : Option (String × Json)) :
    putEntry (putEntry outcome id document entered) other otherDocument otherEntered =
      putEntry (putEntry outcome other otherDocument otherEntered) id document entered := by
  have swapped := BuildOutcome.put_comm outcome different (withEntry document entered)
    (withEntry otherDocument otherEntered)
  simp only [putEntry_eq]
  split <;> split
  · exact congrArg (·.countOk.countOk) swapped
  · exact congrArg (·.countOk) swapped
  · exact congrArg (·.countOk) swapped
  · exact swapped

theorem settle_comm {other : String} (different : id ≠ other) (outcome : BuildOutcome)
    (found otherFound : Option Json) (entered otherEntered : Option (String × Json)) :
    settle other otherEntered (settle id entered outcome found) otherFound =
      settle id entered (settle other otherEntered outcome otherFound) found := by
  rcases found with _ | document
  · exact settle_count (.inr rfl) outcome otherFound
  rcases otherFound with _ | otherDocument
  · exact (settle_count (.inr rfl) outcome (some document)).symm
  · exact putEntry_comm different outcome document otherDocument entered otherEntered

theorem documentFor_congr {documents others : DocumentMap}
    (same : Keyed.lookup documents id = Keyed.lookup others id) :
    documentFor compiled context documents id = documentFor compiled context others id := by
  simp only [documentFor, same]

theorem documentFor_of_header {header : Option Json}
    (resolves : compiled.body.resolve BuilderType.nestedRows.handlers context
      compiled.optionalFields = .ok header) (documents : DocumentMap) :
    documentFor compiled context documents id =
      some ((Keyed.lookup documents id).getD ((header.getD (.object [])).withId id)) := by
  rw [documentFor]
  cases Keyed.lookup documents id with
  | some document => rfl
  | none => simp only [resolves, Option.getD_none]

/-- Rows that agree on a document may enter it in either order, whether or not it is there
before them. -/
theorem addRow_comm_of_same {header : Option Json} {otherEntered : Option (String × Json)}
    (names : Names compiled first id) (namesToo : Names compiled second id)
    (isEntry : entry compiled first = some entered)
    (isOtherEntry : entry compiled second = some otherEntered)
    (resolves : compiled.body.resolve BuilderType.nestedRows.handlers first
      compiled.optionalFields = .ok header)
    (resolvesToo : compiled.body.resolve BuilderType.nestedRows.handlers second
      compiled.optionalFields = .ok header)
    (agree : ∀ key value other, entered = some (key, value) → otherEntered = some (key, other) →
      value = other) (outcome : BuildOutcome) :
    addRow compiled second (addRow compiled first outcome) =
      addRow compiled first (addRow compiled second outcome) := by
  simp only [addRow_eq_settle names isEntry, addRow_eq_settle namesToo isOtherEntry,
    documentFor_of_header resolves, documentFor_of_header resolvesToo, settle,
    documents_putEntry, Keyed.lookup_insert_self, Option.getD_some]
  generalize (Keyed.lookup outcome.documents id).getD _ = document
  have swapped :
      (outcome.put id (withEntry document entered)).put id
          (withEntry (withEntry document entered) otherEntered) =
        (outcome.put id (withEntry document otherEntered)).put id
          (withEntry (withEntry document otherEntered) entered) := by
    rw [BuildOutcome.put_put_self, BuildOutcome.put_put_self, withEntry_comm document agree]
  simp only [putEntry_eq, takes_withEntry]
  split <;> split
  · exact congrArg (·.countOk.countOk) swapped
  · exact congrArg (·.countOk) swapped
  · exact congrArg (·.countOk) swapped
  · exact swapped

/-- The steps of two rows that agree commute. -/
theorem addRow_comm (agree : Agree compiled first second) (outcome : BuildOutcome) :
    addRow compiled second (addRow compiled first outcome) =
      addRow compiled first (addRow compiled second outcome) := by
  rcases counts_or_enters compiled first with
    ⟨count, isCount, counts⟩ | ⟨id, entered, names, isEntry⟩
  · rw [counts, counts, addRow_count isCount]
  rcases counts_or_enters compiled second with
    ⟨count, isCount, counts⟩ | ⟨other, otherEntered, namesOther, isOtherEntry⟩
  · rw [counts, counts, addRow_count isCount]
  by_cases same : id = other
  · subst same
    obtain ⟨header, resolves, resolvesToo⟩ := agree.header id names namesOther
    apply addRow_comm_of_same names namesOther isEntry isOtherEntry resolves resolvesToo
    rintro key value other rfl rfl
    exact agree.value id names namesOther key value other (enters_of_entry isEntry)
      (enters_of_entry isOtherEntry)
  · -- neither row names the document of the other, so each finds what it found before
    have unnamed : ¬ Names compiled first other := fun named => same (names.unique named)
    have unnamedToo : ¬ Names compiled second id := fun named => same (named.unique namesOther)
    have kept : documentFor compiled second (addRow compiled first outcome).documents other =
        documentFor compiled second outcome.documents other :=
      documentFor_congr (lookup_addRow_of_not_names unnamed)
    have keptToo : documentFor compiled first (addRow compiled second outcome).documents id =
        documentFor compiled first outcome.documents id :=
      documentFor_congr (lookup_addRow_of_not_names unnamedToo)
    rw [addRow_eq_settle namesOther isOtherEntry (addRow compiled first outcome), kept,
      addRow_eq_settle names isEntry (addRow compiled second outcome), keptToo,
      addRow_eq_settle names isEntry outcome, addRow_eq_settle namesOther isOtherEntry outcome]
    exact settle_comm same outcome _ _ entered otherEntered

end Steps

section Congruence

variable {compiled} {first second other otherSecond : RowContext}

theorem names_congr
    (alike : first.AlikeFor other
      (Handler.known BuilderType.nestedRows.handlers compiled.handlerNames)) (id : String) :
    Names compiled first id ↔ Names compiled other id := by
  rw [Names, Names, Token.resolve_congr compiled.id (CompiledDocument.alikeFor_parts alike).1]

theorem enters_congr
    (alike : first.AlikeFor other
      (Handler.known BuilderType.nestedRows.handlers compiled.handlerNames)) {key : String}
    {value : Json} (enters : Enters compiled other key value) :
    Enters compiled first key value := by
  apply enters_of_entry
  rw [entry_congr alike]
  exact entry_of_enters enters

/-- Whether rows agree is seen from what templates look at. -/
theorem Agree.congr (agree : Agree compiled first second)
    (alike : first.AlikeFor other
      (Handler.known BuilderType.nestedRows.handlers compiled.handlerNames))
    (alikeSecond : second.AlikeFor otherSecond
      (Handler.known BuilderType.nestedRows.handlers compiled.handlerNames)) :
    Agree compiled other otherSecond where
  header := by
    intro id names namesToo
    rw [← TemplateTree.resolve_congr (CompiledDocument.alikeFor_parts alike).2.1,
      ← TemplateTree.resolve_congr (CompiledDocument.alikeFor_parts alikeSecond).2.1]
    exact agree.header id ((names_congr alike id).mpr names)
      ((names_congr alikeSecond id).mpr namesToo)
  value := by
    intro id names namesToo key value otherValue enters entersToo
    exact agree.value id ((names_congr alike id).mpr names)
      ((names_congr alikeSecond id).mpr namesToo) key value otherValue (enters_congr alike enters)
      (enters_congr alikeSecond entersToo)

end Congruence

end NestedRows

namespace Assembler

variable {compiled : CompiledDocument} {parameters : Json.Fields}

/-- Nested rows have no handler for columns, so only row numbers tell rows apart. -/
theorem staysInRow_of_nestedRows (asksNot : "row_index" ∉ compiled.handlerNames) :
    Handler.StaysInRow
      (Handler.known BuilderType.nestedRows.handlers compiled.handlerNames) := by
  refine ⟨fun asked => asksNot (Handler.mem_known_iff.mp asked).1, ?_⟩
  intro asked
  have provided := (Handler.mem_known_iff.mp asked).2
  exact absurd provided (by decide)

theorem assemble_eq_addAlone (asksNot : "row_index" ∉ compiled.handlerNames) (list : RowList) :
    assemble .nestedRows compiled (.rows list) parameters =
      ((addAlone .nestedRows compiled list.metadata parameters list.rows).reach
        .finalizing).reach .done := by
  have alone := addRows_eq_addAlone_of_known .nestedRows parameters
    (staysInRow_of_nestedRows asksNot) list (Nat.le_refl list.rowCount)
  rw [RowList.rowCount, List.take_length] at alone
  rw [assemble_eq]
  exact congrArg (fun outcome => (outcome.reach .finalizing).reach .done) alone

/-- Nested rows build the same documents and counts in whatever order they come, if the
rows agree on the documents that they name and no template asks for row numbers.  Every row
agrees with itself on what it enters, so rows of which no two share both an id and a key
agree on all values. -/
theorem assemble_perm (asksNot : "row_index" ∉ compiled.handlerNames) {list : RowList}
    (agree : ∀ first < list.rowCount, ∀ second < list.rowCount,
      NestedRows.Agree compiled ((Dataset.rows list).contextAt parameters first)
        ((Dataset.rows list).contextAt parameters second))
    {rows : List Json.Fields} (perm : rows.Perm list.rows) :
    assemble .nestedRows compiled (.rows ⟨list.metadata, rows⟩) parameters =
      assemble .nestedRows compiled (.rows list) parameters := by
  have stays := staysInRow_of_nestedRows asksNot
  have sameAlone : addAlone .nestedRows compiled list.metadata parameters list.rows =
      addAlone .nestedRows compiled list.metadata parameters rows := by
    apply perm.symm.foldl_eq'
    intro fields member others memberToo outcome
    obtain ⟨first, before, rfl⟩ := List.mem_iff_getElem.mp member
    obtain ⟨second, beforeToo, rfl⟩ := List.mem_iff_getElem.mp memberToo
    have alike := (RowList.alike_alone (List.getElem?_eq_getElem before) parameters).forNames stays
    have alikeToo :=
      (RowList.alike_alone (List.getElem?_eq_getElem beforeToo) parameters).forNames stays
    have agreeAlone := (agree first before second beforeToo).congr alike alikeToo
    exact NestedRows.addRow_comm agreeAlone outcome
  rw [assemble_eq_addAlone asksNot, assemble_eq_addAlone asksNot list, sameAlone]

end Assembler

/-- What the rows with a gap enter. -/
def RowList.gappedEntry : Nat → String × Json
  | 0 => ("a", .object [("t", .ofNat 1)])
  | 1 => ("b", .object [("t", .ofNat 2)])
  | _ => ("c", .object [("t", .ofNat 3)])

theorem Assembler.assemble_perm_gapped :
    "row_index" ∉ CompiledDocument.readings.handlerNames ∧
      (∀ first < RowList.gapped.rowCount, ∀ second < RowList.gapped.rowCount,
        NestedRows.Agree .readings ((Dataset.rows .gapped).contextAt [] first)
          ((Dataset.rows .gapped).contextAt [] second)) ∧
      RowList.gapped.rows.reverse.Perm RowList.gapped.rows ∧
      assemble .nestedRows .readings (.rows ⟨[], RowList.gapped.rows.reverse⟩) [] =
        assemble .nestedRows .readings (.rows .gapped) [] := by
  have asksNot : "row_index" ∉ CompiledDocument.readings.handlerNames := by decide
  have isEntry : ∀ row < 3, NestedRows.entry .readings ((Dataset.rows .gapped).contextAt [] row) =
      some (some (RowList.gappedEntry row)) := by decide
  have distinct : ∀ first < 3, ∀ second < 3,
      (RowList.gappedEntry first).1 = (RowList.gappedEntry second).1 →
        (RowList.gappedEntry first).2 = (RowList.gappedEntry second).2 := by decide
  have agree : ∀ first < RowList.gapped.rowCount, ∀ second < RowList.gapped.rowCount,
      NestedRows.Agree .readings ((Dataset.rows .gapped).contextAt [] first)
        ((Dataset.rows .gapped).contextAt [] second) := by
    intro first before second beforeToo
    refine ⟨fun _ _ _ => ⟨_, rfl, rfl⟩, ?_⟩
    intro id _ _ key value other enters entersToo
    have entered := (isEntry first before).symm.trans (NestedRows.entry_of_enters enters)
    have enteredToo := (isEntry second beforeToo).symm.trans (NestedRows.entry_of_enters entersToo)
    simp only [Option.some.injEq] at entered enteredToo
    have same := distinct first before second beforeToo
    rw [entered, enteredToo] at same
    exact same rfl
  exact ⟨asksNot, agree, List.reverse_perm _, assemble_perm asksNot agree (List.reverse_perm _)⟩

end DocumentIngest
