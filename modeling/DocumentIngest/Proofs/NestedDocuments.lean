import DocumentIngest.Proofs.BuiltDocuments

/-!
# What nested rows build

The first row that names an id and resolves in full opens the document of that id:
its header is the document.  From that row on, every row that names the id and
resolves its data enters it under its key, and the last one to use a key stays.
Rows before the first leave nothing behind, and the headers of later rows are not
even resolved.
-/

namespace DocumentIngest

open Fallible

namespace NestedRows

variable (compiled : CompiledDocument)

/-- Whether a row resolves its id to a key text. -/
def Names (context : RowContext) (id : String) : Prop :=
  ∃ named, compiled.id.resolve BuilderType.nestedRows.handlers context false = .ok named ∧
    named.asKey? = some id

/-- Whether a row has a value to enter, and under which key. -/
def Enters (context : RowContext) (key : String) (value : Json) : Prop :=
  ∃ keyToken data named found,
    compiled.dataKey = some keyToken ∧ compiled.data = some data ∧
      keyToken.resolve BuilderType.nestedRows.handlers context false = .ok named ∧
        named.asKey? = some key ∧
          data.resolve BuilderType.nestedRows.handlers context compiled.optionalFields =
            .ok found ∧
            value = found.getD .null

/-- Whether a row resolves its header to an object with these fields. -/
def Heads (context : RowContext) (header : Json.Fields) : Prop :=
  compiled.body.resolve BuilderType.nestedRows.handlers context compiled.optionalFields =
    .ok (some (.object header))

/-- Whether a row can start the document of an id: it names the id, resolves what the
template has it enter, if anything, and its header does not fail. -/
structure Opens (context : RowContext) (id : String) : Prop where
  names : Names compiled context id
  enters : compiled.data ≠ none → ∃ key value, Enters compiled context key value
  heads : ∃ header,
    compiled.body.resolve BuilderType.nestedRows.handlers context compiled.optionalFields =
      .ok header

/-- Whether a value is the last that rows with an id entered under a key, from the row
`first` on and before the row `count`. -/
def IsLatest (rows : Nat → RowContext) (id : String) (first count : Nat) (key : String)
    (value : Json) : Prop :=
  ∃ last, first ≤ last ∧ last < count ∧ Names compiled (rows last) id ∧
    Enters compiled (rows last) key value ∧
      ∀ later, last < later → later < count → Names compiled (rows later) id →
        ∀ other, ¬ Enters compiled (rows later) key other

/-- Whether the data of a document are exactly what rows with its id last entered. -/
structure Gathers (rows : Nat → RowContext) (id : String) (first count : Nat)
    (data : Json.Fields) : Prop where
  ascending : Keyed.Ascending data
  latest : ∀ key value,
    Keyed.lookup data key = some value ↔ IsLatest compiled rows id first count key value

/-- Whether a document is the header of its first row with the id set, and with what
has been entered as its data if the template has data. -/
structure IsGrown (rows : Nat → RowContext) (id : String) (first count : Nat)
    (header : Json.Fields) (document : Json) : Prop where
  bare : compiled.data = none → document = .object (Keyed.insert header "id" (.string id))
  filled : compiled.data ≠ none → ∃ data, Gathers compiled rows id first count data ∧
    document =
      .object (Keyed.insert (Keyed.insert header "id" (.string id)) "data" (.object data))

/-- What the rows before `count` make of an id: no document as long as none of them
opens it, and from then on the document that the first of those opened. -/
inductive Grows (rows : Nat → RowContext) (id : String) (count : Nat) : Option Json → Prop where
  | closed : (∀ row < count, ¬ Opens compiled (rows row) id) → Grows rows id count none
  | opened {first : Nat} {header : Json.Fields} {document : Json} :
      first < count → Opens compiled (rows first) id →
        (∀ earlier < first, ¬ Opens compiled (rows earlier) id) →
          Heads compiled (rows first) header →
            IsGrown compiled rows id first count header document →
              Grows rows id count (some document)

/-- What compiling makes sure of: data come with a key, and a header that resolves is
an object that leaves their place free. -/
structure Nestable : Prop where
  keyed : compiled.data ≠ none → compiled.dataKey ≠ none
  header : ∀ {context resolved},
    compiled.body.resolve BuilderType.nestedRows.handlers context compiled.optionalFields =
      .ok resolved →
        ∃ header, resolved = some (.object header) ∧
          (compiled.data ≠ none → Keyed.lookup header "data" = none)

end NestedRows

/-- Compiling parses the fields there are, and no others. -/
theorem TemplateTree.lookup_compileFields {fields : Json.Fields}
    {trees : List (String × TemplateTree)} {name : String}
    (absent : Keyed.lookup fields name = none) (compiles : compileFields fields = .ok trees) :
    Keyed.lookup trees name = none := by
  induction fields generalizing trees with
  | nil =>
      cases compiles
      rfl
  | cons field rest ih =>
      obtain ⟨other, child⟩ := field
      rw [Keyed.lookup] at absent
      split at absent
      · simp at absent
      next different =>
      rw [compileFields] at compiles
      obtain ⟨tree, _, compiles⟩ := bind_eq_ok_iff.mp compiles
      obtain ⟨restTrees, restCompiles, compiles⟩ := bind_eq_ok_iff.mp compiles
      cases compiles
      rw [Keyed.lookup, if_neg different]
      exact ih absent restCompiles

namespace CompiledDocument

/-- Nested rows always have a key, and have data just if the template does. -/
theorem compileData_spec {parameters fields : Json.Fields} {data : Option TemplateTree}
    {key : Option Token} (compiles : compileData parameters fields = .ok (data, key)) :
    key ≠ none ∧ (data = none ↔ Keyed.lookup fields "data" = none) := by
  rw [compileData] at compiles
  split at compiles
  · next absent =>
      obtain ⟨_, isNone, compiles⟩ := bind_eq_ok_iff.mp compiles
      obtain ⟨token, _, compiles⟩ := bind_eq_ok_iff.mp compiles
      cases isNone
      cases compiles
      simp [absent]
  · next tree present =>
      obtain ⟨_, isSome, compiles⟩ := bind_eq_ok_iff.mp compiles
      obtain ⟨token, _, compiles⟩ := bind_eq_ok_iff.mp compiles
      obtain ⟨parsed, _, rfl⟩ := map_eq_ok_iff.mp isSome
      cases compiles
      simp [present]

theorem data_eq_none_iff {document : IngestDocument} {compiled : CompiledDocument}
    (compiles : compile document = .ok compiled) (nested : document.builder = .nestedRows) :
    compiled.data = none ↔ document.template.field? "data" = none := by
  obtain ⟨fields, _, _, object, _, _, _, ⟨rowPerDocument, _⟩ | ⟨_, dataCompiles, _⟩⟩ :=
    cases_of_compile compiles
  · simp [nested] at rowPerDocument
  · rw [(compileData_spec dataCompiles).2, object, Json.field?,
      Keyed.lookup_erase_of_ne fields (by decide)]

end CompiledDocument

theorem NestedRows.nestable_of_compile {document : IngestDocument} {compiled : CompiledDocument}
    (compiles : CompiledDocument.compile document = .ok compiled) : Nestable compiled := by
  obtain ⟨fields, _, trees, _, _, _, body, rowPerDocument | nested⟩ :=
    CompiledDocument.cases_of_compile compiles
  · obtain ⟨_, noData, _⟩ := rowPerDocument
    refine ⟨fun data => absurd noData data, ?_⟩
    intro context resolved resolves
    rw [body] at resolves
    obtain ⟨header, same, _⟩ := TemplateTree.isObject_of_resolve resolves
    exact ⟨header, same, fun data => absurd noData data⟩
  · obtain ⟨_, dataCompiles, treesCompile⟩ := nested
    constructor
    · exact fun _ => (CompiledDocument.compileData_spec dataCompiles).1
    · intro context resolved resolves
      rw [body] at resolves
      obtain ⟨header, same, headerResolves⟩ := TemplateTree.isObject_of_resolve resolves
      have noTree : Keyed.lookup trees "data" = none :=
        TemplateTree.lookup_compileFields (Keyed.lookup_erase_self _ _) treesCompile
      have isConstant : Keyed.lookup trees "data" =
          (none : Option String).map fun text => .token (.literal text) := noTree
      exact ⟨header, same, fun _ => TemplateTree.lookup_resolveFields isConstant headerResolves⟩

namespace NestedRows

section Row

variable {compiled : CompiledDocument} {context : RowContext} {outcome : BuildOutcome}
  {id key : String} {value : Json}

theorem Names.unique {other : String} (names : Names compiled context id)
    (namesOther : Names compiled context other) : id = other := by
  obtain ⟨named, resolves, keyText⟩ := names
  obtain ⟨namedOther, resolvesOther, keyTextOther⟩ := namesOther
  have same : named = namedOther := Except.ok.inj (resolves.symm.trans resolvesOther)
  subst same
  exact Option.some.inj (keyText.symm.trans keyTextOther)

theorem entry_of_enters (enters : Enters compiled context key value) :
    entry compiled context = some (some (key, value)) := by
  obtain ⟨keyToken, data, named, found, isKey, isData, keyResolves, keyText, resolves, rfl⟩ :=
    enters
  simp only [entry, isData, isKey, keyResolves, keyText, resolves]

theorem enters_of_entry (enters : entry compiled context = some (some (key, value))) :
    Enters compiled context key value := by
  rw [entry] at enters
  split at enters
  · next data keyToken isData isKey =>
      split at enters
      · simp at enters
      next named keyResolves =>
      split at enters
      · simp at enters
      next keyText isKeyText =>
      split at enters
      · simp at enters
      next found resolves =>
      simp only [Option.some.injEq, Prod.mk.injEq] at enters
      obtain ⟨rfl, rfl⟩ := enters
      exact ⟨keyToken, data, named, found, isKey, isData, keyResolves, isKeyText, resolves, rfl⟩
  · simp at enters

theorem entry_of_bare (bare : compiled.data = none) : entry compiled context = some none := by
  simp only [entry, bare]

/-- Where the template has data, a row enters a value or is left out. -/
theorem entry_ne_some_none (nestable : Nestable compiled) (hasData : compiled.data ≠ none) :
    entry compiled context ≠ some none := by
  intro nothing
  obtain ⟨data, isData⟩ := Option.ne_none_iff_exists'.mp hasData
  obtain ⟨keyToken, isKey⟩ := Option.ne_none_iff_exists'.mp (nestable.keyed hasData)
  simp only [entry, isData, isKey] at nothing
  split at nothing
  · simp at nothing
  · split at nothing
    · simp at nothing
    · split at nothing <;> simp at nothing

theorem Enters.unique {otherKey : String} {otherValue : Json}
    (enters : Enters compiled context key value)
    (entersOther : Enters compiled context otherKey otherValue) :
    key = otherKey ∧ value = otherValue := by
  have same := (entry_of_enters enters).symm.trans (entry_of_enters entersOther)
  simpa using same

/-- A row that does not name an id leaves the document of that id alone. -/
theorem lookup_addRow_of_not_names (other : ¬ Names compiled context id) :
    Keyed.lookup (addRow compiled context outcome).documents id =
      Keyed.lookup outcome.documents id := by
  rw [addRow]
  split
  · rfl
  next named resolves =>
  split
  · rfl
  next name keyText =>
  have different : id ≠ name := by
    rintro rfl
    exact other ⟨named, resolves, keyText⟩
  split
  · rfl
  split
  · rfl
  rw [documents_putEntry]
  exact Keyed.lookup_insert_of_ne _ _ different

/-- A row that names an id does nothing if it is left out, and otherwise puts what it
enters into the document that is there or that it starts. -/
theorem lookup_addRow_of_names (names : Names compiled context id) :
    Keyed.lookup (addRow compiled context outcome).documents id =
      match entry compiled context with
      | none => Keyed.lookup outcome.documents id
      | some entered =>
          (documentFor compiled context outcome.documents id).map (withEntry · entered) := by
  obtain ⟨named, resolves, keyText⟩ := names
  simp only [addRow, resolves, keyText]
  cases entry compiled context with
  | none => rfl
  | some entered =>
      cases started : documentFor compiled context outcome.documents id with
      | some document =>
          simp only [documents_putEntry, Keyed.lookup_insert_self, Option.map_some]
      | none =>
          -- nothing is started only where nothing was there
          rw [documentFor] at started
          split at started
          · simp at started
          · next absent => exact absent

theorem documentFor_of_some {documents : DocumentMap} {document : Json}
    (there : Keyed.lookup documents id = some document) :
    documentFor compiled context documents id = some document := by
  simp only [documentFor, there]

theorem documentFor_of_none {documents : DocumentMap}
    (absent : Keyed.lookup documents id = none) {header : Json.Fields}
    (heads : Heads compiled context header) :
    documentFor compiled context documents id =
      some (.object (Keyed.insert header "id" (.string id))) := by
  rw [Heads] at heads
  simp only [documentFor, absent, heads]
  rfl

theorem documentFor_eq_none {documents : DocumentMap}
    (absent : Keyed.lookup documents id = none)
    (headless : ∀ header,
      compiled.body.resolve BuilderType.nestedRows.handlers context compiled.optionalFields ≠
        .ok header) :
    documentFor compiled context documents id = none := by
  simp only [documentFor, absent]
  split
  · rfl
  · next header resolves => exact absurd resolves (headless header)

end Row

section Latest

variable {compiled : CompiledDocument} {rows : Nat → RowContext} {id key : String}
  {first count : Nat} {value : Json}

theorem not_isLatest_start : ¬ IsLatest compiled rows id first first key value := by
  rintro ⟨last, fromFirst, below, _⟩
  omega

/-- A row that does not both name the id and enter something under a key does not count
for that key. -/
theorem isLatest_succ_of_idle
    (idle : Names compiled (rows count) id → ∀ other, ¬ Enters compiled (rows count) key other) :
    IsLatest compiled rows id first (count + 1) key value ↔
      IsLatest compiled rows id first count key value := by
  constructor
  · rintro ⟨last, fromFirst, below, namesLast, entersLast, latest⟩
    have earlier : last ≠ count := by
      rintro rfl
      exact idle namesLast value entersLast
    refine ⟨last, fromFirst, by omega, namesLast, entersLast, ?_⟩
    intro later after laterBelow
    exact latest later after (by omega)
  · rintro ⟨last, fromFirst, below, namesLast, entersLast, latest⟩
    refine ⟨last, fromFirst, by omega, namesLast, entersLast, ?_⟩
    intro later after laterBelow namesLater other entersLater
    by_cases isCount : later = count
    · subst isCount
      exact idle namesLater other entersLater
    · exact latest later after (by omega) namesLater other entersLater

theorem isLatest_succ_of_enters (started : first ≤ count)
    (names : Names compiled (rows count) id) {entered : Json}
    (enters : Enters compiled (rows count) key entered) :
    IsLatest compiled rows id first (count + 1) key value ↔ value = entered := by
  constructor
  · rintro ⟨last, _, below, _, entersLast, latest⟩
    have isCount : last = count := by
      rcases Nat.lt_or_eq_of_le (Nat.le_of_lt_succ below) with earlier | same
      · exact absurd enters (latest count earlier (by omega) names entered)
      · exact same
    subst isCount
    exact (entersLast.unique enters).2
  · rintro rfl
    refine ⟨count, started, by omega, names, enters, ?_⟩
    intro later after below
    omega

theorem gathers_start : Gathers compiled rows id first first [] where
  ascending := Keyed.ascending_nil
  latest := by
    intro key value
    simp [not_isLatest_start]

theorem Gathers.insert {data : Json.Fields} (gathers : Gathers compiled rows id first count data)
    (started : first ≤ count) (names : Names compiled (rows count) id)
    (enters : Enters compiled (rows count) key value) :
    Gathers compiled rows id first (count + 1) (Keyed.insert data key value) where
  ascending := Keyed.ascending_insert gathers.ascending key value
  latest := by
    intro asked found
    rw [Keyed.lookup_insert]
    split
    · next same =>
        subst same
        rw [isLatest_succ_of_enters started names enters, Option.some.injEq, eq_comm]
    · next different =>
        have idle : Names compiled (rows count) id →
            ∀ other, ¬ Enters compiled (rows count) asked other :=
          fun _ _ entersOther => different (entersOther.unique enters).1
        rw [isLatest_succ_of_idle idle]
        exact gathers.latest asked found

theorem Gathers.skip {data : Json.Fields} (gathers : Gathers compiled rows id first count data)
    (idle : Names compiled (rows count) id →
      ∀ key value, ¬ Enters compiled (rows count) key value) :
    Gathers compiled rows id first (count + 1) data where
  ascending := gathers.ascending
  latest := by
    intro asked found
    rw [isLatest_succ_of_idle fun names => idle names asked]
    exact gathers.latest asked found

end Latest

section Growth

variable {compiled : CompiledDocument} {rows : Nat → RowContext} {id key : String}
  {first count : Nat} {header : Json.Fields} {document value : Json}

theorem enter_of_absent {fields : Json.Fields} (absent : Keyed.lookup fields "data" = none) :
    enter (.object fields) key value =
      .object (Keyed.insert fields "data" (.object (Keyed.insert [] key value))) := by
  simp only [enter, absent]
  rfl

theorem enter_of_present {fields data : Json.Fields}
    (present : Keyed.lookup fields "data" = some (.object data)) :
    enter (.object fields) key value =
      .object (Keyed.insert fields "data" (.object (Keyed.insert data key value))) := by
  simp only [enter, present]

theorem hasData_of_enters {context : RowContext} (enters : Enters compiled context key value) :
    compiled.data ≠ none := by
  obtain ⟨_, data, _, _, _, isData, _⟩ := enters
  simp [isData]

theorem isGrown_bare (bare : compiled.data = none) :
    IsGrown compiled rows id first count header
      (.object (Keyed.insert header "id" (.string id))) :=
  ⟨fun _ => rfl, fun hasData => absurd bare hasData⟩

/-- The row that opens a document is the first to enter something. -/
theorem isGrown_start (free : compiled.data ≠ none → Keyed.lookup header "data" = none)
    (names : Names compiled (rows first) id) (enters : Enters compiled (rows first) key value) :
    IsGrown compiled rows id first (first + 1) header
      (enter (.object (Keyed.insert header "id" (.string id))) key value) := by
  have hasData := hasData_of_enters enters
  have absent : Keyed.lookup (Keyed.insert header "id" (.string id)) "data" = none := by
    rw [Keyed.lookup_insert_of_ne _ _ (by decide)]
    exact free hasData
  refine ⟨fun bare => absurd bare hasData, fun _ => ⟨Keyed.insert [] key value, ?_, ?_⟩⟩
  · exact gathers_start.insert (Nat.le_refl first) names enters
  · exact enter_of_absent absent

theorem IsGrown.insert (grown : IsGrown compiled rows id first count header document)
    (started : first ≤ count) (names : Names compiled (rows count) id)
    (enters : Enters compiled (rows count) key value) :
    IsGrown compiled rows id first (count + 1) header (enter document key value) := by
  have hasData := hasData_of_enters enters
  obtain ⟨data, gathers, rfl⟩ := grown.filled hasData
  refine ⟨fun bare => absurd bare hasData, fun _ => ⟨Keyed.insert data key value, ?_, ?_⟩⟩
  · exact gathers.insert started names enters
  · rw [enter_of_present (Keyed.lookup_insert_self _ _ _), Keyed.insert_insert_self]

theorem IsGrown.skip (grown : IsGrown compiled rows id first count header document)
    (idle : Names compiled (rows count) id →
      ∀ key value, ¬ Enters compiled (rows count) key value) :
    IsGrown compiled rows id first (count + 1) header document := by
  refine ⟨grown.bare, fun hasData => ?_⟩
  obtain ⟨data, gathers, same⟩ := grown.filled hasData
  exact ⟨data, gathers.skip idle, same⟩

/-- A row keeps a document that is open in step, whether or not its header resolves. -/
theorem IsGrown.step (grown : IsGrown compiled rows id first count header document)
    (started : first ≤ count) {outcome : BuildOutcome}
    (there : Keyed.lookup outcome.documents id = some document) :
    ∃ later, Keyed.lookup (addRow compiled (rows count) outcome).documents id = some later ∧
      IsGrown compiled rows id first (count + 1) header later := by
  by_cases names : Names compiled (rows count) id
  · rw [lookup_addRow_of_names names, documentFor_of_some there]
    rcases entered : entry compiled (rows count) with _ | _ | ⟨key, value⟩
    · refine ⟨document, there, grown.skip ?_⟩
      intro _ key value enters
      simp [entry_of_enters enters] at entered
    · refine ⟨document, rfl, grown.skip ?_⟩
      intro _ key value enters
      simp [entry_of_enters enters] at entered
    · exact ⟨_, rfl, grown.insert started names (enters_of_entry entered)⟩
  · rw [lookup_addRow_of_not_names names]
    exact ⟨document, there, grown.skip fun named => absurd named names⟩

/-- A row opens the document of an id that has none, or leaves it without one. -/
theorem lookup_addRow_of_absent (nestable : Nestable compiled) {outcome : BuildOutcome}
    (absent : Keyed.lookup outcome.documents id = none) :
    (¬ Opens compiled (rows count) id ∧
        Keyed.lookup (addRow compiled (rows count) outcome).documents id = none) ∨
      (Opens compiled (rows count) id ∧ ∃ header document,
        Heads compiled (rows count) header ∧
          Keyed.lookup (addRow compiled (rows count) outcome).documents id = some document ∧
            IsGrown compiled rows id count (count + 1) header document) := by
  by_cases nameless : ¬ Names compiled (rows count) id
  · refine .inl ⟨fun opens => nameless opens.names, ?_⟩
    rw [lookup_addRow_of_not_names nameless, absent]
  have names := Classical.not_not.mp nameless
  rw [lookup_addRow_of_names names]
  by_cases headless : ∀ header, compiled.body.resolve BuilderType.nestedRows.handlers
      (rows count) compiled.optionalFields ≠ .ok header
  · refine .inl ⟨?_, ?_⟩
    · rintro ⟨_, _, header, resolves⟩
      exact headless header resolves
    · rw [documentFor_eq_none absent headless]
      split
      · exact absent
      · rfl
  obtain ⟨resolved, resolves⟩ := Classical.not_forall_not.mp headless
  obtain ⟨header, rfl, free⟩ := nestable.header resolves
  rw [documentFor_of_none absent resolves]
  rcases entered : entry compiled (rows count) with _ | _ | ⟨key, value⟩
  · refine .inl ⟨?_, absent⟩
    intro opens
    by_cases bare : compiled.data = none
    · simp [entry_of_bare bare] at entered
    · obtain ⟨key, value, enters⟩ := opens.enters bare
      simp [entry_of_enters enters] at entered
  · have bare : compiled.data = none := by
      by_cases bare : compiled.data = none
      · exact bare
      · exact absurd entered (entry_ne_some_none nestable bare)
    have opens : Opens compiled (rows count) id :=
      ⟨names, fun hasData => absurd bare hasData, _, resolves⟩
    exact .inr ⟨opens, header, _, resolves, rfl, isGrown_bare bare⟩
  · have enters := enters_of_entry entered
    have opens : Opens compiled (rows count) id :=
      ⟨names, fun _ => ⟨key, value, enters⟩, _, resolves⟩
    exact .inr ⟨opens, header, _, resolves, rfl, isGrown_start free names enters⟩

theorem Grows.step (nestable : Nestable compiled) {outcome : BuildOutcome}
    (grows : Grows compiled rows id count (Keyed.lookup outcome.documents id)) :
    Grows compiled rows id (count + 1)
      (Keyed.lookup (addRow compiled (rows count) outcome).documents id) := by
  generalize before : Keyed.lookup outcome.documents id = found at grows
  cases grows with
  | closed unopened =>
      rcases lookup_addRow_of_absent nestable before with
        ⟨notOpen, after⟩ | ⟨opens, header, document, heads, after, grown⟩
      · rw [after]
        refine .closed ?_
        intro row below
        by_cases isCount : row = count
        · exact isCount ▸ notOpen
        · exact unopened row (by omega)
      · rw [after]
        exact .opened (Nat.lt_succ_self count) opens unopened heads grown
  | opened below opens unopened heads grown =>
      obtain ⟨later, after, grownLater⟩ := grown.step (Nat.le_of_lt below) before
      rw [after]
      exact .opened (Nat.lt_succ_of_lt below) opens unopened heads grownLater

/-- The documents of all rows, as of any number of them. -/
theorem grows_afterRows (nestable : Nestable compiled) (rows : Nat → RowContext) (id : String)
    (count : Nat) :
    Grows compiled rows id count
      (Keyed.lookup
        (BuildOutcome.afterRows (fun outcome row => addRow compiled (rows row) outcome)
          count).documents id) :=
  BuildOutcome.afterRows_invariant
    (fun count outcome => Grows compiled rows id count (Keyed.lookup outcome.documents id))
    (.closed fun row below => absurd below (Nat.not_lt_zero row))
    (fun _ _ grows => grows.step nestable) count

end Growth

/-- Exactly what nested rows build.  There is a document of an id just if some row opens
it, and then it is what the first such row resolves its header to, with the id set and,
if there are data, with what the rows from there on entered: under every key the value of
the last row that named the id and entered something under that key.  For an ingest
document of nested rows, there are data just if its template has them. -/
theorem builds_exactly {document : IngestDocument} {compiled : CompiledDocument}
    (compiles : CompiledDocument.compile document = .ok compiled) (dataset : Dataset)
    (parameters : Json.Fields) (id : String) :
    (document.builder = .nestedRows →
      (compiled.data = none ↔ document.template.field? "data" = none)) ∧
    (Keyed.hasKey (build compiled dataset parameters).documents id ↔
      ∃ row < dataset.rowCount, Opens compiled (dataset.contextAt parameters row) id) ∧
    ∀ first < dataset.rowCount, Opens compiled (dataset.contextAt parameters first) id →
      (∀ earlier < first, ¬ Opens compiled (dataset.contextAt parameters earlier) id) →
        ∃ header built, Heads compiled (dataset.contextAt parameters first) header ∧
          Keyed.lookup (build compiled dataset parameters).documents id = some built ∧
            IsGrown compiled (dataset.contextAt parameters) id first dataset.rowCount header
              built := by
  have grows := grows_afterRows (nestable_of_compile compiles) (dataset.contextAt parameters) id
    dataset.rowCount
  have documents : (build compiled dataset parameters).documents =
      (BuildOutcome.afterRows
        (fun outcome row => addRow compiled (dataset.contextAt parameters row) outcome)
        dataset.rowCount).documents := rfl
  rw [← documents] at grows
  refine ⟨CompiledDocument.data_eq_none_iff compiles, ?_⟩
  rw [Keyed.hasKey]
  generalize Keyed.lookup (build compiled dataset parameters).documents id = found at grows ⊢
  cases grows with
  | closed unopened =>
      constructor
      · simpa using unopened
      · intro first below opens
        exact absurd opens (unopened first below)
  | @opened started header built below opens unopened heads grown =>
      constructor
      · simpa using ⟨started, below, opens⟩
      · intro first _ opensFirst unopenedBefore
        -- there is only one first row
        have same : first = started := by
          rcases Nat.lt_trichotomy first started with before | same | behind
          · exact absurd opensFirst (unopened first before)
          · exact same
          · exact absurd opens (unopenedBefore started behind)
        subst same
        exact ⟨header, built, heads, rfl, grown⟩

end NestedRows

/-- One document for each station, with its readings by name. -/
def IngestDocument.readings : IngestDocument :=
  { IngestDocument.blank with
    id := "readings"
    builder := .nestedRows
    subset := "north"
    template := .object
      [("data", .object [("t", .string "*temp")]), ("id", .string "*station"),
        ("type", .string "OB")] }

/-- What the templates of readings are parsed to. -/
def CompiledDocument.readings : CompiledDocument :=
  { id := .field "station"
    body := .object [("type", .token (.literal "OB"))]
    data := some (.object [("t", .token (.field "temp"))])
    dataKey := some (.field "name")
    optionalFields := [] }

/-- Two readings of one station under one name. -/
def Dataset.twoReadings : Dataset :=
  .rows ⟨[],
    [[("name", .string "a"), ("station", .string "KDEN"), ("temp", .ofNat 1)],
      [("name", .string "a"), ("station", .string "KDEN"), ("temp", .ofNat 2)]]⟩

theorem NestedRows.builds_exactly_readings :
    CompiledDocument.compile .readings = .ok .readings ∧
      IngestDocument.readings.builder = .nestedRows ∧
      Opens .readings (Dataset.twoReadings.contextAt [] 0) "KDEN" ∧
      ∃ header built, Heads .readings (Dataset.twoReadings.contextAt [] 0) header ∧
        Keyed.lookup (build .readings .twoReadings []).documents "KDEN" = some built ∧
          IsGrown .readings (Dataset.twoReadings.contextAt []) "KDEN" 0 2 header built := by
  have compiles : CompiledDocument.compile .readings = .ok .readings := rfl
  have names : Names .readings (Dataset.twoReadings.contextAt [] 0) "KDEN" := ⟨_, rfl, rfl⟩
  have enters : Enters .readings (Dataset.twoReadings.contextAt [] 0) "a"
      (.object [("t", .ofNat 1)]) := ⟨_, _, _, _, rfl, rfl, rfl, rfl, rfl, rfl⟩
  have opens : Opens .readings (Dataset.twoReadings.contextAt [] 0) "KDEN" :=
    ⟨names, fun _ => ⟨_, _, enters⟩, _, rfl⟩
  obtain ⟨_, _, grown⟩ := builds_exactly compiles .twoReadings [] "KDEN"
  exact ⟨compiles, rfl, opens,
    grown 0 (by decide) opens fun earlier before => absurd before (Nat.not_lt_zero earlier)⟩

/-- Of two readings under one name the later one stays. -/
example : (NestedRows.build .readings .twoReadings []).documents =
    [("KDEN", .object
      [("data", .object [("a", .object [("t", .ofNat 2)])]), ("id", .string "KDEN"),
        ("type", .string "OB")])] := rfl

end DocumentIngest
