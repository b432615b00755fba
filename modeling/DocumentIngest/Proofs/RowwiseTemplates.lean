import DocumentIngest.Proofs.RowSteps

/-!
# What templates look at

Of all handlers, only the row index and whole columns tell more about a dataset
than its metadata and the cells of the row at hand.  A template resolves to the same
thing, be it a value or a failure, wherever it finds the same cells, metadata and
parameters and the same of these two as far as it asks for them.  A handler that is not
provided tells nothing, so what it would look at does not matter.
-/

namespace DocumentIngest

/-- Whether two contexts show the same cells, metadata and parameters. -/
structure RowContext.Alike (first second : RowContext) : Prop where
  field : ∀ name,
    first.dataset.field name first.row = second.dataset.field name second.row
  metadata : ∀ name, first.dataset.metadata name = second.dataset.metadata name
  parameters : first.parameters = second.parameters

/-- Whether two contexts are the same to templates that call handlers of these names. -/
structure RowContext.AlikeFor (first second : RowContext) (names : List String) : Prop
    extends first.Alike second where
  row : Handler.rowIndex.name ∈ names → first.row = second.row
  column : Handler.column.name ∈ names →
    ∀ name, first.dataset.column name = second.dataset.column name

namespace Handler

/-- Whether none of the names is that of a handler that looks past the row at hand. -/
def StaysInRow (names : List String) : Prop :=
  rowIndex.name ∉ names ∧ column.name ∉ names

/-- Those of some names that are names of handlers provided. -/
def known (provided : List Handler) (names : List String) : List String :=
  names.filter fun name => (find? provided name).isSome

variable {provided : List Handler} {names inner : List String} {name : String}

theorem mem_known_iff :
    name ∈ known provided names ↔ name ∈ names ∧ (find? provided name).isSome :=
  List.mem_filter

theorem known_subset (subset : ∀ name ∈ inner, name ∈ names) :
    ∀ name ∈ known provided inner, name ∈ known provided names := by
  intro name member
  rw [mem_known_iff] at member ⊢
  exact ⟨subset name member.1, member.2⟩

theorem StaysInRow.known (stays : StaysInRow names) : StaysInRow (known provided names) :=
  ⟨fun asked => stays.1 (mem_known_iff.mp asked).1,
    fun asked => stays.2 (mem_known_iff.mp asked).1⟩

end Handler

variable {first second : RowContext} {provided : List Handler}

namespace RowContext

theorem Alike.forNames (alike : first.Alike second) {names : List String}
    (stays : Handler.StaysInRow names) : first.AlikeFor second names where
  toAlike := alike
  row := fun asked => absurd asked stays.1
  column := fun asked => absurd asked stays.2

variable {names inner : List String}

theorem AlikeFor.of_subset (alike : first.AlikeFor second names)
    (subset : ∀ name ∈ inner, name ∈ names) : first.AlikeFor second inner where
  toAlike := alike.toAlike
  row := fun asked => alike.row (subset _ asked)
  column := fun asked => alike.column (subset _ asked)

theorem AlikeFor.known (alike : first.AlikeFor second names) (provided : List Handler) :
    first.AlikeFor second (Handler.known provided names) :=
  alike.of_subset fun _ member => (Handler.mem_known_iff.mp member).1

theorem AlikeFor.left (alike : first.AlikeFor second (Handler.known provided (names ++ inner))) :
    first.AlikeFor second (Handler.known provided names) :=
  alike.of_subset (Handler.known_subset fun _ member => List.mem_append_left inner member)

theorem AlikeFor.right
    (alike : first.AlikeFor second (Handler.known provided (names ++ inner))) :
    first.AlikeFor second (Handler.known provided inner) :=
  alike.of_subset (Handler.known_subset fun _ member => List.mem_append_right names member)

end RowContext

namespace Handler

theorem name_of_find? {provided : List Handler} {name : String} {handler : Handler}
    (found : find? provided name = some handler) : handler.name = name := by
  have matched := List.find?_some found
  simpa using matched

theorem apply_congr {handler : Handler} (alike : first.AlikeFor second [handler.name])
    (inputs : HandlerInputs) : handler.apply inputs first = handler.apply inputs second := by
  cases handler with
  | rowIndex => simp only [apply, alike.row (List.mem_singleton_self _)]
  | column => simp only [apply, alike.column (List.mem_singleton_self _)]
  | parameter => simp only [apply, alike.parameters]
  | metadata => simp only [apply, alike.metadata]
  | validEpoch => simp only [apply, alike.field]
  | deriveKey => rfl
  | round => rfl
  | scale => rfl
  | upper => rfl
  | lower => rfl
  | coalesce => rfl
  | isoTime => rfl
  | epoch => rfl
  | intervalStart => rfl
  | levels => rfl

end Handler

namespace Token

mutual

theorem resolve_congr {optionally : Bool} (token : Token)
    (alike : first.AlikeFor second (Handler.known provided token.handlerNames)) :
    token.resolve provided first optionally = token.resolve provided second optionally := by
  cases token with
  | literal text => rfl
  | field name => simp only [resolve, alike.field]
  | call name arguments parts =>
      rw [handlerNames] at alike
      have inside :
          first.AlikeFor second (Handler.known provided (namesOf arguments ++ namesOf parts)) :=
        alike.of_subset (Handler.known_subset fun _ member => List.mem_cons_of_mem name member)
      have sameArguments := resolveEach_congr arguments inside.left
      have sameParts := resolveEach_congr parts inside.right
      cases found : Handler.find? provided name with
      | none => simp only [resolve, found]
      | some handler =>
          have called : first.AlikeFor second [handler.name] := by
            rw [Handler.name_of_find? found]
            have called : name ∈ Handler.known provided
                (name :: (namesOf arguments ++ namesOf parts)) :=
              Handler.mem_known_iff.mpr ⟨List.mem_cons_self, by simp [found]⟩
            exact alike.of_subset fun other member => List.mem_singleton.mp member ▸ called
          simp only [resolve, found, sameArguments, sameParts, Handler.apply_congr called]
  | composite pieces =>
      rw [handlerNames] at alike
      simp only [resolve, resolvePieces_congr pieces alike]

theorem resolveEach_congr (tokens : List Token)
    (alike : first.AlikeFor second (Handler.known provided (namesOf tokens))) :
    resolveEach provided first tokens = resolveEach provided second tokens := by
  cases tokens with
  | nil => rfl
  | cons token rest =>
      rw [namesOf] at alike
      simp only [resolveEach, resolve_congr token alike.left, resolveEach_congr rest alike.right]

theorem resolvePieces_congr {optionally : Bool} (pieces : List Token)
    (alike : first.AlikeFor second (Handler.known provided (namesOf pieces))) :
    resolvePieces provided first optionally pieces =
      resolvePieces provided second optionally pieces := by
  cases pieces with
  | nil => rfl
  | cons piece rest =>
      rw [namesOf] at alike
      simp only [resolvePieces, resolve_congr piece alike.left,
        resolvePieces_congr rest alike.right]

end

end Token

namespace TemplateTree

variable {optionally : List String}

mutual

theorem resolveAt_congr {path : String} (tree : TemplateTree)
    (alike : first.AlikeFor second (Handler.known provided tree.handlerNames)) :
    tree.resolveAt provided first optionally path =
      tree.resolveAt provided second optionally path := by
  cases tree with
  | value constant => rfl
  | token template =>
      rw [handlerNames] at alike
      simp only [resolveAt, Token.resolve_congr template alike]
  | object fields =>
      rw [handlerNames] at alike
      simp only [resolveAt, resolveFields_congr fields alike]
  | array items =>
      rw [handlerNames] at alike
      simp only [resolveAt, resolveItems_congr items alike]

theorem resolveFields_congr {path : String} (fields : List (String × TemplateTree))
    (alike : first.AlikeFor second (Handler.known provided (namesOfFields fields))) :
    resolveFields provided first optionally path fields =
      resolveFields provided second optionally path fields := by
  cases fields with
  | nil => rfl
  | cons field rest =>
      obtain ⟨name, child⟩ := field
      rw [namesOfFields] at alike
      simp only [resolveFields, resolveAt_congr child alike.left,
        resolveFields_congr rest alike.right]

theorem resolveItems_congr {path : String} (items : List TemplateTree)
    (alike : first.AlikeFor second (Handler.known provided (namesOfItems items))) :
    resolveItems provided first optionally path items =
      resolveItems provided second optionally path items := by
  cases items with
  | nil => rfl
  | cons item rest =>
      rw [namesOfItems] at alike
      simp only [resolveItems, resolveAt_congr item alike.left,
        resolveItems_congr rest alike.right]

end

theorem resolve_congr {tree : TemplateTree}
    (alike : first.AlikeFor second (Handler.known provided tree.handlerNames)) :
    tree.resolve provided first optionally = tree.resolve provided second optionally :=
  resolveAt_congr tree alike

end TemplateTree

namespace CompiledDocument

variable {compiled : CompiledDocument}

theorem alikeFor_parts
    (alike : first.AlikeFor second (Handler.known provided compiled.handlerNames)) :
    first.AlikeFor second (Handler.known provided compiled.id.handlerNames) ∧
      first.AlikeFor second (Handler.known provided compiled.body.handlerNames) ∧
      (∀ data, compiled.data = some data →
        first.AlikeFor second (Handler.known provided data.handlerNames)) ∧
        ∀ key, compiled.dataKey = some key →
          first.AlikeFor second (Handler.known provided key.handlerNames) := by
  rw [handlerNames] at alike
  refine ⟨alike.left.left.left, alike.left.left.right, ?_, ?_⟩
  · intro data isData
    have ofData := alike.left.right
    rwa [isData] at ofData
  · intro key isKey
    have ofKey := alike.right
    rwa [isKey] at ofKey

end CompiledDocument

variable {compiled : CompiledDocument}

theorem RowPerDocument.addRow_congr
    (alike : first.AlikeFor second
      (Handler.known BuilderType.rowPerDocument.handlers compiled.handlerNames))
    (outcome : BuildOutcome) : addRow compiled first outcome = addRow compiled second outcome := by
  obtain ⟨ofId, ofBody, _, _⟩ := CompiledDocument.alikeFor_parts alike
  simp only [addRow, Token.resolve_congr compiled.id ofId, TemplateTree.resolve_congr ofBody]

namespace NestedRows

theorem entry_congr
    (alike : first.AlikeFor second
      (Handler.known BuilderType.nestedRows.handlers compiled.handlerNames)) :
    entry compiled first = entry compiled second := by
  obtain ⟨_, _, ofData, ofKey⟩ := CompiledDocument.alikeFor_parts alike
  unfold entry
  split
  · next data key isData isKey =>
      simp only [Token.resolve_congr key (ofKey key isKey),
        TemplateTree.resolve_congr (ofData data isData)]
  · rfl

theorem addRow_congr
    (alike : first.AlikeFor second
      (Handler.known BuilderType.nestedRows.handlers compiled.handlerNames))
    (outcome : BuildOutcome) : addRow compiled first outcome = addRow compiled second outcome := by
  obtain ⟨ofId, ofBody, _, _⟩ := CompiledDocument.alikeFor_parts alike
  simp only [addRow, documentFor, Token.resolve_congr compiled.id ofId,
    TemplateTree.resolve_congr ofBody, entry_congr alike]

end NestedRows

theorem Assembler.addRow_congr {builder : BuilderType}
    (alike : first.AlikeFor second (Handler.known builder.handlers compiled.handlerNames))
    (outcome : BuildOutcome) :
    addRow builder compiled first outcome = addRow builder compiled second outcome := by
  cases builder with
  | rowPerDocument => exact RowPerDocument.addRow_congr alike outcome
  | nestedRows => exact NestedRows.addRow_congr alike outcome

end DocumentIngest
