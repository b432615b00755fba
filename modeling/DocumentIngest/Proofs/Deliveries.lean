import DocumentIngest.Store.Memory
import DocumentIngest.Worker
import DocumentIngest.Proofs.BuiltDocuments

/-!
# What becomes of a work item

A work item that could not be built is written like one without documents, so
there is one way to write an item: its documents and its marker are delivered,
and the report notes whether the item was built and whether the delivery was
lost.  Into the store a delivery is one batch or none, and the store in memory
takes the whole batch or, if a timeout is armed, nothing of it.
-/

namespace DocumentIngest

namespace Delivery

def isLost : Delivery → Bool
  | written _ => false
  | empty => false
  | lost _ => true

def size : Delivery → Nat
  | written count => count
  | empty => 0
  | lost _ => 0

end Delivery

/-- The documents that came of building a work item, none if it failed. -/
def Worker.documentsOf (built : Except Failure BuildOutcome) : DocumentMap :=
  match built with
  | .ok outcome => outcome.documents
  | .error _ => []

/-- Notes what came of building a work item and of its delivery. -/
def WorkerReport.noteItem (report : WorkerReport) (item : WorkItem)
    (built : Except Failure BuildOutcome) (delivered : Delivery) : WorkerReport :=
  match built with
  | .ok outcome => (report.addRows outcome.counts).addOutcome delivered
  | .error failure =>
      if delivered.isLost then report.countPartial.noteBroken item failure
      else report.noteBroken item failure

namespace WorkerReport

variable (report : WorkerReport) (item : WorkItem) (built : Except Failure BuildOutcome)
  (delivered : Delivery)

theorem itemsOk_noteItem :
    (report.noteItem item built delivered).itemsOk =
      report.itemsOk + if built.isOk ∧ delivered.isLost = false then 1 else 0 := by
  cases built with
  | ok outcome => cases delivered <;> rfl
  | error failure => cases delivered <;> rfl

theorem itemsFailed_noteItem :
    (report.noteItem item built delivered).itemsFailed =
      report.itemsFailed + if built.isOk ∧ delivered.isLost = false then 0 else 1 := by
  cases built with
  | ok outcome => cases delivered <;> rfl
  | error failure => cases delivered <;> rfl

theorem partialDispatches_noteItem :
    (report.noteItem item built delivered).partialDispatches =
      report.partialDispatches + if delivered.isLost then 1 else 0 := by
  cases built with
  | ok outcome => cases delivered <;> rfl
  | error failure => cases delivered <;> rfl

/-- What was written is what was built, if a delivery that arrives has written
all of it. -/
theorem documentsWritten_noteItem {delivered : Delivery}
    (arrived : delivered.isLost = false → delivered.size = (Worker.documentsOf built).length) :
    (report.noteItem item built delivered).documentsWritten =
      report.documentsWritten +
        if delivered.isLost then 0 else (Worker.documentsOf built).length := by
  cases built with
  | error failure => cases delivered <;> rfl
  | ok outcome =>
      cases delivered with
      | lost reason => rfl
      | written count => exact congrArg (report.documentsWritten + ·) (arrived rfl)
      | empty => exact congrArg (report.documentsWritten + ·) (arrived rfl)

end WorkerReport

variable {σ : Type} [DocumentStore σ]

/-- Writing a work item is delivering what was built and noting what came of it. -/
theorem Worker.write_eq (destination : Destination) (report : WorkerReport) (archive : Archive σ)
    (document : IngestDocument) (item : WorkItem) (built : Except Failure BuildOutcome) :
    write destination report archive document item built =
      (report.noteItem item built
          (destination.deliver archive item (documentsOf built) (item.marker document)).2,
        (destination.deliver archive item (documentsOf built) (item.marker document)).1) := by
  cases built with
  | ok outcome => rfl
  | error failure =>
      simp only [write, documentsOf, Destination.deliver, List.isEmpty_nil, if_true]
      rcases destination.markConsumed archive (item.marker document) with ⟨archive', _ | _⟩ <;> rfl

namespace Destination

theorem size_deliver (destination : Destination) (archive : Archive σ) (item : WorkItem)
    (documents : DocumentMap) (marker : Option DataFileRecord)
    (arrived : (destination.deliver archive item documents marker).2.isLost = false) :
    (destination.deliver archive item documents marker).2.size = documents.length := by
  revert arrived
  cases documents with
  | nil =>
      simp only [deliver, List.isEmpty_nil, if_true]
      rcases destination.markConsumed archive marker with ⟨archive', _ | _⟩ <;>
        simp [Delivery.isLost, Delivery.size]
  | cons entry rest =>
      cases destination with
      | toStore =>
          simp only [deliver, List.isEmpty_cons, Bool.false_eq_true, if_false]
          rcases sendBatch archive (batch (entry :: rest) marker) with ⟨archive', _ | _⟩ <;>
            simp [Delivery.isLost, Delivery.size]
      | toFiles directory =>
          simp only [deliver, List.isEmpty_cons, Bool.false_eq_true, if_false]
          rcases writeFile archive directory (target directory item)
              (.array (Keyed.values (entry :: rest))) with ⟨archive', _ | _⟩ <;>
            simp [Delivery.isLost, Delivery.size]

/-- What a work item leaves in the store: its documents, each under its id, and
behind them its marker. -/
def entries (documents : DocumentMap) (marker : Option DataFileRecord) : List (String × Json) :=
  documents ++ marker.toList.map fun record => (record.id, record.toJson)

theorem batch_eq (documents : DocumentMap) (marker : Option DataFileRecord) :
    batch documents marker = (entries documents marker).map Prod.snd := by
  simp [batch, entries, Keyed.values]

/-- Into the store a work item goes in one batch, unless there is nothing to write. -/
theorem deliver_toStore (archive : Archive σ) (item : WorkItem) (documents : DocumentMap)
    (marker : Option DataFileRecord) :
    (entries documents marker = [] ∧
        toStore.deliver archive item documents marker = (archive, .empty)) ∨
      (entries documents marker ≠ [] ∧
        (toStore.deliver archive item documents marker).1 =
          (sendBatch archive (batch documents marker)).1 ∧
        (toStore.deliver archive item documents marker).2.isLost =
          !(sendBatch archive (batch documents marker)).2.isOk) := by
  cases documents with
  | nil =>
      cases marker with
      | none => exact .inl ⟨rfl, rfl⟩
      | some record =>
          refine .inr ⟨List.cons_ne_nil _ _, ?_⟩
          simp only [deliver, markConsumed, List.isEmpty_nil, if_true]
          rcases sendBatch archive (batch [] (some record)) with ⟨archive', _ | _⟩ <;>
            exact ⟨rfl, rfl⟩
  | cons entry rest =>
      refine .inr ⟨List.cons_ne_nil _ _, ?_⟩
      simp only [deliver, List.isEmpty_cons, Bool.false_eq_true, if_false]
      rcases sendBatch archive (batch (entry :: rest) marker) with ⟨archive', _ | _⟩ <;>
        exact ⟨rfl, rfl⟩

end Destination

namespace DataFileRecord

@[simp]
theorem textField?_id_toJson (record : DataFileRecord) :
    record.toJson.textField? "id" = some record.id := by
  simp [toJson, Json.ofFields, Json.textField?, Json.field?, Keyed.ofPairs, Keyed.lookup_insert,
    Json.asText?]

end DataFileRecord

namespace MemoryStore

theorem keyed?_of_carried {entries : List (String × Json)}
    (carried : ∀ entry ∈ entries, entry.2.textField? "id" = some entry.1) :
    keyed? (entries.map Prod.snd) = some entries := by
  induction entries with
  | nil => rfl
  | cons entry rest ih =>
      have first := carried entry List.mem_cons_self
      have behind := ih fun other member => carried other (List.mem_cons_of_mem _ member)
      rw [keyed?] at behind ⊢
      simp only [List.map_cons, List.mapM_cons, first, Option.map_some, behind]
      rfl

theorem keyed?_cons (document : Json) (rest : List Json) :
    keyed? (document :: rest) =
      (document.textField? "id").bind fun id =>
        (keyed? rest).map fun entries => (id, document) :: entries := by
  simp only [keyed?, List.mapM_cons]
  cases document.textField? "id" with
  | none => rfl
  | some id =>
      cases rest.mapM fun document => (document.textField? "id").map fun id => (id, document) <;> rfl

/-- A batch with ids is one whose documents carry them. -/
theorem carried_of_keyed? {batch : List Json} {entries : List (String × Json)}
    (keyed : keyed? batch = some entries) :
    entries.map Prod.snd = batch ∧ ∀ entry ∈ entries, entry.2.textField? "id" = some entry.1 := by
  induction batch generalizing entries with
  | nil =>
      cases keyed
      exact ⟨rfl, nofun⟩
  | cons document rest ih =>
      rw [keyed?_cons, Option.bind_eq_some_iff] at keyed
      obtain ⟨id, carried, others⟩ := keyed
      obtain ⟨entries, keyed, rfl⟩ := Option.map_eq_some_iff.mp others
      obtain ⟨same, carriedBehind⟩ := ih keyed
      exact ⟨congrArg (document :: ·) same, List.forall_mem_cons.mpr ⟨carried, carriedBehind⟩⟩

theorem keyed?_eq_none_iff {batch : List Json} :
    keyed? batch = none ↔ ∃ document ∈ batch, document.textField? "id" = none := by
  induction batch with
  | nil => exact ⟨nofun, nofun⟩
  | cons document rest ih =>
      rw [keyed?_cons]
      cases carried : document.textField? "id" with
      | none => simp [carried]
      | some id => simp [carried, ih]

/-- Documents that carry their ids are written, all of them, unless a timeout is
armed; then the timeout is used up and nothing is written. -/
theorem upsert_of_carried (store : MemoryStore) {entries : List (String × Json)}
    (carried : ∀ entry ∈ entries, entry.2.textField? "id" = some entry.1) :
    (store.timeouts = 0 ∧
        store.upsert (entries.map Prod.snd) =
          ({ store with documents := overlay store.documents entries }, .ok entries.length)) ∨
      ∃ timeouts, store.timeouts = timeouts + 1 ∧
        store.upsert (entries.map Prod.snd) =
          ({ store with timeouts }, .error (.timeout "simulated write timeout")) := by
  rw [upsert]
  split
  · next timeouts armed => exact .inr ⟨timeouts, armed, rfl⟩
  · next unarmed =>
      refine .inl ⟨unarmed, ?_⟩
      rw [keyed?_of_carried carried]

/-- Whether an armed timeout keeps a store from taking what is sent to it. -/
def TimesOut (store : MemoryStore) (entries : List (String × Json)) : Prop :=
  entries ≠ [] ∧ store.timeouts ≠ 0

instance (store : MemoryStore) (entries : List (String × Json)) :
    Decidable (store.TimesOut entries) :=
  inferInstanceAs (Decidable (_ ∧ _))

/-- The store after what a work item leaves was sent to it. -/
def receive (store : MemoryStore) (entries : List (String × Json)) : MemoryStore :=
  if store.TimesOut entries then { store with timeouts := store.timeouts - 1 }
  else { store with documents := overlay store.documents entries }

theorem documents_receive_of_timesOut {store : MemoryStore} {entries : List (String × Json)}
    (timesOut : store.TimesOut entries) : (store.receive entries).documents = store.documents := by
  rw [receive, if_pos timesOut]

theorem documents_receive {store : MemoryStore} {entries : List (String × Json)}
    (arrives : ¬store.TimesOut entries) :
    (store.receive entries).documents = overlay store.documents entries := by
  rw [receive, if_neg arrives]

theorem receive_nil (store : MemoryStore) : store.receive [] = store := by
  rw [receive, if_neg fun timesOut => timesOut.1 rfl]
  rfl

end MemoryStore

/-- The store in memory receives what a work item leaves, and the delivery is
lost exactly when that times out. -/
theorem Destination.deliver_memory (archive : Archive MemoryStore) (item : WorkItem)
    {documents : DocumentMap} {marker : Option DataFileRecord}
    (carried : ∀ entry ∈ entries documents marker, entry.2.textField? "id" = some entry.1) :
    (toStore.deliver archive item documents marker).1 =
        { archive with store := archive.store.receive (entries documents marker) } ∧
      ((toStore.deliver archive item documents marker).2.isLost = true ↔
        archive.store.TimesOut (entries documents marker)) := by
  rcases deliver_toStore archive item documents marker with ⟨nothing, same⟩ | ⟨some, sent, lost⟩
  · rw [same, nothing, MemoryStore.receive_nil]
    exact ⟨rfl, by simp [Delivery.isLost, MemoryStore.TimesOut]⟩
  · rw [sent, lost, batch_eq]
    simp only [sendBatch, DocumentStore.upsert]
    rcases archive.store.upsert_of_carried carried with ⟨unarmed, taken⟩ | ⟨timeouts, armed, refused⟩
    · have arrives : ¬archive.store.TimesOut (entries documents marker) :=
        fun timesOut => timesOut.2 unarmed
      rw [taken, MemoryStore.receive, if_neg arrives]
      exact ⟨rfl, by simp [Except.map, Except.isOk, Except.toBool, arrives]⟩
    · have timesOut : archive.store.TimesOut (entries documents marker) :=
        ⟨some, by omega⟩
      rw [refused, MemoryStore.receive, if_pos timesOut, armed]
      exact ⟨rfl, by simp [Except.map, Except.isOk, Except.toBool, timesOut]⟩

end DocumentIngest
