import DocumentIngest.Proofs.CrewAccounts
import DocumentIngest.Proofs.Intake
import DocumentIngest.Proofs.ItemProcessing
import DocumentIngest.Proofs.Planning

/-!
# Steps over a directory

During a pass only one kind of step touches the documents in the store, that which
writes a work item.  Either its write is lost and leaves them as they were, or it
lands, and then the marker of the file goes in behind its documents.  Documents
have other ids than markers and do not read as markers, so after every step the
store reflects what has landed.  If no write times out, a work item that has been
taken stays in hand until it lands.
-/

namespace DocumentIngest

open Fallible

namespace Intake

variable (intake : Intake)

/-- Whether no document that the ingest document builds can be taken for one of its
markers. -/
def BuildsNoMarkers : Prop :=
  ∀ dataset item,
    (Assembler.assemble intake.document.builder intake.compiled dataset
      (WorkItem.parameterBag item intake.document)).documents.All fun _ document =>
        MemoryStore.markerOf? intake.document.id document = none

/-- Whether a document does not get in the way of markers: it stands under another id
than they do, and is not one. -/
def IsAside (id : String) (document : Json) : Prop :=
  firstPiece id ≠ ['D', 'F'] ∧ MemoryStore.markerOf? intake.document.id document = none

variable {intake} {documents : DocumentMap} {landed : List (WorkItem × DocumentMap)}

theorem markerId_ne {key : String} (otherPiece : firstPiece key ≠ ['D', 'F']) (name : String) :
    intake.markerId name ≠ key := by
  rintro rfl
  exact otherPiece (DataFileRecord.firstPiece_id_make _ _ _)

theorem Reflects.insert_aside (reflects : intake.Reflects documents landed) {key : String}
    {document : Json} (aside : intake.IsAside key document) :
    intake.Reflects (Keyed.insert documents key document) landed where
  ascending := Keyed.ascending_insert reflects.ascending key document
  marked := by
    intro name isName
    rw [Keyed.lookup_insert_of_ne _ _ (markerId_ne aside.1 name)]
    exact reflects.marked name isName
  only := by
    intro other stored found isMarker
    rw [Keyed.lookup_insert] at found
    split at found
    · cases found
      exact absurd aside.2 isMarker
    · exact reflects.only other stored found isMarker
  bounded := reflects.bounded

theorem Reflects.overlay_aside {entries : List (String × Json)}
    (aside : ∀ entry ∈ entries, intake.IsAside entry.1 entry.2) {documents : DocumentMap}
    (reflects : intake.Reflects documents landed) :
    intake.Reflects (MemoryStore.overlay documents entries) landed := by
  induction entries generalizing documents with
  | nil => exact reflects
  | cons entry rest ih =>
      have first := reflects.insert_aside (aside entry List.mem_cons_self)
      exact ih (fun other member => aside other (List.mem_cons_of_mem _ member)) first

theorem landedTime?_item (name other : String) (mtime : Int) (built : DocumentMap) :
    landedTime? (intake.pathOf other) (intake.item name mtime, built) =
      if intake.pathOf name = intake.pathOf other then some mtime else none :=
  rfl

/-- A marker that is written is that of the landing it comes with. -/
theorem Reflects.insert_marker (reflects : intake.Reflects documents landed) {name : String}
    (isName : Path.IsName name) {mtime : Int} (bounded : mtime < 2 ^ 63) (built : DocumentMap) :
    intake.Reflects
      (Keyed.insert documents (intake.markerId name) (intake.marker name mtime).toJson)
      (landed ++ [(intake.item name mtime, built)]) where
  ascending := Keyed.ascending_insert reflects.ascending _ _
  marked := by
    intro other otherIsName
    rw [lastLanding_concat, landedTime?_item, Keyed.lookup_insert]
    -- Files with other names have other markers and other paths.
    by_cases same : other = name
    · subst same
      simp
    · have otherId : intake.markerId other ≠ intake.markerId name :=
        fun sameId => same ((markerId_inj otherIsName isName).mp sameId)
      have otherPath : intake.pathOf name ≠ intake.pathOf other :=
        fun samePath => same ((pathOf_inj isName otherIsName).mp samePath).symm
      rw [if_neg otherId, if_neg otherPath]
      exact reflects.marked other otherIsName
  only := by
    intro key document found isMarker
    rw [Keyed.lookup_insert] at found
    split at found
    · next same => exact ⟨name, isName, same⟩
    · exact reflects.only key document found isMarker
  bounded := by
    intro other otherIsName landedAt lands
    rw [lastLanding_concat, landedTime?_item] at lands
    split at lands
    · cases lands
      exact bounded
    · exact reflects.bounded other otherIsName landedAt lands

/-- What a file leaves in the store, when it lands, makes the store reflect that. -/
theorem Reflects.land (reflects : intake.Reflects documents landed) {name : String}
    (isName : Path.IsName name) {mtime : Int} (bounded : mtime < 2 ^ 63) {built : DocumentMap}
    (aside : built.All intake.IsAside) :
    intake.Reflects
      (MemoryStore.overlay documents
        (Destination.entries built ((intake.item name mtime).marker intake.document)))
      (landed ++ [(intake.item name mtime, built)]) := by
  -- The documents go in first and change nothing; the marker behind them is the
  -- last thing that is written.
  have documentsIn := reflects.overlay_aside aside
  have markerBehind := documentsIn.insert_marker isName bounded built
  have split : MemoryStore.overlay documents
      (Destination.entries built ((intake.item name mtime).marker intake.document)) =
        Keyed.insert (MemoryStore.overlay documents built) (intake.markerId name)
          (intake.marker name mtime).toJson := by
    rw [MemoryStore.overlay, Destination.entries, List.foldl_append]
    rfl
  rw [split]
  exact markerBehind

end Intake

/-- The ticket of a work item that a worker has taken and not yet written. -/
def Worker.unwritten? (worker : Worker) : Option Ticket :=
  match worker.phase with
  | .holding ticket => some ticket
  | .building ticket => some ticket
  | .writing ticket _ _ => some ticket
  | _ => none

theorem Worker.unwritten?_of_isDone {worker : Worker} (done : worker.isDone = true) :
    worker.unwritten? = none := by
  obtain ⟨index, phase, pool, report⟩ := worker
  cases phase <;> simp [Worker.isDone, Worker.unwritten?] at done ⊢

namespace Intake

variable {intake : Intake} {items : List WorkItem} {landed : List (WorkItem × DocumentMap)}
  {order : WorkOrder} {worker : Worker} {shop : Workshop MemoryStore}

theorem mem_documents (intake : Intake) : intake.document ∈ intake.job.documents := by
  rw [intake.single]
  exact List.mem_singleton_self _

theorem aside_build (unlike : intake.BuildsNoMarkers) {pool : AssemblerPool}
    (reachable : pool.Reachable intake.job.documents) (archive : Archive MemoryStore)
    (item : WorkItem) :
    (Worker.documentsOf (Worker.build pool archive intake.document item).2.2).All
      intake.IsAside := by
  refine Worker.all_build intake.valid reachable intake.mem_documents intake.compiles archive
    item fun dataset => ?_
  obtain ⟨_, _, _, _, _, parsed, _⟩ := CompiledDocument.cases_of_compile intake.compiles
  have whole := Token.colon_not_mem_leadingLiteral parsed intake.leads
  have first := Assembler.all_assemble
    (CompiledDocument.ensures_firstPiece intake.leads whole) intake.document.builder dataset
    (item.parameterBag intake.document)
  intro entry member
  refine ⟨?_, unlike dataset item entry member⟩
  rw [first entry member]
  intro sameHead
  exact intake.otherHead (String.toList_inj.mp sameHead)

variable (intake) in
/-- Whether a work item is a file of the directory. -/
def IsFile (item : WorkItem) : Prop :=
  ∃ name mtime, Path.IsName name ∧ mtime < 2 ^ 63 ∧ item = intake.item name mtime

variable (intake items) in
/-- Whether a worker is on work items of the intake: what it has in hand is one of
them, and what it is about to write are their documents. -/
structure Fits (worker : Worker) : Prop where
  pool : worker.pool.Reachable intake.job.documents
  unwritten : ∀ ticket, worker.unwritten? = some ticket → ticket.item ∈ items
  built : ∀ ticket document built, worker.phase = .writing ticket document built →
    document = intake.document ∧ (Worker.documentsOf built).All intake.IsAside ∧
      (Worker.documentsOf built).All Json.Carries

theorem Fits.of_idle (fits : intake.Fits items worker) {later : Worker}
    (samePool : later.pool = worker.pool) (idle : later.unwritten? = none) :
    intake.Fits items later where
  pool := samePool ▸ fits.pool
  unwritten := by simp [idle]
  built := by
    intro ticket document built writing
    simp [Worker.unwritten?, writing] at idle

/-- What a step of a worker on the intake does: it leaves the files alone, the store
reflects what has landed, and what lands is a work item of the intake. -/
structure StepReflects (intake : Intake) (items : List WorkItem)
    (landed : List (WorkItem × DocumentMap)) (shop : Workshop MemoryStore) (later : Worker)
    (shopLater : Workshop MemoryStore) (landing : Option (WorkItem × DocumentMap)) : Prop where
  fits : intake.Fits items later
  files : shopLater.archive.files = shop.archive.files
  reflects : intake.Reflects shopLater.archive.store.documents (landed ++ landing.toList)
  ofItems : ∀ landing' ∈ landing.toList, landing'.1 ∈ items

theorem StepReflects.of_same {later : Worker} {shopLater : Workshop MemoryStore}
    (fits : intake.Fits items later)
    (reflects : intake.Reflects shop.archive.store.documents landed)
    (files : shopLater.archive.files = shop.archive.files)
    (documents : shopLater.archive.store.documents = shop.archive.store.documents) :
    StepReflects intake items landed shop later shopLater none where
  fits := fits
  files := files
  reflects := by
    rw [documents, Option.toList_none, List.append_nil]
    exact reflects
  ofItems := by simp

theorem stepReflects_step (unlike : intake.BuildsNoMarkers) (sameJob : order.job = intake.job)
    (toStore : order.destination = .toStore) (areFiles : ∀ item ∈ items, intake.IsFile item)
    (fits : intake.Fits items worker)
    (waiting : ∀ ticket ∈ shop.queue.waiting, ticket.item ∈ items)
    (reflects : intake.Reflects shop.archive.store.documents landed) :
    StepReflects intake items landed shop (worker.step order shop).1 (worker.step order shop).2
      (worker.landing? order shop) := by
  obtain ⟨index, phase, pool, report⟩ := worker
  cases phase with
  | connecting attempts =>
      have same := shop.archive.store.documents_connect
      simp only [Worker.step, Worker.landing?, DocumentStore.connect]
      rcases connected : shop.archive.store.connect with ⟨store, fault | _⟩
      · rw [connected] at same
        dsimp only
        split
        · exact .of_same (fits.of_idle rfl rfl) reflects rfl same
        · exact .of_same (fits.of_idle rfl rfl) reflects rfl same
      · rw [connected] at same
        exact .of_same (fits.of_idle rfl rfl) reflects rfl same
  | polling emptyPolls =>
      simp only [Worker.step, Worker.landing?, WorkQueue.take]
      cases queued : shop.queue.waiting with
      | cons ticket rest =>
          refine .of_same ⟨fits.pool, ?_, by simp⟩ reflects rfl rfl
          intro other same
          cases same
          exact waiting ticket (queued ▸ List.mem_cons_self)
      | nil =>
          cases shop.queue.isOpen with
          | false => exact .of_same (fits.of_idle rfl rfl) reflects rfl rfl
          | true =>
              simp only [if_true]
              by_cases patient : order.runtime.drainRetries ≤ emptyPolls
              · rw [if_pos patient]
                exact .of_same (fits.of_idle rfl rfl) reflects rfl rfl
              · rw [if_neg patient]
                exact .of_same (fits.of_idle rfl rfl) reflects rfl rfl
  | holding ticket =>
      exact .of_same ⟨fits.pool, fits.unwritten, by simp [Worker.step]⟩ reflects rfl rfl
  | building ticket =>
      have isItem := fits.unwritten ticket rfl
      obtain ⟨name, mtime, _, _, isFile⟩ := areFiles ticket.item isItem
      have known : order.job.document? ticket.item.documentId = some intake.document := by
        rw [sameJob, isFile]
        exact Job.document?_of_mem intake.valid intake.mem_documents
      have reachable := Worker.reachable_build intake.valid fits.pool intake.mem_documents
        shop.archive ticket.item
      have aside := aside_build unlike fits.pool shop.archive ticket.item
      have carries := Worker.carries_build intake.valid fits.pool intake.mem_documents
        shop.archive ticket.item
      have unread := Worker.build_memory pool shop.archive intake.document ticket.item
      simp only [Worker.step, Worker.landing?, known]
      refine .of_same ⟨reachable, fits.unwritten, ?_⟩ reflects (by rw [unread]) (by rw [unread])
      intro other document outcome writing
      cases writing
      exact ⟨rfl, aside, carries⟩
  | writing ticket document built =>
      have isItem := fits.unwritten ticket rfl
      obtain ⟨name, mtime, isName, bounded, isFile⟩ := areFiles ticket.item isItem
      obtain ⟨rfl, aside, carries⟩ := fits.built ticket document built rfl
      have carried := Destination.carried_entries carries (ticket.item.marker intake.document)
      obtain ⟨received, isLost⟩ := Destination.deliver_memory shop.archive ticket.item carried
      simp only [Worker.step, Worker.write_eq, Worker.landing?, toStore]
      -- The batch is lost as a whole, or it lands as a whole.
      by_cases timesOut : shop.archive.store.TimesOut
          (Destination.entries (Worker.documentsOf built) (ticket.item.marker intake.document))
      · rw [if_pos (isLost.mpr timesOut), received]
        exact .of_same ⟨fits.pool, by simp [Worker.unwritten?], by simp⟩ reflects rfl
          (MemoryStore.documents_receive_of_timesOut timesOut)
      · rw [if_neg fun lost => timesOut (isLost.mp lost), received]
        refine ⟨⟨fits.pool, by simp [Worker.unwritten?], by simp⟩, rfl, ?_, ?_⟩
        · have lands := reflects.land isName bounded aside
          rw [← isFile] at lands
          dsimp only [Option.toList_some]
          rw [MemoryStore.documents_receive timesOut]
          exact lands
        · intro landing member
          rw [List.mem_singleton.mp member]
          exact isItem
  | acknowledging ticket => exact .of_same (fits.of_idle rfl rfl) reflects rfl rfl
  | finished => exact .of_same fits reflects rfl rfl
  | gaveUp fault => exact .of_same fits reflects rfl rfl

/-- What a step of a worker does when nothing fails: no fault comes up, a ticket that
waits stays or is taken, and one in hand stays in hand or lands. -/
structure StepDelivers (worker : Worker) (shop : Workshop MemoryStore) (later : Worker)
    (shopLater : Workshop MemoryStore) (landing : Option (WorkItem × DocumentMap)) : Prop where
  refusals : shopLater.archive.store.refusals = 0
  timeouts : shopLater.archive.store.timeouts = 0
  /-- Nobody is turned away. -/
  reaches : later.isDone = true → later.isOutside = false
  waiting : ∀ ticket ∈ shop.queue.waiting,
    ticket ∈ shopLater.queue.waiting ∨ later.unwritten? = some ticket
  inHand : ∀ ticket, worker.unwritten? = some ticket →
    later.unwritten? = some ticket ∨ ∃ landing' ∈ landing.toList, landing'.1 = ticket.item

theorem StepDelivers.of_same {later : Worker} {shopLater : Workshop MemoryStore}
    {landing : Option (WorkItem × DocumentMap)}
    (refusals : shopLater.archive.store.refusals = 0)
    (timeouts : shopLater.archive.store.timeouts = 0)
    (reaches : later.isDone = true → later.isOutside = false)
    (waiting : shopLater.queue.waiting = shop.queue.waiting)
    (inHand : later.unwritten? = worker.unwritten?) :
    StepDelivers worker shop later shopLater landing where
  refusals := refusals
  timeouts := timeouts
  reaches := reaches
  waiting := fun _ member => .inl (waiting ▸ member)
  inHand := fun _ holds => .inl (inHand.trans holds)

theorem stepDelivers_step (sameJob : order.job = intake.job)
    (toStore : order.destination = .toStore) (areFiles : ∀ item ∈ items, intake.IsFile item)
    (fits : intake.Fits items worker) (refusals : shop.archive.store.refusals = 0)
    (timeouts : shop.archive.store.timeouts = 0)
    (reaches : worker.isDone = true → worker.isOutside = false) :
    StepDelivers worker shop (worker.step order shop).1 (worker.step order shop).2
      (worker.landing? order shop) := by
  obtain ⟨index, phase, pool, report⟩ := worker
  cases phase with
  | connecting attempts =>
      have connected : shop.archive.store.connect = (shop.archive.store, .ok ()) := by
        unfold MemoryStore.connect
        rw [refusals]
      simp only [Worker.step, DocumentStore.connect, connected]
      exact .of_same refusals timeouts (by simp [Worker.isDone]) rfl rfl
  | polling emptyPolls =>
      simp only [Worker.step, WorkQueue.take]
      cases queued : shop.queue.waiting with
      | cons ticket rest =>
          refine ⟨refusals, timeouts, by simp [Worker.isDone], ?_, by simp [Worker.unwritten?]⟩
          intro other member
          rw [queued] at member
          rcases List.mem_cons.mp member with rfl | behind
          · exact .inr rfl
          · exact .inl behind
      | nil =>
          cases shop.queue.isOpen with
          | false => exact .of_same refusals timeouts (fun _ => rfl) rfl rfl
          | true =>
              simp only [if_true]
              by_cases patient : order.runtime.drainRetries ≤ emptyPolls
              · rw [if_pos patient]
                exact .of_same refusals timeouts (fun _ => rfl) rfl rfl
              · rw [if_neg patient]
                exact .of_same refusals timeouts (fun _ => rfl) rfl rfl
  | holding ticket => exact .of_same refusals timeouts (fun _ => rfl) rfl rfl
  | building ticket =>
      obtain ⟨name, mtime, _, _, isFile⟩ := areFiles ticket.item (fits.unwritten ticket rfl)
      have known : order.job.document? ticket.item.documentId = some intake.document := by
        rw [sameJob, isFile]
        exact Job.document?_of_mem intake.valid intake.mem_documents
      have unread := Worker.build_memory pool shop.archive intake.document ticket.item
      simp only [Worker.step, known]
      exact .of_same (by rw [unread, refusals]) (by rw [unread, timeouts]) (fun _ => rfl) rfl rfl
  | writing ticket document built =>
      obtain ⟨rfl, _, carries⟩ := fits.built ticket document built rfl
      have carried := Destination.carried_entries carries (ticket.item.marker intake.document)
      obtain ⟨received, isLost⟩ := Destination.deliver_memory shop.archive ticket.item carried
      have arrives : ¬shop.archive.store.TimesOut
          (Destination.entries (Worker.documentsOf built) (ticket.item.marker intake.document)) :=
        fun timesOut => timesOut.2 timeouts
      simp only [Worker.step, Worker.write_eq, Worker.landing?, toStore]
      rw [if_neg fun lost => arrives (isLost.mp lost), received, MemoryStore.receive,
        if_neg arrives]
      refine ⟨refusals, timeouts, by simp [Worker.isDone], fun other member => .inl member, ?_⟩
      intro other holds
      cases holds
      exact .inr ⟨_, List.mem_singleton_self _, rfl⟩
  | acknowledging ticket =>
      have same := WorkQueue.acknowledge_waiting shop.queue ticket.number
      exact .of_same refusals timeouts (fun _ => rfl) same rfl
  | finished => exact .of_same refusals timeouts (fun _ => rfl) rfl rfl
  | gaveUp fault => exact absurd (reaches rfl) (by simp [Worker.isOutside])

/-- What a pass keeps over its steps: workers and queue are on its work items, the
files are the same, and the store reflects what has landed. -/
structure InPass (intake : Intake) (items : List WorkItem) (files : FileTree)
    (earlier : List (WorkItem × DocumentMap)) (crew : Crew MemoryStore)
    (landed : List (WorkItem × DocumentMap)) : Prop where
  fits : ∀ worker ∈ crew.workers, intake.Fits items worker
  waiting : ∀ ticket ∈ crew.shop.queue.waiting, ticket.item ∈ items
  files : crew.shop.archive.files = files
  reflects : intake.Reflects crew.shop.archive.store.documents (earlier ++ landed)
  ofItems : ∀ landing ∈ landed, landing.1 ∈ items

theorem mem_replaced (before after : List Worker) (worker : Worker) :
    worker ∈ before ++ worker :: after :=
  List.mem_append_right _ List.mem_cons_self

theorem InPass.step (unlike : intake.BuildsNoMarkers) (sameJob : order.job = intake.job)
    (toStore : order.destination = .toStore) (areFiles : ∀ item ∈ items, intake.IsFile item)
    {files : FileTree} {earlier : List (WorkItem × DocumentMap)} {before after : List Worker}
    (inPass : intake.InPass items files earlier ⟨before ++ worker :: after, shop⟩ landed) :
    intake.InPass items files earlier
      ⟨before ++ (worker.step order shop).1 :: after, (worker.step order shop).2⟩
      (landed ++ (worker.landing? order shop).toList) := by
  have stepped := stepReflects_step unlike sameJob toStore areFiles
    (inPass.fits worker (mem_replaced before after worker)) inPass.waiting inPass.reflects
  have taken := (worker.keepsAccounts_step order shop).waiting
  constructor
  · exact forall_mem_of_replaced inPass.fits stepped.fits
  · exact fun ticket member => inPass.waiting ticket (taken.subset member)
  · exact stepped.files.trans inPass.files
  · rw [← List.append_assoc]
    exact stepped.reflects
  · intro landing member
    rcases List.mem_append.mp member with earlier | here
    · exact inPass.ofItems landing earlier
    · exact stepped.ofItems landing here

/-- What a pass without faults keeps besides: every work item waits, is in hand and
not yet written, or has landed, and no worker is turned away. -/
structure Delivers (items : List WorkItem) (crew : Crew MemoryStore)
    (landed : List (WorkItem × DocumentMap)) : Prop where
  refusals : crew.shop.archive.store.refusals = 0
  timeouts : crew.shop.archive.store.timeouts = 0
  reaches : ∀ worker ∈ crew.workers, worker.isDone = true → worker.isOutside = false
  tracked : ∀ item ∈ items,
    (∃ ticket ∈ crew.shop.queue.waiting, ticket.item = item) ∨
      (∃ worker ∈ crew.workers, ∃ ticket, worker.unwritten? = some ticket ∧ ticket.item = item) ∨
        ∃ landing ∈ landed, landing.1 = item

theorem Delivers.step (sameJob : order.job = intake.job) (toStore : order.destination = .toStore)
    (areFiles : ∀ item ∈ items, intake.IsFile item) {before after : List Worker}
    (fits : intake.Fits items worker)
    (delivers : Delivers items ⟨before ++ worker :: after, shop⟩ landed) :
    Delivers items ⟨before ++ (worker.step order shop).1 :: after, (worker.step order shop).2⟩
      (landed ++ (worker.landing? order shop).toList) := by
  have stepped := stepDelivers_step sameJob toStore areFiles fits delivers.refusals
    delivers.timeouts (delivers.reaches worker (mem_replaced before after worker))
  constructor
  · exact stepped.refusals
  · exact stepped.timeouts
  · exact forall_mem_of_replaced delivers.reaches stepped.reaches
  · intro item member
    -- An item that waits may be taken, one in hand may land, and what landed stays so.
    rcases delivers.tracked item member with
      ⟨ticket, waits, rfl⟩ | ⟨other, present, ticket, holds, rfl⟩ | ⟨landing, lands, rfl⟩
    · rcases stepped.waiting ticket waits with still | taken
      · exact .inl ⟨ticket, still, rfl⟩
      · exact .inr (.inl ⟨_, mem_replaced before after _, ticket, taken, rfl⟩)
    · rcases List.mem_append.mp present with ahead | present
      · exact .inr (.inl ⟨other, List.mem_append_left _ ahead, ticket, holds, rfl⟩)
      · rcases List.mem_cons.mp present with rfl | behind
        · rcases stepped.inHand ticket holds with still | ⟨landing, lands, same⟩
          · exact .inr (.inl ⟨_, mem_replaced before after _, ticket, still, rfl⟩)
          · exact .inr (.inr ⟨landing, List.mem_append_right _ lands, same⟩)
        · exact .inr (.inl ⟨other, List.mem_append_right _ (List.mem_cons_of_mem _ behind),
            ticket, holds, rfl⟩)
    · exact .inr (.inr ⟨landing, List.mem_append_left _ lands, rfl⟩)

end Intake

end DocumentIngest
