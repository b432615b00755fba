import DocumentIngest.Proofs.BulkActions
import Mathlib.Data.List.Forall2

/-!
# Bulk bodies line by line

The body of a bulk request is two lines for each document in order, and behind every
line stands a line feed.  The first of the two names the configured index and the
document's id, the second is the compact text of the document.  Compact texts are one
line each, so no character in an id, a key or a text takes a document away from its
action.  A body without documents is empty.
-/

namespace DocumentIngest

namespace ElasticsearchSettings

open BulkCluster (readTarget?)

/-- Whether two lines send a document to an index under the document's own id. -/
structure SendsTo (index : String) (document : Json) (lines : List Char × List Char) : Prop where
  addressed : ∃ id, document.textField? "id" = some id ∧ readTarget? lines.1 = some (index, id)
  written : lines.2 = document.compact.toList

/-- Whether a text is two lines for each document, in order and with nothing behind the
last line feed. -/
def IsFramed (index : String) (documents : List Json) (body : String) : Prop :=
  ∃ sent, List.Forall₂ (SendsTo index) documents sent ∧
    Text.splitOn '\n' body.toList = (sent.flatMap fun lines => [lines.1, lines.2]) ++ [[]]

def EndsInFeed (body : String) : Prop :=
  body.toList.getLast? = some '\n'

variable {settings : ElasticsearchSettings} {documents : List Json} {body : String}

theorem bulkBody_cons_eq_ok_iff {document : Json} :
    settings.bulkBody (document :: documents) = .ok body ↔
      ∃ id rest, document.textField? "id" = some id ∧ settings.bulkBody documents = .ok rest ∧
        body = settings.actionLine id ++ "\n" ++ document.compact ++ "\n" ++ rest := by
  rw [bulkBody]
  cases document.textField? "id" with
  | none => simp
  | some id =>
      simp only [Fallible.map_eq_ok_iff, Option.some.injEq, exists_and_left, exists_eq_left']
      exact exists_congr fun rest => and_congr_right fun _ => eq_comm

theorem isFramed_bulkBody (sent : settings.bulkBody documents = .ok body) :
    IsFramed settings.index documents body := by
  induction documents generalizing body with
  | nil =>
      cases sent
      exact ⟨[], .nil, rfl⟩
  | cons document rest ih =>
      obtain ⟨id, others, carried, sentBehind, rfl⟩ := bulkBody_cons_eq_ok_iff.mp sent
      obtain ⟨lines, each, cut⟩ := ih sentBehind
      have first : SendsTo settings.index document
          ((settings.actionLine id).toList, document.compact.toList) := by
        constructor
        · simp only [readTarget?_actionLine]
          exact ⟨id, carried, rfl⟩
        · rfl
      refine ⟨_ :: lines, .cons first each, ?_⟩
      rw [splitOn_lines, cut, List.flatMap_cons]
      simp only [List.cons_append, List.nil_append]

theorem IsFramed.endsInFeed_iff {index : String} (framed : IsFramed index documents body) :
    EndsInFeed body ↔ documents ≠ [] := by
  obtain ⟨sent, each, cut⟩ := framed
  have whole := Text.eq_flatMap_of_splitOn cut
  rw [EndsInFeed, whole]
  rcases sent.eq_nil_or_concat with rfl | ⟨front, last, rfl⟩
  · cases each
    simp
  · have some : documents ≠ [] := by
      rintro rfl
      cases front <;> cases each
    simp [some, List.getLast?_append, List.getLast?_cons]

theorem bulkBody_eq_error_iff {fault : StoreError} :
    settings.bulkBody documents = .error fault ↔
      fault = .noId ∧ ∃ document ∈ documents, document.textField? "id" = none := by
  rw [← MemoryStore.keyed?_eq_none_iff]
  cases keyed : MemoryStore.keyed? documents with
  | none =>
      rw [bulkBody_of_keyed?_eq_none settings keyed]
      simp [eq_comm]
  | some entries =>
      obtain ⟨lines, sent, _⟩ := settings.bulkBody_of_keyed? keyed
      simp [sent]

/-- A bulk body cannot be put together exactly if a document has no id.  Otherwise it is
an action line and the compact text of each document in order, whatever characters they
contain, and ends in a line feed unless there are no documents. -/
theorem bulkBody_two_lines_each (settings : ElasticsearchSettings) (documents : List Json) :
    (∀ fault, settings.bulkBody documents = .error fault ↔
      fault = .noId ∧ ∃ document ∈ documents, document.textField? "id" = none) ∧
    ((∀ document ∈ documents, document.textField? "id" ≠ none) →
      ∃ body, settings.bulkBody documents = .ok body ∧
        IsFramed settings.index documents body ∧ (EndsInFeed body ↔ documents ≠ [])) := by
  refine ⟨fun _ => bulkBody_eq_error_iff, ?_⟩
  intro haveIds
  cases sent : settings.bulkBody documents with
  | error fault =>
      obtain ⟨_, document, member, absent⟩ := bulkBody_eq_error_iff.mp sent
      exact absurd absent (haveIds document member)
  | ok body =>
      have framed := isFramed_bulkBody sent
      exact ⟨body, rfl, framed, framed.endsInFeed_iff⟩

/-- Two documents with line feeds and quotes in their ids, a key and a text. -/
def unruly : List Json :=
  [.object [("a\nb", .string "\n\""), ("id", .string "x\"\n\x7b\x7d")],
    .object [("id", .string "\r\n")]]

theorem bulkBody_two_lines_each_unruly :
    (∀ document ∈ unruly, document.textField? "id" ≠ none) ∧
      ∃ body, bulkBody { url := "http://es:9200", index := "in\ndex" } unruly = .ok body ∧
        IsFramed "in\ndex" unruly body ∧ EndsInFeed body := by
  have haveIds : ∀ document ∈ unruly, document.textField? "id" ≠ none := by decide
  obtain ⟨body, sent, framed, feed⟩ :=
    (bulkBody_two_lines_each { url := "http://es:9200", index := "in\ndex" } unruly).2 haveIds
  exact ⟨haveIds, body, sent, framed, feed.mpr (by simp [unruly])⟩

/-- Not every bulk body ends in a line feed: one without documents does not. -/
theorem not_endsInFeed_every_body :
    ¬∀ (settings : ElasticsearchSettings) (documents : List Json),
      (∀ document ∈ documents, document.textField? "id" ≠ none) →
      ∃ body, settings.bulkBody documents = .ok body ∧
        IsFramed settings.index documents body ∧ EndsInFeed body := by
  intro every
  obtain ⟨body, sent, _, feed⟩ :=
    every { url := "http://es:9200", index := "weather" } [] (by simp)
  cases sent
  cases feed

end ElasticsearchSettings

end DocumentIngest
