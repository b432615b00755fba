import DocumentIngest.Proofs.ClusterRequests
import DocumentIngest.Proofs.JsonRoundTrip
import Mathlib.Order.Defs.LinearOrder

/-!
# Markers page by page

A server holds markers in the order of their sort values and answers each search
with as many of them as were asked for, beginning behind the sort values that the
question names.  Every page but the last is full, and its last marker, whether it
can be read or not, says where the next page begins: what is still to come is
always what the server holds behind the cursor.
-/

namespace DocumentIngest

/-- A hit of a search, with the sort values that it tells. -/
structure SortedHit where
  value : Json
  sort : Json
  tells : value.field? "sort" = some sort

namespace SortedHit

/-- The marker in a hit, if it is well-formed. -/
def marker? (hit : SortedHit) : Option DataFileRecord :=
  (hit.value.field? "_source").bind fun source => (DataFileRecord.ofJson source).toOption

end SortedHit

/-- A server that holds markers, and how it ranks sort values, reads questions and
writes replies. -/
structure MarkerServer (κ : Type) where
  hits : List SortedHit
  rank : Json → κ
  read : String → Option Json
  write : Json → String
  /-- The searches that were answered. -/
  searches : List WebRequest := []

namespace MarkerServer

variable {κ : Type}

section Answers

variable [LinearOrder κ]

/-- The markers that a page can begin with. -/
def behind (server : MarkerServer κ) (cursor : Option Json) : List SortedHit :=
  match cursor with
  | none => server.hits
  | some cursor =>
      server.hits.filter fun hit => decide (server.rank cursor < server.rank hit.sort)

/-- The page that a question asks for. -/
def page? (server : MarkerServer κ) (query : Json) : Option (List SortedHit) :=
  ((query.field? "size").bind Json.asNat?).map fun size =>
    (server.behind (query.field? "search_after")).take size

/-- A page as it is sent. -/
def pageReply (page : List SortedHit) : Json :=
  .ofFields [("hits", .ofFields [("hits", .array (page.map SortedHit.value))])]

def answer (server : MarkerServer κ) (request : WebRequest) : MarkerServer κ × Option WebReply :=
  if request.method = .post ∧ request.url.lastSegment? = some "_search" then
    ({ server with searches := server.searches ++ [request] },
      some (match (server.read request.body).bind server.page? with
        | some page => ⟨200, server.write (pageReply page)⟩
        | none => ⟨400, ""⟩))
  else (server, some ⟨404, ""⟩)

instance : WebServer (MarkerServer κ) where
  answer := answer

/-- Whether markers are held in the order of their sort values, all different. -/
def Sorted (server : MarkerServer κ) : Prop :=
  server.hits.Pairwise fun earlier later => server.rank earlier.sort < server.rank later.sort

/-- Behind a marker stand those that are held after it. -/
theorem behind_of_sorted {server : MarkerServer κ} (sorted : server.Sorted)
    {before after : List SortedHit} {hit : SortedHit}
    (held : server.hits = before ++ hit :: after) : server.behind (some hit.sort) = after := by
  rw [Sorted, held] at sorted
  obtain ⟨_, fromHit, beforeHit⟩ := List.pairwise_append.mp sorted
  obtain ⟨later, _⟩ := List.pairwise_cons.mp fromHit
  have noneBefore : before.filter (fun other =>
      decide (server.rank hit.sort < server.rank other.sort)) = [] := by
    rw [List.filter_eq_nil_iff]
    intro other member
    have earlier := beforeHit other member hit List.mem_cons_self
    rw [decide_eq_true_iff]
    exact lt_asymm earlier
  have allAfter : after.filter (fun other =>
      decide (server.rank hit.sort < server.rank other.sort)) = after := by
    rw [List.filter_eq_self]
    intro other member
    exact decide_eq_true (later other member)
  rw [behind, held, List.filter_append, noneBefore, List.nil_append,
    List.filter_cons_of_neg (by simp), allAfter]

end Answers

/-- The sort values that a page can be asked for behind. -/
def IsCursor (server : MarkerServer κ) (cursor : Option Json) : Prop :=
  cursor = none ∨ ∃ hit ∈ server.hits, cursor = some hit.sort

/-- Whether a server understands the questions for its pages, and is understood. -/
structure Converses (server : MarkerServer κ) (pageSize : Nat) (documentId : String) : Prop where
  reads : ∀ cursor, server.IsCursor cursor →
    server.read (ElasticsearchStore.pageQuery pageSize documentId cursor).compact =
      some (ElasticsearchStore.pageQuery pageSize documentId cursor)
  writes : ∀ page, page <:+: server.hits →
    Json.readText (server.write (pageReply page)) = .ok (pageReply page)

/-- A page of plain hits is plain. -/
theorem isPlain_pageReply {levels : Nat} {page : List SortedHit}
    (plain : ∀ hit ∈ page, Json.IsPlain levels hit.value) :
    Json.IsPlain (levels + 3) (pageReply page) := by
  have hits : Json.IsPlain (levels + 1) (.array (page.map SortedHit.value)) := by
    apply Json.IsPlain.array
    intro item member
    obtain ⟨hit, held, rfl⟩ := List.mem_map.mp member
    exact plain hit held
  exact (hits.ofField "hits").ofField "hits"

theorem isPlain_pageQuery {levels pageSize : Nat} (small : pageSize < 2 ^ 64)
    (documentId : String) {cursor : Option Json}
    (plain : ∀ sort, cursor = some sort → Json.IsPlain (levels + 8) sort) :
    Json.IsPlain (levels + 9) (ElasticsearchStore.pageQuery pageSize documentId cursor) := by
  apply Json.IsPlain.ofFields
  intro entry member
  simp only [List.mem_append, List.mem_cons, List.not_mem_nil, or_false, List.mem_map,
    Option.mem_toList] at member
  rcases member with (rfl | rfl | rfl) | ⟨sort, given, rfl⟩
  · exact .integer (by omega) (by omega)
  · exact (Json.isPlain_of_checkPlain rfl : Json.IsPlain 8 _).mono (Nat.le_add_left 8 levels)
  · exact (Json.isPlain_of_checkPlain rfl : Json.IsPlain 8 _).mono (Nat.le_add_left 8 levels)
  · exact plain sort given

/-- A server of plain markers that reads and writes JSON as it is done here
understands the questions for its pages, and is understood. -/
theorem converses_of_isPlain {server : MarkerServer κ}
    (reads : ∀ text, server.read text = (Json.readText text).toOption)
    (writes : server.write = Json.compact)
    (plain : ∀ hit ∈ server.hits, Json.IsPlain 100 hit.value) {pageSize : Nat}
    (small : pageSize < 2 ^ 64) (documentId : String) : server.Converses pageSize documentId := by
  constructor
  · intro cursor isCursor
    have sortPlain (sort : Json) (given : cursor = some sort) : Json.IsPlain 100 sort := by
      rcases isCursor with rfl | ⟨hit, held, rfl⟩
      · cases given
      · cases given
        exact (plain hit held).of_field? hit.tells
    have query := isPlain_pageQuery small documentId sortPlain
    rw [reads, Json.readText_compact query (by decide)]
    rfl
  · intro page inside
    have page := isPlain_pageReply fun hit member => plain hit (inside.subset member)
    rw [writes, Json.readText_compact page (by decide)]

/-- A marker of a file, as a search gives it back. -/
def markerHit (number : Nat) (source : Json) : SortedHit where
  value := .object [("_source", source), ("sort", .array [.ofNat number])]
  sort := .array [.ofNat number]
  tells := rfl

end MarkerServer

namespace ElasticsearchStore

theorem size_pageQuery (pageSize : Nat) (documentId : String) (cursor : Option Json) :
    (pageQuery pageSize documentId cursor).field? "size" = some (.ofNat pageSize) := by
  cases cursor <;>
    simp [pageQuery, Json.ofFields, Json.field?, Keyed.ofPairs, Keyed.lookup_insert]

theorem searchAfter_pageQuery (pageSize : Nat) (documentId : String) (cursor : Option Json) :
    (pageQuery pageSize documentId cursor).field? "search_after" = cursor := by
  cases cursor <;>
    simp [pageQuery, Json.ofFields, Json.field?, Keyed.ofPairs, Keyed.lookup_insert]

/-- A page that was sent is received as it is. -/
theorem pageResult_pageReply {text : String} {page : List SortedHit}
    (understood : Json.readText text = .ok (MarkerServer.pageReply page)) :
    pageResult ⟨200, text⟩ = .ok (some ⟨page.map SortedHit.value⟩) := by
  have decoded : decode ⟨200, text⟩ = .ok (MarkerServer.pageReply page) := by
    rw [decode, WebReply.content, if_neg (by simp), understood]
    rfl
  have success : (⟨200, text⟩ : WebReply).isSuccess = true := rfl
  simp only [pageResult, success, decoded]
  rfl

/-- The markers on a page are the well-formed ones. -/
theorem markers_page (page : List SortedHit) :
    (Page.mk (page.map SortedHit.value)).markers = page.filterMap SortedHit.marker? := by
  rw [Page.markers, List.filterMap_map]
  rfl

/-- The next page begins behind the last hit, well-formed or not. -/
theorem cursor_page (earlier : List SortedHit) (last : SortedHit) :
    (Page.mk ((earlier ++ [last]).map SortedHit.value)).cursor = some last.sort := by
  rw [Page.cursor, List.map_append, List.map_singleton, List.getLast?_concat]
  exact last.tells

theorem exists_last {page : List SortedHit} (notEmpty : 0 < page.length) :
    ∃ earlier last, page = earlier ++ [last] := by
  rcases List.eq_nil_or_concat' page with rfl | ends
  · exact absurd notEmpty (Nat.lt_irrefl _)
  · exact ends

variable {κ : Type}

/-- The store after some searches. -/
def searched (store : ElasticsearchStore (MarkerServer κ)) (searches : List WebRequest) :
    ElasticsearchStore (MarkerServer κ) :=
  { store with server := { store.server with searches := store.server.searches ++ searches } }

theorem searched_searched (store : ElasticsearchStore (MarkerServer κ))
    (earlier later : List WebRequest) :
    (store.searched earlier).searched later = store.searched (earlier ++ later) := by
  simp only [searched, List.append_assoc]

variable [LinearOrder κ]

/-- Whether the pages of a store's server can be read at an address. -/
structure ReadsPages (store : ElasticsearchStore (MarkerServer κ)) (url : Url)
    (documentId : String) : Prop where
  isOpen : store.settings.IsOpen
  sendable : isSendable url = true
  named : url.lastSegment? = some "_search"
  positive : 0 < store.pageSize
  sorted : store.server.Sorted
  converses : store.server.Converses store.pageSize documentId

variable {store : ElasticsearchStore (MarkerServer κ)} {url : Url} {documentId : String}

theorem ReadsPages.searched (reading : store.ReadsPages url documentId)
    (searches : List WebRequest) : (store.searched searches).ReadsPages url documentId :=
  { reading with converses := ⟨reading.converses.reads, reading.converses.writes⟩ }

/-- A search is answered by what stands behind the cursor, as far as a page goes. -/
theorem exists_search (reading : store.ReadsPages url documentId) {cursor : Option Json}
    (isCursor : store.server.IsCursor cursor) :
    ∃ search, store.send .post url (some "application/json")
        (pageQuery store.pageSize documentId cursor).compact =
      (store.searched [search], .ok ⟨200, store.server.write
        (MarkerServer.pageReply ((store.server.behind cursor).take store.pageSize))⟩) := by
  refine ⟨⟨.post, url, store.settings.authorization, some "application/json",
    (pageQuery store.pageSize documentId cursor).compact⟩, ?_⟩
  apply send_of_isOpen reading.isOpen .post reading.sendable
  have read := reading.converses.reads cursor isCursor
  have page : store.server.page? (pageQuery store.pageSize documentId cursor) =
      some ((store.server.behind cursor).take store.pageSize) := by
    rw [MarkerServer.page?, size_pageQuery, searchAfter_pageQuery]
    rfl
  simp only [WebServer.answer, MarkerServer.answer, reading.named, and_self, if_true, read,
    Option.bind_some, page]

/-- One page: what is left of the markers if that is less than a page, and else a
page full of them, behind whose last one the reading goes on. -/
theorem exists_page (reading : store.ReadsPages url documentId) {cursor : Option Json}
    (isCursor : store.server.IsCursor cursor) {past left : List SortedHit}
    (held : store.server.hits = past ++ left) (behind : store.server.behind cursor = left)
    (known : List DataFileRecord) (pages : Nat) :
    ∃ search, readPages url documentId known cursor (pages + 1) store =
      if left.length < store.pageSize then
        (store.searched [search], .ok (known ++ left.filterMap SortedHit.marker?))
      else
        readPages url documentId
          (known ++ (left.take store.pageSize).filterMap SortedHit.marker?)
          (Page.mk ((left.take store.pageSize).map SortedHit.value)).cursor pages
          (store.searched [search]) := by
  obtain ⟨search, sent⟩ := exists_search reading isCursor
  rw [behind] at sent
  have inside : left.take store.pageSize <:+: store.server.hits := by
    rw [held]
    exact (List.take_prefix _ left).isInfix.trans (List.suffix_append past left).isInfix
  have received := pageResult_pageReply (reading.converses.writes _ inside)
  refine ⟨search, ?_⟩
  simp only [readPages, sent, received, markers_page, List.length_map, List.length_take]
  have sameSize : (store.searched [search]).pageSize = store.pageSize := rfl
  by_cases short : left.length < store.pageSize
  · have whole : left.take store.pageSize = left := List.take_of_length_le (Nat.le_of_lt short)
    have isShort : min store.pageSize left.length < store.pageSize := by omega
    rw [sameSize, if_pos isShort, if_pos short, whole]
  · have isFull : ¬min store.pageSize left.length < store.pageSize := by omega
    have size : (left.take store.pageSize).length = store.pageSize :=
      List.length_take_of_le (Nat.le_of_not_lt short)
    obtain ⟨earlier, last, full⟩ := exists_last (size ▸ reading.positive)
    rw [sameSize, if_neg isFull, if_neg short, full, cursor_page]

/-- From a cursor on, all that stands behind it is read, a page at a time. -/
theorem readPages_behind {pages : Nat} {store : ElasticsearchStore (MarkerServer κ)}
    (reading : store.ReadsPages url documentId) {cursor : Option Json}
    (isCursor : store.server.IsCursor cursor) {past left : List SortedHit}
    (held : store.server.hits = past ++ left) (behind : store.server.behind cursor = left)
    (known : List DataFileRecord) (enough : left.length / store.pageSize < pages) :
    ∃ searches, searches.length = left.length / store.pageSize + 1 ∧
      readPages url documentId known cursor pages store =
        (store.searched searches, .ok (known ++ left.filterMap SortedHit.marker?)) := by
  -- induction on the pages; `left` is what the server holds behind the cursor
  induction pages generalizing store cursor past left known with
  | zero => exact absurd enough (Nat.not_lt_zero _)
  | succ pages ih =>
      obtain ⟨search, read⟩ := exists_page reading isCursor held behind known pages
      by_cases short : left.length < store.pageSize
      · rw [if_pos short] at read
        exact ⟨[search], by rw [Nat.div_eq_of_lt short]; rfl, read⟩
      · rw [if_neg short] at read
        have size : (left.take store.pageSize).length = store.pageSize :=
          List.length_take_of_le (Nat.le_of_not_lt short)
        obtain ⟨earlier, last, full⟩ := exists_last (size ▸ reading.positive)
        have heldOn : store.server.hits =
            (past ++ earlier) ++ last :: left.drop store.pageSize := by
          calc
            store.server.hits = past ++ (left.take store.pageSize ++ left.drop store.pageSize) := by
              rw [held, List.take_append_drop]
            _ = (past ++ earlier) ++ last :: left.drop store.pageSize := by
              rw [full]
              simp only [List.append_assoc, List.singleton_append]
        have lastHeld : last ∈ store.server.hits := by
          rw [heldOn]
          simp
        have pagesLeft : left.length / store.pageSize =
            (left.drop store.pageSize).length / store.pageSize + 1 := by
          rw [List.length_drop]
          exact Nat.div_eq_sub_div reading.positive (Nat.le_of_not_lt short)
        have fewer : (left.drop store.pageSize).length / store.pageSize < pages := by
          omega
        rw [full, cursor_page] at read
        obtain ⟨searches, count, readOn⟩ := ih (reading.searched [search])
          (.inr ⟨last, lastHeld, rfl⟩) (heldOn.trans (List.append_cons ..))
          (MarkerServer.behind_of_sorted reading.sorted heldOn)
          (known ++ (earlier ++ [last]).filterMap SortedHit.marker?) fewer
        refine ⟨search :: searches, ?_, ?_⟩
        · rw [List.length_cons, count, pagesLeft]
          rfl
        · rw [read, readOn, searched_searched, List.append_assoc, ← List.filterMap_append,
            ← full, List.take_append_drop]
          rfl

/-- Reading markers page by page is complete: whatever the markers and the size of
a page, it ends after as many searches as there are full pages and one more, and
gives the well-formed markers, each once and in the order of their sort values. -/
theorem markers_complete {store : ElasticsearchStore (MarkerServer κ)} (documentId : String)
    (isOpen : store.settings.IsOpen) (positive : 1 ≤ store.pageSize)
    (enough : store.server.hits.length / store.pageSize + 1 ≤ store.pageLimit)
    (sorted : store.server.Sorted)
    (converses : store.server.Converses store.pageSize documentId) :
    ∃ searches, searches.length = store.server.hits.length / store.pageSize + 1 ∧
      store.markers documentId =
        (store.searched searches, .ok (store.server.hits.filterMap SortedHit.marker?)) := by
  have asIs : Url.StandsAsIs "_search" := by decide
  obtain ⟨url, endpoint, sendable, named⟩ :=
    ElasticsearchSettings.exists_endpoint isOpen [store.settings.index] asIs
  have reading : store.ReadsPages url documentId :=
    ⟨isOpen, sendable, named, positive, sorted, converses⟩
  obtain ⟨searches, count, read⟩ := @readPages_behind κ _ url documentId store.pageLimit store
    reading none (.inl rfl) [] store.server.hits rfl rfl [] enough
  refine ⟨searches, count, ?_⟩
  have segments : [store.settings.index, "_search"] = [store.settings.index] ++ ["_search"] := rfl
  rw [markers, segments, endpoint]
  exact read

/-- The marker of a file. -/
def aMarker : DataFileRecord :=
  ⟨"DF::rows:d:a.json", DataFileRecord.type, "", "rows", "in/a.json", 5, "d"⟩

/-- A cluster with one marker and a hit that is none; they fill one page. -/
def fullPage : ElasticsearchStore (MarkerServer Nat) where
  settings := { url := "http://es:9200", index := "weather" }
  pageSize := 2
  pageLimit := 2
  server :=
    { hits := [MarkerServer.markerHit 1 (.string "?"), MarkerServer.markerHit 2 aMarker.toJson]
      rank := fun sort => ((sort.asItems?.bind List.head?).bind Json.asNat?).getD 0
      read := fun text => (Json.readText text).toOption
      write := Json.compact }

theorem markers_complete_fullPage :
    fullPage.server.hits.length = 2 ∧
      ∃ searches, searches.length = 2 ∧
        fullPage.markers "d" = (fullPage.searched searches, .ok [aMarker]) := by
  have isOpen : fullPage.settings.IsOpen := ⟨_, rfl, by decide, by decide⟩
  have sorted : fullPage.server.Sorted := by
    rw [MarkerServer.Sorted]
    decide
  have plain : ∀ hit ∈ fullPage.server.hits, Json.IsPlain 100 hit.value := by
    intro hit member
    apply Json.isPlain_of_checkPlain
    revert hit
    decide
  have converses : fullPage.server.Converses fullPage.pageSize "d" :=
    MarkerServer.converses_of_isPlain (fun _ => rfl) rfl plain (by decide) "d"
  obtain ⟨searches, count, read⟩ :=
    markers_complete "d" isOpen (by decide) (by decide) sorted converses
  have wellFormed : fullPage.server.hits.filterMap SortedHit.marker? = [aMarker] := by
    decide
  exact ⟨rfl, searches, count, read.trans (by rw [wellFormed])⟩

end ElasticsearchStore

end DocumentIngest
