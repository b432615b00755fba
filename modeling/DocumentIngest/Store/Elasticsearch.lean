import DocumentIngest.Json.Printer
import DocumentIngest.Store
import DocumentIngest.Text.Base64
import DocumentIngest.Web.Exchange

/-!
# The store in an Elasticsearch cluster

Documents are written by one bulk request for each batch, an action line and the
document's own line for each of them.  Markers are read back page by page: every
page is asked for behind the sort values of the one before it, until one comes
back short.
-/

namespace DocumentIngest

/-- Where a cluster is and how it is spoken to. -/
structure ElasticsearchSettings where
  url : String
  username : Option String := none
  password : Option String := none
  apiKey : Option String := none
  index : String
  timeoutSeconds : Nat := 30
deriving DecidableEq, Repr

namespace ElasticsearchSettings

/-- Reads the settings of a cluster. -/
def reader (mode : Shape.Mode) : Shape.Reader ElasticsearchSettings :=
  Shape.record mode
    [Shape.required "url" Shape.text fun settings url => { settings with url },
      Shape.defaulted "username" (Shape.optional Shape.text)
        fun settings username => { settings with username },
      Shape.defaulted "password" (Shape.optional Shape.text)
        fun settings password => { settings with password },
      Shape.defaulted "api_key" (Shape.optional Shape.text)
        fun settings apiKey => { settings with apiKey },
      Shape.required "index" Shape.text fun settings index => { settings with index },
      Shape.defaulted "timeout_secs" Shape.natural
        fun settings timeoutSeconds => { settings with timeoutSeconds }]
    ⟨"", none, none, none, "", 30⟩

/-- The settings with every field written out. -/
def toJson (settings : ElasticsearchSettings) : Json :=
  .ofFields
    [("url", .string settings.url), ("username", .ofOption settings.username),
      ("password", .ofOption settings.password), ("api_key", .ofOption settings.apiKey),
      ("index", .string settings.index), ("timeout_secs", .ofNat settings.timeoutSeconds)]

/-- Whether a text can be sent in a header. -/
def isHeaderText (text : String) : Bool :=
  text.toList.all fun character =>
    character == '\t' || (decide (32 ≤ character.toNat) && character.toNat != 127)

/-- How requests are authorized: an API key goes before a user and a password. -/
def authorization (settings : ElasticsearchSettings) : Option String :=
  match settings.apiKey, settings.username with
  | some key, _ => some ("ApiKey " ++ key)
  | none, some user =>
      some ("Basic " ++ Base64.ofText (user ++ ":" ++ settings.password.getD ""))
  | none, none => none

/-- The address of an endpoint of the cluster. -/
def endpoint (settings : ElasticsearchSettings) (segments : List String) :
    Except StoreError Url :=
  match Url.parse settings.url with
  | .error fault =>
      .error (.failure ("bad store url '" ++ settings.url ++ "': " ++ fault.message))
  | .ok url =>
      match url.extend? segments with
      | some url => .ok url
      | none => .error (.failure ("store url '" ++ settings.url ++ "' cannot be a base"))

/-- The line that says where the next document goes. -/
def actionLine (settings : ElasticsearchSettings) (id : String) : String :=
  (Json.ofFields
    [("index", .ofFields [("_index", .string settings.index), ("_id", .string id)])]).compact

/-- The body of a bulk request; every document has to have an id. -/
def bulkBody (settings : ElasticsearchSettings) : List Json → Except StoreError String
  | [] => .ok ""
  | document :: rest =>
      match document.textField? "id" with
      | none => .error .noId
      | some id =>
          (bulkBody settings rest).map fun lines =>
            settings.actionLine id ++ "\n" ++ document.compact ++ "\n" ++ lines

end ElasticsearchSettings

/-- A cluster on a server. -/
structure ElasticsearchStore (τ : Type) where
  settings : ElasticsearchSettings
  /-- How many markers a page holds. -/
  pageSize : Nat := 5000
  /-- How many pages are asked for at most. -/
  pageLimit : Nat
  server : τ

namespace ElasticsearchStore

variable {τ : Type} [WebServer τ]

/-- A store, and what a request to it gave. -/
abbrev Answer (τ α : Type) := ElasticsearchStore τ × Except StoreError α

/-- A request that cannot even be put together. -/
def unsendable : StoreError :=
  .failure "builder error"

def unreachable : StoreError :=
  .failure "error sending request"

/-- A reply whose body is not JSON. -/
def undecodable : StoreError :=
  .failure "error decoding response body"

/-- Whether requests can be sent to an address. -/
def isSendable (url : Url) : Bool :=
  url.host.isSome && (url.scheme == "http" || url.scheme == "https")

/-- Sends a request and waits for the reply. -/
def send (store : ElasticsearchStore τ) (method : WebMethod) (url : Url)
    (contentType : Option String) (body : String) : Answer τ WebReply :=
  let authorization := store.settings.authorization
  if isSendable url && authorization.all ElasticsearchSettings.isHeaderText then
    match WebServer.answer store.server ⟨method, url, authorization, contentType, body⟩ with
    | (server, some reply) => ({ store with server }, .ok reply)
    | (server, none) => ({ store with server }, .error unreachable)
  else (store, .error unsendable)

/-- Asks the cluster whether it is there. -/
def connect (store : ElasticsearchStore τ) : Answer τ Unit :=
  match Url.parse store.settings.url with
  | .error _ => (store, .error unsendable)
  | .ok url =>
      match store.send .get url none "" with
      | (store, .error fault) => (store, .error fault)
      | (store, .ok reply) =>
          if reply.isSuccess then (store, .ok ())
          else
            (store, .error (.failure
              ("cluster at '" ++ store.settings.url ++ "' answered the ping with " ++
                reply.statusLine)))

/-- The JSON value in the body of a reply. -/
def decode (reply : WebReply) : Except StoreError Json :=
  (Json.readText reply.content).mapError fun _ => undecodable

/-- How many of some documents the reply to a bulk request rejects; without a
list of items it rejects them all. -/
def rejected (reply : Json) (count : Nat) : Nat :=
  match (reply.field? "items").bind Json.asItems? with
  | none => count
  | some items =>
      items.countP fun item =>
        match ((item.field? "index").bind (Json.field? · "status")).bind Json.asNat? with
        | some status => decide (300 ≤ status)
        | none => false

/-- What the reply to a bulk request of some documents says. -/
def bulkResult (reply : WebReply) (count : Nat) : Except StoreError Nat := do
  if !reply.isSuccess then
    throw (.failure ("_bulk answered " ++ reply.statusLine ++ ": " ++ reply.content))
  let reply ← decode reply
  if (reply.field? "errors").bind Json.asBool? = some true then
    throw (.failure s!"_bulk rejected {rejected reply count} of {count} documents")
  return count

/-- Writes documents by one bulk request; without documents nothing is sent. -/
def upsert (store : ElasticsearchStore τ) (batch : List Json) : Answer τ Nat :=
  if batch.isEmpty then (store, .ok 0)
  else
    let prepared : Except StoreError (String × Url) := do
      let body ← store.settings.bulkBody batch
      let url ← store.settings.endpoint ["_bulk"]
      return (body, url)
    match prepared with
    | .error fault => (store, .error fault)
    | .ok (body, url) =>
        match store.send .post url (some "application/x-ndjson") body with
        | (store, .error fault) => (store, .error fault)
        | (store, .ok reply) => (store, bulkResult reply batch.length)

/-- What the reply to a look-up says. -/
def fetchResult (reply : WebReply) (id : String) : Except StoreError Json := do
  if reply.status = 404 then throw (.notFound id)
  if !reply.isSuccess then
    throw (.failure ("lookup of '" ++ id ++ "' answered " ++ reply.statusLine))
  match (← decode reply).field? "_source" with
  | some document => return document
  | none => throw (.failure ("'" ++ id ++ "' came back without _source"))

/-- The document of an id. -/
def fetch (store : ElasticsearchStore τ) (id : String) : Answer τ Json :=
  match store.settings.endpoint [store.settings.index, "_doc", id] with
  | .error fault => (store, .error fault)
  | .ok url =>
      match store.send .get url none "" with
      | (store, .error fault) => (store, .error fault)
      | (store, .ok reply) => (store, fetchResult reply id)

/-- The field whose keywords markers are sorted by. -/
def sortField : String := "id.keyword"

/-- The question for a page of markers, behind some sort values. -/
def pageQuery (pageSize : Nat) (documentId : String) (cursor : Option Json) : Json :=
  .ofFields
    ([("size", .ofNat pageSize),
      ("query", .ofFields [("bool", .ofFields [("filter", .array
        [.ofFields [("match_phrase", .ofFields [("type", .string DataFileRecord.type)])],
          .ofFields
            [("match_phrase", .ofFields [("ingest_document", .string documentId)])]])])]),
      ("sort", .array [.ofFields [(sortField, .string "asc")]])] ++
      cursor.toList.map fun cursor => ("search_after", cursor))

/-- A page of markers. -/
structure Page where
  hits : List Json

namespace Page

/-- The markers on a page; malformed ones are left out. -/
def markers (page : Page) : List DataFileRecord :=
  page.hits.filterMap fun hit =>
    (hit.field? "_source").bind fun source => (DataFileRecord.ofJson source).toOption

/-- The sort values of the last hit. -/
def cursor (page : Page) : Option Json :=
  page.hits.getLast?.bind (Json.field? · "sort")

end Page

/-- What the reply to a question for a page says; nothing when there is no index
yet. -/
def pageResult (reply : WebReply) : Except StoreError (Option Page) := do
  if reply.status = 404 then return none
  if !reply.isSuccess then
    throw (.failure ("_search answered " ++ reply.statusLine ++ ": " ++ reply.content))
  let hits := ((← decode reply).field? "hits").bind (Json.field? · "hits")
  return some ⟨(hits.bind Json.asItems?).getD []⟩

/-- Reads pages of markers until one comes back short or without sort values. -/
def readPages (url : Url) (documentId : String) (known : List DataFileRecord)
    (cursor : Option Json) (pages : Nat) (store : ElasticsearchStore τ) :
    Answer τ (List DataFileRecord) :=
  match pages with
  | 0 => (store, .ok known)
  | pages + 1 =>
      match store.send .post url (some "application/json")
          (pageQuery store.pageSize documentId cursor).compact with
      | (store, .error fault) => (store, .error fault)
      | (store, .ok reply) =>
          match pageResult reply with
          | .error fault => (store, .error fault)
          | .ok none => (store, .ok known)
          | .ok (some page) =>
              let known := known ++ page.markers
              if page.hits.length < store.pageSize then (store, .ok known)
              else
                match page.cursor with
                | none => (store, .ok known)
                | some cursor => readPages url documentId known (some cursor) pages store

/-- The markers of an ingest document. -/
def markers (store : ElasticsearchStore τ) (documentId : String) :
    Answer τ (List DataFileRecord) :=
  match store.settings.endpoint [store.settings.index, "_search"] with
  | .error fault => (store, .error fault)
  | .ok url => readPages url documentId [] none store.pageLimit store

instance : DocumentStore (ElasticsearchStore τ) where
  connect := connect
  upsert := upsert
  fetch := fetch
  markers := markers

end ElasticsearchStore

end DocumentIngest
