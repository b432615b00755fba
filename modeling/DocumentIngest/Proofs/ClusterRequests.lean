import DocumentIngest.Proofs.Fallible
import DocumentIngest.Store.Elasticsearch

/-!
# Requests to a cluster

Once a cluster was reached, nothing stands in the way of a further request to it:
its address has a host and a path with segments, so every endpoint has an address
too, and the header that authorizes requests can be sent.  What is asked for is
the last segment of that address.
-/

namespace DocumentIngest

namespace Url

/-- The last segment of the path of an address. -/
def lastSegment? (url : Url) : Option String :=
  match url.path with
  | .undivided _ => none
  | .segments texts => texts.getLast?

/-- Whether a segment stands in every address as it is. -/
def StandsAsIs (segment : String) : Prop :=
  segment ≠ "." ∧ segment ≠ ".." ∧
    ∀ special, percentEncode (reservedInSegment special)
      (segment.toList.filter fun character => !isDropped character) = segment.toList

instance (segment : String) : Decidable (StandsAsIs segment) :=
  inferInstanceAs (Decidable (_ ∧ _ ∧ _))

theorem getLast?_pushSegment {segment : String} (asIs : StandsAsIs segment) (special : Bool)
    (texts : List String) : (pushSegment special texts segment).getLast? = some segment := by
  obtain ⟨notHere, notParent, same⟩ := asIs
  have counts : ¬((segment = "." || segment = "..") = true) := by
    simp [notHere, notParent]
  rw [pushSegment, if_neg counts]
  simp only [same special, String.ofList_toList]
  split <;> simp

theorem lastSegment?_extend? {url extended : Url} {segments : List String} {segment : String}
    (asIs : StandsAsIs segment) (longer : url.extend? (segments ++ [segment]) = some extended) :
    extended.lastSegment? = some segment := by
  rw [extend?] at longer
  split at longer
  · cases longer
  · cases longer
    simp only [lastSegment?, List.foldl_append, List.foldl_cons, List.foldl_nil]
    exact getLast?_pushSegment asIs _ _

theorem scheme_and_host_extend? {url extended : Url} {segments : List String}
    (longer : url.extend? segments = some extended) :
    extended.scheme = url.scheme ∧ extended.host = url.host := by
  rw [extend?] at longer
  split at longer
  · cases longer
  · cases longer
    exact ⟨rfl, rfl⟩

theorem path_of_ofAuthority {scheme : String} {special : Bool} {authority path : List Char}
    {query fragment : Option String} {url : Url}
    (reads : ofAuthority scheme special authority path query fragment = .ok url) :
    ∃ texts, url.path = .segments texts := by
  rw [ofAuthority] at reads
  simp only at reads
  split at reads <;>
    · obtain ⟨host, _, reads⟩ := Fallible.bind_eq_ok_iff.mp reads
      obtain ⟨port, _, reads⟩ := Fallible.bind_eq_ok_iff.mp reads
      cases reads
      exact ⟨_, rfl⟩

/-- An address with a scheme of the web has segments. -/
theorem path_of_parse {text : String} {url : Url} (reads : parse text = .ok url)
    (web : isSpecial url.scheme = true) : ∃ texts, url.path = .segments texts := by
  rw [parse] at reads
  split at reads
  · cases reads
  simp only at reads
  split at reads
  · exact path_of_ofAuthority reads
  next notSpecial =>
    split at reads
    · exact path_of_ofAuthority reads
    · cases reads
      exact ⟨_, rfl⟩
    · cases reads
      exact absurd web notSpecial

end Url

namespace ElasticsearchSettings

open ElasticsearchStore (isSendable)

/-- Whether requests to a cluster can be sent. -/
def IsOpen (settings : ElasticsearchSettings) : Prop :=
  ∃ url, Url.parse settings.url = .ok url ∧ isSendable url = true ∧
    settings.authorization.all isHeaderText = true

theorem isSpecial_of_isSendable {url : Url} (sendable : isSendable url = true) :
    Url.isSpecial url.scheme = true := by
  rw [isSendable, Bool.and_eq_true, Bool.or_eq_true, beq_iff_eq, beq_iff_eq] at sendable
  rcases sendable.2 with http | https
  · rw [http]
    decide
  · rw [https]
    decide

/-- Every endpoint of a cluster has an address that requests can be sent to. -/
theorem exists_endpoint {settings : ElasticsearchSettings} (isOpen : settings.IsOpen)
    (segments : List String) {segment : String} (asIs : Url.StandsAsIs segment) :
    ∃ url, settings.endpoint (segments ++ [segment]) = .ok url ∧ isSendable url = true ∧
      url.lastSegment? = some segment := by
  obtain ⟨base, reads, sendable, _⟩ := isOpen
  obtain ⟨texts, path⟩ := Url.path_of_parse reads (isSpecial_of_isSendable sendable)
  obtain ⟨url, longer⟩ : ∃ url, base.extend? (segments ++ [segment]) = some url := by
    rw [Url.extend?, path]
    exact ⟨_, rfl⟩
  obtain ⟨sameScheme, sameHost⟩ := Url.scheme_and_host_extend? longer
  refine ⟨url, ?_, ?_, Url.lastSegment?_extend? asIs longer⟩
  · simp only [endpoint, reads, longer]
  · rw [isSendable, sameScheme, sameHost]
    exact sendable

end ElasticsearchSettings

namespace ElasticsearchStore

variable {τ : Type} [WebServer τ]

/-- A request that can be sent is answered by the server. -/
theorem send_of_isOpen {store : ElasticsearchStore τ} (isOpen : store.settings.IsOpen)
    (method : WebMethod) {url : Url} (sendable : isSendable url = true)
    (contentType : Option String) (body : String) {server : τ} {reply : WebReply}
    (answers : WebServer.answer store.server
      ⟨method, url, store.settings.authorization, contentType, body⟩ = (server, some reply)) :
    store.send method url contentType body = ({ store with server }, .ok reply) := by
  obtain ⟨_, _, _, authorized⟩ := isOpen
  simp only [send, sendable, authorized, Bool.and_self, if_true, answers]

theorem authorized_of_send {store after : ElasticsearchStore τ} {method : WebMethod} {url : Url}
    {contentType : Option String} {body : String} {reply : WebReply}
    (sent : store.send method url contentType body = (after, .ok reply)) :
    after.settings = store.settings ∧ isSendable url = true ∧
      store.settings.authorization.all ElasticsearchSettings.isHeaderText = true := by
  rw [send] at sent
  split at sent
  · next admitted =>
      obtain ⟨sendable, authorized⟩ := Bool.and_eq_true_iff.mp admitted
      split at sent
      · cases sent
        exact ⟨rfl, sendable, authorized⟩
      · cases sent
  · cases sent

/-- A cluster that was reached once can be asked further. -/
theorem isOpen_of_connect {fresh store : ElasticsearchStore τ}
    (connected : fresh.connect = (store, .ok ())) : store.settings.IsOpen := by
  rw [connect] at connected
  split at connected
  · cases connected
  next url reads =>
    split at connected
    · cases connected
    · next after reply sent =>
        obtain ⟨same, sendable, authorized⟩ := authorized_of_send sent
        have kept : store = after := by
          split at connected <;> cases connected
          rfl
        rw [kept, same]
        exact ⟨url, reads, sendable, authorized⟩

end ElasticsearchStore

end DocumentIngest
