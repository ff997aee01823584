import Provision.Proofs.Service.Retries
import Provision.Proofs.Service.Standing
import Provision.Proofs.Url.Folder

/-!
Where the messages of an endpoint go. Every path begins with a fixed folder, so nothing that comes
after it, be it text of a caller or of the service, leads away from the origin of the base.
-/
namespace Provision

namespace Url

/-- Whether URLs have the same scheme, user name, password, host and port. -/
def SharesOrigin (url base : Url) : Prop :=
  url.scheme = base.scheme ∧ url.authority = base.authority

def SharesHost (url base : Url) : Prop :=
  url.scheme = base.scheme ∧
    url.authority.map (fun authority => (authority.host, authority.port)) =
      base.authority.map fun authority => (authority.host, authority.port)

theorem sharesOrigin_follow (base : Url) (above : List (List Char)) (text : List Char) :
    (follow base.scheme base.authority above text).SharesOrigin base := ⟨rfl, rfl⟩

variable {url base : Url}

theorem SharesOrigin.sharesHost (shares : url.SharesOrigin base) : url.SharesHost base := by
  refine ⟨shares.1, ?_⟩
  rw [shares.2]

theorem SharesHost.withoutUserinfo (shares : url.SharesHost base) :
    url.withoutUserinfo.SharesHost base := by
  refine ⟨shares.1, ?_⟩
  rw [← shares.2, Url.withoutUserinfo, Option.map_map]
  rfl

theorem SharesHost.withPairs (shares : url.SharesHost base) (pairs : List (String × String)) :
    (url.withPairs pairs).SharesHost base := by
  rw [Url.withPairs]
  split
  · exact shares
  · exact shares

end Url

namespace Service

/-- What an operation sends when it is run is what it may send. -/
theorem Operation.Sends.mem_messages {α : Type} {allowed : Message → Prop} {operation : Operation α}
    (sends : operation.Sends allowed) (network : Network) (session : Session) {message : Message}
    (sent : message ∈ (operation.run network session).2.messages) :
    message ∈ session.messages ∨ allowed message := by
  induction operation generalizing session with
  | done value => exact .inl sent
  | organization lookup _ _ => exact sends.elim
  | consult context _ ih => simpa using ih sends _ sent
  | sleep milliseconds _ ih => simpa using ih sends _ sent
  | send own _ ih =>
    rcases ih _ (sends.2 _) _ sent with earlier | later
    · simp only [Session.messages_exchanged, List.mem_append,
        List.mem_singleton] at earlier
      rcases earlier with earlier | rfl
      · exact .inl earlier
      · exact .inr sends.1
    · exact .inr later

theorem Operation.Sends.organizationId_run {α : Type} {allowed : Message → Prop}
    {operation : Operation α} (sends : operation.Sends allowed) (network : Network)
    (session : Session) :
    (operation.run network session).2.organizationId = session.organizationId := by
  induction operation generalizing session with
  | done value => rfl
  | organization lookup _ _ => exact sends.elim
  | consult context _ ih => exact ih sends _
  | sleep milliseconds _ ih => exact ih sends _
  | send own _ ih => exact ih _ (sends.2 _) _

theorem Session.mem_messages_resolve {network : Network} {session : Session} {lookup : Lookup}
    {message : Message} (sent : message ∈ (session.resolve network lookup).2.messages) :
    message ∈ session.messages ∨ lookup.message = .ok message := by
  rw [resolve] at sent
  split at sent
  · exact .inl sent
  split at sent
  · exact .inl sent
  rename_i own named
  have known : message ∈ (session.exchange network own).2.messages := by
    dsimp only at sent
    split at sent
    · exact sent
    · exact sent
  simp only [exchange, messages_exchanged, List.mem_append, List.mem_singleton] at known
  rcases known with earlier | rfl
  · exact .inl earlier
  · exact .inr named

namespace Endpoint

variable (endpoint : Endpoint)

/-- What comes after the first folder in the path of a request. -/
def belowRoot (request : Request) (organizationId : String) : List Char :=
  let path := request.path.toList.dropWhile (· == '/')
  match request.scope with
  | .organization =>
    endpoint.apiVersion.toList ++ '/' :: (organizationId.toList ++ '/' :: path)
  | .account => endpoint.apiVersion.toList ++ '/' :: path

theorem toList_relativePath (request : Request) (organizationId : String) :
    (endpoint.relativePath request organizationId).toList =
      ['c', 'a', 'a', 's'] ++ '/' :: endpoint.belowRoot request organizationId := by
  rw [relativePath, belowRoot]
  cases request.scope <;> simp [String.toList_append, ToString.toString]

theorem isFolder_caas : Url.IsFolder ['c', 'a', 'a', 's'] := by
  simp only [Url.IsFolder, List.forall_mem_cons]
  exact ⟨List.cons_ne_nil _ _, rfl, rfl, rfl, rfl, List.forall_mem_nil _⟩

/-- The URL of a request leads on from the folder of the base. -/
theorem url_eq (unfiled : Url.isFile endpoint.base.scheme = false) {segments : List (List Char)}
    (rooted : endpoint.base.path = .rooted segments) (request : Request)
    (organizationId : String) :
    endpoint.url request organizationId =
      .ok (.follow endpoint.base.scheme endpoint.base.authority segments.dropLast
        (['c', 'a', 'a', 's'] ++ '/' ::
          Url.cleanEnd (endpoint.belowRoot request organizationId))) := by
  simp only [url, toList_relativePath, Url.join_folder unfiled isFolder_caas, rooted]
  rfl

theorem sharesOrigin_of_url (unfiled : Url.isFile endpoint.base.scheme = false) {request : Request}
    {organizationId : String} {url : Url}
    (found : endpoint.url request organizationId = .ok url) : url.SharesOrigin endpoint.base := by
  cases path : endpoint.base.path with
  | rootless text =>
    simp only [Endpoint.url, toList_relativePath, Url.join_folder unfiled isFolder_caas, path]
      at found
    cases found
  | rooted segments =>
    rw [endpoint.url_eq unfiled path] at found
    cases found
    exact Url.sharesOrigin_follow _ _ _

theorem exists_url_of_prepare {request : Request} {organizationId : String} {message : Message}
    (prepared : endpoint.prepare request organizationId = .ok message) :
    ∃ url, endpoint.url request organizationId = .ok url ∧
      (message.url = url ∨ message.url = url.withPairs request.query ∨
        message.url = url.withoutUserinfo.withPairs request.query) := by
  cases found : endpoint.url request organizationId with
  | error error =>
    rw [prepare, found] at prepared
    cases prepared
  | ok url =>
    rw [prepare, found] at prepared
    cases prepared
    refine ⟨url, rfl, ?_⟩
    dsimp only
    split
    · split
      · exact .inr (.inr rfl)
      · exact .inr (.inl rfl)
    · exact .inl rfl

theorem exists_prepare_of_url {request : Request} {organizationId : String} {url : Url}
    (built : endpoint.url request organizationId = .ok url) :
    ∃ message, endpoint.prepare request organizationId = .ok message := by
  rw [prepare, built]
  exact ⟨_, rfl⟩

theorem method_of_prepare {request : Request} {organizationId : String} {message : Message}
    (prepared : endpoint.prepare request organizationId = .ok message) :
    message.method = request.method := by
  cases found : endpoint.url request organizationId with
  | error error =>
    rw [prepare, found] at prepared
    cases prepared
  | ok url =>
    rw [prepare, found] at prepared
    cases prepared
    rfl

theorem body_of_prepare {request : Request} {organizationId : String} {message : Message}
    (prepared : endpoint.prepare request organizationId = .ok message) :
    message.body = request.body := by
  cases found : endpoint.url request organizationId with
  | error error =>
    rw [prepare, found] at prepared
    cases prepared
  | ok url =>
    rw [prepare, found] at prepared
    cases prepared
    rfl

theorem prepare_of_sendable {request : Request} {organizationId : String} {message : Message}
    (sendable : endpoint.sendable request organizationId = .ok message) :
    endpoint.prepare request organizationId = .ok message := by
  cases prepared : endpoint.prepare request organizationId with
  | error error => simp [Endpoint.sendable, prepared, bind, Except.bind] at sendable
  | ok other =>
    rw [endpoint.sendable_of_prepared _ _ prepared] at sendable
    split at sendable
    · cases sendable
    · exact sendable

theorem sharesHost_of_prepare (unfiled : Url.isFile endpoint.base.scheme = false)
    {request : Request} {organizationId : String} {message : Message}
    (prepared : endpoint.prepare request organizationId = .ok message) :
    message.url.SharesHost endpoint.base := by
  obtain ⟨url, found, shape⟩ := endpoint.exists_url_of_prepare prepared
  have shares := (endpoint.sharesOrigin_of_url unfiled found).sharesHost
  rcases shape with same | same | same
  · rwa [same]
  · rw [same]
    exact shares.withPairs _
  · rw [same]
    exact shares.withoutUserinfo.withPairs _

private theorem sends_first (limit : Nat) (description : String) (build : RequestBuilder)
    (organizationId : String) :
    (endpoint.attempts description build limit 0
      (.first description organizationId endpoint.retryPolicy.maxRetries)).Sends
      (Call.Asks endpoint organizationId (.execute limit description build)) :=
  sends_attempts _ (fun _ => rfl) fun _ => rfl

/-- What is sent for a request is what was sent before, the lookup of the organization, or a message
that the request asks for in the organization that is known then. -/
theorem mem_messages_execute {network : Network} {limit : Nat} {description : String}
    {build : RequestBuilder} {session after : Session} {message : Message}
    (ran : ((endpoint.execute limit description build).run network session).2 = after)
    (sent : message ∈ after.messages) :
    message ∈ session.messages ∨ endpoint.lookup.message = .ok message ∨
      ∃ organizationId, after.organizationId = some organizationId ∧
        Call.Asks endpoint organizationId (.execute limit description build) message := by
  subst ran
  rw [execute, Operation.run] at sent ⊢
  have lookedUp (earlier : message ∈ (session.resolve network endpoint.lookup).2.messages) :=
    Session.mem_messages_resolve earlier
  cases resolved : session.resolve network endpoint.lookup with
  | mk looked after =>
    rw [resolved] at sent lookedUp
    cases looked with
    | error error => exact (lookedUp sent).imp_right .inl
    | ok organizationId =>
      have asks := endpoint.sends_first limit description build organizationId
      rcases asks.mem_messages network after sent with earlier | own
      · exact (lookedUp earlier).imp_right .inl
      · refine .inr (.inr ⟨organizationId, ?_, own⟩)
        exact (asks.organizationId_run network after).trans
          (Session.organizationId_resolve resolved)

theorem organizationId_execute {network : Network} {limit : Nat} {description : String}
    {build : RequestBuilder} {session : Session} {organizationId : String}
    (known : session.organizationId = some organizationId) :
    ((endpoint.execute limit description build).run network session).2.organizationId =
      some organizationId := by
  have resolved : session.resolve network endpoint.lookup = (.ok organizationId, session) := by
    simp only [Session.resolve, known]
  rw [execute, Operation.run, resolved]
  have asks := endpoint.sends_first limit description build organizationId
  exact (asks.organizationId_run network session).trans known

section Reading

variable {network : Network} {description : String} {build : RetryContext → Except Error Request}
  {session : Session}

/-- If the builder of a request only reads its contexts, all it asks for is in that organization. -/
theorem mem_messages_perform {after : Session} {message : Message}
    (ran : ((endpoint.perform description build).run network session).2 = after)
    (sent : message ∈ after.messages) :
    message ∈ session.messages ∨ endpoint.lookup.message = .ok message ∨
      ∃ organizationId context request, after.organizationId = some organizationId ∧
        build context = .ok request ∧
        endpoint.sendable request organizationId = .ok message := by
  have same := congrArg Prod.snd
    (endpoint.run_execute_reading network description build session)
  rcases endpoint.mem_messages_execute (same.trans ran) sent with
    earlier | lookup | ⟨organizationId, known, asked⟩
  · exact .inl earlier
  · exact .inr (.inl lookup)
  · obtain ⟨first, own, built, prepared⟩ := asked
    rw [own (RequestBuilder.keepsOrganization_reading build)] at prepared
    have found := (RequestBuilder.reading_eq_ok_iff.mp built).1
    exact .inr (.inr ⟨organizationId, _, _, known, found, prepared⟩)

theorem organizationId_perform {organizationId : String}
    (known : session.organizationId = some organizationId) :
    ((endpoint.perform description build).run network session).2.organizationId =
      some organizationId := by
  have same := congrArg Prod.snd
    (endpoint.run_execute_reading network description build session)
  rw [← same]
  exact endpoint.organizationId_execute known

end Reading

structure KeepsOrigin : Prop where
  /-- The URL of a request has the scheme, the user name, the password, the host and the port of the
  base, whatever its path and the organization are. -/
  url (request : Request) (organizationId : String) (found : Url) :
    endpoint.url request organizationId = .ok found → found.SharesOrigin endpoint.base
  /-- There is such a URL, unless nothing can be below the base. -/
  resolves (request : Request) (organizationId : String) (segments : List (List Char)) :
    endpoint.base.path = .rooted segments →
      ∃ found, endpoint.url request organizationId = .ok found
  /-- So the credentials go where the base is, and nowhere else. -/
  sent (network : Network) (limit : Nat) (description : String) (build : RequestBuilder)
      (session : Session) (message : Message) :
    message ∈ ((endpoint.execute limit description build).run network session).2.messages →
      message ∈ session.messages ∨ message.url.SharesHost endpoint.base

/-- Every endpoint on the web does. -/
theorem keepsOrigin (web : Url.isWeb endpoint.base.scheme = true) : endpoint.KeepsOrigin where
  url request organizationId found built :=
    endpoint.sharesOrigin_of_url (Url.unfiled_of_isWeb web) built
  resolves request organizationId segments rooted :=
    ⟨_, endpoint.url_eq (Url.unfiled_of_isWeb web) rooted request organizationId⟩
  sent network limit description build session message sent := by
    have below {request : Request} {organizationId : String} {message : Message}
        (sendable : endpoint.sendable request organizationId = .ok message) :=
      endpoint.sharesHost_of_prepare (Url.unfiled_of_isWeb web)
        (endpoint.prepare_of_sendable sendable)
    rcases endpoint.mem_messages_execute rfl sent with earlier | lookup | ⟨organizationId, -, asked⟩
    · exact .inl earlier
    · exact .inr (below lookup)
    · obtain ⟨first, own, built, prepared⟩ := asked
      exact .inr (below prepared)

/-- A path that names other servers in several ways, in an organization that does. -/
theorem hostile_path_keepsOrigin :
    let authority : Url.Authority := ⟨['u'], ['p'], .domain ['a', 'p', 'i'], some 8080⟩
    let base : Url := ⟨['h', 't', 't', 'p'], some authority, .rooted [[]], none, none⟩
    let endpoint : Endpoint := ⟨base, "2.4", "client", some ⟨"user", "secret"⟩, .none, none⟩
    let request := Request.get "//evil.net/\\\\@evil.net:80/http://evil.net/?#"
    Url.isWeb base.scheme = true ∧ base.path = .rooted [[]] ∧
      ∃ found, endpoint.url request "\\\\evil.net//" = .ok found ∧
        found.SharesOrigin base := by
  intro authority base endpoint request
  have web : Url.isWeb base.scheme = true := by decide
  obtain ⟨found, built⟩ := (keepsOrigin endpoint web).resolves request "\\\\evil.net//" [[]] rfl
  exact ⟨web, rfl, found, built, (keepsOrigin endpoint web).url _ _ _ built⟩

end Endpoint

end Service

end Provision
