import Provision.Client.Operations
import Provision.Proofs.Client.Answers
import Provision.Proofs.Model.RoundTrip
import Provision.Proofs.Service.Exchanges
import Provision.Proofs.Service.Origin

namespace Provision.Client

open Service

structure Posting where
  description : String
  path : String
  {Order : Type}
  record : Json.Record Order
  order : Order

namespace Posting

def body (posting : Posting) : Json := posting.record.codec.write posting.order

def request (posting : Posting) : Request := .post posting.path posting.body

/-- What is posted about a resource when only its identifier matters. -/
def ofId {kind : IdKind} (description path : String) (id : Id kind) : Posting :=
  ⟨description, path, IdRequest.record, ⟨id.toString⟩⟩

structure IsCarriedBy (posting : Posting) (endpoint : Endpoint) (organizationId : String)
    (message : Message) : Prop where
  method : message.method = "POST"
  /-- A user name and a password that the URL holds are sent beside it. -/
  url : ∃ url, endpoint.url posting.request organizationId = .ok url ∧
    (message.url = url ∨ message.url = url.withoutUserinfo)
  /-- The document is read as the order. -/
  body : ∃ body, message.body = some body ∧
    posting.record.codec.decode (Text.utf8 body.print) = .ok posting.order

theorem isCarriedBy_of_sendable {posting : Posting} {endpoint : Endpoint}
    {organizationId : String} {message : Message} (faithful : posting.record.codec.IsFaithful)
    (sendable : endpoint.sendable posting.request organizationId = .ok message) :
    posting.IsCarriedBy endpoint organizationId message := by
  have prepared := endpoint.prepare_of_sendable sendable
  constructor
  case method => exact endpoint.method_of_prepare prepared
  case url =>
    obtain ⟨url, found, shape⟩ := endpoint.exists_url_of_prepare prepared
    exact ⟨url, found, shape.elim .inl fun bare => bare⟩
  case body =>
    have read := faithful.roundTrips.posted { method := "POST", path := posting.path } posting.order
    obtain ⟨body, held, same⟩ := Option.map_eq_some_iff.mp read
    exact ⟨body, (endpoint.body_of_prepare prepared).trans held, same⟩

end Posting

inductive Command where
  | editNetworkDomain (order : EditNetworkDomain)
  | deleteNetworkDomain (id : Id .networkDomain)
  | editVlan (order : EditVlan)
  | deleteVlan (id : Id .vlan)
  | deleteServer (id : Id .server)
  | enableServerBackup (serverId : Id .server) (servicePlan : String)
  | disableServerBackup (serverId : Id .server)
  | deleteFirewallRule (id : Id .firewallRule)
  | removePublicIpBlock (id : Id .publicIpBlock)

namespace Command

def run (client : Client) : Command → Operation (Except Error ApiResponse)
  | editNetworkDomain order => client.editNetworkDomain order
  | deleteNetworkDomain id => client.deleteNetworkDomain id
  | editVlan order => client.editVlan order
  | deleteVlan id => client.deleteVlan id
  | deleteServer id => client.deleteServer id
  | enableServerBackup serverId servicePlan => client.enableServerBackup serverId servicePlan
  | disableServerBackup serverId => client.disableServerBackup serverId
  | deleteFirewallRule id => client.deleteFirewallRule id
  | removePublicIpBlock id => client.removePublicIpBlock id

def posting : Command → Posting
  | editNetworkDomain order => ⟨s!"Edit network domain '{order.id}'", "network/editNetworkDomain",
      EditNetworkDomain.record, order⟩
  | deleteNetworkDomain id =>
    .ofId s!"Delete network domain '{id}'" "network/deleteNetworkDomain" id
  | editVlan order => ⟨s!"Edit VLAN '{order.id}'", "network/editVlan", EditVlan.record, order⟩
  | deleteVlan id => .ofId s!"Delete VLAN '{id}'" "network/deleteVlan" id
  | deleteServer id => .ofId s!"Delete server '{id}'" "server/deleteServer" id
  | enableServerBackup serverId servicePlan => ⟨s!"Enable backup for server '{serverId}'",
      "backup/enableBackup", EnableServerBackup.record, ⟨serverId, servicePlan⟩⟩
  | disableServerBackup serverId => ⟨s!"Disable backup for server '{serverId}'",
      "backup/disableBackup", DisableServerBackup.record, ⟨serverId⟩⟩
  | deleteFirewallRule id => .ofId s!"Delete firewall rule '{id}'" "network/deleteFirewallRule" id
  | removePublicIpBlock id =>
    .ofId s!"Remove public IP block '{id}'" "network/removePublicIpBlock" id

theorem run_eq (client : Client) (command : Command) :
    command.run client = client.postDocument command.posting.description command.posting.path
      command.posting.body := by cases command <;> rfl

theorem isFaithful (command : Command) : command.posting.record.codec.IsFaithful := by
  apply isFaithful_of_mem ⟨command.posting.record⟩
  apply List.mem_append_right
  cases command <;> repeat' first | exact List.mem_cons_self | apply List.mem_cons_of_mem

end Command

inductive Creation where
  | deployNetworkDomain (order : DeployNetworkDomain)
  | deployVlan (order : DeployVlan)
  | deployServer (order : DeployServer)
  | cloneServer (order : CloneServer)
  | createFirewallRule (order : CreateFirewallRule)
  | addPublicIpBlock (domain : Id .networkDomain)

namespace Creation

def kind : Creation → IdKind
  | deployNetworkDomain _ => .networkDomain
  | deployVlan _ => .vlan
  | deployServer _ => .server
  | cloneServer _ => .image
  | createFirewallRule _ => .firewallRule
  | addPublicIpBlock _ => .publicIpBlock

/-- The name under which a response holds it. -/
def name : Creation → String
  | deployNetworkDomain _ => "networkDomainId"
  | deployVlan _ => "vlanId"
  | deployServer _ => "serverId"
  | cloneServer _ => "imageId"
  | createFirewallRule _ => "firewallRuleId"
  | addPublicIpBlock _ => "ipBlockId"

def run (client : Client) : (creation : Creation) → Operation (Except Error (Id creation.kind))
  | deployNetworkDomain order => client.deployNetworkDomain order
  | deployVlan order => client.deployVlan order
  | deployServer order => client.deployServer order
  | cloneServer order => client.cloneServer order
  | createFirewallRule order => client.createFirewallRule order
  | addPublicIpBlock domain => client.addPublicIpBlock domain

def posting : Creation → Posting
  | deployNetworkDomain order => ⟨"Deploy network domain", "network/deployNetworkDomain",
      DeployNetworkDomain.record, order⟩
  | deployVlan order => ⟨"Deploy VLAN", "network/deployVlan", DeployVlan.record, order⟩
  | deployServer order => ⟨s!"Deploy server '{order.name}'", "server/deployServer",
      DeployServer.record, order⟩
  | cloneServer order => ⟨s!"Clone server '{order.id}'", "server/cloneServer",
      CloneServer.record, order⟩
  | createFirewallRule order => ⟨s!"Create firewall rule '{order.name}'",
      "network/createFirewallRule", CreateFirewallRule.record, order⟩
  | addPublicIpBlock domain => ⟨s!"Add public IP block to network domain '{domain}'",
      "network/addPublicIpBlock", AddPublicIpBlock.record, ⟨domain⟩⟩

theorem run_eq (client : Client) (creation : Creation) :
    creation.run client = client.create creation.posting.description creation.posting.path
      creation.name creation.posting.body := by cases creation <;> rfl

theorem isFaithful (creation : Creation) : creation.posting.record.codec.IsFaithful := by
  apply isFaithful_of_mem ⟨creation.posting.record⟩
  apply List.mem_append_right
  cases creation <;> repeat' first | exact List.mem_cons_self | apply List.mem_cons_of_mem

end Creation

/-- How something is posted in an organization, and what that leads to by the verdict of a reply. -/
structure PostsOnce {α : Type} (endpoint : Endpoint) (posting : Posting) (organizationId : String)
    (verdict : Reply → Except Error α → Prop) (own : List (Message × Delivery))
    (result : Except Error α) : Prop where
  /-- All attempts send the same message. -/
  same : ∀ exchange ∈ own, ∀ other ∈ own, exchange.1 = other.1
  carries : ∀ exchange ∈ own, posting.IsCarriedBy endpoint organizationId exchange.1
  /-- Another follows only if it could not be sent, so none follows a reply. -/
  unsent : ∀ exchange ∈ own.dropLast, ∃ reason, exchange.2 = .unsent reason
  /-- As long as nothing comes of a message that can be sent, all attempts are made. -/
  persists {message : Message}
    (sendable : endpoint.sendable posting.request organizationId = .ok message)
    (stuck : ∀ exchange ∈ own, ∃ reason, exchange.2 = .unsent reason) :
    own.length = endpoint.retryPolicy.maxRetries.toNat + 1
  decides {message : Message} {reply : Reply} (replied : (message, .reply reply) ∈ own)
    (found : Except Error α) : result = found ↔ verdict reply found
  /-- There is no success without a reply that says so. -/
  succeeds {value : α} : result = .ok value ↔
    ∃ message reply, (message, .reply reply) ∈ own ∧ verdict reply (.ok value)

theorem postsOnce_of_exchanged {α : Type} {endpoint : Endpoint} {posting : Posting}
    {organizationId : String} {own : List (Message × Delivery)} {asked : Except Error Reply}
    {read : Reply → Except Error α} {verdict : Reply → Except Error α → Prop}
    (faithful : posting.record.codec.IsFaithful)
    (judged : ∀ reply found, read reply = found ↔ verdict reply found)
    (exchanged : Exchanged endpoint posting.request organizationId own asked) :
    PostsOnce endpoint posting organizationId verdict own (asked.bind read) := by
  constructor
  case same =>
    intro exchange member other also
    have one := exchanged.sendable exchange member
    exact Except.ok.inj (one.symm.trans (exchanged.sendable other also))
  case carries =>
    intro exchange member
    exact Posting.isCarriedBy_of_sendable faithful (exchanged.sendable exchange member)
  case unsent => exact exchanged.unsent
  case persists => exact exchanged.persists
  case decides =>
    intro message reply replied found
    rw [exchanged.replied.mpr ⟨message, replied⟩]
    exact judged reply found
  case succeeds =>
    intro value
    constructor
    · intro succeeded
      cases learned : asked with
      | error error => simp [learned, Except.bind] at succeeded
      | ok reply =>
        obtain ⟨message, replied⟩ := exchanged.replied.mp learned
        rw [learned] at succeeded
        exact ⟨message, reply, replied, (judged reply _).mp succeeded⟩
    · rintro ⟨message, reply, replied, said⟩
      rw [exchanged.replied.mpr ⟨message, replied⟩]
      exact (judged reply _).mpr said

/-- How a client has things made and changed in an organization. -/
structure SettlesOnce (client : Client) (network : Network) (session : Session)
    (organizationId : String) : Prop where
  /-- A command leads to the response. -/
  commands (command : Command) :
    let ran := (command.run client).run network session
    ∃ own, ran.2.exchanges = session.exchanges ++ own ∧
      PostsOnce client.endpoint command.posting organizationId Answers own ran.1
  /-- To have something made leads to the identifier that the response holds. -/
  creations (creation : Creation) :
    let ran := (creation.run client).run network session
    ∃ own, ran.2.exchanges = session.exchanges ++ own ∧
      PostsOnce client.endpoint creation.posting organizationId
        (Makes creation.kind creation.name) own ran.1

private theorem except_bind_bind {α β γ : Type} (asked : Except Error α) (read : α → Except Error β)
    (further : β → Except Error γ) :
    (asked.bind read).bind further = asked.bind fun value => (read value).bind further := by
  cases asked <;> rfl

/-- A client that knows its organization posts what is wanted until anything comes of it. -/
theorem settlesOnce (client : Client) (network : Network) {session : Session}
    {organizationId : String} (known : session.organizationId = some organizationId) :
    client.SettlesOnce network session organizationId where
  commands command := by
    obtain ⟨own, added, exchanged⟩ := client.endpoint.exists_exchanged network
      command.posting.description command.posting.request known
    rw [command.run_eq, postDocument, Operation.run_andThen]
    exact ⟨own, added,
      postsOnce_of_exchanged command.isFaithful (fun _ _ => decode_eq_iff) exchanged⟩
  creations creation := by
    obtain ⟨own, added, exchanged⟩ := client.endpoint.exists_exchanged network
      creation.posting.description creation.posting.request known
    rw [creation.run_eq, create, postDocument, Operation.run_andThen, Operation.run_andThen,
      except_bind_bind]
    exact ⟨own, added,
      postsOnce_of_exchanged creation.isFaithful (fun _ _ => decode_bind_eq_iff) exchanged⟩

/-- Of two identifiers of what was made, the first is malformed. -/
theorem modest_settles_malformed_identifier :
    let session : Session := { organizationId := "org" }
    let reply : Reply := ⟨200, Text.utf8 <|
      "\x7b\"responseCode\":\"IN_PROGRESS\",\"info\":[" ++
        "\x7b\"name\":\"networkDomainId\",\"value\":\"none\"\x7d," ++
        "\x7b\"name\":\"networkDomainId\",\"value\":\"00000000000000000000000000000001\"\x7d]\x7d"⟩
    let creation := Creation.deployNetworkDomain
      { datacenterId := "NA9", name := "first", serviceLevel := "ESSENTIALS" }
    session.organizationId = some "org" ∧
      ((creation.run modest).run (uniform reply) session).1 = .error (.invalidUuid "none") := by
  intro session reply creation
  have known : session.organizationId = some "org" := rfl
  refine ⟨known, ?_⟩
  obtain ⟨own, added, once⟩ := (settlesOnce modest (uniform reply) known).creations creation
  let ran := (creation.run modest).run (uniform reply) session
  have answered : (ran.2.exchanges.any fun exchange =>
      match exchange.2 with
      | .reply found => found = reply
      | _ => false) = true := by decide +kernel
  obtain ⟨⟨message, delivery⟩, member, shown⟩ := List.any_eq_true.mp answered
  rw [added, show session.exchanges = [] from rfl, List.nil_append] at member
  have replied : (message, .reply reply) ∈ own := by
    cases delivery with
    | reply found => exact of_decide_eq_true shown ▸ member
    | unsent reason => cases shown
    | unreadable status reason => cases shown
  let pair : NameValuePair := ⟨"networkDomainId", "none"⟩
  let response : ApiResponse :=
    { responseCode := "IN_PROGRESS"
      info := [pair, ⟨"networkDomainId", "00000000000000000000000000000001"⟩] }
  have read : ApiResponse.record.codec.decode reply.body = .ok response :=
    eq_ok_of_toOption (by decide +kernel)
  have first : response.IsFirst "networkDomainId" pair :=
    ⟨rfl, [], _, rfl, fun _ member => absurd member List.not_mem_nil⟩
  have unread : Uuid.ofString? pair.value = none := by decide
  exact (once.decides replied _).mpr
    (.accepted (.accepted (by decide) read) (.malformed first unread))

end Provision.Client
