import Provision.Proofs.Client.Absence
import Provision.Proofs.Service.Origin
import Provision.Proofs.Url.Climbing
import Provision.Proofs.Wait.Pace

/-!
Where the fetches of a client go. The identifier of a resource is the end of the path as it stands.
It leads on from the folder of its kind, and elsewhere only if it climbs out of there; a query or a
fragment comes of its own marks alone.
-/
namespace Provision

theorem Url.folders_split (text : List Char) :
    Url.folders (Text.split (· == '/') text) = text ++ ['/'] := by
  induction text with
  | nil => rfl
  | cons c text ih =>
    unfold Text.split
    split
    · rename_i slash
      cases beq_iff_eq.mp slash
      simpa [Url.folders] using ih
    · obtain ⟨piece, pieces, cut⟩ := List.exists_cons_of_ne_nil (Text.split_ne_nil (· == '/') text)
      rw [cut] at ih ⊢
      simpa [Url.folders] using ih

def Kind.folders (kind : Kind) : List (List Char) := Text.split (· == '/') kind.path.toList

theorem Kind.isOrdinary_of_mem_folders (kind : Kind) :
    ∀ name ∈ kind.folders, Url.isOrdinary name = true := by
  cases kind <;> decide

namespace Client

open Service

/-- The folders below the first that hold the resources of a kind in an organization. -/
def inner (client : Client) (kind : Kind) (organizationId : String) : List (List Char) :=
  client.endpoint.apiVersion.toList :: organizationId.toList :: kind.folders

def folders (client : Client) (kind : Kind) (organizationId : String) : List (List Char) :=
  ['c', 'a', 'a', 's'] :: client.inner kind organizationId

def requestFor (kind : Kind) (id : String) : Request := .get s!"{kind.path}/{id}"

/-- How a message for a resource keeps to the folder of its kind in an organization. -/
structure Keeps (client : Client) (above : List (List Char)) (kind : Kind)
    (id organizationId : String) (message : Message) : Prop where
  method : message.method = "GET"
  /-- It goes where the base is. -/
  host : message.url.SharesHost client.endpoint.base
  /-- The path leads on from the folder along the pieces of the identifier. -/
  leads : message.url.path = .rooted
    (Url.walk false (above ++ client.folders kind organizationId) (Url.pieces id.toList))
  /-- Unless these climb, it begins with the path of the folder. -/
  below : Url.staysBelow 0 (Url.pieces id.toList) = true →
    client.endpoint.base.path.text ++ Url.folders (client.folders kind organizationId) <+:
      message.url.path.text
  /-- After it comes just the identifier, if that is a name. -/
  named : Url.isOrdinary id.toList = true → message.url.path.text =
    client.endpoint.base.path.text ++ Url.folders (client.folders kind organizationId) ++ id.toList
  /-- A query or a fragment is there just when the identifier holds one of their marks. -/
  bare : message.url.IsBare ↔ '?' ∉ id.toList ∧ '#' ∉ id.toList

section

variable {client : Client} (kind : Kind) (id : String) {organizationId : String}

theorem belowRoot_requestFor (client : Client) (organizationId : String) :
    client.endpoint.belowRoot (requestFor kind id) organizationId =
      Url.folders (client.inner kind organizationId) ++ id.toList := by
  have kept : (s!"{kind.path}/{id}").toList.dropWhile (· == '/') =
      Url.folders kind.folders ++ id.toList := by
    rw [Kind.folders, Url.folders_split]
    cases kind <;> simp [Kind.path, String.toList_append, ToString.toString]
  simp only [Endpoint.belowRoot, requestFor, Request.get]
  rw [kept]
  simp [inner, Url.folders]

variable {above : List (List Char)}
  (rooted : client.endpoint.base.path = .rooted (above ++ [[]]))
  (web : Url.isWeb client.endpoint.base.scheme = true)
  (version : Url.isOrdinary client.endpoint.apiVersion.toList = true)
  (organization : Url.isOrdinary organizationId.toList = true)

include version organization in
theorem isOrdinary_of_mem_inner :
    ∀ name ∈ client.inner kind organizationId, Url.isOrdinary name = true := by
  intro name member
  rcases List.mem_cons.mp member with rfl | member
  · exact version
  rcases List.mem_cons.mp member with rfl | member
  · exact organization
  · exact kind.isOrdinary_of_mem_folders name member

include version organization in
theorem isOrdinary_of_mem_folders :
    ∀ name ∈ client.folders kind organizationId, Url.isOrdinary name = true := by
  intro name member
  rcases List.mem_cons.mp member with rfl | member
  · decide
  · exact isOrdinary_of_mem_inner kind version organization name member

include rooted web version organization

theorem url_requestFor :
    client.endpoint.url (requestFor kind id) organizationId =
      .ok (.follow client.endpoint.base.scheme client.endpoint.base.authority above
        (Url.folders (client.folders kind organizationId) ++ Url.cleanEnd id.toList)) := by
  have clean := Url.cleanEnd_folders
    (isOrdinary_of_mem_inner kind version organization) id.toList
  rw [client.endpoint.url_eq (Url.unfiled_of_isWeb web) rooted, belowRoot_requestFor, clean]
  simp [folders, Url.folders]

theorem keeps_of_prepare {message : Message}
    (prepared : client.endpoint.prepare (requestFor kind id) organizationId = .ok message) :
    client.Keeps above kind id organizationId message := by
  let url := Url.follow client.endpoint.base.scheme client.endpoint.base.authority above
    (Url.folders (client.folders kind organizationId) ++ Url.cleanEnd id.toList)
  have built : client.endpoint.url (requestFor kind id) organizationId = .ok url :=
    url_requestFor kind id rooted web version organization
  have ordinary := isOrdinary_of_mem_folders kind version organization
  have same : message.url.path = url.path ∧ (message.url.IsBare ↔ url.IsBare) := by
    obtain ⟨found, sameBuilt, shape⟩ := client.endpoint.exists_url_of_prepare prepared
    cases built.symm.trans sameBuilt
    rcases shape with shape | shape | shape
    · rw [shape]
      exact ⟨rfl, Iff.rfl⟩
    · rw [shape]
      exact ⟨rfl, Iff.rfl⟩
    · rw [shape]
      exact ⟨rfl, Iff.rfl⟩
  have leads : message.url.path = .rooted
      (Url.walk false (above ++ client.folders kind organizationId) (Url.pieces id.toList)) :=
    same.1.trans (Url.path_follow_folders ordinary web id.toList)
  refine ⟨?_, ?_, leads, ?_, ?_, ?_⟩
  · exact client.endpoint.method_of_prepare prepared
  · exact client.endpoint.sharesHost_of_prepare (Url.unfiled_of_isWeb web) prepared
  · intro stays
    obtain ⟨others, nonempty, down⟩ := Url.walk_staysBelow false
      (above ++ client.folders kind organizationId) (Text.split_ne_nil _ _) stays
      [] (Nat.zero_le _)
    obtain ⟨segment, others, rfl⟩ := List.exists_cons_of_ne_nil nonempty
    rw [List.append_nil] at down
    rw [leads, rooted, Url.pieces, down, Url.text_below]
    exact List.prefix_append _ _
  · intro name
    have one := Url.walk_name (above ++ client.folders kind organizationId) name
    rw [leads, rooted, one, Url.text_below]
    simp [Url.Path.text]
  · exact same.2.trans (Url.isBare_follow_folders ordinary id.toList)

end

/-- What may happen between two moments of a session, if nothing but one resource is fetched. The
organization that is known stays, and what is sent in between is its lookup or keeps to the folder
of the kind. -/
structure Confines (client : Client) (above : List (List Char)) (kind : Kind) (id : String)
    (before after : Session) : Prop where
  known {organizationId : String} :
    before.organizationId = some organizationId → after.organizationId = some organizationId
  sent {message : Message} : message ∈ after.messages →
    message ∈ before.messages ∨ client.endpoint.lookup.message = .ok message ∨
      ∃ organizationId, after.organizationId = some organizationId ∧
        (Url.isOrdinary organizationId.toList = true →
          client.Keeps above kind id organizationId message)

section

variable {client : Client} {above : List (List Char)} (kind : Kind) (id : String)
  {before between after : Session}

variable {kind id} in
theorem Confines.refl : client.Confines above kind id before before :=
  ⟨fun known => known, .inl⟩

variable {kind id} in
theorem Confines.trans (first : client.Confines above kind id before between)
    (second : client.Confines above kind id between after) :
    client.Confines above kind id before after where
  known found := second.known (first.known found)
  sent sent := by
    rcases second.sent sent with earlier | lookup | own
    · rcases first.sent earlier with earlier | lookup | ⟨organizationId, found, keeps⟩
      · exact .inl earlier
      · exact .inr (.inl lookup)
      · exact .inr (.inr ⟨organizationId, second.known found, keeps⟩)
    · exact .inr (.inl lookup)
    · exact .inr (.inr own)

variable (rooted : client.endpoint.base.path = .rooted (above ++ [[]]))
  (web : Url.isWeb client.endpoint.base.scheme = true)
  (version : Url.isOrdinary client.endpoint.apiVersion.toList = true)

include rooted web version

theorem confines_fetch (network : Network) (session : Session) :
    client.Confines above kind id session (client.fetch network kind id session).2 := by
  have same : (client.fetch network kind id session).2 =
      ((client.endpoint.perform s!"Get {kind.name} '{id}'" fun _ =>
        .ok (requestFor kind id)).run network session).2 := by
    rw [fetch_eq]
    rfl
  constructor
  · intro organizationId found
    rw [same]
    exact client.endpoint.organizationId_perform found
  · intro message sent
    rcases client.endpoint.mem_messages_perform same.symm sent with
      earlier | lookup | ⟨organizationId, context, request, found, built, prepared⟩
    · exact .inl earlier
    · exact .inr (.inl lookup)
    · refine .inr (.inr ⟨organizationId, found, fun organization => ?_⟩)
      cases built
      exact keeps_of_prepare kind id rooted web version organization
        (client.endpoint.prepare_of_sendable prepared)

theorem confines_wait (network : Network) (request : Wait) (situation : Situation) :
    client.Confines above request.kind request.id situation.session
      (client.wait network request situation).2.session := by
  have kept : client.Confines above request.kind request.id situation.session
      (client.course network request situation).run.2.session := by
    apply (client.course network request situation).run_keeps (P := fun state =>
      client.Confines above request.kind request.id situation.session state.session)
    · exact .refl
    · intro tick confines
      have fetched := confines_fetch request.kind request.id rooted web version network
        (sessionAt tick)
      exact confines.trans ⟨fetched.known, fetched.sent⟩
  exact ⟨kept.known, kept.sent⟩

end

/-- How a client keeps to the folders of the kinds that it fetches. -/
structure ConfinesFetches (client : Client) (above : List (List Char)) : Prop where
  /-- There is a message for every resource in an organization of an ordinary name, whatever its
  identifier is. -/
  asks (kind : Kind) (id organizationId : String) :
    Url.isOrdinary organizationId.toList = true →
      ∃ message, client.endpoint.prepare (requestFor kind id) organizationId = .ok message ∧
        client.Keeps above kind id organizationId message
  fetches (network : Network) (kind : Kind) (id : String) (session : Session) :
    client.Confines above kind id session (client.fetch network kind id session).2
  waits (network : Network) (request : Wait) (situation : Situation) :
    client.Confines above request.kind request.id situation.session
      (client.wait network request situation).2.session

/-- Every client of a web service with an ordinary version does. -/
theorem confinesFetches (client : Client) (above : List (List Char))
    (web : Url.isWeb client.endpoint.base.scheme = true)
    (rooted : client.endpoint.base.path = .rooted (above ++ [[]]))
    (version : Url.isOrdinary client.endpoint.apiVersion.toList = true) :
    client.ConfinesFetches above where
  asks kind id organizationId organization := by
    have built := url_requestFor kind id rooted web version organization
    obtain ⟨message, prepared⟩ := client.endpoint.exists_prepare_of_url built
    exact ⟨message, prepared, keeps_of_prepare kind id rooted web version organization prepared⟩
  fetches network kind id session := confines_fetch kind id rooted web version network session
  waits network request situation := confines_wait rooted web version network request situation

/-- An identifier that goes up and down again, but never above where it begins. -/
theorem modest_confines_winding_id :
    ∃ message, modest.endpoint.prepare (requestFor .vlan "a/../v-1/.") "org" = .ok message ∧
      "/caas/2.4/org/network/vlan/".toList <+: message.url.path.text := by
  have confined := confinesFetches modest [] (by decide) rfl (by decide)
  obtain ⟨message, prepared, keeps⟩ := confined.asks .vlan "a/../v-1/." "org" (by decide)
  exact ⟨message, prepared, keeps.below (by decide)⟩

/-- An identifier that climbs to another organization and brings a query. -/
theorem climbing_id_leaves_its_organization :
    let network := uniform ⟨404, []⟩
    let id := "../../../other/network/vlan/v-1?x=y"
    let sent := (modest.fetch network .vlan id modest.fresh.session).2.messages
    Url.isWeb modest.endpoint.base.scheme = true ∧ modest.endpoint.base.path = .rooted [[]] ∧
      Url.isOrdinary modest.endpoint.apiVersion.toList = true ∧
      modest.endpoint.organizationId = some "org" ∧ Url.isOrdinary "org".toList = true ∧
      ∃ message ∈ sent, message.url.path.text = "/caas/2.4/other/network/vlan/v-1".toList ∧
        message.url.query = some "x=y".toList ∧
        ¬ "/caas/2.4/org/network/vlan/".toList <+: message.url.path.text := by
  intro network id sent
  have urls : sent.map (fun message => (message.url.path.text, message.url.query)) =
      [("/caas/2.4/other/network/vlan/v-1".toList, some "x=y".toList)] := by
    decide +kernel
  have member : ("/caas/2.4/other/network/vlan/v-1".toList, some "x=y".toList) ∈
      sent.map fun message => (message.url.path.text, message.url.query) := by
    rw [urls]
    exact List.mem_singleton_self _
  obtain ⟨message, own, same⟩ := List.mem_map.mp member
  obtain ⟨path, query⟩ := Prod.mk.inj same
  refine ⟨by decide, rfl, by decide, rfl, by decide, message, own, path, query, ?_⟩
  rw [path]
  decide

end Client

end Provision
