import Provision.Client.Operations
import Provision.Proofs.Client.Absence
import Provision.Proofs.Service.Failures
import Provision.Proofs.Service.Rewording

namespace Provision.Client

open Service

inductive Getter where
  | networkDomain
  | vlan
  | server
  | firewallRule
  | publicIpBlock
deriving DecidableEq, Repr

namespace Getter

def kind : Getter → Kind
  | networkDomain => .networkDomain
  | vlan => .vlan
  | server => .server
  | firewallRule => .firewallRule
  | publicIpBlock => .publicIpBlock

def idKind : Getter → IdKind
  | networkDomain => .networkDomain
  | vlan => .vlan
  | server => .server
  | firewallRule => .firewallRule
  | publicIpBlock => .publicIpBlock

/-- What a request calls it. A block of addresses has another name among the kinds. -/
def noun : Getter → String
  | networkDomain => "network domain"
  | vlan => "VLAN"
  | server => "server"
  | firewallRule => "firewall rule"
  | publicIpBlock => "public IP block"

def get (client : Client) :
    (getter : Getter) → Id getter.idKind → Operation (Except Error (Model.Of getter.kind))
  | networkDomain => client.getNetworkDomain
  | vlan => client.getVlan
  | server => client.getServer
  | firewallRule => client.getFirewallRule
  | publicIpBlock => client.getPublicIpBlock

end Getter

/-- Whether what was got is what was fetched. A resource that is not there is a failure to get it,
and nothing to fetch; any other failure is the same but for a description. -/
inductive Corresponds (kind : Kind) (old new : String) :
    Except Error (Model.Of kind) → Except Error (Option Model) → Prop where
  | found (value : Model.Of kind) :
    Corresponds kind old new (.ok value) (.ok (some (Model.wrap kind value)))
  | missing (text : String) : Corresponds kind old new (.error (.notFound text)) (.ok none)
  | failed {error other : Error} (present : ∀ text, error ≠ .notFound text)
    (rewords : error.Rewords old new other) :
    Corresponds kind old new (.error error) (.error other)

/-- A reply corresponds to itself, read as a resource or as one that may not be there. -/
private theorem corresponds_decode (kind : Kind) (old new : String) (reply : Reply) :
    Corresponds kind old new (decode (Model.record kind).codec.decode reply)
      (absentIfNotFound (decode (Model.decode kind) reply)) := by
  by_cases succeeded : reply.isSuccess
  · cases read : (Model.record kind).codec.decode reply.body with
    | ok value =>
      have wrapped : Model.decode kind reply.body = .ok (Model.wrap kind value) := by
        rw [Model.decode, read]
        rfl
      rw [decode_of_read succeeded read, decode_of_read succeeded wrapped]
      exact .found value
    | error refusal =>
      have unread : Model.decode kind reply.body = .error refusal := by
        rw [Model.decode, read]
        rfl
      rw [decode_of_unread succeeded read, decode_of_unread succeeded unread]
      exact .failed (by simp) (.same _)
  · rw [decode_of_failed succeeded, decode_of_failed succeeded]
    cases failure reply with
    | notFound text => exact .missing text
    | _ => exact .failed (by simp) (.same _)

/-- To get a document at the path of a resource is to fetch the resource. -/
private theorem getDocument_fetches (client : Client) (network : Network) (kind : Kind)
    (id description : String) (session : Session) :
    let got := (client.getDocument (Model.record kind).codec.decode description
      s!"{kind.path}/{id}").run network session
    let fetched := client.fetch network kind id session
    got.2.Matches fetched.2 ∧
      Corresponds kind description s!"Get {kind.name} '{id}'" got.1 fetched.1 := by
  intro got fetched
  let asked := (client.endpoint.perform description fun _ =>
    .ok (.get s!"{kind.path}/{id}")).run network session
  have split : got = (asked.1.bind (decode (Model.record kind).codec.decode), asked.2) :=
    Operation.run_andThen _ _ _ _
  obtain ⟨answered, after⟩ : Answered description s!"Get {kind.name} '{id}'" asked.1
      (client.ask network kind id session).1 ∧
      asked.2.Matches (client.ask network kind id session).2 :=
    (client.endpoint.alike_perform _ _ _).run network (.refl session)
  have present {error : Error} (failed : asked.1 = .error error) (text : String) :
      error ≠ .notFound text :=
    (Endpoint.ofRequest_of_perform (fun _ => ⟨_, rfl⟩) failed).ne_notFound text
  rw [split, show fetched = _ from client.fetch_eq network kind id session]
  refine ⟨after, ?_⟩
  generalize asked.1 = learned at answered present ⊢
  generalize (client.ask network kind id session).1 = other at answered ⊢
  cases answered with
  | reply reply => exact corresponds_decode kind _ _ reply
  | failed rewords => exact .failed (present rfl) rewords

/-- The path of a resource is that of its kind, whichever way it is asked for. -/
private theorem Getter.get_eq (client : Client) (getter : Getter) (id : Id getter.idKind) :
    getter.get client id = client.getDocument (Model.record getter.kind).codec.decode
      s!"Get {getter.noun} '{id}'" s!"{getter.kind.path}/{id}" := by
  have below (path folder : String) (same : path = folder ++ "/") :
      path ++ toString id = folder ++ "/" ++ toString id := by rw [same]
  cases getter <;> exact congrArg (client.getDocument _ _) (below _ _ (by decide))

/-- The same is sent to get a resource as to fetch it, and the same is learned. -/
theorem Getter.agreesWithFetch (getter : Getter) (client : Client) (network : Network)
    (id : Id getter.idKind) (session : Session) :
    let got := (getter.get client id).run network session
    let fetched := client.fetch network getter.kind id.toString session
    got.2.Matches fetched.2 ∧
      Corresponds getter.kind s!"Get {getter.noun} '{id}'" s!"Get {getter.kind.name} '{id}'"
        got.1 fetched.1 := by
  rw [getter.get_eq]
  exact client.getDocument_fetches network getter.kind id.toString _ session

end Provision.Client
