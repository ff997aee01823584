import Provision.Client.Operations
import Provision.Proofs.Client.Confinement
import Provision.Proofs.Model.ListParams
import Provision.Proofs.Service.Exchanges
import Provision.Proofs.Url.Form

/-!
How a client asks for lists. What is asked for stands in the query and nowhere else. The query is
read as just that, so no text can add to it, or change what is asked for beside it.
-/
namespace Provision

open Service

theorem Url.SharesHost.hasHost {url base : Url} (shares : url.SharesHost base) :
    url.hasHost = base.hasHost := by
  have hosted (url : Url) : url.hasHost =
      (url.authority.map fun authority => (authority.host, authority.port)).any
        (·.1 != .domain []) := by
    rw [Url.hasHost]
    cases url.authority <;> rfl
  rw [hosted, hosted, shares.2]

namespace Service.Endpoint

variable {endpoint : Endpoint} {request : Request} {organizationId : String} {message : Message}

/-- A URL as it is sent: a user name and a password that can be read are sent beside it. -/
def shown (url : Url) : Url := if (urlAuthorization? url).isSome then url.withoutUserinfo else url

end Service.Endpoint

namespace Client

inductive Listing where
  | networkDomains
  | vlans
  | servers

namespace Listing

def kind : Listing → Kind
  | networkDomains => .networkDomain
  | vlans => .vlan
  | servers => .server

abbrev Item : Listing → Type
  | networkDomains => NetworkDomain
  | vlans => Vlan
  | servers => Server

def run (client : Client) (params : ListParams) :
    (listing : Listing) → Operation (Except Error (Page listing.Item))
  | networkDomains => client.listNetworkDomains params
  | vlans => client.listVlans params
  | servers => client.listServers params

def request (listing : Listing) (params : ListParams) : Request :=
  .get listing.kind.path params.query.pairs

end Listing

structure Asks (client : Client) (listing : Listing) (params : ListParams)
    (organizationId : String) (message : Message) : Prop where
  method : message.method = "GET"
  origin : message.url.SharesOrigin (Endpoint.shown client.endpoint.base)
  /-- The path leads to the kind of the items, whatever is asked for. -/
  path : ∃ segments, client.endpoint.base.path = .rooted segments ∧
    message.url.path = .rooted (segments.dropLast ++ client.folders listing.kind organizationId)
  fragment : message.url.fragment = none
  /-- There is no query just if no field is set. -/
  bare : message.url.query = none ↔ ∀ field ∈ params.fields, field.2 = none
  /-- A query is read as the fields that are set, in their order. -/
  told : ∀ query, message.url.query = some query →
    Url.Form.decode query = setPairs params.fields

section

variable {client : Client} {listing : Listing} {organizationId : String}
  (version : Url.isOrdinary client.endpoint.apiVersion.toList = true)
  (organization : Url.isOrdinary organizationId.toList = true)

include version organization

end

end Client

end Provision
