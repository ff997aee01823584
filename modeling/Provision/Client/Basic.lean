import Provision.Cancellation
import Provision.Client.Answer
import Provision.Model.Basic
import Provision.Model.ListParams
import Provision.Model.Order
import Provision.Model.Page
import Provision.Resource.Registry
import Provision.Service.Setup

namespace Provision

open Service

structure Client where
  endpoint : Endpoint
  /-- Whole milliseconds of an ideal clock. -/
  pollInterval : Nat
  flag : Flag
deriving DecidableEq

structure ClientSetup where
  service : Setup
  /-- Whole milliseconds of an ideal clock, to which every interval can be added. -/
  pollInterval : Nat := 5000
  flag : Flag
deriving DecidableEq

namespace ClientSetup

def userAgent : String := "cloudcontrol-compute/0.1.0"

def forAddress (address : String) (flag : Flag) : Except Error ClientSetup := do
  let service ← Setup.forAddress address 60000
  return { service := { service with userAgent }, flag }

def ofSettings (settings : Settings) (flag : Flag) : Except Error ClientSetup := do
  let service ← Setup.ofSettings settings
  return {
    service := { service with userAgent }
    pollInterval := settings.pollInterval.milliseconds
    flag }

def forRegion (region : String) (flag : Flag) : Except Error ClientSetup := do
  let settings ← Settings.forRegion region
  ofSettings settings flag

def build (setup : ClientSetup) (files : String → CertificateFile) : Except Error Client := do
  if setup.pollInterval = 0 then throw (.config "poll interval must be greater than zero")
  let endpoint ← setup.service.build files
  return { endpoint, pollInterval := setup.pollInterval, flag := setup.flag }

end ClientSetup

namespace Client

def getDocument {α : Type} (client : Client) (read : List UInt8 → Except Json.Refusal α)
    (description path : String) (query : Query := .empty) : Operation (Except Error α) :=
  (client.endpoint.perform description fun _ => .ok (.get path query.pairs)).andThen (decode read)

def postDocument (client : Client) (description path : String) (body : Json) :
    Operation (Except Error ApiResponse) :=
  (client.endpoint.perform description fun _ => .ok (.post path body)).andThen
    (decode ApiResponse.record.codec.decode)

/-- Post what is to be made and get the identifier of it, which the response holds under a name. -/
def create {kind : IdKind} (client : Client) (description path name : String) (body : Json) :
    Operation (Except Error (Id kind)) :=
  (client.postDocument description path body).andThen (createdId name)

abbrev Fetcher := String → Operation (Except Error (Option Model))

/-- A missing resource is nothing rather than a failure. -/
def absentIfNotFound {α : Type} : Except Error α → Except Error (Option α)
  | .ok found => .ok (some found)
  | .error (.notFound _) => .ok none
  | .error error => .error error

def fetcher (client : Client) (kind : Kind) : Fetcher := fun id =>
  (client.endpoint.perform s!"Get {kind.name} '{id}'" fun _ =>
    .ok (.get s!"{kind.path}/{id}")).andThen fun reply =>
      absentIfNotFound (decode (Model.decode kind) reply)

def registry (client : Client) : Registry Fetcher :=
  Kind.all.foldl (fun registry kind => registry.register kind (client.fetcher kind)) .empty

def getResource (client : Client) (kind : Kind) (id : String) :
    Operation (Except Error (Option Model)) :=
  Registry.fetch (fun fetcher id => fetcher id) client.registry kind id

end Client

end Provision
