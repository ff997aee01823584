import Provision.Id
import Provision.Json.Record

namespace Provision

open Json (Codec Record)

structure NameValuePair where
  name : String
  value : String
deriving DecidableEq

def NameValuePair.record : Record NameValuePair where
  name := "NameValuePair"
  types := _
  fields :=
    .cons (.required "name" Codec.text) <|
    .cons (.required "value" Codec.text) .nil
  build := fun (a, b, ()) => ⟨a, b⟩
  parts := fun ⟨a, b⟩ => (a, b, ())
  build_parts _ := rfl
  parts_build _ := rfl

/-- What the service answers to a request for a change, and when something fails. -/
structure ApiResponse where
  operation : String := ""
  responseCode : String
  message : String := ""
  /-- More about the outcome, such as the identifier of what was made. -/
  info : List NameValuePair := []
  warning : List NameValuePair := []
  error : List NameValuePair := []
  requestId : Option String := none
deriving DecidableEq

def ApiResponse.record : Record ApiResponse where
  name := "ApiResponse"
  types := _
  fields :=
    .cons (.defaulted "operation" Codec.text "") <|
    .cons (.required "responseCode" Codec.text) <|
    .cons (.defaulted "message" Codec.text "") <|
    .cons (.items "info" NameValuePair.record.codec) <|
    .cons (.items "warning" NameValuePair.record.codec) <|
    .cons (.items "error" NameValuePair.record.codec) <|
    .cons (.optional "requestId" Codec.text) .nil
  build := fun (a, b, c, d, e, f, g, ()) => ⟨a, b, c, d, e, f, g⟩
  parts := fun ⟨a, b, c, d, e, f, g⟩ => (a, b, c, d, e, f, g, ())
  build_parts _ := rfl
  parts_build _ := rfl

namespace ApiResponse

def resourceNotFound : String := "RESOURCE_NOT_FOUND"

/-- The code of a change that was accepted and is under way. -/
def inProgress : String := "IN_PROGRESS"

/-- The value of the first piece of information with a name. -/
def infoValue? (response : ApiResponse) (name : String) : Option String :=
  (response.info.find? (·.name = name)).map (·.value)

def isInProgress (response : ApiResponse) : Bool := response.responseCode = inProgress

end ApiResponse

end Provision
