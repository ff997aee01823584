import Provision.Id
import Provision.Model.ApiResponse
import Provision.Service.Reply

namespace Provision.Client

open Service

def failure (reply : Reply) : Error :=
  match ApiResponse.record.codec.decode reply.body with
  | .ok response =>
    if reply.status = 404 ∨ response.responseCode = ApiResponse.resourceNotFound then
      .notFound response.message
    else .api reply.status response.responseCode response.message
  | .error _ =>
    if reply.status = 404 then .notFound reply.text
    else .api reply.status (statusCode reply.status) reply.text

def decode {α : Type} (read : List UInt8 → Except Json.Refusal α) (reply : Reply) :
    Except Error α :=
  if reply.isSuccess then reply.decode read else .error (failure reply)

/-- The identifier of what was made, which the response holds under a name. -/
def createdId {kind : IdKind} (name : String) (response : ApiResponse) : Except Error (Id kind) :=
  match response.infoValue? name with
  | some value => Id.parse value
  | none => .error (.parse s!"{response.operation} response did not include '{name}'")

end Provision.Client
