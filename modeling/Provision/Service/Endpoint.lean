import Provision.Credentials
import Provision.Json.Record
import Provision.Service.Session
import Provision.Url.Reference

/-!
An endpoint of the service: where it is, and how requests are sent to it. A request whose sending
fails is built and sent again as the retry policy allows; any reply ends that.
-/
namespace Provision.Service

open Json (Codec Record)

structure Endpoint where
  base : Url
  apiVersion : String
  userAgent : String
  credentials : Option Credentials
  retryPolicy : RetryPolicy
  /-- The identifier of the organization, if it need not be looked up. -/
  organizationId : Option String
deriving DecidableEq

structure Account where
  organizationId : String
deriving DecidableEq

def Account.organization : Record Account where
  name := "MyOrganization"
  types := _
  fields := .cons (.required "id" Codec.text) .nil
  build := fun (id, ()) => ⟨id⟩
  parts := fun ⟨id⟩ => (id, ())
  build_parts _ := rfl
  parts_build _ := rfl

def Account.record : Record Account where
  name := "MyUser"
  types := _
  fields := .cons (.required "organization" Account.organization.codec) .nil
  build := fun (account, ()) => account
  parts := fun account => (account, ())
  build_parts _ := rfl
  parts_build _ := rfl

def urlAuthorization? (url : Url) : Option Authorization := do
  let authority ← url.authority
  let read := fun (text : List Char) =>
    Text.Utf8.text? (Url.percentDecode (Text.utf8 (String.ofList text)))
  let username ← read authority.username
  let password := if authority.password.isEmpty then none else read authority.password
  if username.isEmpty && password.isNone then none else some ⟨username, password⟩

namespace Endpoint

def relativePath (endpoint : Endpoint) (request : Request) (organizationId : String) : String :=
  let path := String.ofList (request.path.toList.dropWhile (· == '/'))
  match request.scope with
  | .organization => s!"caas/{endpoint.apiVersion}/{organizationId}/{path}"
  | .account => s!"caas/{endpoint.apiVersion}/{path}"

def url (endpoint : Endpoint) (request : Request) (organizationId : String) : Except Error Url :=
  let relative := endpoint.relativePath request organizationId
  (endpoint.base.join relative.toList).mapError fun fault =>
    .invalidEndpoint s!"Invalid path `{relative}`: {fault.message}"

/-- The message of a request. To a URL without a host nothing is added. -/
def prepare (endpoint : Endpoint) (request : Request) (organizationId : String) :
    Except Error Message := do
  let url ← endpoint.url request organizationId
  let given := endpoint.credentials.map fun credentials =>
    Authorization.mk credentials.username (some credentials.password)
  let found := urlAuthorization? url
  let bare := if found.isSome then url.withoutUserinfo else url
  return {
    method := request.method
    url := if url.hasHost then bare.withPairs request.query else url
    userAgent := endpoint.userAgent
    authorizations := found.toList ++ given.toList
    body := request.body }

def sendable (endpoint : Endpoint) (request : Request) (organizationId : String) :
    Except Error Message := do
  let message ← endpoint.prepare request organizationId
  match message.rejection? with
  | some error => throw error
  | none => return message

def readAccount : Delivery → Except Error String
  | .unsent reason | .unreadable _ reason => .error (.transport reason)
  | .reply reply =>
    if reply.isSuccess then
      (reply.decode Account.record.codec.decode).map Account.organizationId
    else .error (.api reply.status "ACCOUNT_LOOKUP_FAILED" reply.text)

/-- How to look up the organization: by the account of the caller. -/
def lookup (endpoint : Endpoint) : Lookup where
  message := endpoint.sendable { Request.get "user/myUser" with scope := .account } ""
  read := readAccount

def session (endpoint : Endpoint) : Session := { organizationId := endpoint.organizationId }

def organization (endpoint : Endpoint) : Operation (Except Error String) :=
  .organization endpoint.lookup .done

/-- Builds the requests of attempts. It is told how often it was asked before and in which context
it is asked now, and leaves a context for what follows, which may be another one. -/
abbrev RequestBuilder := Nat → RetryContext → Except Error (Request × RetryContext)

namespace RequestBuilder

/-- Only read the contexts. -/
def reading (build : RetryContext → Except Error Request) : RequestBuilder := fun _ context =>
  (build context).map fun request => (request, context)

/-- Whether the counters of every context are left as they are. -/
def KeepsCount (build : RequestBuilder) : Prop :=
  ∀ asked context request left, build asked context = .ok (request, left) →
    left.retryCount = context.retryCount ∧ left.maxRetries = context.maxRetries

/-- Whether the organization of every context is left as it is. -/
def KeepsOrganization (build : RequestBuilder) : Prop :=
  ∀ asked context request left, build asked context = .ok (request, left) →
    left.organizationId = context.organizationId

theorem reading_eq_ok_iff {build : RetryContext → Except Error Request} {asked : Nat}
    {context left : RetryContext} {request : Request} :
    reading build asked context = .ok (request, left) ↔
      build context = .ok request ∧ left = context := by
  cases found : build context with
  | error error => simp [reading, found, Except.map]
  | ok own =>
    simp only [reading, found, Except.map, Except.ok.injEq, Prod.mk.injEq]
    exact and_congr_right fun _ => eq_comm

theorem keepsCount_reading (build : RetryContext → Except Error Request) :
    (reading build).KeepsCount := by
  intro asked context request left built
  rw [(reading_eq_ok_iff.mp built).2]
  exact ⟨rfl, rfl⟩

theorem keepsOrganization_reading (build : RetryContext → Except Error Request) :
    (reading build).KeepsOrganization := by
  intro asked context request left built
  rw [(reading_eq_ok_iff.mp built).2]

end RequestBuilder

def pause {α : Type} (milliseconds : Nat) (next : Operation α) : Operation α :=
  if milliseconds = 0 then next else .sleep milliseconds next

/-- One attempt: build a request and send it in the organization of the context that is left, and go
on from there if sending fails. -/
def attempt (endpoint : Endpoint) (description : String)
    (build : RetryContext → Except Error (Request × RetryContext)) (context : RetryContext)
    (retry : RetryContext → Error → Operation (Option (Except Error Reply))) :
    Operation (Option (Except Error Reply)) :=
  .consult context <|
    match build context with
    | .error error => .done (some (.error error))
    | .ok (request, left) =>
      match endpoint.sendable request left.organizationId with
      | .error error => .done (some (.error error))
      | .ok message =>
        .send message fun
          | .reply reply => .done (some (.ok reply))
          | .unreadable _ reason => .done (some (.error
            (.transport s!"Failed to read response body for {description}: {reason}")))
          | .unsent reason => retry left (.transport reason)

/-- Attempts from a context on, until no retries are left. What comes after so many attempts is left
open. -/
def attempts (endpoint : Endpoint) (description : String) (build : RequestBuilder) :
    Nat → Nat → RetryContext → Operation (Option (Except Error Reply))
  | 0, _, _ => .done none
  | limit + 1, made, context =>
    endpoint.attempt description (build made) context fun left error =>
      if left.remaining = 0 then
        .done (some (.error (.retriesExhausted description left.attempt error)))
      else
        pause endpoint.retryPolicy.delay
          (endpoint.attempts description build limit (made + 1) (left.afterFailure error))

/-- Get the reply to a request, as far as a limit of attempts goes. There is none that is always
enough, as a builder can leave a context with more retries each time. -/
def execute (endpoint : Endpoint) (limit : Nat) (description : String) (build : RequestBuilder) :
    Operation (Option (Except Error Reply)) :=
  .organization endpoint.lookup fun
    | .error error => .done (some (.error error))
    | .ok id =>
      endpoint.attempts description build limit 0
        (.first description id endpoint.retryPolicy.maxRetries)

theorem ends_pause {α : Type} {milliseconds : Nat} {next : Operation (Option α)}
    (ends : next.Ends) : (pause milliseconds next).Ends := by
  unfold pause
  split <;> exact ends

theorem ends_attempt {endpoint : Endpoint} {description : String}
    {build : RetryContext → Except Error (Request × RetryContext)} {context : RetryContext}
    {retry : RetryContext → Error → Operation (Option (Except Error Reply))}
    (again : ∀ request left error, build context = .ok (request, left) →
      (retry left error).Ends) : (endpoint.attempt description build context retry).Ends := by
  rw [attempt, Operation.Ends]
  cases built : build context with
  | error error => rfl
  | ok own =>
    obtain ⟨request, left⟩ := own
    dsimp only
    cases endpoint.sendable request left.organizationId with
    | error error => rfl
    | ok message =>
      intro delivery
      cases delivery with
      | unsent reason => exact again request left _ built
      | unreadable status reason => rfl
      | reply reply => rfl

/-- With counters that are kept there are no more attempts than the context has retries. -/
theorem ends_attempts {endpoint : Endpoint} {description : String} {build : RequestBuilder}
    (keeps : build.KeepsCount) {limit made : Nat} {context : RetryContext}
    (enough : context.remaining.toNat < limit) :
    (endpoint.attempts description build limit made context).Ends := by
  induction limit generalizing made context with
  | zero => exact absurd enough (Nat.not_lt_zero _)
  | succ limit ih =>
    refine ends_attempt fun request left error built => ?_
    obtain ⟨count, most⟩ := keeps made context request left built
    split
    · rfl
    · next more =>
      have step := RetryContext.toNat_retryCount_afterFailure more error
      refine ends_pause (ih ?_)
      rw [RetryContext.remaining_eq_zero_iff, count, most] at more
      rw [RetryContext.toNat_remaining] at enough ⊢
      rw [step, RetryContext.afterFailure, count, most]
      omega

theorem ends_execute (endpoint : Endpoint) (description : String) {build : RequestBuilder}
    (keeps : build.KeepsCount) :
    (endpoint.execute (endpoint.retryPolicy.maxRetries.toNat + 1) description build).Ends := by
  intro result
  cases result with
  | error error => rfl
  | ok id =>
    refine ends_attempts keeps (Nat.lt_succ_of_le ?_)
    rw [RetryContext.toNat_remaining]
    exact Nat.sub_le _ _

/-- Get the reply to a request whose builder only reads its contexts. -/
def perform (endpoint : Endpoint) (description : String)
    (build : RetryContext → Except Error Request) : Operation (Except Error Reply) :=
  Operation.value _ (endpoint.ends_execute description (RequestBuilder.keepsCount_reading build))

end Endpoint

end Provision.Service
