import Provision.Proofs.Service.Retries
import Provision.Proofs.Service.Standing

namespace Provision

inductive Error.OfRequest : Error → Prop where
  | invalidEndpoint (text : String) : OfRequest (.invalidEndpoint text)
  | invalidRequest (text : String) : OfRequest (.invalidRequest text)
  | transport (reason : String) : OfRequest (.transport reason)
  | retriesExhausted (description : String) (attempts : UInt32) (reason : String) :
    OfRequest (.retriesExhausted description attempts (.transport reason))
  | api (status : UInt16) (responseCode message : String) :
    OfRequest (.api status responseCode message)
  | parse (text : String) : OfRequest (.parse text)

theorem Error.OfRequest.ne_notFound {error : Error} (own : error.OfRequest) (text : String) :
    error ≠ .notFound text := by
  rintro rfl
  cases own

namespace Service

theorem Reply.ofRequest_of_decode {α : Type} {read : List UInt8 → Except Json.Refusal α}
    {reply : Reply} {error : Error} (unread : reply.decode read = .error error) :
    error.OfRequest := by
  rw [decode] at unread
  cases held : read reply.body with
  | ok value =>
    rw [held] at unread
    cases unread
  | error refusal =>
    rw [held] at unread
    cases unread
    exact .parse _

theorem Delivery.Refuses.ofRequest {delivery : Delivery} {error : Error}
    (refuses : delivery.Refuses error) : error.OfRequest := by
  cases refuses with
  | unsent reason => exact .transport reason
  | unreadable status reason => exact .transport reason
  | status failure => exact .api _ _ _
  | body success holds => exact Reply.ofRequest_of_decode holds

namespace Endpoint

variable {endpoint : Endpoint} {error : Error}

theorem ofRequest_of_sendable {request : Request} {organizationId : String}
    (unsendable : endpoint.sendable request organizationId = .error error) : error.OfRequest := by
  cases joined : endpoint.base.join (endpoint.relativePath request organizationId).toList with
  | error fault =>
    rw [endpoint.sendable_of_misjoined _ _ joined] at unsendable
    cases unsendable
    exact .invalidEndpoint _
  | ok url =>
    obtain ⟨message, prepared⟩ := endpoint.exists_prepare _ _ joined
    rw [endpoint.sendable_of_prepared _ _ prepared] at unsendable
    split at unsendable
    · cases unsendable
      exact .invalidRequest _
    · cases unsendable

theorem ofRequest_of_resolve {network : Network} {session resolved : Session}
    (unresolved : session.resolve network endpoint.lookup = (.error error, resolved)) :
    error.OfRequest := by
  cases known : session.organizationId with
  | some organizationId => simp [Session.resolve, known] at unresolved
  | none =>
    cases sendable : endpoint.lookup.message with
    | error own =>
      simp only [Session.resolve, known, sendable, Prod.mk.injEq, Except.error.injEq] at unresolved
      exact unresolved.1 ▸ ofRequest_of_sendable sendable
    | ok message =>
      cases read : endpoint.lookup.read (session.exchange network message).1 with
      | ok organizationId =>
        rw [Session.resolve_named known sendable read] at unresolved
        cases unresolved
      | error own =>
        rw [Session.resolve_refused known sendable read] at unresolved
        cases unresolved
        exact (readAccount_eq_error_iff.mp read).ofRequest

end Endpoint

namespace Series

variable {series : Series}

theorem Meets.ofRequest {made : List Attempt} {attempt : Attempt}
    (meets : series.Meets made attempt)
    (builds : ∀ asked context, ∃ own, series.build asked context = .ok own) {description : String}
    {error : Error} (leads : attempt.outcome.result? description = some (.error error)) :
    error.OfRequest := by
  obtain ⟨own, built⟩ := builds made.length (series.context made)
  cases meets with
  | unbuilt unbuilt => cases built.symm.trans unbuilt
  | misplaced _ _ _ =>
    cases leads
    exact .invalidEndpoint _
  | rejected _ _ _ =>
    cases leads
    exact .invalidRequest _
  | @sent request left message _ _ _ =>
    generalize series.network (series.messages made) message = answer at leads
    obtain ⟨delivery, takes⟩ := answer
    cases delivery with
    | unsent reason => cases leads
    | reply reply => cases leads
    | unreadable status reason =>
      cases leads
      exact .transport _

theorem Leads.ofRequest {attempts : List Attempt} {error : Error}
    (leads : series.Leads attempts (.error error)) (made : series.Made attempts)
    (builds : ∀ asked context, ∃ own, series.build asked context = .ok own) :
    error.OfRequest := by
  cases leads with
  | own isLast leads =>
    obtain ⟨before, meets⟩ := made.meets_last isLast
    exact meets.ofRequest builds leads
  | @exhausted last error isLast unsent spent =>
    obtain ⟨context, left, outcome⟩ := last
    cases outcome with
    | refused refusal => cases unsent
    | sent message answer =>
      obtain ⟨delivery, takes⟩ := answer
      cases delivery with
      | unsent reason =>
        cases unsent
        exact .retriesExhausted _ _ _
      | unreadable status reason => cases unsent
      | reply reply => cases unsent

end Series

theorem Endpoint.ofRequest_of_perform {endpoint : Endpoint} {network : Network}
    {description : String} {build : RetryContext → Except Error Request} {session : Session}
    {error : Error} (builds : ∀ context, ∃ request, build context = .ok request)
    (failed : ((endpoint.perform description build).run network session).1 = .error error) :
    error.OfRequest := by
  cases lookedUp : session.resolve network endpoint.lookup with
  | mk looked resolved =>
    cases looked with
    | error own =>
      rw [Endpoint.run_perform_of_error lookedUp] at failed
      cases failed
      exact ofRequest_of_resolve lookedUp
    | ok organizationId =>
      obtain ⟨attempts, result, made, leads, ran⟩ :=
        Endpoint.exists_performed lookedUp description build
      rw [ran] at failed
      cases failed
      refine leads.ofRequest made fun asked context => ?_
      obtain ⟨request, built⟩ := builds context
      have read : RequestBuilder.reading build asked context = .ok (request, context) :=
        RequestBuilder.reading_eq_ok_iff.mpr ⟨built, rfl⟩
      exact ⟨_, read⟩

end Service

end Provision
