import Provision.Proofs.Service.Exchanges

namespace Provision

/-- Whether a failure is the same but for a description that stands in it. -/
inductive Error.Rewords (old new : String) : Error → Error → Prop where
  | same (error : Error) : Rewords old new error error
  | exhausted (attempts : UInt32) (last : Error) :
    Rewords old new (.retriesExhausted old attempts last) (.retriesExhausted new attempts last)
  | unread (reason : String) : Rewords old new
    (.transport s!"Failed to read response body for {old}: {reason}")
    (.transport s!"Failed to read response body for {new}: {reason}")

namespace Service

/-- Whether sessions look the same from outside: what the builders of requests were told is not
seen there. -/
structure Session.Matches (session other : Session) : Prop where
  organizationId_eq : session.organizationId = other.organizationId
  exchanges_eq : session.exchanges = other.exchanges
  clock_eq : session.clock = other.clock

namespace Session.Matches

variable {session other : Session}

theorem refl (session : Session) : session.Matches session := ⟨rfl, rfl, rfl⟩

theorem messages_eq (same : session.Matches other) : session.messages = other.messages := by
  rw [session.messages_eq, other.messages_eq, same.exchanges_eq]

theorem note (same : session.Matches other) (event mate : Event)
    (alike : event.exchange? = mate.exchange?) (takes : Nat) :
    (session.note event takes).Matches (other.note mate takes) where
  organizationId_eq := same.organizationId_eq
  exchanges_eq := by
    have before : session.events.filterMap Event.exchange? =
        other.events.filterMap Event.exchange? := same.exchanges_eq
    simp [Session.note, exchanges, before, List.filterMap_cons, alike]
  clock_eq := by simp [Session.note, same.clock_eq]

theorem exchange (same : session.Matches other) (network : Network) (message : Message) :
    (session.exchange network message).1 = (other.exchange network message).1 ∧
      (session.exchange network message).2.Matches (other.exchange network message).2 := by
  rw [Session.exchange, Session.exchange, same.messages_eq]
  exact ⟨rfl, same.note _ _ rfl _⟩

theorem resolve (same : session.Matches other) (network : Network) (lookup : Lookup) :
    (session.resolve network lookup).1 = (other.resolve network lookup).1 ∧
      (session.resolve network lookup).2.Matches (other.resolve network lookup).2 := by
  rw [Session.resolve, Session.resolve, same.organizationId_eq]
  cases other.organizationId with
  | some id => exact ⟨rfl, same⟩
  | none =>
    cases lookup.message with
    | error error => exact ⟨rfl, same⟩
    | ok message =>
      obtain ⟨delivered, after⟩ := same.exchange network message
      dsimp only
      rw [delivered]
      cases lookup.read (other.exchange network message).1 with
      | error error => exact ⟨rfl, after⟩
      | ok id => exact ⟨rfl, ⟨rfl, after.exchanges_eq, after.clock_eq⟩⟩

end Session.Matches

/-- Whether operations do the same, whatever is delivered to them, and lead to related values. They
may consult the builders of their requests in contexts of their own. -/
inductive Operation.Alike {α β : Type} (related : α → β → Prop) :
    Operation α → Operation β → Prop where
  | done {value : α} {other : β} (values : related value other) :
    Alike related (.done value) (.done other)
  | organization (lookup : Lookup) {next : Except Error String → Operation α}
    {other : Except Error String → Operation β}
    (onward : ∀ result, Alike related (next result) (other result)) :
    Alike related (.organization lookup next) (.organization lookup other)
  | consult (context mate : RetryContext) {next : Operation α} {other : Operation β}
    (onward : Alike related next other) :
    Alike related (.consult context next) (.consult mate other)
  | send (message : Message) {next : Delivery → Operation α} {other : Delivery → Operation β}
    (onward : ∀ delivery, Alike related (next delivery) (other delivery)) :
    Alike related (.send message next) (.send message other)
  | sleep (milliseconds : Nat) {next : Operation α} {other : Operation β}
    (onward : Alike related next other) :
    Alike related (.sleep milliseconds next) (.sleep milliseconds other)

/-- In sessions that match, operations that do the same lead to related values, and the sessions
match again. -/
theorem Operation.Alike.run {α β : Type} {related : α → β → Prop} {operation : Operation α}
    {other : Operation β} (alike : operation.Alike related other) (network : Network)
    {session mate : Session} (same : session.Matches mate) :
    related (operation.run network session).1 (other.run network mate).1 ∧
      (operation.run network session).2.Matches (other.run network mate).2 := by
  induction alike generalizing session mate with
  | done values => exact ⟨values, same⟩
  | organization lookup onward ih =>
    obtain ⟨looked, after⟩ := same.resolve network lookup
    simp only [Operation.run, looked]
    exact ih _ after
  | consult context told onward ih =>
    exact ih (same.note (.consulted context) (.consulted told) rfl 0)
  | send message onward ih =>
    obtain ⟨delivered, after⟩ := same.exchange network message
    simp only [Operation.run, delivered]
    exact ih _ after
  | sleep milliseconds onward ih => exact ih (same.note _ _ rfl milliseconds)

/-- What holds of values that operations may lead to, holds of those that they lead to. -/
theorem Operation.Alike.value {α β : Type} {related : α → β → Prop}
    {operation : Operation (Option α)} {other : Operation (Option β)}
    (alike : operation.Alike (Option.Rel related) other) (ends : operation.Ends)
    (ends' : other.Ends) : (operation.value ends).Alike related (other.value ends') := by
  induction operation generalizing other with
  | done value =>
    cases alike with
    | done values =>
      cases values with
      | some values => exact .done values
      | none => cases ends
  | organization lookup next ih =>
    cases alike with
    | organization _ onward => exact .organization lookup fun result => ih _ (onward _) _ _
  | consult context next ih =>
    cases alike with
    | consult _ _ onward => exact .consult _ _ (ih onward _ _)
  | send message next ih =>
    cases alike with
    | send _ onward => exact .send message fun delivery => ih _ (onward _) _ _
  | sleep milliseconds next ih =>
    cases alike with
    | sleep _ onward => exact .sleep milliseconds (ih onward _ _)

/-- Whether a request leads to the same but for a description. -/
inductive Answered (old new : String) : Except Error Reply → Except Error Reply → Prop where
  | reply (reply : Reply) : Answered old new (.ok reply) (.ok reply)
  | failed {error other : Error} (rewords : error.Rewords old new other) :
    Answered old new (.error error) (.error other)

namespace Endpoint

variable (endpoint : Endpoint) (old new : String) (request : Request)

private theorem alike_attempt (context : RetryContext)
    {retry other : RetryContext → Error → Operation (Option (Except Error Reply))}
    (again : ∀ error, (retry context error).Alike (Option.Rel (Answered old new))
      (other { context with description := new } error)) :
    (endpoint.attempt old (fun context => .ok (request, context)) context retry).Alike
      (Option.Rel (Answered old new))
      (endpoint.attempt new (fun context => .ok (request, context))
        { context with description := new } other) := by
  apply Operation.Alike.consult
  dsimp only
  cases endpoint.sendable request context.organizationId with
  | error error => exact .done (.some (.failed (.same error)))
  | ok message =>
    refine .send message fun delivery => ?_
    cases delivery with
    | unsent reason => exact again _
    | unreadable status reason => exact .done (.some (.failed (.unread reason)))
    | reply reply => exact .done (.some (.reply reply))

private theorem alike_pause (milliseconds : Nat)
    {next other : Operation (Option (Except Error Reply))}
    (onward : next.Alike (Option.Rel (Answered old new)) other) :
    (pause milliseconds next).Alike (Option.Rel (Answered old new)) (pause milliseconds other) := by
  unfold pause
  split
  · exact onward
  · exact .sleep milliseconds onward

private theorem alike_attempts (limit made : Nat) (context : RetryContext) :
    (endpoint.attempts old (.reading fun _ => .ok request) limit made context).Alike
      (Option.Rel (Answered old new))
      (endpoint.attempts new (.reading fun _ => .ok request) limit made
        { context with description := new }) := by
  induction limit generalizing made context with
  | zero => exact .done .none
  | succ limit ih =>
    refine endpoint.alike_attempt old new request context fun error => ?_
    change Operation.Alike _ (ite (context.remaining = 0) _ _) (ite (context.remaining = 0) _ _)
    split
    · exact .done (.some (.failed (.exhausted _ error)))
    · exact alike_pause old new _ (ih _ (context.afterFailure error))

/-- Whatever it is called, the same is sent for a request, and it leads to the same. -/
theorem alike_perform :
    (endpoint.perform old fun _ => .ok request).Alike (Answered old new)
      (endpoint.perform new fun _ => .ok request) := by
  apply Operation.Alike.value
  refine .organization _ fun result => ?_
  cases result with
  | error error => exact .done (.some (.failed (.same error)))
  | ok id => exact endpoint.alike_attempts old new request _ _ _

end Endpoint

end Service

end Provision
