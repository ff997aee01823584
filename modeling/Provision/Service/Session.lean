import Provision.Retry
import Provision.Service.Message
import Provision.Service.Reply

/-!
What happens between a client and the service. An operation is a tree of what it does next; running
it in a session gives its result and the session after it.
-/
namespace Provision.Service

/-- What becomes of a message in the end. Where a reply redirects to another place, that is followed
within the sending, and only what comes of it is delivered. -/
inductive Delivery where
  /-- It was not sent, or no reply came. -/
  | unsent (reason : String)
  /-- A reply came, but its body could not be read. -/
  | unreadable (status : UInt16) (reason : String)
  | reply (reply : Reply)

/-- What becomes of a message, and how many milliseconds that takes. -/
structure Answer where
  delivery : Delivery
  takes : Nat := 0

/-- The other side, with the means of sending: what becomes of a message after the messages before
it. -/
abbrev Network := List Message → Message → Answer

/-- How to look up the organization: a message, unless there is none to send, and what the delivery
says. -/
structure Lookup where
  message : Except Error Message
  read : Delivery → Except Error String

inductive Operation (α : Type) where
  | done (value : α)
  /-- Get the identifier of the organization, looking it up if nobody has yet. -/
  | organization (lookup : Lookup) (next : Except Error String → Operation α)
  | consult (context : RetryContext) (next : Operation α)
  | send (message : Message) (next : Delivery → Operation α)
  | sleep (milliseconds : Nat) (next : Operation α)

namespace Operation

variable {α β : Type}

def bind : Operation α → (α → Operation β) → Operation β
  | done value, f => f value
  | organization lookup next, f => organization lookup fun result => (next result).bind f
  | consult context next, f => consult context (next.bind f)
  | send message next, f => send message fun delivery => (next delivery).bind f
  | sleep milliseconds next, f => sleep milliseconds (next.bind f)

instance : Monad Operation where
  pure := done
  bind := bind

/-- Whether an operation leads to a value wherever it ends. -/
def Ends : Operation (Option α) → Prop
  | done value => value.isSome = true
  | organization _ next => ∀ result, (next result).Ends
  | consult _ next => next.Ends
  | send _ next => ∀ delivery, (next delivery).Ends
  | sleep _ next => next.Ends

def value : (operation : Operation (Option α)) → operation.Ends → Operation α
  | done value, ends => done (value.get ends)
  | organization lookup next, ends =>
    organization lookup fun result => (next result).value (ends result)
  | consult context next, ends => consult context (next.value ends)
  | send message next, ends => send message fun delivery => (next delivery).value (ends delivery)
  | sleep milliseconds next, ends => sleep milliseconds (next.value ends)

/-- Go on with the value of an operation unless it has failed. -/
def andThen (operation : Operation (Except Error α)) (next : α → Except Error β) :
    Operation (Except Error β) :=
  operation.bind fun result => done (result.bind next)

end Operation

inductive Event where
  | consulted (context : RetryContext)
  | exchanged (message : Message) (delivery : Delivery)
  | slept (milliseconds : Nat)

namespace Event

def message? : Event → Option Message
  | exchanged message _ => some message
  | _ => none

def context? : Event → Option RetryContext
  | consulted context => some context
  | _ => none

end Event

/-- What clones of a client share: the identifier of the organization once it is known, what has
happened in order, and the time. -/
structure Session where
  organizationId : Option String := none
  events : List Event := []
  clock : Nat := 0

namespace Session

def messages (session : Session) : List Message := session.events.filterMap Event.message?

def contexts (session : Session) : List RetryContext := session.events.filterMap Event.context?

def note (session : Session) (event : Event) (takes : Nat := 0) : Session :=
  { session with events := session.events ++ [event], clock := session.clock + takes }

@[simp] theorem messages_consulted (session : Session) (context : RetryContext) (takes : Nat) :
    (session.note (.consulted context) takes).messages = session.messages := by
  simp [note, messages, Event.message?]

@[simp] theorem messages_exchanged (session : Session) (message : Message) (delivery : Delivery)
    (takes : Nat) :
    (session.note (.exchanged message delivery) takes).messages =
      session.messages ++ [message] := by
  simp [note, messages, Event.message?]

@[simp] theorem messages_slept (session : Session) (milliseconds takes : Nat) :
    (session.note (.slept milliseconds) takes).messages = session.messages := by
  simp [note, messages, Event.message?]

def exchange (network : Network) (session : Session) (message : Message) : Delivery × Session :=
  let answer := network session.messages message
  (answer.delivery, session.note (.exchanged message answer.delivery) answer.takes)

/-- Get the identifier of the organization. A failed lookup leaves it unknown. -/
def resolve (network : Network) (session : Session) (lookup : Lookup) :
    Except Error String × Session :=
  match session.organizationId with
  | some id => (.ok id, session)
  | none =>
    match lookup.message with
    | .error error => (.error error, session)
    | .ok message =>
      let (delivery, session) := session.exchange network message
      match lookup.read delivery with
      | .error error => (.error error, session)
      | .ok id => (.ok id, { session with organizationId := id })

end Session

def Operation.run {α : Type} (network : Network) : Operation α → Session → α × Session
  | done value, session => (value, session)
  | organization lookup next, session =>
    let (result, session) := session.resolve network lookup
    (next result).run network session
  | consult context next, session => next.run network (session.note (.consulted context))
  | send message next, session =>
    let (delivery, session) := session.exchange network message
    (next delivery).run network session
  | sleep milliseconds next, session =>
    next.run network (session.note (.slept milliseconds) milliseconds)

theorem Operation.run_bind {α β : Type} (network : Network) (operation : Operation α)
    (next : α → Operation β) (session : Session) :
    (operation.bind next).run network session =
      (next (operation.run network session).1).run network (operation.run network session).2 := by
  induction operation generalizing session with
  | done value => rfl
  | organization lookup _ ih => exact ih _ _
  | consult context _ ih => exact ih _
  | send message _ ih => exact ih _ _
  | sleep milliseconds _ ih => exact ih _

theorem Operation.run_value {α : Type} (network : Network) (operation : Operation (Option α))
    (ends : operation.Ends) (session : Session) :
    operation.run network session =
      (some ((operation.value ends).run network session).1,
        ((operation.value ends).run network session).2) := by
  induction operation generalizing session with
  | done value => exact Prod.ext (Option.some_get ends).symm rfl
  | organization lookup _ ih => exact ih _ (ends _) _
  | consult context _ ih => exact ih ends _
  | send message _ ih => exact ih _ (ends _) _
  | sleep milliseconds _ ih => exact ih ends _

end Provision.Service
