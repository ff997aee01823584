import Provision.Service.Endpoint

namespace Provision.Service

inductive Outcome where
  | refused (error : Error)
  | sent (message : Message) (answer : Answer)

namespace Outcome

/-- The failure of an attempt whose message could not be sent. -/
def failure? : Outcome → Option Error
  | sent _ ⟨.unsent reason, _⟩ => some (.transport reason)
  | _ => none

/-- What an attempt leads to by itself, unless its message could not be sent. -/
def result? (description : String) : Outcome → Option (Except Error Reply)
  | refused error => some (.error error)
  | sent _ ⟨.reply reply, _⟩ => some (.ok reply)
  | sent _ ⟨.unreadable _ reason, _⟩ =>
    some (.error (.transport s!"Failed to read response body for {description}: {reason}"))
  | sent _ ⟨.unsent _, _⟩ => none

theorem result?_eq_ok_iff {outcome : Outcome} {description : String} {reply : Reply} :
    outcome.result? description = some (.ok reply) ↔
      ∃ message takes, outcome = .sent message ⟨.reply reply, takes⟩ := by
  cases outcome with
  | refused error => simp [result?]
  | sent message answer =>
    obtain ⟨delivery, takes⟩ := answer
    cases delivery <;> simp [result?]

/-- An attempt that leads to something of its own was sent or refused. -/
theorem failure?_of_result? {outcome : Outcome} {description : String}
    {result : Except Error Reply} (leads : outcome.result? description = some result) :
    outcome.failure? = none := by
  cases outcome with
  | refused error => rfl
  | sent message answer =>
    obtain ⟨delivery, takes⟩ := answer
    cases delivery with
    | unsent reason => cases leads
    | unreadable status reason => rfl
    | reply reply => rfl

theorem failure?_sent {message : Message} {answer : Answer} {reason : String}
    (unsent : answer.delivery = .unsent reason) :
    (sent message answer).failure? = some (.transport reason) := by
  obtain ⟨delivery, takes⟩ := answer
  cases unsent
  rfl

end Outcome

/-- An attempt: the context that its request was built in, the one that was left by that, and what
became of it. -/
structure Attempt where
  context : RetryContext
  left : RetryContext
  outcome : Outcome

namespace Attempt

def message? (attempt : Attempt) : Option Message :=
  match attempt.outcome with
  | .refused _ => none
  | .sent message _ => some message

/-- What happens in an attempt: the caller builds a request, which may be sent. -/
def events (attempt : Attempt) : List Event :=
  .consulted attempt.context ::
    match attempt.outcome with
    | .refused _ => []
    | .sent message answer => [.exchanged message answer.delivery]

def takes (attempt : Attempt) : Nat :=
  match attempt.outcome with
  | .refused _ => 0
  | .sent _ answer => answer.takes

/-- How many milliseconds attempts take, without the pauses between them. -/
def totalTakes : List Attempt → Nat
  | [] => 0
  | attempt :: rest => attempt.takes + totalTakes rest

theorem totalTakes_concat (made : List Attempt) (attempt : Attempt) :
    totalTakes (made ++ [attempt]) = totalTakes made + attempt.takes := by
  induction made with
  | nil => simp [totalTakes]
  | cons first made ih =>
    rw [List.cons_append, totalTakes, ih, totalTakes]
    omega

theorem messages_events (attempt : Attempt) :
    attempt.events.filterMap Event.message? = attempt.message?.toList := by
  obtain ⟨context, left, outcome⟩ := attempt
  cases outcome <;> rfl

def IsUnsent (attempt : Attempt) : Prop := ∃ error, attempt.outcome.failure? = some error

/-- Whether there is another attempt: sending has failed, and retries are left. -/
structure IsRetried (attempt : Attempt) : Prop where
  unsent : attempt.IsUnsent
  more : attempt.left.remaining ≠ 0

def next (attempt : Attempt) : RetryContext :=
  match attempt.outcome.failure? with
  | some error => attempt.left.afterFailure error
  | none => attempt.left

theorem next_eq {attempt : Attempt} {error : Error}
    (unsent : attempt.outcome.failure? = some error) :
    attempt.next = attempt.left.afterFailure error := by
  rw [next, unsent]

theorem events_ne_nil (attempt : Attempt) : attempt.events ≠ [] := List.cons_ne_nil _ _

theorem sent_of_getLast?_events {attempt : Attempt} {message : Message} {delivery : Delivery}
    (ends : attempt.events.getLast? = some (.exchanged message delivery)) :
    ∃ takes, attempt.outcome = .sent message ⟨delivery, takes⟩ := by
  obtain ⟨context, left, outcome⟩ := attempt
  cases outcome with
  | refused error => simp [events] at ends
  | sent own answer =>
    obtain ⟨delivered, takes⟩ := answer
    simp only [events, List.getLast?_cons_cons, List.getLast?_singleton, Option.some.injEq,
      Event.exchanged.injEq] at ends
    obtain ⟨rfl, rfl⟩ := ends
    exact ⟨takes, rfl⟩

end Attempt

def Session.noteAttempt (session : Session) (attempt : Attempt) : Session :=
  { session with
    events := session.events ++ attempt.events
    clock := session.clock + attempt.takes }

theorem Session.noteAttempt_sent (session : Session) (context left : RetryContext)
    (message : Message) (answer : Answer) :
    session.noteAttempt ⟨context, left, .sent message answer⟩ =
      (session.note (.consulted context)).note (.exchanged message answer.delivery)
        answer.takes := by
  simp [noteAttempt, note, Attempt.events, Attempt.takes]

namespace Endpoint

variable (endpoint : Endpoint)

theorem exists_prepare (request : Request) (organizationId : String) {found : Url}
    (joined : endpoint.base.join (endpoint.relativePath request organizationId).toList =
      .ok found) : ∃ message, endpoint.prepare request organizationId = .ok message := by
  simp only [prepare, url, joined]
  exact ⟨_, rfl⟩

theorem sendable_of_misjoined (request : Request) (organizationId : String)
    {fault : Url.Fault}
    (misjoined : endpoint.base.join (endpoint.relativePath request organizationId).toList =
      .error fault) :
    endpoint.sendable request organizationId = .error (.invalidEndpoint
      s!"Invalid path `{endpoint.relativePath request organizationId}`: {fault.message}") := by
  simp only [sendable, prepare, url, misjoined]
  rfl

theorem sendable_of_prepared (request : Request) (organizationId : String) {message : Message}
    (prepared : endpoint.prepare request organizationId = .ok message) :
    endpoint.sendable request organizationId =
      if message.isRejected then
        .error (.invalidRequest s!"builder error for url ({message.url})")
      else .ok message := by
  by_cases rejected : message.isRejected = true <;>
    simp [sendable, prepared, Message.rejection?, rejected, bind, Except.bind] <;> rfl

end Endpoint

/-- A request that is attempted: by whom, how it is built, and in which session. -/
structure Series where
  endpoint : Endpoint
  network : Network
  description : String
  build : Endpoint.RequestBuilder
  organizationId : String
  session : Session

namespace Series

variable (series : Series)

def retries : Nat := series.endpoint.retryPolicy.maxRetries.toNat

def context (made : List Attempt) : RetryContext :=
  match made.getLast? with
  | some last => last.next
  | none => .first series.description series.organizationId
    series.endpoint.retryPolicy.maxRetries

/-- The messages that were sent before the attempt that comes after others. -/
def messages (made : List Attempt) : List Message :=
  series.session.messages ++ made.filterMap Attempt.message?

inductive Meets (made : List Attempt) : Attempt → Prop where
  | unbuilt {error : Error}
    (built : series.build made.length (series.context made) = .error error) :
    Meets made ⟨series.context made, series.context made, .refused error⟩
  | misplaced {request : Request} {left : RetryContext} {path : String} {fault : Url.Fault}
    (built : series.build made.length (series.context made) = .ok (request, left))
    (below : path = series.endpoint.relativePath request left.organizationId)
    (misjoined : series.endpoint.base.join path.toList = .error fault) :
    Meets made ⟨series.context made, left,
      .refused (.invalidEndpoint s!"Invalid path `{path}`: {fault.message}")⟩
  | rejected {request : Request} {left : RetryContext} {message : Message}
    (built : series.build made.length (series.context made) = .ok (request, left))
    (prepared : series.endpoint.prepare request left.organizationId = .ok message)
    (rejected : message.isRejected) :
    Meets made ⟨series.context made, left,
      .refused (.invalidRequest s!"builder error for url ({message.url})")⟩
  | sent {request : Request} {left : RetryContext} {message : Message}
    (built : series.build made.length (series.context made) = .ok (request, left))
    (prepared : series.endpoint.prepare request left.organizationId = .ok message)
    (accepted : ¬ message.isRejected) :
    Meets made
      ⟨series.context made, left, .sent message (series.network (series.messages made) message)⟩

namespace Meets

variable {series : Series} {made : List Attempt} {attempt : Attempt}

theorem context_eq (meets : series.Meets made attempt) :
    attempt.context = series.context made := by cases meets <;> rfl

theorem sendable (meets : series.Meets made attempt) {message : Message} {answer : Answer}
    (isSent : attempt.outcome = .sent message answer) :
    ∃ request, series.build made.length attempt.context = .ok (request, attempt.left) ∧
      series.endpoint.sendable request attempt.left.organizationId = .ok message := by
  cases meets with
  | unbuilt built => cases isSent
  | misplaced built below misjoined => cases isSent
  | rejected built prepared rejected => cases isSent
  | sent built prepared accepted =>
    cases isSent
    refine ⟨_, built, ?_⟩
    rw [series.endpoint.sendable_of_prepared _ _ prepared, if_neg accepted]

/-- The context that is left is the one that was given, or what the builder made of it. -/
theorem left_eq_or (meets : series.Meets made attempt) :
    attempt.left = attempt.context ∨
      ∃ request, series.build made.length attempt.context = .ok (request, attempt.left) := by
  cases meets with
  | unbuilt built => exact .inl rfl
  | misplaced built below misjoined => exact .inr ⟨_, built⟩
  | rejected built prepared rejected => exact .inr ⟨_, built⟩
  | sent built prepared accepted => exact .inr ⟨_, built⟩

theorem eq_sent (meets : series.Meets made attempt) {request : Request} {left : RetryContext}
    {message : Message} (built : series.build made.length attempt.context = .ok (request, left))
    (sendable : series.endpoint.sendable request left.organizationId = .ok message) :
    attempt.left = left ∧
      attempt.outcome = .sent message (series.network (series.messages made) message) := by
  cases meets with
  | unbuilt unbuilt => cases built.symm.trans unbuilt
  | misplaced same below misjoined =>
    cases built.symm.trans same
    subst below
    rw [series.endpoint.sendable_of_misjoined _ _ misjoined] at sendable
    cases sendable
  | rejected same prepared rejected =>
    cases built.symm.trans same
    rw [series.endpoint.sendable_of_prepared _ _ prepared, if_pos rejected] at sendable
    cases sendable
  | sent same prepared accepted =>
    cases built.symm.trans same
    rw [series.endpoint.sendable_of_prepared _ _ prepared, if_neg accepted] at sendable
    cases sendable
    exact ⟨rfl, rfl⟩

end Meets

structure Made (attempts : List Attempt) : Prop where
  /-- Each attempt is made in the context that those before lead to. -/
  meets (n : Nat) (inside : n < attempts.length) : series.Meets (attempts.take n) attempts[n]
  /-- Only an attempt that could not be sent, and that left retries, is followed by another. -/
  retried (n : Nat) (inside : n + 1 < attempts.length) : attempts[n].IsRetried

/-- Whether the attempts are counted by the policy: each of them knows its number, from 1, and how
many retries are left after it, and when none are left that is told. -/
structure Counted (attempts : List Attempt) : Prop where
  numbers (n : Nat) (inside : n < attempts.length) :
    attempts[n].context.retryCount.toNat = n ∧ attempts[n].context.attempt.toNat = n + 1 ∧
      attempts[n].context.remaining.toNat = series.retries - n
  length_le : attempts.length ≤ series.retries + 1
  spent {last : Attempt} (isLast : attempts.getLast? = some last)
    (none : last.left.remaining = 0) :
    attempts.length = series.retries + 1 ∧ last.left.attempt.toNat = series.retries + 1

inductive Leads (attempts : List Attempt) : Except Error Reply → Prop where
  | own {last : Attempt} {result : Except Error Reply} (isLast : attempts.getLast? = some last)
    (leads : last.outcome.result? series.description = some result) : Leads attempts result
  | exhausted {last : Attempt} {error : Error} (isLast : attempts.getLast? = some last)
    (unsent : last.outcome.failure? = some error) (spent : last.left.remaining = 0) :
    Leads attempts (.error (.retriesExhausted series.description last.left.attempt error))

def pause : List Event :=
  if series.endpoint.retryPolicy.delay = 0 then [] else [.slept series.endpoint.retryPolicy.delay]

def after (attempts : List Attempt) : Session :=
  { series.session with
    events := series.session.events ++ series.pause.intercalate (attempts.map Attempt.events)
    clock := series.session.clock + Attempt.totalTakes attempts +
      (attempts.length - 1) * series.endpoint.retryPolicy.delay }

/-- The session before the attempt that comes after others. -/
def pending (made : List Attempt) : Session :=
  { series.session with
    events := series.session.events ++ made.flatMap fun attempt => attempt.events ++ series.pause
    clock := series.session.clock + Attempt.totalTakes made +
      made.length * series.endpoint.retryPolicy.delay }

/-- What is seen of attempts within a limit, and the session then. -/
inductive Shows (limit : Nat) (attempts : List Attempt) :
    Option (Except Error Reply) × Session → Prop where
  | ended {result : Except Error Reply} (leads : series.Leads attempts result)
    (within : attempts.length ≤ limit) : Shows limit attempts (some result, series.after attempts)
  /-- All of them could not be sent, and there would be another. -/
  | unfinished (full : attempts.length = limit)
    (retried : ∀ attempt ∈ attempts, attempt.IsRetried) :
    Shows limit attempts (none, series.pending attempts)

end Series

end Provision.Service
