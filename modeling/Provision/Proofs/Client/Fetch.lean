import Provision.Client.Basic
import Provision.Proofs.Service.Retries
import Provision.Proofs.Service.Turns

namespace Provision.Service.Session

variable {network : Network} {session : Session} {lookup : Lookup}

theorem events_resolve (network : Network) (session : Session) (lookup : Lookup) :
    (session.resolve network lookup).2.events = session.events ∨
      ∃ message delivery, (session.resolve network lookup).2.events =
        session.events ++ [.exchanged message delivery] := by
  rw [resolve]
  split
  · exact .inl rfl
  split
  · exact .inl rfl
  dsimp only
  split <;> exact .inr ⟨_, _, rfl⟩

theorem length_events_resolve (network : Network) (session : Session) (lookup : Lookup) :
    (session.resolve network lookup).2.events.length ≤ session.events.length + 1 := by
  rcases session.events_resolve network lookup with same | ⟨message, delivery, more⟩
  · rw [same]
    exact Nat.le_succ _
  · simp [more]

end Provision.Service.Session

namespace Provision.Client

open Service

variable (client : Client) (network : Network) (kind : Kind) (id : String) (session : Session)

/-- What the request for a resource leads to, and the session after it. -/
def ask : Except Error Reply × Session :=
  (client.endpoint.perform s!"Get {kind.name} '{id}'" fun _ =>
    .ok (.get s!"{kind.path}/{id}")).run network session

def fetch : Except Error (Option Model) × Session :=
  (client.getResource kind id).run network session

theorem fetcher?_registry : client.registry.fetcher? kind = some (client.fetcher kind) := by
  cases kind <;> rfl

theorem kind_of_decode {bytes : List UInt8} {model : Model}
    (read : Model.decode kind bytes = .ok model) : (snapshot model).kind = kind := by
  rw [Model.decode] at read
  cases held : (Model.record kind).codec.decode bytes with
  | error refusal => simp [held, Except.map] at read
  | ok value =>
    simp only [held, Except.map, Except.ok.injEq] at read
    rw [← read, Model.snapshot_kind, Model.kind_wrap]

section

variable {α : Type} {read : List UInt8 → Except Json.Refusal α} {reply : Reply}

theorem decode_of_read {value : α} (succeeded : reply.isSuccess)
    (held : read reply.body = .ok value) : decode read reply = .ok value := by
  rw [decode, if_pos succeeded, Reply.decode, held]
  rfl

theorem decode_of_unread {refusal : Json.Refusal} (succeeded : reply.isSuccess)
    (unread : read reply.body = .error refusal) :
    decode read reply = .error (.parse refusal.message) := by
  rw [decode, if_pos succeeded, Reply.decode, unread]
  rfl

theorem decode_of_failed (failed : ¬ reply.isSuccess) :
    decode read reply = .error (failure reply) := by
  simp [decode, failed]

end

private theorem accept_decoded (reply : Reply) :
    (absentIfNotFound (decode (Model.decode kind) reply)).bind (Registry.accept kind id) =
      absentIfNotFound (decode (Model.decode kind) reply) := by
  by_cases succeeded : reply.isSuccess
  · cases read : Model.decode kind reply.body with
    | error refusal => rw [decode_of_unread succeeded read]; rfl
    | ok model =>
      rw [decode_of_read succeeded read]
      simp [absentIfNotFound, Except.bind, Registry.accept, kind_of_decode kind read]
  · rw [decode_of_failed succeeded]
    cases failure reply <;> rfl

theorem fetch_eq : client.fetch network kind id session =
    ((client.ask network kind id session).1.bind fun reply =>
      absentIfNotFound (decode (Model.decode kind) reply),
      (client.ask network kind id session).2) := by
  have known : client.registry.lookup kind = .ok (client.fetcher kind) := by
    rw [Registry.lookup, fetcher?_registry]
  have bound : client.getResource kind id = (client.fetcher kind id).bind fun fetched =>
      .done (fetched.bind (Registry.accept kind id)) := by
    simp only [getResource, Registry.fetch, known]
    rfl
  rw [fetch, bound, Operation.run_bind, fetcher, Operation.andThen, Operation.run_bind]
  change ((Except.bind _ _).bind _, _) = _
  congr 1
  change ((client.ask network kind id session).1.bind _).bind _ = _
  cases (client.ask network kind id session).1 with
  | error error => rfl
  | ok reply => exact accept_decoded kind id reply

/-- Whether a fetch ends with an attempt at its own request that is replied to, and how. -/
def Replied (reply : Reply) : Prop :=
  ∃ earlier context message,
    (client.fetch network kind id session).2.events =
      session.events ++ earlier ++ [.consulted context, .exchanged message (.reply reply)] ∧
    (client.fetch network kind id session).2.organizationId = some context.organizationId ∧
    client.endpoint.sendable (.get s!"{kind.path}/{id}") context.organizationId = .ok message

variable {client network kind id session}

private theorem fetch_snd :
    (client.fetch network kind id session).2 = (client.ask network kind id session).2 := by
  rw [fetch_eq]

def series (client : Client) (network : Network) (kind : Kind) (id organizationId : String)
    (session : Session) : Series :=
  ⟨client.endpoint, network, s!"Get {kind.name} '{id}'",
    .reading fun _ => .ok (.get s!"{kind.path}/{id}"), organizationId, session⟩

theorem ask_of_unresolved {error : Error} {resolved : Session}
    (lookedUp : session.resolve network client.endpoint.lookup = (.error error, resolved)) :
    client.ask network kind id session = (.error error, resolved) :=
  Endpoint.run_perform_of_error lookedUp _ _

theorem exists_attempts (kind : Kind) (id : String) {organizationId : String} {resolved : Session}
    (lookedUp : session.resolve network client.endpoint.lookup = (.ok organizationId, resolved)) :
    ∃ attempts result,
      (client.series network kind id organizationId resolved).Made attempts ∧
      (client.series network kind id organizationId resolved).Leads attempts result ∧
      client.ask network kind id session =
        (result, (client.series network kind id organizationId resolved).after attempts) :=
  Endpoint.exists_performed lookedUp _ _

private theorem replied_of_ask {reply : Reply}
    (answered : (client.ask network kind id session).1 = .ok reply) :
    client.Replied network kind id session reply := by
  obtain ⟨asked, before⟩ : ∃ asked,
      (session.resolve network client.endpoint.lookup).2.events = session.events ++ asked := by
    rcases session.events_resolve network client.endpoint.lookup with
      same | ⟨message, delivery, more⟩
    · exact ⟨[], by rw [same, List.append_nil]⟩
    · exact ⟨_, more⟩
  rw [Replied, fetch_snd]
  cases lookedUp : session.resolve network client.endpoint.lookup with
  | mk looked resolved =>
    rw [lookedUp] at before
    cases looked with
    | error error =>
      rw [ask_of_unresolved lookedUp] at answered
      cases answered
    | ok organizationId =>
      obtain ⟨attempts, result, made, leads, ran⟩ := exists_attempts kind id lookedUp
      rw [ran] at answered ⊢
      cases leads with
      | exhausted isLast unsent spent => cases answered
      | @own last _ isLast leads =>
        cases answered
        obtain ⟨message, takes, sent⟩ := Outcome.result?_eq_ok_iff.mp leads
        obtain ⟨earlier, events⟩ := Series.events_after isLast
        have builds : (client.series network kind id organizationId resolved).build =
            .reading fun _ => .ok (.get s!"{kind.path}/{id}") := rfl
        obtain ⟨within, request, built, sendable⟩ :=
          made.sendable_of_reading builds (List.mem_of_getLast? isLast) sent
        cases built
        rw [← within] at sendable
        have own : last.events = [.consulted last.context, .exchanged message (.reply reply)] := by
          simp [Attempt.events, sent]
        refine ⟨asked ++ earlier, last.context, message, ?_, ?_, sendable⟩
        · rw [events, own]
          change resolved.events ++ _ ++ _ = _
          rw [before, List.append_assoc session.events]
        · change resolved.organizationId = _
          rw [Session.organizationId_resolve lookedUp, within]
          rfl

private theorem ask_of_replied {reply : Reply}
    (replied : client.Replied network kind id session reply) :
    (client.ask network kind id session).1 = .ok reply := by
  obtain ⟨earlier, context, message, events, -, -⟩ := replied
  rw [fetch_snd] at events
  cases lookedUp : session.resolve network client.endpoint.lookup with
  | mk looked resolved =>
    cases looked with
    | error error =>
      -- A lookup adds one event at most, but an attempt that is replied to adds two.
      have few := session.length_events_resolve network client.endpoint.lookup
      rw [ask_of_unresolved lookedUp] at events
      rw [lookedUp, events] at few
      simp at few
    | ok organizationId =>
      obtain ⟨attempts, result, made, leads, ran⟩ := exists_attempts kind id lookedUp
      obtain ⟨last, isLast⟩ := leads.isLast
      obtain ⟨others, after⟩ := Series.events_after isLast
      rw [ran, after] at events
      have ends : last.events.getLast? = some (.exchanged message (.reply reply)) := by
        have same := congrArg List.getLast? events
        have shown := List.getLast?_eq_some_getLast last.events_ne_nil
        rw [List.getLast?_append, shown, Option.some_or] at same
        rw [shown, same]
        simp
      obtain ⟨takes, sent⟩ := Attempt.sent_of_getLast?_events ends
      rw [ran]
      exact leads.eq_ok isLast sent

theorem ask_eq_ok_iff {reply : Reply} :
    (client.ask network kind id session).1 = .ok reply ↔
      client.Replied network kind id session reply := ⟨replied_of_ask, ask_of_replied⟩

end Provision.Client
