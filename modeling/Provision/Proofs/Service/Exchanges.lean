import Provision.Proofs.Service.Retries

namespace Provision.Service

def Event.exchange? : Event → Option (Message × Delivery)
  | exchanged message delivery => some (message, delivery)
  | _ => none

theorem Event.message?_eq (event : Event) :
    event.message? = event.exchange?.map Prod.fst := by cases event <;> rfl

namespace Session

variable (session : Session)

def exchanges : List (Message × Delivery) := session.events.filterMap Event.exchange?

theorem messages_eq : session.messages = session.exchanges.map Prod.fst := by
  rw [messages, exchanges, List.map_filterMap, ← funext Event.message?_eq]

end Session

theorem Operation.run_andThen {α β : Type} (network : Network)
    (operation : Operation (Except Error α)) (next : α → Except Error β) (session : Session) :
    (operation.andThen next).run network session =
      ((operation.run network session).1.bind next, (operation.run network session).2) := by
  rw [andThen, run_bind]
  rfl

/-- The exchange of an attempt, unless there was nothing to send. -/
def Attempt.exchange? (attempt : Attempt) : Option (Message × Delivery) :=
  match attempt.outcome with
  | .refused _ => none
  | .sent message answer => some (message, answer.delivery)

theorem Attempt.exchanges_events (attempt : Attempt) :
    attempt.events.filterMap Event.exchange? = attempt.exchange?.toList := by
  obtain ⟨context, left, outcome⟩ := attempt
  cases outcome <;> rfl

/-- Attempts add their exchanges to the session, and nothing else. -/
theorem Series.exchanges_after (series : Series) (attempts : List Attempt) :
    (series.after attempts).exchanges =
      series.session.exchanges ++ attempts.filterMap Attempt.exchange? := by
  have silent : series.pause.filterMap Event.exchange? = [] := by
    unfold pause
    split <;> rfl
  rw [after, Session.exchanges, List.filterMap_append, Session.exchanges]
  congr 1
  induction attempts with
  | nil => rfl
  | cons attempt rest ih =>
    cases rest with
    | nil =>
      cases own : attempt.exchange? <;>
        simp [attempt.exchanges_events, own]
    | cons next rest =>
      rw [List.map_cons, List.intercalate_cons_of_ne_nil (by simp), List.filterMap_append,
        List.filterMap_append, silent, ih, attempt.exchanges_events]
      cases own : attempt.exchange? <;> simp [List.filterMap_cons, own]

/-- How a request is sent in an organization, and what that leads to. -/
structure Exchanged (endpoint : Endpoint) (request : Request) (organizationId : String)
    (own : List (Message × Delivery)) (result : Except Error Reply) : Prop where
  /-- Every attempt sends the message of the request. -/
  sendable : ∀ exchange ∈ own, endpoint.sendable request organizationId = .ok exchange.1
  /-- Another follows only if it could not be sent. -/
  unsent : ∀ exchange ∈ own.dropLast, ∃ reason, exchange.2 = .unsent reason
  /-- As long as nothing comes of a message that can be sent, all attempts are made. -/
  persists {message : Message} (sendable : endpoint.sendable request organizationId = .ok message)
    (stuck : ∀ exchange ∈ own, ∃ reason, exchange.2 = .unsent reason) :
    own.length = endpoint.retryPolicy.maxRetries.toNat + 1
  replied {reply : Reply} : result = .ok reply ↔ ∃ message, (message, .reply reply) ∈ own

namespace Attempt

variable {attempt : Attempt} {message : Message} {delivery : Delivery}

theorem IsUnsent.delivery_eq (unsent : attempt.IsUnsent)
    (shown : attempt.exchange? = some (message, delivery)) :
    ∃ reason, delivery = .unsent reason := by
  obtain ⟨error, failed⟩ := unsent
  obtain ⟨context, left, outcome⟩ := attempt
  cases outcome with
  | refused refusal => cases failed
  | sent own answer =>
    obtain ⟨delivered, takes⟩ := answer
    cases shown
    cases delivered with
    | unsent reason => exact ⟨reason, rfl⟩
    | unreadable status reason => cases failed
    | reply reply => cases failed

theorem exchange?_eq_some_iff :
    attempt.exchange? = some (message, delivery) ↔
      ∃ takes, attempt.outcome = .sent message ⟨delivery, takes⟩ := by
  obtain ⟨context, left, outcome⟩ := attempt
  cases outcome with
  | refused error => simp [exchange?]
  | sent own answer =>
    obtain ⟨delivered, takes⟩ := answer
    simp [exchange?]

end Attempt

namespace Series

variable {series : Series} {attempts : List Attempt} {result : Except Error Reply}

private theorem Made.isUnsent_of_mem {made : List Attempt} {last : Attempt}
    (whole : series.Made (made ++ [last])) : ∀ attempt ∈ made, attempt.IsUnsent := by
  intro attempt member
  obtain ⟨n, inside, rfl⟩ := List.getElem_of_mem member
  have unsent := (whole.retried n (by simp; omega)).unsent
  rwa [List.getElem_append_left inside] at unsent

private theorem Made.sendable {request : Request} (made : series.Made attempts)
    (builds : series.build = .reading fun _ => .ok request) {attempt : Attempt}
    (member : attempt ∈ attempts) {exchange : Message × Delivery}
    (shown : attempt.exchange? = some exchange) :
    series.endpoint.sendable request series.organizationId = .ok exchange.1 := by
  obtain ⟨takes, sent⟩ := Attempt.exchange?_eq_some_iff.mp shown
  obtain ⟨-, own, built, sendable⟩ := made.sendable_of_reading builds member sent
  cases built
  exact sendable

/-- Every attempt at a request sends its message, if that can be sent. -/
private theorem Made.exists_sent {request : Request} {message : Message}
    (made : series.Made attempts) (builds : series.build = .reading fun _ => .ok request)
    (sendable : series.endpoint.sendable request series.organizationId = .ok message)
    {attempt : Attempt} (member : attempt ∈ attempts) :
    ∃ answer, attempt.outcome = .sent message answer := by
  have keeps := Endpoint.RequestBuilder.keepsOrganization_reading fun _ => .ok request
  have within := made.organizationId_eq (builds ▸ keeps) attempt member
  obtain ⟨n, inside, rfl⟩ := List.getElem_of_mem member
  rw [← within.1] at sendable
  exact ⟨_, ((made.meets n inside).eq_sent (by rw [builds]; rfl) sendable).2⟩

theorem Leads.exchanged {request : Request} (leads : series.Leads attempts result)
    (made : series.Made attempts) (builds : series.build = .reading fun _ => .ok request) :
    Exchanged series.endpoint request series.organizationId
      (attempts.filterMap Attempt.exchange?) result := by
  obtain ⟨last, isLast⟩ := leads.isLast
  obtain ⟨others, rfl⟩ := List.getLast?_eq_some_iff.mp isLast
  have unsent : ∀ exchange ∈ others.filterMap Attempt.exchange?,
      ∃ reason, exchange.2 = .unsent reason := by
    intro exchange member
    obtain ⟨attempt, earlier, shown⟩ := List.mem_filterMap.mp member
    exact (made.isUnsent_of_mem attempt earlier).delivery_eq shown
  constructor
  case sendable =>
    intro exchange member
    obtain ⟨attempt, own, shown⟩ := List.mem_filterMap.mp member
    exact made.sendable builds own shown
  case unsent =>
    intro exchange member
    apply unsent
    cases shown : last.exchange? with
    | none =>
      have own := List.dropLast_subset _ member
      simpa [shown] using own
    | some own => simpa [shown] using member
  case persists =>
    intro message sendable stuck
    have sent {attempt : Attempt} (member : attempt ∈ others ++ [last]) :=
      made.exists_sent builds sendable member
    have whole : ((others ++ [last]).filterMap Attempt.exchange?).length =
        (others ++ [last]).length := by
      apply List.filterMap_length_eq_length.mpr
      intro attempt member
      obtain ⟨answer, same⟩ := sent member
      simp [Attempt.exchange?, same]
    rw [whole]
    obtain ⟨answer, same⟩ := sent (by simp : last ∈ others ++ [last])
    have shown := Attempt.exchange?_eq_some_iff.mpr ⟨answer.takes, same⟩
    obtain ⟨reason, unsent⟩ := stuck _ (List.mem_filterMap.mpr ⟨last, by simp, shown⟩)
    have spent := (leads.spent isLast (same ▸ Outcome.failure?_sent unsent)).1
    exact made.length_of_spent (builds ▸ Endpoint.RequestBuilder.keepsCount_reading _) isLast spent
  case replied =>
    intro reply
    constructor
    · rintro rfl
      cases leads with
      | own found leads =>
        cases isLast.symm.trans found
        obtain ⟨message, takes, sent⟩ := Outcome.result?_eq_ok_iff.mp leads
        have shown := Attempt.exchange?_eq_some_iff.mpr ⟨takes, sent⟩
        exact ⟨message, List.mem_filterMap.mpr ⟨last, by simp, shown⟩⟩
    · rintro ⟨message, member⟩
      obtain ⟨attempt, own, shown⟩ := List.mem_filterMap.mp member
      rcases List.mem_append.mp own with earlier | ending
      · obtain ⟨reason, same⟩ := (made.isUnsent_of_mem attempt earlier).delivery_eq shown
        cases same
      · cases List.mem_singleton.mp ending
        obtain ⟨takes, sent⟩ := Attempt.exchange?_eq_some_iff.mp shown
        exact leads.eq_ok isLast sent

end Series

/-- A client that knows its organization only sends the message of the request. -/
theorem Endpoint.exists_exchanged (endpoint : Endpoint) (network : Network) (description : String)
    (request : Request) {session : Session} {organizationId : String}
    (known : session.organizationId = some organizationId) :
    let ran := (endpoint.perform description fun _ => .ok request).run network session
    ∃ own, ran.2.exchanges = session.exchanges ++ own ∧
      Exchanged endpoint request organizationId own ran.1 := by
  intro ran
  have resolved : session.resolve network endpoint.lookup = (.ok organizationId, session) := by
    rw [Session.resolve, known]
  obtain ⟨attempts, result, made, leads, attempted⟩ :=
    Endpoint.exists_performed resolved description fun _ => .ok request
  rw [show ran = _ from attempted]
  exact ⟨_, Series.exchanges_after _ attempts, leads.exchanged made rfl⟩

end Provision.Service
