import Provision.Client.Waiting
import Provision.Proofs.Client.Fetch
import Provision.Proofs.Json.Fields
import Provision.Proofs.Wait.Judgement
import Provision.Proofs.Wait.Ticks

namespace Provision

private def backupPlace : Json.Place Server.record.types (Option ServerBackup) :=
  .there <| .there <| .there <| .there <| .there <| .there <| .there <| .there <| .there .here

/-- A server that was read has no backup just when its document lacks one. -/
theorem Server.backup_eq_none_iff {outline : Json.Outline} {server : Server}
    (read : Server.record.read outline = .ok server) :
    server.backup = none ↔ outline.Lacks "backup" 9 := by
  have distinct : Server.record.fields.keys.Nodup := by decide
  exact Server.record.get_eq_none_iff distinct backupPlace rfl read

namespace Client

open Service

/-- Whether a reply reports that there is no such resource. -/
def ReportsAbsence (reply : Reply) : Prop :=
  ¬ reply.isSuccess ∧ (reply.status = 404 ∨
    ∃ response, ApiResponse.record.codec.decode reply.body = .ok response ∧
      response.responseCode = "RESOURCE_NOT_FOUND")

/-- Whether a reply holds a resource without a backup. Only servers have one: the member `backup`,
or the tenth item of a list. -/
def ShowsNoBackup (kind : Kind) (reply : Reply) : Prop :=
  reply.isSuccess ∧ (∃ model, Model.decode kind reply.body = .ok model) ∧
    (kind = .server → (Json.Sheet.ofBytes reply.body).outline.Lacks "backup" 9)

def ShowsNothing (source : StateSource) (kind : Kind) (reply : Reply) : Prop :=
  ReportsAbsence reply ∨ source = .backup ∧ ShowsNoBackup kind reply

theorem failure_of_reportsAbsence {reply : Reply} (absent : ReportsAbsence reply) :
    ∃ text, failure reply = .notFound text := by
  obtain ⟨-, status | ⟨response, read, code⟩⟩ := absent
  · cases read : ApiResponse.record.codec.decode reply.body with
    | error refusal => exact ⟨_, by simp [failure, read, status]; rfl⟩
    | ok response => exact ⟨_, by simp [failure, read, status]; rfl⟩
  · exact ⟨_, by simp [failure, read, code, ApiResponse.resourceNotFound]; rfl⟩

theorem failure_of_response {reply : Reply} {response : ApiResponse} (failed : ¬ reply.isSuccess)
    (present : ¬ ReportsAbsence reply)
    (read : ApiResponse.record.codec.decode reply.body = .ok response) :
    failure reply = .api reply.status response.responseCode response.message := by
  have status : reply.status ≠ 404 := fun status => present ⟨failed, .inl status⟩
  have code : response.responseCode ≠ ApiResponse.resourceNotFound := fun code =>
    present ⟨failed, .inr ⟨response, read, code⟩⟩
  simp [failure, read, status, code]

theorem failure_of_unexplained {reply : Reply} {refusal : Json.Refusal} (failed : ¬ reply.isSuccess)
    (present : ¬ ReportsAbsence reply)
    (read : ApiResponse.record.codec.decode reply.body = .error refusal) :
    failure reply = .api reply.status (statusCode reply.status) reply.text := by
  have status : reply.status ≠ 404 := fun status => present ⟨failed, .inl status⟩
  simp [failure, read, status]

inductive Yields (client : Client) (network : Network) (kind : Kind) (id : String)
    (session : Session) : Except Error (Option Model) → Prop where
  | absent {reply : Reply} (replied : client.Replied network kind id session reply)
    (absent : ReportsAbsence reply) : Yields client network kind id session (.ok none)
  | found {reply : Reply} {model : Model}
    (replied : client.Replied network kind id session reply) (succeeded : reply.isSuccess)
    (read : Model.decode kind reply.body = .ok model) :
    Yields client network kind id session (.ok (some model))
  /-- A success with something else than a resource of the kind. -/
  | unread {reply : Reply} {refusal : Json.Refusal}
    (replied : client.Replied network kind id session reply) (succeeded : reply.isSuccess)
    (read : Model.decode kind reply.body = .error refusal) :
    Yields client network kind id session (.error (.parse refusal.message))
  | explained {reply : Reply} {response : ApiResponse}
    (replied : client.Replied network kind id session reply) (failed : ¬ reply.isSuccess)
    (present : ¬ ReportsAbsence reply)
    (read : ApiResponse.record.codec.decode reply.body = .ok response) :
    Yields client network kind id session
      (.error (.api reply.status response.responseCode response.message))
  | unexplained {reply : Reply} {refusal : Json.Refusal}
    (replied : client.Replied network kind id session reply) (failed : ¬ reply.isSuccess)
    (present : ¬ ReportsAbsence reply)
    (read : ApiResponse.record.codec.decode reply.body = .error refusal) :
    Yields client network kind id session
      (.error (.api reply.status (statusCode reply.status) reply.text))
  /-- The organization cannot be looked up, so that nothing is asked. -/
  | unresolved {error : Error} {resolved : Session}
    (lookedUp : session.resolve network client.endpoint.lookup = (.error error, resolved)) :
    Yields client network kind id session (.error error)
  /-- No attempt at the request gets a reply that can be read. -/
  | unanswered {organizationId : String} {resolved : Session} {error : Error}
    (lookedUp : session.resolve network client.endpoint.lookup = (.ok organizationId, resolved))
    (asked : (client.ask network kind id session).1 = .error error) :
    Yields client network kind id session (.error error)

variable {client : Client} {network : Network} {kind : Kind} {id : String} {session : Session}

theorem fetch_of_replied {reply : Reply} (replied : client.Replied network kind id session reply) :
    (client.fetch network kind id session).1 =
      absentIfNotFound (decode (Model.decode kind) reply) := by
  rw [fetch_eq, (client.ask_eq_ok_iff).mpr replied]
  rfl

private theorem Yields.fetch_eq {fetched : Except Error (Option Model)}
    (yields : client.Yields network kind id session fetched) :
    (client.fetch network kind id session).1 = fetched := by
  cases yields with
  | absent replied absent =>
    obtain ⟨text, missing⟩ := failure_of_reportsAbsence absent
    rw [fetch_of_replied replied, decode_of_failed absent.1, missing]
    rfl
  | found replied succeeded read =>
    rw [fetch_of_replied replied, decode_of_read succeeded read]
    rfl
  | unread replied succeeded read =>
    rw [fetch_of_replied replied, decode_of_unread succeeded read]
    rfl
  | explained replied failed present read =>
    rw [fetch_of_replied replied, decode_of_failed failed,
      failure_of_response failed present read]
    rfl
  | unexplained replied failed present read =>
    rw [fetch_of_replied replied, decode_of_failed failed,
      failure_of_unexplained failed present read]
    rfl
  | unresolved lookedUp =>
    rw [Client.fetch_eq, ask_of_unresolved lookedUp]
    rfl
  | unanswered lookedUp asked =>
    rw [Client.fetch_eq, asked]
    rfl

private theorem exists_yields (client : Client) (network : Network) (kind : Kind) (id : String)
    (session : Session) : ∃ fetched, client.Yields network kind id session fetched := by
  cases asked : (client.ask network kind id session).1 with
  | error error =>
    cases lookedUp : session.resolve network client.endpoint.lookup with
    | mk looked resolved =>
      cases looked with
      | error error => exact ⟨_, .unresolved lookedUp⟩
      | ok organizationId => exact ⟨_, .unanswered lookedUp asked⟩
  | ok reply =>
    have replied := client.ask_eq_ok_iff.mp asked
    by_cases succeeded : reply.isSuccess
    · cases read : Model.decode kind reply.body with
      | error refusal => exact ⟨_, .unread replied succeeded read⟩
      | ok model => exact ⟨_, .found replied succeeded read⟩
    by_cases absent : ReportsAbsence reply
    · exact ⟨_, .absent replied absent⟩
    cases read : ApiResponse.record.codec.decode reply.body with
    | error refusal => exact ⟨_, .unexplained replied succeeded absent read⟩
    | ok response => exact ⟨_, .explained replied succeeded absent read⟩

theorem fetch_eq_iff {fetched : Except Error (Option Model)} :
    (client.fetch network kind id session).1 = fetched ↔
      client.Yields network kind id session fetched := by
  constructor
  · rintro rfl
    obtain ⟨fetched, yields⟩ := exists_yields client network kind id session
    rw [yields.fetch_eq]
    exact yields
  · exact Yields.fetch_eq

/-- A resource that was read is never a trace of one, and only a server has a backup. -/
private theorem misses_iff_of_read {source : StateSource} {bytes : List UInt8} {model : Model}
    (read : Model.decode kind bytes = .ok model) :
    source.Misses (some model) ↔ source = .backup ∧
      (kind = .server → (Json.Sheet.ofBytes bytes).outline.Lacks "backup" 9) := by
  have alive : (snapshot model).deleted = false := by cases model <;> rfl
  have backup : (snapshot model).backupState = none ↔
      (kind = .server → (Json.Sheet.ofBytes bytes).outline.Lacks "backup" 9) := by
    by_cases isServer : kind = .server
    · subst isServer
      rw [Model.decode] at read
      cases held : Server.record.codec.decode bytes with
      | error refusal => simp [Model.record, held, Except.map] at read
      | ok server =>
        simp only [Model.record, held, Except.map, Except.ok.injEq] at read
        subst read
        have lacks := Server.backup_eq_none_iff (Json.Codec.read_of_decode held)
        simpa [Model.wrap, snapshot] using lacks
    · have same := kind_of_decode kind read
      cases model with
      | server server => exact absurd same.symm isServer
      | _ => simp [isServer]; rfl
  simp [StateSource.Misses, alive, backup]

/-- A fetch finds nothing where a wait looks just when the reply shows nothing there. -/
private theorem misses_fetch_iff {source : StateSource} :
    (∃ found, (client.fetch network kind id session).1 = .ok found ∧ source.Misses found) ↔
      ∃ reply, client.Replied network kind id session reply ∧ ShowsNothing source kind reply := by
  constructor
  · rintro ⟨found, brought, missed⟩
    cases fetch_eq_iff.mp brought with
    | absent replied absent => exact ⟨_, replied, .inl absent⟩
    | found replied succeeded read =>
      obtain ⟨backup, lacks⟩ := (misses_iff_of_read read).mp missed
      exact ⟨_, replied, .inr ⟨backup, succeeded, ⟨_, read⟩, lacks⟩⟩
  · rintro ⟨reply, replied, absent | ⟨backup, succeeded, ⟨model, read⟩, lacks⟩⟩
    · exact ⟨none, fetch_eq_iff.mpr (.absent replied absent), by simp [StateSource.Misses]⟩
    · exact ⟨some model, fetch_eq_iff.mpr (.found replied succeeded read),
        (misses_iff_of_read read).mpr ⟨backup, lacks⟩⟩

def course (client : Client) (network : Network) (request : Wait) (situation : Situation) :
    Wait.Course Situation Model :=
  ⟨client.waiter network, request, situation.session.clock, situation⟩

def sessionAt (tick : Wait.Tick Situation) : Session :=
  { tick.state.session with clock := tick.time }

variable {request : Wait} {situation : Situation} {n : Nat}

theorem fetched_poll (tick : Wait.Tick Situation) :
    ((client.course network request situation).poll tick).fetched =
      (client.fetch network request.kind request.id (sessionAt tick)).1 := rfl

private theorem wait_of_judged (positive : 0 < client.pollInterval)
    (reached : (client.course network request situation).Reaches n)
    (asks : (client.course network request situation).Asks
      ((client.course network request situation).tick n))
    {outcome : Except Error (Option Model)}
    (judged : request.judge ((client.course network request situation).poll
      ((client.course network request situation).tick n)).fetched = some outcome) :
    (client.wait network request situation).1 = outcome := by
  change (client.course network request situation).run.1.outcome = outcome
  rw [Wait.Course.run_of_closes positive reached (.answered asks judged)]

structure TellsAbsence (client : Client) (network : Network) (request : Wait)
    (situation : Situation) : Prop where
  /-- A poll goes by the reply to its own request. -/
  yields (n : Nat) (fetched : Except Error (Option Model)) :
    let tick := (client.course network request situation).tick n
    ((client.course network request situation).poll tick).fetched = fetched ↔
      client.Yields network request.kind request.id (sessionAt tick) fetched
  /-- It counts as missing just when that reply shows nothing where the wait looks. -/
  misses (n : Nat) :
    let tick := (client.course network request situation).tick n
    (∃ found, ((client.course network request situation).poll tick).fetched = .ok found ∧
        request.source.Misses found) ↔
      ∃ reply, client.Replied network request.kind request.id (sessionAt tick) reply ∧
        ShowsNothing request.source request.kind reply
  /-- A poll that fails ends the wait, with its failure. -/
  fails {n : Nat} {error : Error} :
    let course := client.course network request situation
    course.Reaches n → course.Asks (course.tick n) →
      client.Yields network request.kind request.id (sessionAt (course.tick n)) (.error error) →
      (client.wait network request situation).1 = .error error
  /-- Only a wait for the resource to go away succeeds without one, and only by such a reply. -/
  succeeds :
    let course := client.course network request situation
    (client.wait network request situation).1 = .ok none ↔
      request.deleting = true ∧ ∃ n, course.Reaches n ∧ course.Asks (course.tick n) ∧
        ∃ reply, client.Replied network request.kind request.id (sessionAt (course.tick n)) reply ∧
          ShowsNothing request.source request.kind reply

/-- Every wait of a client with a time between its polls tells so, whatever the network does. -/
theorem tellsAbsence (client : Client) (positive : 0 < client.pollInterval) (network : Network)
    (request : Wait) (situation : Situation) : client.TellsAbsence network request situation where
  yields n fetched := by
    intro tick
    rw [fetched_poll, fetch_eq_iff]
  misses n := by
    intro tick
    rw [fetched_poll]
    exact misses_fetch_iff
  fails := by
    intro n error course reached asks yields
    apply wait_of_judged positive reached asks
    rw [fetched_poll, fetch_eq_iff.mpr yields]
    rfl
  succeeds := by
    intro course
    constructor
    · intro gone
      obtain ⟨n, closing, state, reached, closes⟩ := course.exists_closes positive
      change course.run.1.outcome = .ok none at gone
      rw [Wait.Course.run_of_closes positive reached closes] at gone
      cases closes with
      | expired due => cases gone
      | cancelled early set => cases gone
      | answered asks judged =>
        cases gone
        obtain ⟨found, brought, missed, wanted⟩ := (Wait.judge_eq_some_iff.mp judged).of_none
        exact ⟨wanted, n, reached, asks, misses_fetch_iff.mp ⟨found, brought, missed⟩⟩
    · rintro ⟨wanted, n, reached, asks, shown⟩
      obtain ⟨found, brought, missed⟩ := misses_fetch_iff.mpr shown
      apply wait_of_judged positive reached asks
      rw [fetched_poll, brought, Wait.judge_of_misses missed, if_pos wanted]

/-- A client that knows its organization and attempts each request once. -/
def modest : Client where
  endpoint :=
    { base := ⟨['h', 't', 't', 'p'], some ⟨[], [], .domain ['a', 'p', 'i'], none⟩, .rooted [[]],
        none, none⟩
      apiVersion := "2.4"
      userAgent := "client"
      credentials := none
      retryPolicy := .none
      organizationId := some "org" }
  pollInterval := 5000
  flag := ⟨0⟩

def uniform (reply : Reply) : Network := fun _ _ => ⟨.reply reply, 0⟩

def fresh (client : Client) : Situation := ⟨client.endpoint.session, {}⟩

/-- Options can be compared by deciding, unlike results. -/
theorem eq_ok_of_toOption {ε α : Type} {result : Except ε α} {value : α}
    (given : result.toOption = some value) : result = .ok value := by
  cases result with
  | error error => cases given
  | ok found => exact congrArg Except.ok (Option.some.inj given)

/-- A reply with the status 404 ends a wait for a VLAN to go away. -/
theorem modest_tells_of_missing_vlan :
    0 < modest.pollInterval ∧
      (modest.wait (uniform ⟨404, []⟩) (Wait.delete .vlan "v-1" 60000) modest.fresh).1 =
        .ok none := by
  have positive : 0 < modest.pollInterval := by decide
  have replied : modest.Replied (uniform ⟨404, []⟩) .vlan "v-1"
      { organizationId := "org", clock := 5000 } ⟨404, []⟩ :=
    ask_eq_ok_iff.mp (eq_ok_of_toOption (by decide +kernel))
  have asks : (modest.course (uniform ⟨404, []⟩) (Wait.delete .vlan "v-1" 60000) modest.fresh).Asks
      ((modest.course (uniform ⟨404, []⟩) (Wait.delete .vlan "v-1" 60000) modest.fresh).tick 0) :=
    ⟨by decide, Bool.false_ne_true⟩
  have absent : ReportsAbsence ⟨404, []⟩ := ⟨by decide, .inl rfl⟩
  refine ⟨positive, (tellsAbsence _ positive _ _ _).succeeds.mpr ?_⟩
  exact ⟨rfl, 0, fun m earlier => absurd earlier (Nat.not_lt_zero m), asks, _, replied, .inl absent⟩

/-- A rule that is there, but has no backup since rules never have one, counts as gone where its
backup is waited for. -/
theorem rule_without_backup_counts_as_gone :
    let reply : Reply := ⟨200, Text.utf8 "\x7b\"id\":\"r\",\"state\":\"NORMAL\"\x7d"⟩
    let request := { Wait.delete .serverAntiAffinityRule "r" 60000 with source := .backup }
    reply.isSuccess ∧ request.kind ≠ .server ∧
      modest.Replied (uniform reply) request.kind request.id
        { organizationId := "org", clock := 5000 } reply ∧
      (modest.wait (uniform reply) request modest.fresh).1 = .ok none := by
  intro reply request
  have replied : modest.Replied (uniform reply) request.kind request.id
      { organizationId := "org", clock := 5000 } reply :=
    ask_eq_ok_iff.mp (eq_ok_of_toOption (by decide +kernel))
  have read : Model.decode request.kind reply.body =
      .ok (.serverAntiAffinityRule { id := "r", state := "NORMAL" }) :=
    eq_ok_of_toOption (by decide +kernel)
  have asks : (modest.course (uniform reply) request modest.fresh).Asks
      ((modest.course (uniform reply) request modest.fresh).tick 0) :=
    ⟨by decide, Bool.false_ne_true⟩
  have found := fetch_eq_iff.mpr (.found replied (by decide) read)
  have missed : StateSource.backup.Misses
      (some (Model.serverAntiAffinityRule { id := "r", state := "NORMAL" })) := by
    intro resource member
    cases Option.some.inj member
    exact .inr ⟨rfl, rfl⟩
  have judged : request.judge ((modest.course (uniform reply) request modest.fresh).poll
      ((modest.course (uniform reply) request modest.fresh).tick 0)).fetched = some (.ok none) := by
    rw [fetched_poll]
    exact (congrArg request.judge found).trans (Wait.judge_of_misses missed)
  have reached : (modest.course (uniform reply) request modest.fresh).Reaches 0 :=
    fun m earlier => absurd earlier (Nat.not_lt_zero m)
  exact ⟨by decide, by decide, replied, wait_of_judged (by decide) reached asks judged⟩

end Client

end Provision
