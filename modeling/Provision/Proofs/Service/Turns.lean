import Provision.Service.Pool

/-!
The turns of operations that share a session. Each turn is a step of one operation; an operation
that has all the turns for itself runs as if there were no others.
-/
namespace Provision.Service

section Resolve

variable {network : Network} {session : Session} {lookup : Lookup} {message : Message}

theorem Session.resolve_refused (unknown : session.organizationId = none)
    (sendable : lookup.message = .ok message) {error : Error}
    (refused : lookup.read (session.exchange network message).1 = .error error) :
    session.resolve network lookup = (.error error, (session.exchange network message).2) := by
  simp only [resolve, unknown, sendable, refused]

theorem Session.resolve_named (unknown : session.organizationId = none)
    (sendable : lookup.message = .ok message) {id : String}
    (named : lookup.read (session.exchange network message).1 = .ok id) :
    session.resolve network lookup =
      (.ok id, { (session.exchange network message).2 with organizationId := id }) := by
  simp only [resolve, unknown, sendable, named]

theorem Session.organizationId_resolve {id : String} {resolved : Session}
    (found : session.resolve network lookup = (.ok id, resolved)) :
    resolved.organizationId = some id := by
  rw [resolve] at found
  split at found
  · rename_i known
    cases found
    exact known
  split at found
  · cases found
  dsimp only at found
  split at found
  · cases found
  · cases found
    rfl

end Resolve

namespace Pool

variable {α : Type} {network : Network} {pool : Pool α} {i : Nat} {lookup : Lookup}
  {next : Except Error String → Operation α} {delivery : Delivery}

@[simp] theorem tasks_put (task : Task α) (session : Session) :
    (pool.put i task session).tasks = pool.tasks.set i task := rfl

@[simp] theorem session_put (task : Task α) (session : Session) :
    (pool.put i task session).session = session := rfl

@[simp] theorem looker_put (task : Task α) (session : Session) :
    (pool.put i task session).looker = pool.looker := rfl

@[simp] theorem dispatches_put (task : Task α) (session : Session) :
    (pool.put i task session).dispatches = pool.dispatches := rfl

section Dispatch

variable (isLookup : Bool) (message : Message) (stand : Delivery → Task α)

@[simp] theorem tasks_dispatch :
    (pool.dispatch network i isLookup message stand).tasks =
      pool.tasks.set i (stand (pool.session.exchange network message).1) := rfl

@[simp] theorem session_dispatch :
    (pool.dispatch network i isLookup message stand).session =
      (pool.session.exchange network message).2 := rfl

@[simp] theorem looker_dispatch :
    (pool.dispatch network i isLookup message stand).looker = pool.looker := rfl

@[simp] theorem dispatches_dispatch :
    (pool.dispatch network i isLookup message stand).dispatches =
      pool.dispatches ++
        [⟨i, isLookup, message, (pool.session.exchange network message).1⟩] := rfl

end Dispatch

theorem advance_known (present : pool.tasks[i]? = some (.ready (.organization lookup next)))
    {id : String} (known : pool.session.organizationId = some id) :
    pool.advance network i = pool.put i (.ready (next (.ok id))) := by
  simp only [advance, present, resolve, known]

theorem advance_waiting (present : pool.tasks[i]? = some (.ready (.organization lookup next)))
    (unknown : pool.session.organizationId = none) {other : Nat}
    (taken : pool.looker = some other) : pool.advance network i = pool := by
  simp only [advance, present, resolve, unknown, taken]

theorem advance_unsendable
    (present : pool.tasks[i]? = some (.ready (.organization lookup next)))
    (unknown : pool.session.organizationId = none) (free : pool.looker = none) {error : Error}
    (unsendable : lookup.message = .error error) :
    pool.advance network i = pool.put i (.ready (next (.error error))) := by
  simp only [advance, present, resolve, unknown, free, unsendable]

theorem advance_asking (present : pool.tasks[i]? = some (.ready (.organization lookup next)))
    (unknown : pool.session.organizationId = none) (free : pool.looker = none) {message : Message}
    (sendable : lookup.message = .ok message) :
    pool.advance network i =
      { pool.dispatch network i true message fun delivery => .looking lookup delivery next with
        looker := some i } := by
  simp only [advance, present, resolve, unknown, free, sendable]

theorem advance_refused (present : pool.tasks[i]? = some (.looking lookup delivery next))
    {error : Error} (refused : lookup.read delivery = .error error) :
    pool.advance network i =
      { pool.put i (.ready (next (.error error))) with looker := none } := by
  simp only [advance, present, settle, refused]

theorem advance_named (present : pool.tasks[i]? = some (.looking lookup delivery next))
    {id : String} (named : lookup.read delivery = .ok id) :
    pool.advance network i =
      { pool.put i (.ready (next (.ok id))) { pool.session with organizationId := id } with
        looker := none } := by
  simp only [advance, present, settle, named]

theorem advance_consult {context : RetryContext} {rest : Operation α}
    (present : pool.tasks[i]? = some (.ready (.consult context rest))) :
    pool.advance network i =
      pool.put i (.ready rest) (pool.session.note (.consulted context)) := by
  simp only [advance, present]

theorem advance_sleep {milliseconds : Nat} {rest : Operation α}
    (present : pool.tasks[i]? = some (.ready (.sleep milliseconds rest))) :
    pool.advance network i =
      pool.put i (.ready rest) (pool.session.note (.slept milliseconds) milliseconds) := by
  simp only [advance, present]

theorem advance_send {message : Message} {rest : Delivery → Operation α}
    (present : pool.tasks[i]? = some (.ready (.send message rest))) :
    pool.advance network i =
      pool.dispatch network i false message fun delivery => .sending delivery rest := by
  simp only [advance, present]

theorem advance_delivered {rest : Delivery → Operation α}
    (present : pool.tasks[i]? = some (.sending delivery rest)) :
    pool.advance network i = pool.put i (.ready (rest delivery)) := by
  simp only [advance, present]

theorem advance_done {value : α} (present : pool.tasks[i]? = some (.ready (.done value))) :
    pool.advance network i = pool := by
  simp only [advance, present]

theorem advance_absent (absent : pool.tasks[i]? = none) : pool.advance network i = pool := by
  simp only [advance, absent]

theorem getElem?_set_of_present {task : Task α} (present : pool.tasks[i]? = some task)
    (other : Task α) : (pool.tasks.set i other)[i]? = some other := by
  obtain ⟨inside, _⟩ := List.getElem?_eq_some_iff.mp present
  simp [inside]

/-- Whether what operations have sent is all that was sent. -/
def IsRecorded (pool : Pool α) : Prop :=
  pool.session.messages = pool.dispatches.map Dispatch.message

theorem IsRecorded.dispatch (recorded : pool.IsRecorded) (isLookup : Bool) (message : Message)
    (stand : Delivery → Task α) :
    (pool.dispatch network i isLookup message stand).IsRecorded := by
  unfold IsRecorded at recorded ⊢
  simp [Session.exchange, recorded]

theorem IsRecorded.advance (recorded : pool.IsRecorded) (network : Network) (i : Nat) :
    (pool.advance network i).IsRecorded := by
  cases present : pool.tasks[i]? with
  | none =>
    rw [advance_absent present]
    exact recorded
  | some task =>
    cases task with
    | looking lookup delivery next =>
      cases read : lookup.read delivery with
      | error error =>
        rw [advance_refused present read]
        exact recorded
      | ok id =>
        rw [advance_named present read]
        exact recorded
    | sending delivery next =>
      rw [advance_delivered present]
      exact recorded
    | ready operation =>
      cases operation with
      | done value =>
        rw [advance_done present]
        exact recorded
      | consult context next =>
        rw [advance_consult present]
        exact (Session.messages_consulted _ _ _).trans recorded
      | sleep milliseconds next =>
        rw [advance_sleep present]
        exact (Session.messages_slept _ _ _).trans recorded
      | send message next =>
        rw [advance_send present]
        exact recorded.dispatch false message _
      | organization lookup next =>
        cases known : pool.session.organizationId with
        | some id =>
          rw [advance_known present known]
          exact recorded
        | none =>
          cases free : pool.looker with
          | some other =>
            rw [advance_waiting present known free]
            exact recorded
          | none =>
            cases sendable : lookup.message with
            | error error =>
              rw [advance_unsendable present known free sendable]
              exact recorded
            | ok message =>
              rw [advance_asking present known free sendable]
              exact recorded.dispatch true message fun delivery => .looking lookup delivery next

theorem IsRecorded.run (recorded : pool.IsRecorded) (network : Network) (schedule : List Nat) :
    (pool.run network schedule).IsRecorded := by
  induction schedule generalizing pool with
  | nil => exact recorded
  | cons i _ ih => exact ih (recorded.advance network i)

/-- Whether some turns of an operation alone lead to its value, and to the session that it leaves by
itself. -/
def EndsAlone (network : Network) (pool : Pool α) (i : Nat) (operation : Operation α) : Prop :=
  ∃ turns, let after := pool.run network (List.replicate turns i)
    let ran := operation.run network pool.session
    after.session = ran.2 ∧ after.tasks = pool.tasks.set i (.ready (.done ran.1)) ∧
      after.looker = none

private theorem EndsAlone.of_turns {operation rest : Operation α} {later : Pool α}
    (ends : EndsAlone network later i rest) (turns : Nat)
    (after : pool.run network (List.replicate turns i) = later)
    (tasks : later.tasks = pool.tasks.set i (.ready rest))
    (same : rest.run network later.session = operation.run network pool.session) :
    EndsAlone network pool i operation := by
  obtain ⟨more, session, done, free⟩ := ends
  rw [same] at session done
  rw [tasks, List.set_set] at done
  have joined : pool.run network (List.replicate (turns + more) i) =
      later.run network (List.replicate more i) := by
    rw [← after, run, run, run, ← List.replicate_append_replicate, List.foldl_append]
  exact ⟨turns + more, joined ▸ session, joined ▸ done, joined ▸ free⟩

/-- An operation that alone has turns comes to its value, and leaves the session as it does by
itself. -/
theorem endsAlone (operation : Operation α) (pool : Pool α)
    (present : pool.tasks[i]? = some (.ready operation)) (free : pool.looker = none) :
    EndsAlone network pool i operation := by
  induction operation generalizing pool with
  | done value =>
    obtain ⟨inside, same⟩ := List.getElem?_eq_some_iff.mp present
    refine ⟨0, rfl, ?_, free⟩
    change pool.tasks = pool.tasks.set i (.ready (.done value))
    rw [← same, List.set_getElem_self]
  | organization lookup next ih =>
    cases known : pool.session.organizationId with
    | some id =>
      have later := ih (.ok id) (pool.put i (.ready (next (.ok id))))
        (getElem?_set_of_present present _) free
      exact later.of_turns 1 (advance_known present known) rfl
        (by simp [Operation.run, Session.resolve, known])
    | none =>
      cases sendable : lookup.message with
      | error error =>
        have later := ih (.error error) (pool.put i (.ready (next (.error error))))
          (getElem?_set_of_present present _) free
        exact later.of_turns 1 (advance_unsendable present known free sendable) rfl
          (by simp [Operation.run, Session.resolve, known, sendable])
      | ok message =>
        let asked : Pool α :=
          { pool.dispatch network i true message fun delivery =>
              .looking lookup delivery next with
            looker := some i }
        have asking : pool.advance network i = asked := advance_asking present known free sendable
        have looking := getElem?_set_of_present present
          (.looking lookup (pool.session.exchange network message).1 next)
        cases read : lookup.read (pool.session.exchange network message).1 with
        | error error =>
          have refused : asked.advance network i = _ := advance_refused looking read
          have resolved := Session.resolve_refused known sendable read
          have later := ih (.error error) (asked.advance network i)
            (by rw [refused]; exact getElem?_set_of_present looking _) (by rw [refused])
          refine later.of_turns 2 (congrArg (advance network · i) asking) ?_ ?_
          · rw [refused]
            exact List.set_set _
          · rw [refused, Operation.run, resolved]
            rfl
        | ok id =>
          have named : asked.advance network i = _ := advance_named looking read
          have resolved := Session.resolve_named known sendable read
          have later := ih (.ok id) (asked.advance network i)
            (by rw [named]; exact getElem?_set_of_present looking _) (by rw [named])
          refine later.of_turns 2 (congrArg (advance network · i) asking) ?_ ?_
          · rw [named]
            exact List.set_set _
          · rw [named, Operation.run, resolved]
            rfl
  | consult context next ih =>
    have later := ih (pool.put i (.ready next) (pool.session.note (.consulted context)))
      (getElem?_set_of_present present _) free
    exact later.of_turns 1 (advance_consult present) rfl rfl
  | send message next ih =>
    let sent := pool.dispatch network i false message fun delivery => .sending delivery next
    have sending : pool.advance network i = sent := advance_send present
    have flying := getElem?_set_of_present present
      (.sending (pool.session.exchange network message).1 next)
    have delivered : sent.advance network i = _ := advance_delivered flying
    have later := ih (pool.session.exchange network message).1 (sent.advance network i)
      (by rw [delivered]; exact getElem?_set_of_present flying _) (by rw [delivered]; exact free)
    refine later.of_turns 2 (congrArg (advance network · i) sending) ?_ ?_
    · rw [delivered]
      exact List.set_set _
    · rw [delivered]
      rfl
  | sleep milliseconds next ih =>
    have later := ih
      (pool.put i (.ready next) (pool.session.note (.slept milliseconds) milliseconds))
      (getElem?_set_of_present present _) free
    exact later.of_turns 1 (advance_sleep present) rfl rfl

end Pool

end Provision.Service
