import Mathlib.Control.Monad.Basic
import Provision.Proofs.Service.Attempts

/-!
How a request is retried. Each attempt that could not be sent is followed by another as long as the
context that its builder left has retries, and what the last attempt leads to is what the request
leads to.
-/
namespace Provision.Service

namespace Series

variable {series : Series}

theorem context_concat (made : List Attempt) (attempt : Attempt) :
    series.context (made ++ [attempt]) = attempt.next := by
  rw [context, List.getLast?_concat]

/-- An attempt is the last one unless its message could not be sent. -/
private theorem run_attempt {made : List Attempt} {session : Session}
    (before : session.messages = series.messages made)
    (retry : RetryContext → Error → Operation (Option (Except Error Reply))) :
    ∃ attempt, series.Meets made attempt ∧
      let ran := (series.endpoint.attempt series.description (series.build made.length)
        (series.context made) retry).run series.network session
      (∃ error, attempt.outcome.failure? = some error ∧
        ran = (retry attempt.left error).run series.network (session.noteAttempt attempt)) ∨
      ∃ result, attempt.outcome.result? series.description = some result ∧
        ran = (some result, session.noteAttempt attempt) := by
  cases built : series.build made.length (series.context made) with
  | error error =>
    refine ⟨_, .unbuilt built, .inr ⟨_, rfl, ?_⟩⟩
    simp only [Endpoint.attempt, built]
    rfl
  | ok own =>
    obtain ⟨request, left⟩ := own
    have refuse {error : Error}
        (unsendable : series.endpoint.sendable request left.organizationId = .error error) :
        (series.endpoint.attempt series.description (series.build made.length)
          (series.context made) retry).run series.network session =
            (some (.error error),
              session.noteAttempt ⟨series.context made, left, .refused error⟩) := by
      simp only [Endpoint.attempt, built, unsendable]
      rfl
    cases joined : series.endpoint.base.join
        (series.endpoint.relativePath request left.organizationId).toList with
    | error fault =>
      have unsendable := series.endpoint.sendable_of_misjoined _ _ joined
      exact ⟨_, .misplaced built rfl joined, .inr ⟨_, rfl, refuse unsendable⟩⟩
    | ok url =>
      obtain ⟨message, prepared⟩ := series.endpoint.exists_prepare _ _ joined
      have sendable := series.endpoint.sendable_of_prepared _ _ prepared
      by_cases rejected : message.isRejected = true
      · rw [if_pos rejected] at sendable
        exact ⟨_, .rejected built prepared rejected, .inr ⟨_, rfl, refuse sendable⟩⟩
      · rw [if_neg rejected] at sendable
        refine ⟨_, .sent built prepared rejected, ?_⟩
        simp only [Endpoint.attempt, built, sendable, Operation.run, Session.exchange,
          Session.messages_consulted, before]
        obtain ⟨delivery, takes⟩ := series.network (series.messages made) message
        cases delivery with
        | unsent reason => exact .inl ⟨_, rfl, by rw [Session.noteAttempt_sent]⟩
        | unreadable status reason => exact .inr ⟨_, rfl, by rw [Session.noteAttempt_sent]; rfl⟩
        | reply reply => exact .inr ⟨_, rfl, by rw [Session.noteAttempt_sent]; rfl⟩

theorem pending_nil : series.pending [] = series.session := by
  simp [pending, Attempt.totalTakes]

theorem messages_pending (made : List Attempt) :
    (series.pending made).messages = series.messages made := by
  have silent : series.pause.filterMap Event.message? = [] := by
    unfold pause
    split <;> rfl
  simp only [pending, Session.messages, messages, List.filterMap_append]
  congr 1
  induction made with
  | nil => rfl
  | cons attempt made ih =>
    simp only [List.flatMap_cons, List.filterMap_append, ih, silent, attempt.messages_events]
    cases sent : attempt.message? <;> simp [sent]

private theorem noteAttempt_pending (made : List Attempt) (attempt : Attempt) :
    (series.pending made).noteAttempt attempt = series.after (made ++ [attempt]) := by
  have joined : series.pause.intercalate ((made ++ [attempt]).map Attempt.events) =
      made.flatMap (fun attempt => attempt.events ++ series.pause) ++ attempt.events := by
    induction made with
    | nil => simp
    | cons first made ih =>
      rw [List.cons_append, List.map_cons, List.intercalate_cons_of_ne_nil (by simp), ih]
      simp
  have gaps : (made ++ [attempt]).length - 1 = made.length := by simp
  simp only [pending, after, Session.noteAttempt, joined, Attempt.totalTakes_concat, gaps,
    List.append_assoc, Session.mk.injEq, true_and]
  omega

private theorem run_pause {α : Type} (made : List Attempt) (attempt : Attempt)
    (next : Operation α) :
    (Endpoint.pause series.endpoint.retryPolicy.delay next).run series.network
        ((series.pending made).noteAttempt attempt) =
      next.run series.network (series.pending (made ++ [attempt])) := by
  have paused : series.pending (made ++ [attempt]) =
      { (series.pending made).noteAttempt attempt with
        events := ((series.pending made).noteAttempt attempt).events ++ series.pause
        clock := ((series.pending made).noteAttempt attempt).clock +
          series.endpoint.retryPolicy.delay } := by
    simp only [pending, Session.noteAttempt, List.flatMap_append, List.flatMap_singleton,
      List.append_assoc, Attempt.totalTakes_concat, List.length_append, List.length_singleton,
      Nat.succ_mul, Session.mk.injEq, true_and]
    omega
  rw [paused]
  by_cases hasty : series.endpoint.retryPolicy.delay = 0
  · simp [Endpoint.pause, pause, hasty]
  · simp [Endpoint.pause, pause, hasty, Operation.run, Session.note]

private theorem made_nil : series.Made [] where
  meets n inside := absurd inside (Nat.not_lt_zero n)
  retried n inside := absurd inside (Nat.not_lt_zero (n + 1))

private theorem Made.again {made : List Attempt} {attempt : Attempt} (before : series.Made made)
    (retried : ∀ earlier ∈ made, earlier.IsRetried) (meets : series.Meets made attempt) :
    series.Made (made ++ [attempt]) := by
  constructor
  case meets =>
    intro n inside
    have place : n < made.length ∨ n = made.length := by
      simp at inside
      omega
    rcases place with earlier | rfl
    · rw [List.getElem_append_left earlier, List.take_append_of_le_length (Nat.le_of_lt earlier)]
      exact before.meets n earlier
    · simpa using meets
  case retried =>
    intro n inside
    have earlier : n < made.length := by simpa using inside
    rw [List.getElem_append_left earlier]
    exact retried _ (List.getElem_mem earlier)

private theorem run_attempts (limit : Nat) {made : List Attempt} (before : series.Made made)
    (retried : ∀ attempt ∈ made, attempt.IsRetried) :
    ∃ attempts, series.Made attempts ∧ series.Shows (made.length + limit) attempts
      ((series.endpoint.attempts series.description series.build limit made.length
        (series.context made)).run series.network (series.pending made)) := by
  -- By induction on the limit. What is carried along is that all attempts so far are retried, and
  -- that their session is the one in which the next begins.
  induction limit generalizing made with
  | zero => exact ⟨made, before, .unfinished rfl retried⟩
  | succ limit ih =>
    obtain ⟨attempt, meets, ended⟩ := series.run_attempt (series.messages_pending made)
      fun left error =>
        if left.remaining = 0 then
          .done (some (.error (.retriesExhausted series.description left.attempt error)))
        else
          Endpoint.pause series.endpoint.retryPolicy.delay
            (series.endpoint.attempts series.description series.build limit (made.length + 1)
              (left.afterFailure error))
    have more := before.again retried meets
    have within : (made ++ [attempt]).length ≤ made.length + (limit + 1) := by
      rw [List.length_append, List.length_singleton]
      omega
    rw [Endpoint.attempts]
    rcases ended with ⟨error, unsent, ran⟩ | ⟨result, leads, ran⟩
    · rw [ran]
      by_cases spent : attempt.left.remaining = 0
      · rw [if_pos spent, noteAttempt_pending]
        exact ⟨_, more, .ended (.exhausted List.getLast?_concat unsent spent) within⟩
      · have all : ∀ other ∈ made ++ [attempt], other.IsRetried := by
          intro other member
          rcases List.mem_append.mp member with earlier | last
          · exact retried other earlier
          · cases List.mem_singleton.mp last
            exact ⟨⟨error, unsent⟩, spent⟩
        have onward := ih more all
        rw [context_concat, Attempt.next_eq unsent, ← run_pause, List.length_append,
          List.length_singleton, Nat.add_assoc, Nat.add_comm 1 limit] at onward
        rwa [if_neg spent]
    · rw [ran, noteAttempt_pending]
      exact ⟨_, more, .ended (.own List.getLast?_concat leads) within⟩

theorem exists_attempts (series : Series) (limit : Nat) :
    ∃ attempts, series.Made attempts ∧ series.Shows limit attempts
      ((series.endpoint.attempts series.description series.build limit 0
        (.first series.description series.organizationId
          series.endpoint.retryPolicy.maxRetries)).run series.network series.session) := by
  have ran := run_attempts limit series.made_nil
    fun attempt member => absurd member List.not_mem_nil
  rwa [series.pending_nil, List.length_nil, Nat.zero_add] at ran

/-- A session after attempts ends with what happens in the last one. -/
theorem events_after {attempts : List Attempt} {last : Attempt}
    (isLast : attempts.getLast? = some last) :
    ∃ earlier,
      (series.after attempts).events = series.session.events ++ earlier ++ last.events := by
  obtain ⟨made, rfl⟩ := List.getLast?_eq_some_iff.mp isLast
  rw [← noteAttempt_pending]
  exact ⟨made.flatMap fun attempt => attempt.events ++ series.pause, rfl⟩

theorem Leads.isLast {attempts : List Attempt} {result : Except Error Reply}
    (leads : series.Leads attempts result) : ∃ last, attempts.getLast? = some last := by
  cases leads with
  | own isLast _ => exact ⟨_, isLast⟩
  | exhausted isLast _ _ => exact ⟨_, isLast⟩

theorem Leads.eq_ok {attempts : List Attempt} {result : Except Error Reply}
    (leads : series.Leads attempts result) {last : Attempt}
    (isLast : attempts.getLast? = some last) {message : Message} {reply : Reply} {takes : Nat}
    (sent : last.outcome = .sent message ⟨.reply reply, takes⟩) : result = .ok reply := by
  cases leads with
  | own found leads =>
    cases isLast.symm.trans found
    rw [sent] at leads
    cases leads
    rfl
  | exhausted found unsent _ =>
    cases isLast.symm.trans found
    rw [sent] at unsent
    cases unsent

/-- A request is given up after an attempt that could not be sent only if no retries are left. -/
theorem Leads.spent {attempts : List Attempt} {result : Except Error Reply}
    (leads : series.Leads attempts result) {last : Attempt} {error : Error}
    (isLast : attempts.getLast? = some last) (unsent : last.outcome.failure? = some error) :
    last.left.remaining = 0 ∧
      result = .error (.retriesExhausted series.description last.left.attempt error) := by
  cases leads with
  | own found leads =>
    cases isLast.symm.trans found
    cases (Outcome.failure?_of_result? leads).symm.trans unsent
  | exhausted found failed spent =>
    cases isLast.symm.trans found
    cases unsent.symm.trans failed
    exact ⟨spent, rfl⟩

namespace Made

variable {attempts : List Attempt}

theorem meets_last (made : series.Made attempts) {last : Attempt}
    (isLast : attempts.getLast? = some last) : ∃ before, series.Meets before last := by
  obtain ⟨before, rfl⟩ := List.getLast?_eq_some_iff.mp isLast
  have meets := made.meets before.length (by simp)
  simp only [List.getElem_concat_length, List.take_left'] at meets
  exact ⟨before, meets⟩

theorem context_zero (made : series.Made attempts) (inside : 0 < attempts.length) :
    attempts[0].context = .first series.description series.organizationId
      series.endpoint.retryPolicy.maxRetries := (made.meets 0 inside).context_eq

theorem context_succ (made : series.Made attempts) {n : Nat} (inside : n < attempts.length)
    (further : n + 1 < attempts.length) : attempts[n + 1].context = attempts[n].next := by
  have taken : attempts.take (n + 1) = attempts.take n ++ [attempts[n]] :=
    List.take_succ_eq_append_getElem inside
  rw [(made.meets (n + 1) further).context_eq, taken, context_concat]

/-- What holds of the first context, and is kept by the builder and by failures, holds of all. -/
theorem context_induction (made : series.Made attempts) {P : Nat → RetryContext → Prop}
    (first : P 0 (.first series.description series.organizationId
      series.endpoint.retryPolicy.maxRetries))
    (builder : ∀ n context request left,
      series.build n context = .ok (request, left) → P n context → P n left)
    (failure : ∀ n context error,
      context.remaining ≠ 0 → P n context → P (n + 1) (context.afterFailure error))
    (n : Nat) (inside : n < attempts.length) : P n attempts[n].context ∧ P n attempts[n].left := by
  have leaves {m : Nat} (within : m < attempts.length) (own : P m attempts[m].context) :
      P m attempts[m].left := by
    have place : (attempts.take m).length = m := List.length_take_of_le (Nat.le_of_lt within)
    rcases (made.meets m within).left_eq_or with same | ⟨request, built⟩
    · rwa [same]
    · rw [place] at built
      exact builder m _ request _ built own
  have given : P n attempts[n].context := by
    induction n with
    | zero => rwa [made.context_zero inside]
    | succ n ih =>
      obtain ⟨⟨error, unsent⟩, more⟩ := made.retried n inside
      rw [made.context_succ (Nat.lt_of_succ_lt inside) inside, Attempt.next_eq unsent]
      exact failure n _ error more (leaves _ (ih _))
  exact ⟨given, leaves inside given⟩

theorem organizationId_eq (made : series.Made attempts) (keeps : series.build.KeepsOrganization) :
    ∀ attempt ∈ attempts, attempt.context.organizationId = series.organizationId ∧
      attempt.left.organizationId = series.organizationId := by
  intro attempt member
  obtain ⟨n, inside, rfl⟩ := List.getElem_of_mem member
  apply made.context_induction
    (P := fun _ context => context.organizationId = series.organizationId)
  · rfl
  · intro n context request left built own
    exact (keeps n context request left built).trans own
  · intro n context error more own
    exact own

/-- If the builder only reads its contexts, what is sent is a request of its own in the organization
that is known. -/
theorem sendable_of_reading {build : RetryContext → Except Error Request}
    (made : series.Made attempts) (builds : series.build = .reading build) {attempt : Attempt}
    (member : attempt ∈ attempts) {message : Message} {answer : Answer}
    (sent : attempt.outcome = .sent message answer) :
    attempt.context.organizationId = series.organizationId ∧ ∃ request,
      build attempt.context = .ok request ∧
        series.endpoint.sendable request series.organizationId = .ok message := by
  have keeps := Endpoint.RequestBuilder.keepsOrganization_reading build
  obtain ⟨given, left⟩ := made.organizationId_eq (builds ▸ keeps) attempt member
  obtain ⟨n, inside, rfl⟩ := List.getElem_of_mem member
  obtain ⟨request, built, sendable⟩ := (made.meets n inside).sendable sent
  rw [builds, Endpoint.RequestBuilder.reading_eq_ok_iff] at built
  rw [left] at sendable
  exact ⟨given, request, built.1, sendable⟩

/-- With counters that the builder keeps, they count the attempts. -/
theorem counters (made : series.Made attempts) (keeps : series.build.KeepsCount) (n : Nat)
    (inside : n < attempts.length) :
    (attempts[n].context.retryCount.toNat = n ∧
      attempts[n].context.maxRetries = series.endpoint.retryPolicy.maxRetries ∧
      n ≤ series.retries) ∧
    attempts[n].left.retryCount.toNat = n ∧
      attempts[n].left.maxRetries = series.endpoint.retryPolicy.maxRetries ∧
      n ≤ series.retries := by
  apply made.context_induction (P := fun n context => context.retryCount.toNat = n ∧
    context.maxRetries = series.endpoint.retryPolicy.maxRetries ∧ n ≤ series.retries)
  · exact ⟨rfl, rfl, Nat.zero_le _⟩
  · intro n context request left built own
    obtain ⟨count, most⟩ := keeps n context request left built
    rwa [count, most]
  · rintro n context error more ⟨count, most, -⟩
    have step := RetryContext.toNat_retryCount_afterFailure more error
    rw [ne_eq, RetryContext.remaining_eq_zero_iff, count, most] at more
    exact ⟨by rw [step, count], most, Nat.lt_of_not_le more⟩

/-- The counters that are left in the end tell how many attempts there were. -/
theorem counters_last (made : series.Made attempts) (keeps : series.build.KeepsCount)
    {last : Attempt} (isLast : attempts.getLast? = some last) :
    attempts.length = last.left.retryCount.toNat + 1 ∧
      last.left.maxRetries = series.endpoint.retryPolicy.maxRetries ∧
      last.left.retryCount.toNat ≤ series.retries := by
  obtain ⟨others, rfl⟩ := List.getLast?_eq_some_iff.mp isLast
  have own := (made.counters keeps others.length (by simp)).2
  rw [List.getElem_concat_length rfl] at own
  obtain ⟨count, most, within⟩ := own
  exact ⟨by rw [List.length_append, count, List.length_singleton], most, by rwa [count]⟩

/-- Attempts end without retries just after as many as the policy allows. -/
theorem length_of_spent (made : series.Made attempts) (keeps : series.build.KeepsCount)
    {last : Attempt} (isLast : attempts.getLast? = some last) (spent : last.left.remaining = 0) :
    attempts.length = series.retries + 1 := by
  obtain ⟨length, most, within⟩ := made.counters_last keeps isLast
  rw [RetryContext.remaining_eq_zero_iff, most] at spent
  rw [length, Nat.le_antisymm within spent]

theorem counted (made : series.Made attempts) (keeps : series.build.KeepsCount)
    (bounded : series.retries + 1 < UInt32.size) : series.Counted attempts := by
  constructor
  case numbers =>
    intro n inside
    obtain ⟨⟨count, most, within⟩, -⟩ := made.counters keeps n inside
    refine ⟨count, ?_, ?_⟩
    · rw [RetryContext.toNat_attempt, count]
      rw [count]
      exact Nat.lt_of_le_of_lt (Nat.succ_le_succ within) bounded
    · rw [RetryContext.toNat_remaining, count, most]
      rfl
  case length_le =>
    cases isLast : attempts.getLast? with
    | none =>
      rw [List.getLast?_eq_none_iff.mp isLast]
      exact Nat.zero_le _
    | some last =>
      obtain ⟨length, -, within⟩ := made.counters_last keeps isLast
      exact length ▸ Nat.succ_le_succ within
  case spent =>
    intro last isLast spent
    have length := made.length_of_spent keeps isLast spent
    have number := (made.counters_last keeps isLast).1.symm.trans length
    exact ⟨length, (RetryContext.toNat_attempt (number ▸ bounded)).trans number⟩

/-- A limit beyond the retries of the policy is enough for builders that keep the counters. -/
theorem ends (made : series.Made attempts) (keeps : series.build.KeepsCount) {limit : Nat}
    (enough : series.retries < limit) {seen : Option (Except Error Reply) × Session}
    (shows : series.Shows limit attempts seen) : seen.1 ≠ none := by
  cases shows with
  | ended leads within => exact Option.some_ne_none _
  | unfinished full retried =>
    have inside : limit - 1 < attempts.length := by omega
    obtain ⟨-, more⟩ := retried _ (List.getElem_mem inside)
    obtain ⟨count, most, -⟩ := (made.counters keeps (limit - 1) inside).2
    rw [ne_eq, RetryContext.remaining_eq_zero_iff, count, most] at more
    exact absurd (Nat.le_pred_of_lt enough) more

end Made

end Series

namespace Endpoint

variable {endpoint : Endpoint} {network : Network} {session resolved : Session}
  {organizationId : String}

/-- Once the organization is known, a request is what is attempted. -/
theorem exists_attempts
    (lookedUp : session.resolve network endpoint.lookup = (.ok organizationId, resolved))
    (limit : Nat) (description : String) (build : RequestBuilder) :
    let series : Series := ⟨endpoint, network, description, build, organizationId, resolved⟩
    ∃ attempts, series.Made attempts ∧ series.Shows limit attempts
      ((endpoint.execute limit description build).run network session) := by
  intro series
  obtain ⟨attempts, made, shows⟩ := series.exists_attempts limit
  refine ⟨attempts, made, ?_⟩
  simp only [execute, Operation.run, lookedUp]
  exact shows

/-- A request whose builder only reads its contexts, with as many attempts as there can be. -/
theorem run_execute_reading (endpoint : Endpoint) (network : Network) (description : String)
    (build : RetryContext → Except Error Request) (session : Session) :
    (endpoint.execute (endpoint.retryPolicy.maxRetries.toNat + 1) description
        (.reading build)).run network session =
      (some ((endpoint.perform description build).run network session).1,
        ((endpoint.perform description build).run network session).2) :=
  Operation.run_value _ _ _ _

theorem run_perform_of_error {error : Error}
    (unknown : session.resolve network endpoint.lookup = (.error error, resolved))
    (description : String) (build : RetryContext → Except Error Request) :
    (endpoint.perform description build).run network session = (.error error, resolved) := by
  have ran := endpoint.run_execute_reading network description build session
  simp only [execute, Operation.run, unknown, Prod.mk.injEq, Option.some.injEq] at ran
  exact Prod.ext ran.1.symm ran.2.symm

/-- A request whose builder only reads its contexts is attempted until that leads to a result. -/
theorem exists_performed
    (lookedUp : session.resolve network endpoint.lookup = (.ok organizationId, resolved))
    (description : String) (build : RetryContext → Except Error Request) :
    let series : Series :=
      ⟨endpoint, network, description, .reading build, organizationId, resolved⟩
    ∃ attempts result, series.Made attempts ∧ series.Leads attempts result ∧
      (endpoint.perform description build).run network session =
        (result, series.after attempts) := by
  intro series
  obtain ⟨attempts, made, shows⟩ := exists_attempts lookedUp
    (endpoint.retryPolicy.maxRetries.toNat + 1) description (.reading build)
  rw [run_execute_reading] at shows
  generalize (endpoint.perform description build).run network session = ran at shows ⊢
  obtain ⟨result, after⟩ := ran
  cases shows with
  | ended leads within => exact ⟨attempts, result, made, leads, rfl⟩

end Endpoint

/-- No limit is enough for a builder that leaves a retry each time as long as nothing gets
through. -/
theorem Endpoint.run_execute_renewed {endpoint : Endpoint} {network : Network}
    {session resolved : Session} {organizationId reason : String} {request : Request}
    {message : Message}
    (lookedUp : session.resolve network endpoint.lookup = (.ok organizationId, resolved))
    (sendable : endpoint.sendable request organizationId = .ok message)
    (down : ∀ sent, (network sent message).delivery = .unsent reason) (limit : Nat)
    (description : String) :
    let build : Endpoint.RequestBuilder := fun _ _ =>
      .ok (request, .first description organizationId 1)
    ((endpoint.execute limit description build).run network session).1 = none := by
  intro build
  obtain ⟨attempts, made, shows⟩ := exists_attempts lookedUp limit description build
  generalize (endpoint.execute limit description build).run network session = ran at shows ⊢
  cases shows with
  | unfinished full retried => rfl
  | ended leads within =>
    obtain ⟨last, isLast⟩ := leads.isLast
    obtain ⟨before, meets⟩ := made.meets_last isLast
    obtain ⟨renewed, sent⟩ := meets.eq_sent rfl sendable
    have spent := (leads.spent isLast (sent ▸ Outcome.failure?_sent (down _))).1
    rw [renewed] at spent
    simp [RetryContext.first, RetryContext.remaining] at spent

end Provision.Service
