import Provision.Proofs.Service.Retries

/-!
How far the counters of a request can be relied on. Those of every context agree with each other,
as long as builders leave contexts with no more retries behind them than they allow. They agree with
the policy if builders keep them and every attempt has a number, which it has unless a policy has as
many retries as 32 bits can count.
-/
namespace Provision

private theorem succ_fits_iff {count : UInt32} :
    count ≠ 0xFFFFFFFF ↔ count.toNat + 1 < UInt32.size := by
  have bound := UInt32.toNat_lt count
  rw [ne_eq, ← UInt32.toNat_inj]
  simp only [UInt32.size, UInt32.reduceToNat]
  omega

namespace RetryPolicy

variable {policy : RetryPolicy}

/-- There is one attempt more than retries, unless that does not fit. -/
theorem toNat_maxAttempts :
    policy.maxAttempts.toNat = min (policy.maxRetries.toNat + 1) (UInt32.size - 1) := by
  by_cases full : policy.maxRetries = 0xFFFFFFFF
  · rw [maxAttempts, if_pos full, full]
    rfl
  · have fits := succ_fits_iff.mp full
    rw [maxAttempts, if_neg full, UInt32.toNat_add, UInt32.toNat_one, Nat.mod_eq_of_lt fits]
    exact (Nat.min_eq_left (Nat.le_pred_of_lt fits)).symm

end RetryPolicy

namespace RetryContext

/-- Whether the counters of a context agree with each other. -/
structure Balances (context : RetryContext) : Prop where
  retryCount_le : context.retryCount ≤ context.maxRetries
  remaining_add :
    context.remaining.toNat + context.retryCount.toNat = context.maxRetries.toNat
  fits (limited : context.maxRetries ≠ 0xFFFFFFFF) :
    context.attempt.toNat = context.retryCount.toNat + 1

theorem Balances.of_le {context : RetryContext}
    (within : context.retryCount ≤ context.maxRetries) : context.Balances := by
  have below := UInt32.le_iff_toNat_le.mp within
  constructor
  case retryCount_le => exact within
  case remaining_add =>
    rw [toNat_remaining]
    exact Nat.sub_add_cancel below
  case fits =>
    intro limited
    have bound := succ_fits_iff.mp limited
    exact toNat_attempt (Nat.lt_of_le_of_lt (Nat.succ_le_succ below) bound)

/-- Whether the counters of a context are those of a policy, and none of them has overflowed. -/
structure Keeps (policy : RetryPolicy) (context : RetryContext) : Prop extends
    Balances context where
  maxRetries_eq : context.maxRetries = policy.maxRetries
  attempt_eq : context.attempt.toNat = context.retryCount.toNat + 1
  attempt_le : context.attempt ≤ policy.maxAttempts

/-- The counters of a policy are kept just if there is a number for the attempt. -/
theorem keeps_iff {policy : RetryPolicy} {context : RetryContext} {n : Nat}
    (count : context.retryCount.toNat = n) (most : context.maxRetries = policy.maxRetries)
    (room : n ≤ policy.maxRetries.toNat) : context.Keeps policy ↔ n + 1 < UInt32.size := by
  constructor
  · intro keeps
    have number := keeps.attempt_eq
    rw [count] at number
    exact number ▸ UInt32.toNat_lt _
  · intro fits
    subst count
    have number := toNat_attempt fits
    refine ⟨.of_le ?_, most, number, ?_⟩
    · rw [UInt32.le_iff_toNat_le, most]
      exact room
    · rw [UInt32.le_iff_toNat_le, number, RetryPolicy.toNat_maxAttempts]
      exact Nat.le_min.mpr ⟨Nat.succ_le_succ room, Nat.le_pred_of_lt fits⟩

/-- The last of the attempts that a policy allows has their number. -/
theorem Keeps.attempt_of_spent {policy : RetryPolicy} {context : RetryContext}
    (keeps : context.Keeps policy) (spent : context.remaining = 0) :
    context.attempt = policy.maxAttempts := by
  have number := keeps.attempt_eq
  have allowed := UInt32.le_iff_toNat_le.mp keeps.attempt_le
  rw [remaining_eq_zero_iff, keeps.maxRetries_eq] at spent
  rw [RetryPolicy.toNat_maxAttempts] at allowed
  rw [← UInt32.toNat_inj, RetryPolicy.toNat_maxAttempts]
  omega

end RetryContext

namespace Service

/-- Whether builders leave no context with more retries behind it than it allows if they are given
none. They cannot make such a context themselves. -/
def Endpoint.RequestBuilder.KeepsBalance (build : Endpoint.RequestBuilder) : Prop :=
  ∀ asked context request left, build asked context = .ok (request, left) →
    context.retryCount ≤ context.maxRetries → left.retryCount ≤ left.maxRetries

namespace Series

variable {series : Series} {attempts : List Attempt} {seen : Option (Except Error Reply) × Session}

theorem Made.balances (made : series.Made attempts) (keeps : series.build.KeepsBalance) :
    ∀ attempt ∈ attempts, attempt.context.Balances ∧ attempt.left.Balances := by
  intro attempt member
  obtain ⟨n, inside, rfl⟩ := List.getElem_of_mem member
  have within := made.context_induction
    (P := fun _ context => context.retryCount ≤ context.maxRetries) UInt32.zero_le keeps
    (fun _ context error more _ => by
      have step := RetryContext.toNat_retryCount_afterFailure more error
      rw [ne_eq, RetryContext.remaining_eq_zero_iff] at more
      rw [UInt32.le_iff_toNat_le, step]
      exact Nat.lt_of_not_le more) n inside
  exact ⟨.of_le within.1, .of_le within.2⟩

/-- Whether the counters of the policy are kept in every attempt, and the failure of a request that
has no retries left tells the number of attempts that the policy allows. -/
structure KeepsCount (series : Series) (attempts : List Attempt)
    (result? : Option (Except Error Reply)) : Prop where
  keeps : ∀ attempt ∈ attempts, attempt.context.Keeps series.endpoint.retryPolicy
  tells {last : Attempt} {error : Error} {result : Except Error Reply}
    (isLast : attempts.getLast? = some last) (unsent : last.outcome.failure? = some error)
    (ends : result? = some result) :
    result = .error
      (.retriesExhausted series.description series.endpoint.retryPolicy.maxAttempts error)

/-- With counters that builders keep, those of the policy are kept just if there is a number for
each of the attempts. -/
theorem Made.keepsCount_iff_lt (made : series.Made attempts) (keeps : series.build.KeepsCount)
    {limit : Nat} (shows : series.Shows limit attempts seen) :
    series.KeepsCount attempts seen.1 ↔ attempts.length < UInt32.size := by
  have given_iff {n : Nat} (inside : n < attempts.length) :
      attempts[n].context.Keeps series.endpoint.retryPolicy ↔ n + 1 < UInt32.size :=
    have ⟨count, most, room⟩ := (made.counters keeps n inside).1
    RetryContext.keeps_iff count most room
  constructor
  · intro kept
    rcases Nat.eq_zero_or_pos attempts.length with none | some
    · rw [none]
      exact Nat.zero_lt_succ _
    · have inside := Nat.sub_one_lt_of_lt some
      rw [← Nat.sub_add_cancel some]
      exact (given_iff inside).mp (kept.keeps _ (List.getElem_mem inside))
  · intro fits
    constructor
    case keeps =>
      intro attempt member
      obtain ⟨n, inside, rfl⟩ := List.getElem_of_mem member
      exact (given_iff inside).mpr (Nat.lt_of_le_of_lt inside fits)
    case tells =>
      intro last error result isLast unsent ends
      cases shows with
      | unfinished full retried => cases ends
      | ended leads within =>
        cases ends
        obtain ⟨spent, rfl⟩ := leads.spent isLast unsent
        obtain ⟨length, most, room⟩ := made.counters_last keeps isLast
        have kept := (RetryContext.keeps_iff rfl most room).mpr (length ▸ fits)
        rw [kept.attempt_of_spent spent]

/-- A message that is never sent is tried as often as the policy allows. -/
theorem Made.exhausts {request : Request} {message : Message} {reason : String}
    {result : Except Error Reply} (made : series.Made attempts)
    (leads : series.Leads attempts result) (keeps : series.build.KeepsCount)
    (builds : ∀ asked context, ∃ left, series.build asked context = .ok (request, left) ∧
      series.endpoint.sendable request left.organizationId = .ok message)
    (down : ∀ sent, (series.network sent message).delivery = .unsent reason) :
    attempts.length = series.retries + 1 ∧
      result = .error (.retriesExhausted series.description (.ofNat attempts.length)
        (.transport reason)) := by
  obtain ⟨last, isLast⟩ := leads.isLast
  obtain ⟨before, meets⟩ := made.meets_last isLast
  obtain ⟨left, built, sendable⟩ := builds before.length last.context
  have unsent := (meets.eq_sent built sendable).2 ▸ Outcome.failure?_sent (down _)
  obtain ⟨spent, rfl⟩ := leads.spent isLast unsent
  have number : last.left.attempt = .ofNat attempts.length := by
    rw [(made.counters_last keeps isLast).1, UInt32.ofNat_add, UInt32.ofNat_toNat]
    rfl
  exact ⟨made.length_of_spent keeps isLast spent, by rw [number]⟩

end Series

namespace Endpoint

/-- The counters of a request agree with each other in every context, unless a builder leaves one in
which they do not. Where builders keep them and the policy has fewer retries than 32 bits can count,
they are those of the policy, and a request that runs out of retries tells as many attempts as the
policy allows. -/
theorem keepsCounters (endpoint : Endpoint) (network : Network) (limit : Nat)
    (description : String) (build : RequestBuilder) (session : Session) :
    let ran := (endpoint.execute limit description build).run network session
    match session.resolve network endpoint.lookup with
    | (.error error, resolved) => ran = (some (.error error), resolved)
    | (.ok organizationId, resolved) =>
      let series : Series := ⟨endpoint, network, description, build, organizationId, resolved⟩
      ∃ attempts, series.Made attempts ∧ series.Shows limit attempts ran ∧
        (build.KeepsBalance →
          ∀ attempt ∈ attempts, attempt.context.Balances ∧ attempt.left.Balances) ∧
        (build.KeepsCount → endpoint.retryPolicy.maxRetries ≠ 0xFFFFFFFF →
          series.KeepsCount attempts ran.1) := by
  intro ran
  split
  next error resolved lookedUp =>
    simp only [ran, execute, Operation.run, lookedUp]
  next organizationId resolved lookedUp =>
    intro series
    obtain ⟨attempts, made, shows⟩ := exists_attempts lookedUp limit description build
    refine ⟨attempts, made, shows, made.balances, fun keeps limited => ?_⟩
    have bounded := succ_fits_iff.mp limited
    have within := (made.counted keeps bounded).length_le
    exact (made.keepsCount_iff_lt keeps shows).mpr (Nat.lt_of_le_of_lt within bounded)

/-- Neither condition can be left out. A builder that takes the retries away has a single attempt
told where the policy allows four. With as many retries as 32 bits can count, a request to a service
that is down is said to have been attempted not at all. -/
theorem miscounted_attempts :
    let base : Url :=
      ⟨['h', 't', 't', 'p'], some ⟨[], [], .domain ['a', 'p', 'i'], none⟩, .rooted [[]], none, none⟩
    let endpoint (policy : RetryPolicy) : Endpoint := ⟨base, "2.4", "client", none, policy, "org"⟩
    let network : Network := fun _ _ => ⟨.unsent "timed out", 200⟩
    let request : Request := .get "network/vlan/v-1"
    let resigned : RequestBuilder := fun _ _ => .ok (request, .first "Get VLAN" "org" 0)
    let steady : RequestBuilder := fun _ context =>
      .ok (request, { context with organizationId := "org" })
    let limited := endpoint .default
    let endless := endpoint ⟨0xFFFFFFFF, 0⟩
    let told (attempts : UInt32) : Except Error Reply :=
      .error (.retriesExhausted "Get VLAN" attempts (.transport "timed out"))
    (limited.retryPolicy.maxAttempts = 4 ∧
      ((limited.execute 1 "Get VLAN" resigned).run network limited.session).1 = some (told 1)) ∧
    (endless.retryPolicy.maxAttempts = 0xFFFFFFFF ∧
      ((endless.execute (0xFFFFFFFF + 1) "Get VLAN" steady).run network endless.session).1 =
        some (told 0)) := by
  intro base endpoint network request resigned steady limited endless told
  refine ⟨by decide +kernel, rfl, ?_⟩
  have keeps : steady.KeepsCount := by
    rintro asked context own left ⟨⟩
    exact ⟨rfl, rfl⟩
  have lookedUp : endless.session.resolve network endless.lookup = (.ok "org", endless.session) :=
    rfl
  obtain ⟨attempts, made, shows⟩ := exists_attempts lookedUp (0xFFFFFFFF + 1) "Get VLAN" steady
  have ended := made.ends keeps (Nat.lt_succ_self _) shows
  generalize (endless.execute (0xFFFFFFFF + 1) "Get VLAN" steady).run network endless.session =
    ran at shows ended ⊢
  cases shows with
  | unfinished full retried => exact absurd rfl ended
  | ended leads within =>
    have sends : (endless.sendable request "org").isOk = true := by decide +kernel
    cases sendable : endless.sendable request "org" with
    | error error =>
      rw [sendable] at sends
      cases sends
    | ok message =>
      obtain ⟨length, rfl⟩ := made.exhausts leads keeps
        (fun _ _ => ⟨_, rfl, sendable⟩) (fun _ => rfl)
      have wraps : UInt32.ofNat attempts.length = 0 := by
        rw [length]
        decide
      rw [wraps]

end Endpoint

end Service

end Provision
