import Provision.Proofs.Wait.Outcome

/-!
How a flag calls a wait off. The flag is read at ticks only: once it is set for good no fetch
starts, and the next tick ends the wait. What the flag is between the ticks does not matter.
-/
namespace Provision.Wait.Course

variable {σ ρ : Type}

/-- How long the fetch before a tick still takes at a moment. -/
def remaining (course : Course σ ρ) (moment : Nat) : Nat → Nat
  | 0 => 0
  | n + 1 => (course.poll (course.tick n)).lands - moment

/-- A tick from a moment on comes soon if no other does: after an interval, or at once when the
fetch in flight at the moment lands later. -/
theorem time_le_of_first (course : Course σ ρ) {moment n : Nat}
    (before : ∀ m < n, (course.tick m).time < moment) :
    (course.tick n).time ≤
      max moment course.began + max course.waiter.interval (course.remaining moment n) := by
  cases n with
  | zero =>
    simp only [tick, Tick.time, remaining]
    omega
  | succ n =>
    have last := before n (Nat.lt_succ_self n)
    have planned := course.planned_next_le (course.tick n)
    have slept : (course.next (course.tick n)).since = (course.poll (course.tick n)).lands := rfl
    simp only [tick, Tick.time, remaining] at *
    omega

def withFlag (course : Course σ ρ) (flag : σ → Nat → Bool) : Course σ ρ :=
  { course with
    waiter := { course.waiter with
      environment := { course.waiter.environment with isCancelled := flag } } }

@[simp] theorem tick_withFlag (course : Course σ ρ) (flag : σ → Nat → Bool) (n : Nat) :
    (course.withFlag flag).tick n = course.tick n := by
  induction n with
  | zero => rfl
  | succ n ih => rw [tick, ih]; rfl

variable [Resource ρ]

/-- Whether every tick from a moment on finds the flag set. -/
def SetFrom (course : Course σ ρ) (moment : Nat) : Prop :=
  ∀ n, course.Reaches n → moment ≤ (course.tick n).time → course.IsCancelled (course.tick n)

variable {course : Course σ ρ} {moment n : Nat}

theorem SetFrom.time_lt (set : course.SetFrom moment) (reached : course.Reaches n)
    (asks : course.Asks (course.tick n)) : (course.tick n).time < moment :=
  Nat.lt_of_not_le fun due => asks.2 (set n reached due)

theorem SetFrom.before (set : course.SetFrom moment) (reached : course.Reaches n) :
    ∀ m < n, (course.tick m).time < moment := fun m earlier =>
  set.time_lt (reached.of_le (Nat.le_of_lt earlier)) (reached m earlier).1

/-- The ending of a wait that the deadline or else the flag ends at a tick. -/
def stopped (course : Course σ ρ) (n : Nat) : Ending ρ :=
  let request := course.request
  let tick := course.tick n
  if course.deadline ≤ tick.time then
    ⟨.error (request.timedOut (max course.deadline tick.since - course.began)),
      max course.deadline tick.since, course.times n⟩
  else
    ⟨.error (.cancelled s!"Wait for {request.action} of {request.subject} '{request.id}'"),
      tick.time, course.times n⟩

theorem SetFrom.run_eq_stopped (positive : 0 < course.waiter.interval)
    (set : course.SetFrom moment) (reached : course.Reaches n)
    (due : moment ≤ (course.tick n).time) : course.run.1 = course.stopped n := by
  have called : course.IsCancelled (course.tick n) := set n reached due
  rw [ending_eq_iff positive]
  by_cases late : course.deadline ≤ (course.tick n).time
  · refine ⟨n, _, _, reached, .expired late, ?_⟩
    simp [stopped, late]
  · refine ⟨n, _, _, reached, .cancelled (Nat.lt_of_not_le late) called, ?_⟩
    simp [stopped, late, description]

theorem SetFrom.starts_lt (positive : 0 < course.waiter.interval) (set : course.SetFrom moment) :
    ∀ start ∈ course.run.1.starts, start < moment := by
  obtain ⟨n, closing, state, reached, closes⟩ := exists_closes positive
  rw [run_of_closes positive reached closes]
  intro start member
  rcases List.mem_append.mp member with earlier | last
  · obtain ⟨m, inside, rfl⟩ := List.mem_map.mp earlier
    exact set.before reached m (List.mem_range.mp inside)
  · cases closes with
    | expired due => simp at last
    | cancelled early called => simp at last
    | answered asks judged =>
      rw [List.mem_singleton.mp last]
      exact set.time_lt reached asks

/-- How a reply that lands after a moment ends a wait whose fetch was in flight at the moment. -/
def EndsInFlight (course : Course σ ρ) (moment : Nat) : Prop :=
  ∃ n outcome, course.Reaches n ∧ course.Asks (course.tick n) ∧ (course.tick n).time < moment ∧
    moment ≤ (course.poll (course.tick n)).lands ∧
    course.request.judge (course.poll (course.tick n)).fetched = some outcome ∧
    course.run.1 = ⟨outcome, (course.poll (course.tick n)).lands, course.times (n + 1)⟩

theorem ends_before (positive : 0 < course.waiter.interval)
    (none : ∀ n, course.Reaches n → (course.tick n).time < moment) :
    course.run.1.endedAt < moment ∨ course.EndsInFlight moment := by
  obtain ⟨n, closing, state, reached, closes⟩ := exists_closes positive
  have ran := run_of_closes positive reached closes
  have early := none n reached
  rw [EndsInFlight, ran]
  cases closes with
  | expired due =>
    have slept := (course.tick n).since_le_time
    exact .inl (Nat.lt_of_le_of_lt (Nat.max_le.mpr ⟨due, slept⟩) early)
  | cancelled _ called => exact .inl early
  | answered asks judged =>
    rcases Nat.lt_or_ge (course.poll (course.tick n)).lands moment with landed | flying
    · exact .inl landed
    · exact .inr ⟨n, _, reached, asks, early, flying, judged, by rw [times_succ]⟩

theorem cancelled_only_if (positive : 0 < course.waiter.interval) {text : String}
    (called : course.run.1.outcome = .error (.cancelled text)) :
    (∃ n, course.Reaches n ∧ (course.tick n).time < course.deadline ∧
      course.IsCancelled (course.tick n) ∧ text = course.request.description ∧
      course.run.1 = ⟨.error (.cancelled text), (course.tick n).time, course.times n⟩) ∨
    ∃ n, course.Reaches n ∧ course.Asks (course.tick n) ∧
      (course.poll (course.tick n)).fetched = .error (.cancelled text) ∧
      course.run.1 =
        ⟨.error (.cancelled text), (course.poll (course.tick n)).lands, course.times (n + 1)⟩ := by
  obtain ⟨n, closing, state, reached, closes⟩ := exists_closes positive
  rw [run_of_closes positive reached closes] at called ⊢
  cases closes with
  | expired due => cases called
  | cancelled early set =>
    cases called
    exact .inl ⟨n, reached, early, set, rfl, by simp⟩
  | answered asks judged =>
    cases called
    have settles := judge_eq_some_iff.mp judged
    generalize replied : (course.poll (course.tick n)).fetched = fetched at settles
    cases settles with
    | failed _ => exact .inr ⟨n, reached, asks, replied, by rw [times_succ]⟩

variable {tick : Tick σ} {flag : σ → Nat → Bool}

theorem continues_withFlag_iff
    (same : flag tick.state tick.time =
      course.waiter.environment.isCancelled tick.state tick.time) :
    (course.withFlag flag).Continues tick ↔ course.Continues tick := by
  have read : (course.withFlag flag).IsCancelled tick ↔ course.IsCancelled tick := by
    change flag tick.state tick.time = true ↔ _
    rw [same]
    rfl
  exact and_congr_left' (and_congr_right' (not_congr read))

theorem Closes.withFlag {ending : Ending ρ} {state : σ}
    (same : flag tick.state tick.time =
      course.waiter.environment.isCancelled tick.state tick.time)
    (closes : course.Closes tick ending state) :
    (course.withFlag flag).Closes tick ending state := by
  cases closes with
  | expired due => exact .expired due
  | cancelled early set => exact .cancelled early (same.trans set)
  | answered asks judged =>
    exact .answered ⟨asks.1, fun set => asks.2 (same.symm.trans set)⟩ judged

/-- Flags that read the same at the ticks which a wait reaches make no difference to it. -/
theorem run_withFlag (positive : 0 < course.waiter.interval)
    (same : ∀ n, course.Reaches n → flag (course.tick n).state (course.tick n).time =
      course.waiter.environment.isCancelled (course.tick n).state (course.tick n).time) :
    (course.withFlag flag).run = course.run := by
  obtain ⟨n, closing, state, reached, closes⟩ := exists_closes positive
  have reached' : (course.withFlag flag).Reaches n := by
    intro m earlier
    rw [tick_withFlag]
    exact (continues_withFlag_iff (same m (reached.of_le (Nat.le_of_lt earlier)))).mpr
      (reached m earlier)
  have closes' := closes.withFlag (same n reached)
  rw [← course.tick_withFlag flag n] at closes'
  have positive' : 0 < (course.withFlag flag).waiter.interval := positive
  rw [run_of_closes positive reached closes, run_of_closes positive' reached' closes']
  simp [times]

theorem run_of_reset (positive : 0 < course.waiter.interval) {since reset : Nat}
    (between : ∀ n, course.Reaches n →
      ¬ (since ≤ (course.tick n).time ∧ (course.tick n).time < reset)) :
    (course.withFlag fun state now => (decide (since ≤ now) && decide (now < reset)) ||
      course.waiter.environment.isCancelled state now).run = course.run := by
  apply run_withFlag positive
  intro n reached
  have outside : (decide (since ≤ (course.tick n).time) &&
      decide ((course.tick n).time < reset)) = false := by
    rw [← Bool.decide_and]
    exact decide_eq_false (between n reached)
  rw [outside, Bool.false_or]

structure HeedsFlag (course : Course σ ρ) : Prop where
  /-- No fetch starts once the flag is set for good. -/
  starts_lt {moment : Nat} (set : course.SetFrom moment) :
    ∀ start ∈ course.run.1.starts, start < moment
  /-- The first tick from then on comes soon and ends the wait, as cancelled unless the deadline is
  due. -/
  stops {moment n : Nat} (set : course.SetFrom moment) (reached : course.Reaches n)
    (due : moment ≤ (course.tick n).time) :
    (∀ m < n, (course.tick m).time < moment) ∧
      (course.tick n).time ≤
        max moment course.began + max course.waiter.interval (course.remaining moment n) ∧
      course.run.1 = course.stopped n
  /-- Without such a tick the wait ends before, or as the fetch in flight ends it. -/
  ends_before {moment : Nat} (none : ∀ n, course.Reaches n → (course.tick n).time < moment) :
    course.run.1.endedAt < moment ∨ course.EndsInFlight moment
  /-- A wait that ends as cancelled has come to a tick before the deadline with the flag set, or its
  last fetch has failed just so. -/
  cancelled_only_if {text : String} (called : course.run.1.outcome = .error (.cancelled text)) :
    (∃ n, course.Reaches n ∧ (course.tick n).time < course.deadline ∧
      course.IsCancelled (course.tick n) ∧ text = course.request.description ∧
      course.run.1 = ⟨.error (.cancelled text), (course.tick n).time, course.times n⟩) ∨
    ∃ n, course.Reaches n ∧ course.Asks (course.tick n) ∧
      (course.poll (course.tick n)).fetched = .error (.cancelled text) ∧
      course.run.1 =
        ⟨.error (.cancelled text), (course.poll (course.tick n)).lands, course.times (n + 1)⟩
  /-- What the flag is between the ticks makes no difference. -/
  unread {flag : σ → Nat → Bool}
    (same : ∀ n, course.Reaches n → flag (course.tick n).state (course.tick n).time =
      course.waiter.environment.isCancelled (course.tick n).state (course.tick n).time) :
    (course.withFlag flag).run = course.run
  /-- So a flag that is set, and reset before the next tick, might as well not have been set. -/
  reset_in_time {since reset : Nat}
    (between : ∀ n, course.Reaches n →
      ¬ (since ≤ (course.tick n).time ∧ (course.tick n).time < reset)) :
    (course.withFlag fun state now => (decide (since ≤ now) && decide (now < reset)) ||
      course.waiter.environment.isCancelled state now).run = course.run

/-- Every wait heeds its flag, whatever its fetches bring and however long they take. -/
theorem heedsFlag (course : Course σ ρ) (positive : 0 < course.waiter.interval) :
    course.HeedsFlag where
  starts_lt set := set.starts_lt positive
  stops set reached due :=
    ⟨set.before reached, course.time_le_of_first (set.before reached),
      set.run_eq_stopped positive reached due⟩
  ends_before := ends_before positive
  cancelled_only_if := cancelled_only_if positive
  unread := run_withFlag positive
  reset_in_time := run_of_reset positive

/-- The flag is set while a fetch is in flight, which lands in time for the next tick. -/
theorem lingering_called_off :
    let course : Course Unit Snapshot :=
      ⟨Waiter.over (Registry.empty.register .vlan (lingering 12)) (fun _ now => decide (15 ≤ now))
        10, Wait.deploy .vlan "v-1" 60, 0, ()⟩
    0 < course.waiter.interval ∧
      course.run.1 = ⟨.error (.cancelled "Wait for Deploy of VLAN 'v-1'"), 22, [10]⟩ := by
  intro course
  have set : course.SetFrom 15 := fun n _ due => decide_eq_true due
  have reached : course.Reaches 1 := by
    intro m first
    cases Nat.lt_one_iff.mp first
    have clear : ¬ decide (15 ≤ 10) = true := by decide
    exact ⟨⟨by decide, clear⟩, by decide⟩
  have stopped := ((heedsFlag course (by decide)).stops set reached (by decide)).2.2
  have text : course.request.description = "Wait for Deploy of VLAN 'v-1'" := by decide
  rw [← text]
  exact ⟨by decide, stopped⟩

/-- A fetch may fail as cancelled by itself, and its wait then ends so though no flag is ever
set. -/
theorem cancelled_without_flag :
    let course : Course Unit Snapshot :=
      ⟨Waiter.over (Registry.empty.register .vlan fun _ _ state =>
          (⟨0, fun state => (.error (.cancelled "elsewhere"), state)⟩, state)) (fun _ _ => false)
        5000, Wait.deploy .vlan "v-1" 60000, 0, ()⟩
    course.run.1.outcome = .error (.cancelled "elsewhere") ∧
      ∀ n, ¬ course.IsCancelled (course.tick n) := by
  intro course
  have closes : course.Closes (course.tick 0) ⟨.error (.cancelled "elsewhere"), 5000, [5000]⟩ () :=
    .answered ⟨by decide, Bool.false_ne_true⟩ rfl
  have reached : course.Reaches 0 := fun m earlier => absurd earlier (Nat.not_lt_zero m)
  refine ⟨?_, fun n => Bool.false_ne_true⟩
  rw [run_of_closes (by decide) reached closes]

end Provision.Wait.Course
