import Provision.Proofs.Wait.Outcome
import Provision.Proofs.Wait.Pace

/-!
How patient a wait is. Its timeout makes no difference to its ticks and only tells how many of them
there can be. So a wait that ends before its deadline ends in the same way under any later one, and
under an earlier one it ends in the same way or is timed out.
-/
namespace Provision.Wait

variable {σ ρ : Type}

namespace Course

def withTimeout (course : Course σ ρ) (timeout : Nat) : Course σ ρ :=
  { course with request := { course.request with timeout } }

@[simp] theorem tick_withTimeout (course : Course σ ρ) (timeout n : Nat) :
    (course.withTimeout timeout).tick n = course.tick n := by
  induction n with
  | zero => rfl
  | succ n ih => rw [tick, ih]; rfl

@[simp] theorem times_withTimeout (course : Course σ ρ) (timeout n : Nat) :
    (course.withTimeout timeout).times n = course.times n := by
  simp [times]

theorem times_prefix (course : Course σ ρ) {m n : Nat} (fewer : m ≤ n) :
    course.times m <+: course.times n := by
  obtain ⟨k, rfl⟩ := Nat.exists_eq_add_of_le fewer
  rw [times, times, List.range_add, List.map_append]
  exact List.prefix_append _ _

variable {course : Course σ ρ} {timeout n : Nat} {tick : Tick σ}

theorem Asks.withTimeout (asks : course.Asks tick) (later : course.request.timeout ≤ timeout) :
    (course.withTimeout timeout).Asks tick := by
  have deadline : course.deadline ≤ (course.withTimeout timeout).deadline :=
    Nat.add_le_add_left later course.began
  exact ⟨Nat.lt_of_lt_of_le asks.1 deadline, asks.2⟩

variable [Resource ρ]

theorem Reaches.withTimeout (reached : course.Reaches n)
    (later : course.request.timeout ≤ timeout) : (course.withTimeout timeout).Reaches n := by
  intro m earlier
  obtain ⟨asks, pending⟩ := reached m earlier
  rw [tick_withTimeout]
  exact ⟨asks.withTimeout later, pending⟩

/-- What closes a wait before its deadline closes it under any later one as well. -/
theorem Closes.withTimeout {ending : Ending ρ} {state : σ} (closes : course.Closes tick ending state)
    (later : course.request.timeout ≤ timeout)
    (inTime : ∀ text, ending.outcome ≠ .error (.timeout text)) :
    (course.withTimeout timeout).Closes tick ending state := by
  cases closes with
  | expired due => exact absurd rfl (inTime _)
  | cancelled early set =>
    refine .cancelled ?_ set
    exact Nat.lt_of_lt_of_le early (Nat.add_le_add_left later course.began)
  | answered asks judged => exact .answered (asks.withTimeout later) judged

theorem run_withTimeout (later : course.request.timeout ≤ timeout)
    (inTime : ∀ text, course.run.1.outcome ≠ .error (.timeout text)) :
    (course.withTimeout timeout).run = course.run := by
  rcases Nat.eq_zero_or_pos course.waiter.interval with none | positive
  · have none' : (course.withTimeout timeout).waiter.interval = 0 := none
    rw [course.run_of_no_interval none, run_of_no_interval _ none']
    rfl
  · obtain ⟨n, closing, state, reached, closes⟩ := exists_closes positive
    have ran := run_of_closes positive reached closes
    rw [ran] at inTime
    have closes' := closes.withTimeout later inTime
    rw [← tick_withTimeout course timeout n] at closes'
    have positive' : 0 < (course.withTimeout timeout).waiter.interval := positive
    rw [ran, run_of_closes positive' (reached.withTimeout later) closes', times_withTimeout]

theorem fetches_le_withTimeout (later : course.request.timeout ≤ timeout) :
    course.fetches ≤ (course.withTimeout timeout).fetches := by
  rcases Nat.eq_zero_or_pos course.waiter.interval with none | positive
  · have idle : course.fetches = 0 := by rw [fetches, course.run_of_no_interval none]; rfl
    rw [idle]
    exact Nat.zero_le _
  · have positive' : 0 < (course.withTimeout timeout).waiter.interval := positive
    apply Nat.le_of_not_lt
    intro fewer
    obtain ⟨reached, asks⟩ := (lt_fetches_iff positive).mp fewer
    have asks' := asks.withTimeout later
    rw [← tick_withTimeout course timeout] at asks'
    exact Nat.lt_irrefl _ ((lt_fetches_iff positive').mpr ⟨reached.withTimeout later, asks'⟩)

/-- The fetches of a wait are the first ones of the same wait with a later deadline. -/
theorem starts_prefix_withTimeout (later : course.request.timeout ≤ timeout) :
    course.run.1.starts <+: (course.withTimeout timeout).run.1.starts := by
  rw [starts_eq_times, starts_eq_times, times_withTimeout]
  exact course.times_prefix (fetches_le_withTimeout later)

/-- A wait that is not timed out ends in the same way, at the same time and after the same fetches
with any later deadline. With an earlier one it does so too, or it is timed out after the first of
them. -/
theorem deadline_monotone (course : Course σ ρ)
    (inTime : ∀ text, course.run.1.outcome ≠ .error (.timeout text)) :
    (∀ timeout ≥ course.request.timeout, (course.withTimeout timeout).run = course.run) ∧
      ∀ timeout < course.request.timeout,
        (course.withTimeout timeout).run = course.run ∨
          (∃ text, (course.withTimeout timeout).run.1.outcome = .error (.timeout text)) ∧
            (course.withTimeout timeout).run.1.starts <+: course.run.1.starts := by
  refine ⟨fun timeout later => run_withTimeout later inTime, ?_⟩
  intro timeout earlier
  -- Seen from the wait with the earlier deadline, the wait itself is the one with the later.
  let hasty := course.withTimeout timeout
  have later : hasty.request.timeout ≤ course.request.timeout := Nat.le_of_lt earlier
  have back : hasty.withTimeout course.request.timeout = course := rfl
  by_cases timedOut : ∃ text, hasty.run.1.outcome = .error (.timeout text)
  · have starts := starts_prefix_withTimeout later
    rw [back] at starts
    exact .inr ⟨timedOut, starts⟩
  · have same := run_withTimeout later fun text ended => timedOut ⟨text, ended⟩
    rw [back] at same
    exact .inl same.symm

end Course

/-- The launcher of a network that is made at a time. Each fetch takes some time. -/
def maturing (takes made : Nat) : Launcher Unit Snapshot := fun id now state =>
  let found := if now < made then "PENDING_ADD" else "NORMAL"
  (⟨takes, fun state => (.ok (some { id, name := "lan", state := found, kind := .vlan }), state)⟩,
    state)

/-- The deadline passes during the second fetch, which finds the network made. -/
theorem Course.maturing_outlasts_deadline :
    let found : Snapshot := { id := "v-1", name := "lan", state := "NORMAL", kind := .vlan }
    let course : Course Unit Snapshot :=
      ⟨Waiter.over (Registry.empty.register .vlan (maturing 4 20)) (fun _ _ => false) 10,
        Wait.deploy .vlan "v-1" 22, 0, ()⟩
    (∀ text, course.run.1.outcome ≠ .error (.timeout text)) ∧
      (course.withTimeout 60).run = (⟨.ok (some found), 24, [10, 20]⟩, ()) ∧
      ((course.withTimeout 20).run = course.run ∨
        (∃ text, (course.withTimeout 20).run.1.outcome = .error (.timeout text)) ∧
          (course.withTimeout 20).run.1.starts <+: [10, 20]) := by
  intro found course
  have reached : course.Reaches 1 := by
    intro m first
    cases Nat.lt_one_iff.mp first
    exact ⟨⟨by decide, Bool.false_ne_true⟩, by decide⟩
  have closes : course.Closes (course.tick 1) ⟨.ok (some found), 24, [20]⟩ () :=
    .answered ⟨by decide, Bool.false_ne_true⟩ (Settles.settled ⟨rfl, rfl⟩).judge_eq
  have ran : course.run = (⟨.ok (some found), 24, [10, 20]⟩, ()) :=
    run_of_closes (by decide) reached closes
  have inTime : ∀ text, course.run.1.outcome ≠ .error (.timeout text) := by
    intro text
    rw [ran]
    exact nofun
  obtain ⟨longer, shorter⟩ := course.deadline_monotone inTime
  refine ⟨inTime, (longer 60 (by decide)).trans ran, ?_⟩
  have hasty := shorter 20 (by decide)
  rw [ran] at hasty ⊢
  exact hasty

end Provision.Wait
