import Provision.Proofs.Wait.Judgement
import Provision.Proofs.Wait.Ticks

/-!
The pace of a wait: how far apart its fetches are, and how many of them there can be. Each tick is
planned when the fetch before it starts, and a fetch that is still in flight then puts it off. So
there is never less than an interval between two fetches, but for the tolerance with which a late
tick still counts as one in time.
-/
namespace Provision.Wait

variable {σ ρ : Type}

namespace Course

variable (course : Course σ ρ)

theorem time_le_lands (tick : Tick σ) : tick.time ≤ (course.poll tick).lands := Nat.le_add_right _ _

theorem lands_le_time_succ (n : Nat) :
    (course.poll (course.tick n)).lands ≤ (course.tick (n + 1)).time :=
  (course.tick (n + 1)).since_le_time

theorem lands_le_time {m n : Nat} (before : m < n) :
    (course.poll (course.tick m)).lands ≤ (course.tick n).time := by
  induction before with
  | refl => exact course.lands_le_time_succ m
  | @step n _ ih =>
    calc
      (course.poll (course.tick m)).lands ≤ (course.tick n).time := ih
      _ ≤ (course.poll (course.tick n)).lands := course.time_le_lands _
      _ ≤ (course.tick (n + 1)).time := course.lands_le_time_succ n

theorem planned_add_le (m k : Nat) :
    (course.tick m).planned + k * course.waiter.interval ≤ (course.tick (m + k)).planned := by
  induction k with
  | zero => simp
  | succ k ih =>
    have step := course.planned_add_interval_le_next (course.tick (m + k))
    have next : (course.tick (m + (k + 1))).planned = (course.next (course.tick (m + k))).planned :=
      rfl
    rw [next, Nat.succ_mul]
    omega

/-- A tick that is not late is planned an interval after the one before was. As that may have been
late by the tolerance, the interval between the two may be shorter by as much. -/
theorem time_add_interval_le (n : Nat) :
    (course.tick n).time + course.waiter.interval ≤ (course.tick (n + 1)).planned + 5 := by
  have slack : tolerance = 5 := rfl
  simp only [tick, next, nextTick]
  split <;> omega

theorem time_add_interval_le_of_late {n : Nat}
    (late : (course.tick n).planned + 5 < (course.tick n).time) :
    (course.tick n).time + course.waiter.interval ≤ (course.tick (n + 1)).time := by
  have planned := (course.tick (n + 1)).planned_le_time
  have puts : (course.tick (n + 1)).planned = (course.tick n).time + course.waiter.interval := by
    simp only [tick, next, nextTick, tolerance]
    exact if_pos late
  omega

/-- The tolerance counts only once, however many ticks there are between two. -/
theorem time_add_le {m n : Nat} (before : m < n) :
    (course.tick m).time + (n - m) * course.waiter.interval ≤ (course.tick n).time + 5 := by
  obtain ⟨k, rfl⟩ := Nat.exists_eq_add_of_lt before
  have first := course.time_add_interval_le m
  have others := course.planned_add_le (m + 1) k
  have last := (course.tick (m + 1 + k)).planned_le_time
  have gaps : m + k + 1 - m = k + 1 := by omega
  have same : m + k + 1 = m + 1 + k := by omega
  rw [gaps, same, Nat.succ_mul]
  omega

/-- Whether each of the first fetches takes an interval at most. -/
def Swift (n : Nat) : Prop :=
  ∀ m < n, (course.poll (course.tick m)).lands ≤ (course.tick m).time + course.waiter.interval

variable {course} in
theorem Swift.time_eq {n : Nat} (swift : course.Swift n) :
    (course.tick n).planned = course.began + (n + 1) * course.waiter.interval ∧
      (course.tick n).time = (course.tick n).planned := by
  induction n with
  | zero => simp [tick, Tick.time]
  | succ n ih =>
    obtain ⟨planned, time⟩ := ih fun m earlier => swift m (Nat.lt_succ_of_lt earlier)
    have lands := swift n (Nat.lt_succ_self n)
    have next : (course.tick (n + 1)).planned =
        (course.tick n).planned + course.waiter.interval := by
      simp only [tick, Course.next, nextTick, time]
      exact if_neg (by omega)
    have slept : (course.tick (n + 1)).since = (course.poll (course.tick n)).lands := rfl
    refine ⟨?_, ?_⟩
    · rw [next, planned, Nat.succ_mul (n + 1)]
      omega
    · simp only [Tick.time, next, slept]
      omega

variable [Resource ρ]

def fetches : Nat := course.run.1.starts.length

variable {course} {n : Nat} {ending : Ending ρ} {state : σ}

theorem fetches_of_closes (positive : 0 < course.waiter.interval) (reached : course.Reaches n)
    (closes : course.Closes (course.tick n) ending state) :
    course.fetches = n + ending.starts.length := by
  simp [fetches, run_of_closes positive reached closes, times]

theorem Closes.stops {tick : Tick σ} (closes : course.Closes tick ending state) :
    ¬ course.Continues tick := by
  rintro ⟨asks, pends⟩
  cases closes with
  | expired due => exact Nat.not_lt_of_le due asks.1
  | cancelled _ set => exact asks.2 set
  | answered _ judged => cases pends.symm.trans judged

/-- A wait fetches at the ticks that it reaches and asks at. -/
theorem lt_fetches_iff (positive : 0 < course.waiter.interval) :
    n < course.fetches ↔ course.Reaches n ∧ course.Asks (course.tick n) := by
  obtain ⟨last, closing, after, reached, closes⟩ := exists_closes positive
  rw [fetches_of_closes positive reached closes]
  constructor
  · intro inside
    rcases Nat.lt_or_ge n last with earlier | late
    · exact ⟨reached.of_le (Nat.le_of_lt earlier), (reached n earlier).1⟩
    · cases closes with
      | expired => exact absurd inside (Nat.not_lt_of_le late)
      | cancelled => exact absurd inside (Nat.not_lt_of_le late)
      | answered asks _ =>
        cases Nat.le_antisymm (Nat.le_of_lt_succ inside) late
        exact ⟨reached, asks⟩
  · rintro ⟨before, asks⟩
    have inside : n ≤ last := Nat.le_of_not_lt fun beyond => closes.stops (before last beyond)
    rcases Nat.lt_or_eq_of_le inside with earlier | rfl
    · exact Nat.lt_add_right _ earlier
    · cases closes with
      | expired due => exact absurd asks.1 (Nat.not_lt_of_le due)
      | cancelled _ set => exact absurd set asks.2
      | answered => exact Nat.lt_succ_self n

variable (course) in
theorem run_of_no_interval (none : course.waiter.interval = 0) :
    course.run = (⟨.error course.request.noInterval, course.began, []⟩, course.state) := by
  have woken : (Progress.start course.waiter.interval course.request course.began :
      Progress σ ρ).step course.waiter.environment course.waiter.interval course.state =
        ((Progress.start course.waiter.interval course.request course.began).finish
          (.error course.request.noInterval) course.began, course.state) := by
    simp only [Progress.step, Progress.start, Progress.wake, none, if_true]
  rw [run, Waiter.wait, Progress.run_step _ _ _ _ rfl, woken]
  exact Progress.run_over _ _ _ _ _ _ rfl

/-- What holds before a wait and is kept by each of its polls holds after it. -/
theorem run_keeps {P : σ → Prop} (holds : P course.state)
    (keeps : ∀ tick, P tick.state → P (course.poll tick).state) : P course.run.2 := by
  have holds (n : Nat) : P (course.tick n).state := by
    induction n with
    | zero => exact holds
    | succ n ih => exact keeps _ ih
  rcases Nat.eq_zero_or_pos course.waiter.interval with none | positive
  · rw [course.run_of_no_interval none]
    exact holds 0
  obtain ⟨n, closing, state, reached, closes⟩ := course.exists_closes positive
  rw [run_of_closes positive reached closes]
  cases closes with
  | expired due => exact holds n
  | cancelled early set => exact holds n
  | answered asks judged => exact keeps _ (holds n)

variable (course) in
theorem starts_eq_times : course.run.1.starts = course.times course.fetches := by
  rcases Nat.eq_zero_or_pos course.waiter.interval with none | positive
  · simp [fetches, course.run_of_no_interval none, times]
  · obtain ⟨last, closing, after, reached, closes⟩ := exists_closes positive
    rw [fetches_of_closes positive reached closes, run_of_closes positive reached closes]
    cases closes with
    | expired => simp
    | cancelled => simp
    | answered => exact (course.times_succ last).symm

variable (course) in
theorem start_eq (n : Nat) (inside : n < course.run.1.starts.length) :
    course.run.1.starts[n] = (course.tick n).time := by
  simp [starts_eq_times, times]

structure Paced (course : Course σ ρ) : Prop where
  /-- They start at the ticks. -/
  start_eq (n : Nat) (inside : n < course.run.1.starts.length) :
    course.run.1.starts[n] = (course.tick n).time
  /-- None starts earlier than its number of intervals after the beginning. -/
  start_ge (n : Nat) (inside : n < course.run.1.starts.length) :
    course.began + (n + 1) * course.waiter.interval ≤ course.run.1.starts[n]
  /-- Between any two there are their intervals, but for 5 ms at most in all. -/
  gap_ge {m n : Nat} (before : m < n) (inside : n < course.run.1.starts.length) :
    course.run.1.starts[m] + (n - m) * course.waiter.interval ≤ course.run.1.starts[n] + 5
  /-- They do not overlap: one has landed when the next starts. -/
  landed {m n : Nat} (before : m < n) (inside : n < course.run.1.starts.length) :
    (course.poll (course.tick m)).lands ≤ course.run.1.starts[n]
  /-- After one that starts more than 5 ms after its planned tick there is a whole interval. -/
  whole {n : Nat} (inside : n + 1 < course.run.1.starts.length)
    (late : (course.tick n).planned + 5 < course.run.1.starts[n]) :
    course.run.1.starts[n] + course.waiter.interval ≤ course.run.1.starts[n + 1]

/-- Every wait keeps its pace, however long its fetches take: what a slow one misses is not made up
for. -/
theorem paced (course : Course σ ρ) : course.Paced where
  start_eq := course.start_eq
  start_ge n inside := by
    rw [start_eq]
    exact Nat.le_trans (course.planned_ge n) (course.tick n).planned_le_time
  gap_ge before inside := by
    rw [start_eq, start_eq]
    exact course.time_add_le before
  landed before inside := by
    rw [start_eq]
    exact course.lands_le_time before
  whole inside late := by
    rw [start_eq] at late
    rw [start_eq, start_eq]
    exact course.time_add_interval_le_of_late late

end Course

end Provision.Wait
