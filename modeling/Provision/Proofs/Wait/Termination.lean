import Provision.Proofs.Wait.Outcome
import Provision.Proofs.Wait.Pace
import Mathlib.Algebra.Order.Floor.Div

/-!
How a wait comes to its end. Each fetch takes two steps, and one more step ends the wait. There can
only be as many fetches as there are intervals before the deadline, and there are as many when
nothing ends the wait earlier and no fetch is slow.
-/
namespace Provision.Wait

variable {σ ρ : Type} [Resource ρ]

namespace Progress

/-- Where a wait stands after so many steps, and in which state. -/
def after (environment : Environment σ ρ) (interval : Nat) :
    Nat → Progress σ ρ → σ → Progress σ ρ × σ
  | 0, p, state => (p, state)
  | n + 1, p, state =>
    after environment interval n (p.step environment interval state).1
      (p.step environment interval state).2

/-- The steps that are left, besides those of fetches that have not started. -/
def slack (p : Progress σ ρ) : Nat :=
  match p.stage with
  | .idle .. => 1
  | .busy .. => 2
  | .over .. => 0

/-- A step is paid for by the stage that it leaves, or by the fetch that it starts. -/
theorem slack_step (environment : Environment σ ρ) (interval : Nat) (p : Progress σ ρ) (state : σ)
    (active : p.due?.isSome) :
    ∃ started, (p.step environment interval state).1.starts.length = p.starts.length + started ∧
      (p.step environment interval state).1.slack + 1 ≤ 2 * started + p.slack := by
  cases stage : p.stage with
  | idle since planned =>
    have own : p.slack = 1 := by simp [slack, stage]
    simp only [step, stage, wake, own]
    split
    · exact ⟨0, rfl, Nat.le_refl _⟩
    split
    · exact ⟨0, rfl, Nat.le_refl _⟩
    split
    · exact ⟨0, rfl, Nat.le_refl _⟩
    · exact ⟨1, by simp, Nat.le_refl _⟩
  | busy planned lands land =>
    have own : p.slack = 2 := by simp [slack, stage]
    simp only [step, stage, settle, own]
    split
    · exact ⟨0, rfl, by simp [finish, slack]⟩
    · exact ⟨0, rfl, Nat.le_refl _⟩
  | «over» outcome endedAt => simp [due?, stage] at active

theorem exists_after (environment : Environment σ ρ) (interval : Nat) (p : Progress σ ρ)
    (state : σ) :
    ∃ started k, (p.run environment interval state).1.starts.length =
        p.starts.length + started ∧ k ≤ 2 * started + p.slack ∧
      (after environment interval k p state).1.ending? =
        some (p.run environment interval state).1 := by
  by_cases active : p.due?.isSome
  · obtain ⟨first, grown, paid⟩ := slack_step environment interval p state active
    have less := remaining_step_lt environment interval p state active
    obtain ⟨others, k, length, bound, ended⟩ := exists_after environment interval
      (p.step environment interval state).1 (p.step environment interval state).2
    rw [run_step environment interval p state active]
    exact ⟨first + others, k + 1, by omega, by omega, ended⟩
  · cases stage : p.stage with
    | idle => simp [due?, stage] at active
    | busy => simp [due?, stage] at active
    | «over» outcome endedAt =>
      rw [run_over environment interval p outcome endedAt state stage]
      exact ⟨0, 0, rfl, Nat.zero_le _, by simp [after, ending?, stage]⟩
termination_by p.remaining

end Progress

namespace Course

variable (course : Course σ ρ)

def after (k : Nat) : Progress σ ρ :=
  (Progress.after course.waiter.environment course.waiter.interval k
    (.start course.waiter.interval course.request course.began) course.state).1

theorem exists_after :
    ∃ k ≤ 2 * course.fetches + 1, (course.after k).ending? = some course.run.1 := by
  obtain ⟨started, k, length, bound, ended⟩ :=
    Progress.exists_after course.waiter.environment course.waiter.interval
      (.start course.waiter.interval course.request course.began) course.state
  have all : course.fetches = started := length.trans (Nat.zero_add started)
  exact ⟨k, all ▸ bound, ended⟩

variable {course}

/-- The fetches of a wait, with an interval for each, begin before the timeout. -/
theorem fetches_mul_lt (positive : 0 < course.waiter.interval) {n : Nat}
    (inside : n < course.fetches) :
    (n + 1) * course.waiter.interval < course.request.timeout := by
  obtain ⟨_, early, _⟩ := (lt_fetches_iff positive).mp inside
  have planned := course.planned_ge n
  have later := (course.tick n).planned_le_time
  simp only [deadline] at early
  omega

theorem fetches_le (positive : 0 < course.waiter.interval) :
    course.fetches ≤ course.request.timeout ⌈/⌉ course.waiter.interval - 1 := by
  cases count : course.fetches with
  | zero => exact Nat.zero_le _
  | succ n =>
    have last := fetches_mul_lt positive (n := n) (by omega)
    have more : n + 1 < course.request.timeout ⌈/⌉ course.waiter.interval := by
      apply Nat.lt_of_not_le
      rw [ceilDiv_le_iff_le_mul positive, Nat.mul_comm]
      exact Nat.not_le_of_lt last
    omega

/-- A wait that nothing but the deadline ends makes all the fetches that there is time for. -/
theorem fetches_eq (positive : 0 < course.waiter.interval)
    (pending : ∀ n < course.fetches, course.request.Pends (course.poll (course.tick n)).fetched)
    (clear : ∀ n ≤ course.fetches, ¬ course.IsCancelled (course.tick n))
    (swift : course.Swift course.fetches) :
    course.fetches = course.request.timeout ⌈/⌉ course.waiter.interval - 1 := by
  apply Nat.le_antisymm (fetches_le positive)
  obtain ⟨last, closing, state, reached, closes⟩ := exists_closes positive
  have count := fetches_of_closes positive reached closes
  cases closes with
  | expired due =>
    change course.fetches = last at count
    obtain ⟨planned, time⟩ := swift.time_eq
    rw [count] at planned time
    have enough : course.request.timeout ⌈/⌉ course.waiter.interval ≤ last + 1 := by
      rw [ceilDiv_le_iff_le_mul positive, Nat.mul_comm]
      simp only [deadline] at due
      omega
    omega
  | cancelled _ set =>
    change course.fetches = last at count
    exact absurd set (clear last (Nat.le_of_eq count.symm))
  | answered _ judged =>
    change course.fetches = last + 1 at count
    have unjudged := (pending last (by omega)).judge_eq
    cases unjudged.symm.trans judged

structure Bounded (course : Course σ ρ) : Prop where
  /-- It is over after two steps for each fetch and one more. -/
  ends : ∃ k ≤ 2 * course.fetches + 1, (course.after k).ending? = some course.run.1
  /-- It fetches less often than there are intervals, or begun ones, until the deadline. -/
  fetches_le : course.fetches ≤ course.request.timeout ⌈/⌉ course.waiter.interval - 1
  /-- It does not fetch if the deadline comes with the first tick or earlier. -/
  fetches_eq_zero (short : course.request.timeout ≤ course.waiter.interval) : course.fetches = 0
  /-- It fetches no less often if all replies show the operation under way, the flag is not set at
  any tick, and each fetch takes an interval at most. -/
  fetches_eq
    (pending : ∀ n < course.fetches, course.request.Pends (course.poll (course.tick n)).fetched)
    (clear : ∀ n ≤ course.fetches, ¬ course.IsCancelled (course.tick n))
    (swift : course.Swift course.fetches) :
    course.fetches = course.request.timeout ⌈/⌉ course.waiter.interval - 1

/-- Every wait is over after a bounded number of fetches, whatever they bring and however long they
take. -/
theorem bounded (course : Course σ ρ) (positive : 0 < course.waiter.interval) : course.Bounded where
  ends := course.exists_after
  fetches_le := fetches_le positive
  fetches_eq_zero short := by
    have most := fetches_le positive
    have one : course.request.timeout ⌈/⌉ course.waiter.interval ≤ 1 := by
      rwa [ceilDiv_le_iff_le_mul positive, Nat.mul_one]
    omega
  fetches_eq := fetches_eq positive

/-- The third tick comes with the deadline, after two fetches of a whole interval each. -/
theorem lingering_fetches_twice :
    let course : Course Unit Snapshot :=
      ⟨Waiter.over (Registry.empty.register .vlan (lingering 10)) (fun _ _ => false) 10,
        Wait.deploy .vlan "v-1" 30, 0, ()⟩
    0 < course.waiter.interval ∧ course.fetches = 2 := by
  intro course
  have pends : course.request.Pends (.ok (some
      { id := "v-1", name := "lan", state := "PENDING_ADD", kind := .vlan : Snapshot })) :=
    ⟨_, "PENDING_ADD", rfl, ⟨rfl, rfl⟩, by decide, by decide⟩
  have counted := (bounded course (by decide)).fetches_eq (fun n _ => pends)
    (fun n _ => Bool.false_ne_true) (fun n _ => Nat.le_refl _)
  have allowed : course.request.timeout ⌈/⌉ course.waiter.interval - 1 = 2 := by decide
  exact ⟨by decide, counted.trans allowed⟩

end Course

end Provision.Wait
