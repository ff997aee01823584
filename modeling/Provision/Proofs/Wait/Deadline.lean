import Provision.Proofs.Wait.Outcome
import Provision.Proofs.Wait.Pace

/-!
How a wait keeps its deadline. No fetch starts once the deadline is due, and none is cut off by it:
a fetch that is in flight then still lands, and its reply counts. Only if it does not end the wait
does the wait end as timed out, at that moment.
-/
namespace Provision.Wait.Course

variable {σ ρ : Type} [Resource ρ]

def InFlight (course : Course σ ρ) (moment n : Nat) : Prop :=
  n < course.fetches ∧ (course.tick n).time ≤ moment ∧
    moment < (course.poll (course.tick n)).lands

structure Expires (course : Course σ ρ) (text : String) : Prop where
  /-- The seconds of the message are the whole ones until the end. -/
  text_eq :
    let seconds := (course.run.1.endedAt - course.began) / 1000
    text = s!"timed out after {seconds} seconds waiting for {course.request.action} of " ++
      s!"{course.request.subject} '{course.request.id}'"
  /-- The end comes at the deadline if no fetch is in flight then. -/
  on_time (landed : ∀ n, ¬ course.InFlight course.deadline n) :
    course.run.1.endedAt = course.deadline
  /-- It comes when a fetch lands that is in flight then, which has found the operation under
  way. -/
  late {n : Nat} (flying : course.InFlight course.deadline n) :
    course.run.1.endedAt = (course.poll (course.tick n)).lands ∧
      course.request.Pends (course.poll (course.tick n)).fetched
  not_early : course.deadline ≤ course.run.1.endedAt
  /-- It comes within an interval if each fetch takes an interval at most. -/
  soon (swift : course.Swift course.fetches) :
    course.run.1.endedAt ≤ course.deadline + course.waiter.interval

variable {course : Course σ ρ} {n : Nat}

theorem Reaches.pends (reached : course.Reaches (n + 1)) :
    course.request.Pends (course.poll (course.tick n)).fetched :=
  judge_eq_none_iff.mp (reached n (Nat.lt_succ_self n)).2

theorem Reaches.time_lt (reached : course.Reaches (n + 1)) :
    (course.tick n).time < course.deadline :=
  (reached n (Nat.lt_succ_self n)).1.1

/-- Of the fetches before a tick only the last can be in flight at the deadline. -/
theorem Reaches.lands_lt (reached : course.Reaches n) {m : Nat} (before : m + 1 < n) :
    (course.poll (course.tick m)).lands < course.deadline :=
  Nat.lt_of_le_of_lt (course.lands_le_time_succ m) (reached (m + 1) before).1.1

theorem expires (positive : 0 < course.waiter.interval) (reached : course.Reaches n)
    (due : course.deadline ≤ (course.tick n).time) {text : String}
    (timeout : course.run.1.outcome = .error (.timeout text)) : course.Expires text := by
  have closes := Closes.expired due
  have count : course.fetches = n := fetches_of_closes positive reached closes
  have ran := congrArg Prod.fst (run_of_closes positive reached closes)
  have ended : course.run.1.endedAt = max course.deadline (course.tick n).since := by rw [ran]
  have rest : (course.tick 0).since ≤ course.deadline := Nat.le_add_right _ _
  constructor
  case text_eq =>
    rw [ran] at timeout
    rw [ended]
    cases timeout
    rfl
  case on_time =>
    intro landed
    rw [ended]
    apply Nat.max_eq_left
    cases n with
    | zero => exact rest
    | succ m =>
      apply Nat.le_of_not_lt
      intro flying
      exact landed m ⟨by omega, Nat.le_of_lt reached.time_lt, flying⟩
  case late =>
    rintro m ⟨inside, _, flying⟩
    rw [count] at inside
    rcases Nat.lt_or_eq_of_le inside with earlier | rfl
    · exact absurd flying (Nat.lt_asymm (reached.lands_lt earlier))
    · rw [ended]
      exact ⟨Nat.max_eq_right (Nat.le_of_lt flying), reached.pends⟩
  case not_early =>
    rw [ended]
    exact Nat.le_max_left _ _
  case soon =>
    intro swift
    rw [ended]
    apply Nat.max_le.mpr
    refine ⟨Nat.le_add_right _ _, ?_⟩
    cases n with
    | zero => exact Nat.le_trans rest (Nat.le_add_right _ _)
    | succ m =>
      have lands := swift m (by omega)
      have early := reached.time_lt
      change (course.poll (course.tick m)).lands ≤ _
      omega

theorem timeout_only_if (positive : 0 < course.waiter.interval) {text : String}
    (timeout : course.run.1.outcome = .error (.timeout text)) :
    course.Expires text ∨
      ∃ n, course.fetches = n + 1 ∧
        (course.poll (course.tick n)).fetched = .error (.timeout text) ∧
        course.run.1.endedAt = (course.poll (course.tick n)).lands := by
  obtain ⟨n, closing, state, reached, closes⟩ := exists_closes positive
  have count := fetches_of_closes positive reached closes
  have ran := congrArg Prod.fst (run_of_closes positive reached closes)
  cases closes with
  | expired due => exact .inl (expires positive reached due timeout)
  | cancelled _ _ =>
    rw [ran] at timeout
    cases timeout
  | answered asks judged =>
    have settles := judge_eq_some_iff.mp judged
    rw [ran] at timeout
    cases timeout
    generalize replied : (course.poll (course.tick n)).fetched = fetched at settles
    cases settles with
    | failed _ => exact .inr ⟨n, count, replied, by rw [ran]⟩

theorem starts_lt_deadline (positive : 0 < course.waiter.interval) :
    ∀ start ∈ course.run.1.starts, start < course.deadline := by
  intro start member
  rw [starts_eq_times] at member
  obtain ⟨n, inside, rfl⟩ := List.mem_map.mp member
  exact ((lt_fetches_iff positive).mp (List.mem_range.mp inside)).2.1

/-- The first reply that settles the wait ends it, whenever it lands. -/
theorem run_of_settles (positive : 0 < course.waiter.interval)
    {outcome : Except Error (Option ρ)} (inside : n < course.fetches)
    (settles : course.request.Settles (course.poll (course.tick n)).fetched outcome) :
    course.run.1 = ⟨outcome, (course.poll (course.tick n)).lands, course.times (n + 1)⟩ := by
  obtain ⟨reached, asks⟩ := (lt_fetches_iff positive).mp inside
  rw [run_of_closes positive reached (.answered asks settles.judge_eq), times_succ]

structure KeepsDeadline (course : Course σ ρ) : Prop where
  /-- No fetch starts at the deadline or later. -/
  starts_lt : ∀ start ∈ course.run.1.starts, start < course.deadline
  /-- A wait that ends as timed out has come to its deadline, or its last fetch has failed just
  so. -/
  timeout_only_if {text : String}
    (timeout : course.run.1.outcome = .error (.timeout text)) :
    course.Expires text ∨
      ∃ n, course.fetches = n + 1 ∧
        (course.poll (course.tick n)).fetched = .error (.timeout text) ∧
        course.run.1.endedAt = (course.poll (course.tick n)).lands
  /-- A reply that settles the wait ends it, even after the deadline. -/
  settled {n : Nat} {outcome : Except Error (Option ρ)} (inside : n < course.fetches)
    (settles : course.request.Settles (course.poll (course.tick n)).fetched outcome) :
    course.run.1 = ⟨outcome, (course.poll (course.tick n)).lands, course.times (n + 1)⟩

/-- Every wait keeps its deadline, whatever its fetches bring and however long they take. -/
theorem keepsDeadline (course : Course σ ρ) (positive : 0 < course.waiter.interval) :
    course.KeepsDeadline where
  starts_lt := starts_lt_deadline positive
  timeout_only_if := timeout_only_if positive
  settled := run_of_settles positive

/-- A fetch starts before the deadline and brings the network after it. -/
theorem settled_after_deadline :
    let found : Snapshot := { id := "v-1", name := "lan", state := "NORMAL", kind := .vlan }
    let course : Course Unit Snapshot :=
      ⟨Waiter.over (Registry.empty.register .vlan fun _ _ state =>
          (⟨30, fun state => (.ok (some found), state)⟩, state)) (fun _ _ => false) 10,
        Wait.deploy .vlan "v-1" 25, 0, ()⟩
    0 < course.waiter.interval ∧ course.run.1 = ⟨.ok (some found), 40, [10]⟩ := by
  intro found course
  have positive : 0 < course.waiter.interval := by decide
  have reached : course.Reaches 0 := fun m earlier => absurd earlier (Nat.not_lt_zero m)
  have asks : course.Asks (course.tick 0) := ⟨by decide, Bool.false_ne_true⟩
  have inside : 0 < course.fetches := (lt_fetches_iff positive).mpr ⟨reached, asks⟩
  exact ⟨positive, (keepsDeadline course positive).settled inside (.settled ⟨rfl, rfl⟩)⟩

/-- A fetch may fail as timed out by itself, and its wait then ends so long before its deadline. -/
theorem timed_out_before_deadline :
    let course : Course Unit Snapshot :=
      ⟨Waiter.over (Registry.empty.register .vlan fun _ _ state =>
          (⟨0, fun state => (.error (.timeout "elsewhere"), state)⟩, state)) (fun _ _ => false)
        5000, Wait.deploy .vlan "v-1" 60000, 0, ()⟩
    course.run.1.outcome = .error (.timeout "elsewhere") ∧
      course.run.1.endedAt < course.deadline := by
  intro course
  have closes : course.Closes (course.tick 0) ⟨.error (.timeout "elsewhere"), 5000, [5000]⟩ () :=
    .answered ⟨by decide, Bool.false_ne_true⟩ rfl
  have reached : course.Reaches 0 := fun m earlier => absurd earlier (Nat.not_lt_zero m)
  rw [run_of_closes (by decide) reached closes]
  exact ⟨rfl, by decide⟩

end Provision.Wait.Course
