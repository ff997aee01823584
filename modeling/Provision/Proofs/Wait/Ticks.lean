import Provision.Waiter

/-!
The ticks of a wait, and what a run makes of them. A wait polls at its ticks in order until one of
them closes it. When the ticks come depends on the fetches alone; the deadline and the flag only
decide which tick is the last.
-/
namespace Provision.Wait

variable {σ ρ : Type}

namespace Progress

variable [Resource ρ]

theorem run_step (environment : Environment σ ρ) (interval : Nat) (p : Progress σ ρ) (state : σ)
    (active : p.due?.isSome) :
    p.run environment interval state =
      (p.step environment interval state).1.run environment interval
        (p.step environment interval state).2 := by
  rw [run]
  split
  · rename_i ended
    simp [due?, ended] at active
  · rfl
  · rfl

theorem run_over (environment : Environment σ ρ) (interval : Nat) (p : Progress σ ρ)
    (outcome : Except Error (Option ρ)) (endedAt : Nat) (state : σ)
    (ended : p.stage = .over outcome endedAt) :
    p.run environment interval state = (⟨outcome, endedAt, p.starts⟩, state) := by
  rw [run]
  split <;> simp_all

end Progress

/-- A run of a wait: who runs it, what is waited for, and from when on in which state. -/
structure Course (σ ρ : Type) where
  waiter : Waiter σ ρ
  request : Wait
  began : Nat
  state : σ

structure Tick (σ : Type) where
  /-- The time since which the wait has slept. -/
  since : Nat
  /-- The time that the tick is planned for. -/
  planned : Nat
  state : σ

/-- The time at which a tick comes. One that is planned for a time in the past comes at once. -/
def Tick.time (tick : Tick σ) : Nat := max tick.planned tick.since

theorem Tick.since_le_time (tick : Tick σ) : tick.since ≤ tick.time := Nat.le_max_right _ _

theorem Tick.planned_le_time (tick : Tick σ) : tick.planned ≤ tick.time := Nat.le_max_left _ _

structure Poll (σ ρ : Type) where
  lands : Nat
  fetched : Except Error (Option ρ)
  state : σ

namespace Course

variable (course : Course σ ρ)

def deadline : Nat := course.began + course.request.timeout

def poll (tick : Tick σ) : Poll σ ρ :=
  let launched :=
    course.waiter.environment.fetch course.request.kind course.request.id tick.time tick.state
  let landed := launched.1.land launched.2
  ⟨tick.time + launched.1.takes, landed.1, landed.2⟩

def next (tick : Tick σ) : Tick σ :=
  let poll := course.poll tick
  ⟨poll.lands, nextTick course.waiter.interval tick.planned tick.time, poll.state⟩

/-- The ticks of a wait, counted from 0, as they come as long as it goes on. -/
def tick (course : Course σ ρ) : Nat → Tick σ
  | 0 => ⟨course.began, course.began + course.waiter.interval, course.state⟩
  | n + 1 => course.next (course.tick n)

def times (n : Nat) : List Nat := (List.range n).map fun m => (course.tick m).time

theorem times_succ (n : Nat) : course.times (n + 1) = course.times n ++ [(course.tick n).time] := by
  simp [times, List.range_succ]

def IsCancelled (tick : Tick σ) : Prop :=
  course.waiter.environment.isCancelled tick.state tick.time = true

def Asks (tick : Tick σ) : Prop := tick.time < course.deadline ∧ ¬ course.IsCancelled tick

theorem planned_add_interval_le_next (tick : Tick σ) :
    tick.planned + course.waiter.interval ≤ (course.next tick).planned := by
  simp only [next, nextTick]
  split <;> omega

theorem planned_next_le (tick : Tick σ) :
    (course.next tick).planned ≤ tick.time + course.waiter.interval := by
  have bound := tick.planned_le_time
  simp only [next, nextTick]
  split <;> omega

/-- No tick is planned for less than its number of intervals after the beginning. -/
theorem planned_ge (n : Nat) :
    course.began + (n + 1) * course.waiter.interval ≤ (course.tick n).planned := by
  induction n with
  | zero => simp [tick]
  | succ n ih =>
    have step := course.planned_add_interval_le_next (course.tick n)
    rw [tick, Nat.succ_mul]
    omega

variable [Resource ρ]

def run : Ending ρ × σ := course.waiter.wait course.request course.began course.state

def Continues (tick : Tick σ) : Prop :=
  course.Asks tick ∧ course.request.judge (course.poll tick).fetched = none

def Reaches (n : Nat) : Prop := ∀ m < n, course.Continues (course.tick m)

/-- How a tick closes the wait, and the state after it. The ending counts the fetch of this tick
only. -/
inductive Closes (tick : Tick σ) : Ending ρ → σ → Prop where
  | expired (due : course.deadline ≤ tick.time) :
    Closes tick
      ⟨.error (course.request.timedOut (max course.deadline tick.since - course.began)),
        max course.deadline tick.since, []⟩
      tick.state
  | cancelled (early : tick.time < course.deadline) (set : course.IsCancelled tick) :
    Closes tick ⟨.error (.cancelled course.request.description), tick.time, []⟩ tick.state
  | answered {outcome : Except Error (Option ρ)} (asks : course.Asks tick)
    (judged : course.request.judge (course.poll tick).fetched = some outcome) :
    Closes tick ⟨outcome, (course.poll tick).lands, [tick.time]⟩ (course.poll tick).state

variable {course} in
theorem Reaches.of_le {m n : Nat} (reached : course.Reaches n) (before : m ≤ n) :
    course.Reaches m := fun k earlier => reached k (Nat.lt_of_lt_of_le earlier before)

variable {course} in
theorem Reaches.succ {n : Nat} (reached : course.Reaches n)
    (goesOn : course.Continues (course.tick n)) : course.Reaches (n + 1) := by
  intro m before
  rcases Nat.lt_succ_iff_lt_or_eq.mp before with earlier | rfl
  · exact reached m earlier
  · exact goesOn

theorem continues_or_closes (tick : Tick σ) :
    course.Continues tick ∨ ∃ ending state, course.Closes tick ending state := by
  by_cases due : course.deadline ≤ tick.time
  · exact .inr ⟨_, _, .expired due⟩
  have early : tick.time < course.deadline := Nat.lt_of_not_le due
  by_cases set : course.IsCancelled tick
  · exact .inr ⟨_, _, .cancelled early set⟩
  cases judged : course.request.judge (course.poll tick).fetched with
  | none => exact .inl ⟨⟨early, set⟩, judged⟩
  | some outcome => exact .inr ⟨_, _, .answered ⟨early, set⟩ judged⟩

variable {course} {tick : Tick σ} {ending other : Ending ρ} {state after : σ}

theorem Closes.unique (first : course.Closes tick ending state)
    (second : course.Closes tick other after) : ending = other ∧ state = after := by
  cases first with
  | expired due =>
    cases second with
    | expired _ => exact ⟨rfl, rfl⟩
    | cancelled early _ => exact absurd early (Nat.not_lt_of_le due)
    | answered asks _ => exact absurd asks.1 (Nat.not_lt_of_le due)
  | cancelled early set =>
    cases second with
    | expired due => exact absurd early (Nat.not_lt_of_le due)
    | cancelled _ _ => exact ⟨rfl, rfl⟩
    | answered asks _ => exact absurd set asks.2
  | answered asks judged =>
    cases second with
    | expired due => exact absurd asks.1 (Nat.not_lt_of_le due)
    | cancelled _ set => exact absurd set asks.2
    | answered _ same =>
      cases Option.some.inj (judged.symm.trans same)
      exact ⟨rfl, rfl⟩

/-- The wait asleep before a tick, after the fetches so far. -/
private def asleep (course : Course σ ρ) (tick : Tick σ) (starts : List Nat) : Progress σ ρ :=
  { wait := course.request, began := course.began, stage := .idle tick.since tick.planned, starts }

private def runFrom (course : Course σ ρ) (tick : Tick σ) (starts : List Nat) : Ending ρ × σ :=
  (asleep course tick starts).run course.waiter.environment course.waiter.interval tick.state

omit [Resource ρ] in
private theorem wake_of_asks (positive : 0 < course.waiter.interval) (asks : course.Asks tick)
    (starts : List Nat) :
    (asleep course tick starts).wake course.waiter.environment course.waiter.interval tick.since
        tick.planned tick.state =
      let launched := course.waiter.environment.fetch course.request.kind course.request.id
        tick.time tick.state
      ({ wait := course.request, began := course.began, starts := starts ++ [tick.time],
         stage := .busy (course.next tick).planned (course.poll tick).lands launched.1.land },
        launched.2) := by
  have running : course.waiter.interval ≠ 0 := Nat.ne_of_gt positive
  have early : ¬ (asleep course tick starts).deadline ≤ max tick.planned tick.since :=
    Nat.not_le_of_lt asks.1
  have clear : ¬ course.waiter.environment.isCancelled tick.state (max tick.planned tick.since) :=
    asks.2
  simp only [Progress.wake, running, early, clear, if_false]
  rfl

/-- A tick that asks leads to a poll, whose reply is judged when it lands. -/
private theorem runFrom_of_asks (positive : 0 < course.waiter.interval) (asks : course.Asks tick)
    (starts : List Nat) :
    runFrom course tick starts =
      (Progress.settle
        { wait := course.request, began := course.began, starts := starts ++ [tick.time],
          stage := .busy (course.next tick).planned (course.poll tick).lands
            (course.waiter.environment.fetch course.request.kind course.request.id
              tick.time tick.state).1.land }
        (course.next tick).planned (course.poll tick).lands (course.poll tick).fetched).run
        course.waiter.environment course.waiter.interval (course.poll tick).state := by
  rw [runFrom, Progress.run_step _ _ _ _ rfl]
  change (Progress.wake _ _ _ _ _ _).1.run _ _ (Progress.wake _ _ _ _ _ _).2 = _
  rw [wake_of_asks positive asks, Progress.run_step _ _ _ _ rfl]
  rfl

private theorem runFrom_of_continues (positive : 0 < course.waiter.interval)
    (goesOn : course.Continues tick) (starts : List Nat) :
    runFrom course tick starts = runFrom course (course.next tick) (starts ++ [tick.time]) := by
  obtain ⟨asks, unjudged⟩ := goesOn
  rw [runFrom_of_asks positive asks, Progress.settle, unjudged]
  rfl

private theorem runFrom_of_wake {outcome : Except Error (Option ρ)} {endedAt : Nat}
    (starts : List Nat)
    (woken : (asleep course tick starts).wake course.waiter.environment course.waiter.interval
      tick.since tick.planned tick.state =
        ((asleep course tick starts).finish outcome endedAt, state)) :
    runFrom course tick starts = (⟨outcome, endedAt, starts⟩, state) := by
  rw [runFrom, Progress.run_step _ _ _ _ rfl]
  change (Progress.wake _ _ _ _ _ _).1.run _ _ (Progress.wake _ _ _ _ _ _).2 = _
  rw [woken]
  exact Progress.run_over _ _ _ _ _ _ rfl

private theorem runFrom_of_closes (positive : 0 < course.waiter.interval)
    (closes : course.Closes tick ending state) (starts : List Nat) :
    runFrom course tick starts = ({ ending with starts := starts ++ ending.starts }, state) := by
  have running : course.waiter.interval ≠ 0 := Nat.ne_of_gt positive
  cases closes with
  | expired due =>
    have late : (asleep course tick starts).deadline ≤ max tick.planned tick.since := due
    rw [List.append_nil]
    apply runFrom_of_wake starts
    simp only [Progress.wake, running, late, if_false, if_true]
    rfl
  | cancelled early set =>
    have awake : ¬ (asleep course tick starts).deadline ≤ max tick.planned tick.since :=
      Nat.not_le_of_lt early
    have raised : course.waiter.environment.isCancelled tick.state
        (max tick.planned tick.since) = true := set
    rw [List.append_nil]
    apply runFrom_of_wake starts
    simp only [Progress.wake, running, awake, raised, if_false, if_true]
    rfl
  | answered asks judged =>
    rw [runFrom_of_asks positive asks, Progress.settle, judged]
    exact Progress.run_over _ _ _ _ _ _ rfl

/-- The wait comes to every tick that it reaches, after a fetch at each tick before. -/
private theorem run_of_reaches (positive : 0 < course.waiter.interval) {n : Nat}
    (reached : course.Reaches n) :
    course.run = runFrom course (course.tick n) (course.times n) := by
  induction n with
  | zero => rfl
  | succ n ih =>
    have last : course.Continues (course.tick n) := reached n (Nat.lt_succ_self n)
    rw [ih (reached.of_le (Nat.le_succ n)), runFrom_of_continues positive last]
    rw [times_succ]
    rfl

/-- Ticks are planned further and further away, so one of them comes too late. -/
private theorem exists_last (positive : 0 < course.waiter.interval) :
    ∃ n, course.Reaches n ∧ ¬ course.Continues (course.tick n) := by
  have search (n : Nat) :
      course.Reaches n ∨ ∃ m, course.Reaches m ∧ ¬ course.Continues (course.tick m) := by
    induction n with
    | zero => exact .inl fun m earlier => absurd earlier (Nat.not_lt_zero m)
    | succ n ih =>
      rcases ih with reached | found
      · by_cases goesOn : course.Continues (course.tick n)
        · exact .inl (reached.succ goesOn)
        · exact .inr ⟨n, reached, goesOn⟩
      · exact .inr found
  -- Each tick is planned an interval after the one before at least, so the tick that has the
  -- timeout for its number is too late.
  rcases search (course.request.timeout + 1) with reached | found
  · have goesOn := reached course.request.timeout (Nat.lt_succ_self _)
    have early : (course.tick course.request.timeout).time < course.deadline := goesOn.1.1
    have planned := course.planned_ge course.request.timeout
    have later := (course.tick course.request.timeout).planned_le_time
    have far : course.request.timeout + 1 ≤ (course.request.timeout + 1) * course.waiter.interval :=
      Nat.le_mul_of_pos_right _ positive
    simp only [deadline] at early
    omega
  · exact found

theorem exists_closes (positive : 0 < course.waiter.interval) :
    ∃ n closing state, course.Reaches n ∧ course.Closes (course.tick n) closing state := by
  obtain ⟨n, reached, stops⟩ := exists_last positive
  obtain goesOn | ⟨closing, state, closes⟩ := course.continues_or_closes (course.tick n)
  · exact absurd goesOn stops
  · exact ⟨n, closing, state, reached, closes⟩

/-- A run ends as the tick that closes it says, with a fetch at each tick before. -/
theorem run_of_closes (positive : 0 < course.waiter.interval) {n : Nat}
    (reached : course.Reaches n) (closes : course.Closes (course.tick n) ending state) :
    course.run = ({ ending with starts := course.times n ++ ending.starts }, state) := by
  rw [run_of_reaches positive reached, runFrom_of_closes positive closes]

theorem ending_eq_iff (positive : 0 < course.waiter.interval) :
    course.run.1 = ending ↔
      ∃ n closing state, course.Reaches n ∧ course.Closes (course.tick n) closing state ∧
        ending = { closing with starts := course.times n ++ closing.starts } := by
  constructor
  · rintro rfl
    obtain ⟨n, closing, state, reached, closes⟩ := exists_closes positive
    exact ⟨n, closing, state, reached, closes, by rw [run_of_closes positive reached closes]⟩
  · rintro ⟨n, closing, state, reached, closes, rfl⟩
    rw [run_of_closes positive reached closes]

end Course

end Provision.Wait
