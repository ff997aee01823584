import Provision.Resource.Registry
import Provision.Wait.Basic

/-!
How a wait goes on in time. It polls at a fixed interval: it sleeps until the next tick, looks at
the flag that calls waits off, fetches the resource and judges it. The deadline is looked at only
between polls, and at a tick it goes first. Times are in milliseconds. Several waits may run at once
in one environment; what they share is the environment's state.
-/
namespace Provision.Wait

variable {σ ρ : Type}

/-- A fetch under way: how long it takes, and what it brings and does once it is done. -/
structure Flight (σ ρ : Type) where
  takes : Nat
  land : σ → Except Error (Option ρ) × σ

/-- What surrounds a wait: the flag, and a way to fetch, both depending on a state and a time. -/
structure Environment (σ ρ : Type) where
  isCancelled : σ → Nat → Bool
  fetch : Kind → String → Nat → σ → Flight σ ρ × σ

/-- How a kind of resource is fetched by its identifier, from a given time on. -/
abbrev Launcher (σ ρ : Type) := String → Nat → σ → Flight σ ρ × σ

def launch [Resource ρ] (registry : Registry (Launcher σ ρ)) (kind : Kind) (id : String) (now : Nat)
    (state : σ) : Flight σ ρ × σ :=
  match registry.lookup kind with
  | .error error => (⟨0, fun state => (.error error, state)⟩, state)
  | .ok launcher =>
    let (flight, state) := launcher id now state
    (⟨flight.takes, fun state =>
      let (fetched, state) := flight.land state
      (fetched.bind (Registry.accept kind id), state)⟩, state)

inductive Stage (σ ρ : Type) where
  /-- It sleeps since a time until the planned tick or the deadline. -/
  | idle (since planned : Nat)
  /-- A fetch is under way and will land; then the next tick is planned. -/
  | busy (planned lands : Nat) (land : σ → Except Error (Option ρ) × σ)
  | over (outcome : Except Error (Option ρ)) (endedAt : Nat)

/-- A wait that has begun, and the times at which it has fetched. -/
structure Progress (σ ρ : Type) where
  wait : Wait
  began : Nat
  stage : Stage σ ρ
  starts : List Nat

/-- How a wait has ended, when, and at which times it fetched. -/
structure Ending (ρ : Type) where
  outcome : Except Error (Option ρ)
  endedAt : Nat
  starts : List Nat

/-- How late a tick may be without the next one being put off. -/
def tolerance : Nat := 5

/-- The tick after one that was planned and came at a time. -/
def nextTick (interval planned came : Nat) : Nat :=
  if came > planned + tolerance then came + interval else planned + interval

namespace Progress

/-- A wait that begins. The first tick is one interval away. -/
def start (interval : Nat) (wait : Wait) (now : Nat) : Progress σ ρ :=
  { wait, began := now, stage := .idle now (now + interval), starts := [] }

def deadline (p : Progress σ ρ) : Nat := p.began + p.wait.timeout

def due? (p : Progress σ ρ) : Option Nat :=
  match p.stage with
  | .idle since planned => some (max since (min p.deadline planned))
  | .busy _ lands _ => some lands
  | .over .. => none

def finish (p : Progress σ ρ) (outcome : Except Error (Option ρ)) (now : Nat) : Progress σ ρ :=
  { p with stage := .over outcome now }

/-- The end of a sleep: the deadline goes before the flag, and the flag before the fetch. -/
def wake (environment : Environment σ ρ) (interval : Nat) (p : Progress σ ρ) (since planned : Nat)
    (state : σ) : Progress σ ρ × σ :=
  let tick := max planned since
  if interval = 0 then (p.finish (.error p.wait.noInterval) since, state)
  else if p.deadline ≤ tick then
    let now := max p.deadline since
    (p.finish (.error (p.wait.timedOut (now - p.began))) now, state)
  else if environment.isCancelled state tick then
    (p.finish (.error (.cancelled p.wait.description)) tick, state)
  else
    let (flight, state) := environment.fetch p.wait.kind p.wait.id tick state
    ({ p with
        stage := .busy (nextTick interval planned tick) (tick + flight.takes) flight.land
        starts := p.starts ++ [tick] }, state)

def settle [Resource ρ] (p : Progress σ ρ) (planned lands : Nat)
    (fetched : Except Error (Option ρ)) : Progress σ ρ :=
  match p.wait.judge fetched with
  | some outcome => p.finish outcome lands
  | none => { p with stage := .idle lands planned }

def step [Resource ρ] (environment : Environment σ ρ) (interval : Nat) (p : Progress σ ρ)
    (state : σ) : Progress σ ρ × σ :=
  match p.stage with
  | .idle since planned => p.wake environment interval since planned state
  | .busy planned lands land =>
    let (fetched, state) := land state
    (p.settle planned lands fetched, state)
  | .over .. => (p, state)

/-- A bound on the steps that are left. -/
def remaining (p : Progress σ ρ) : Nat :=
  match p.stage with
  | .idle _ planned => 2 * (p.deadline - planned) + 1
  | .busy planned _ _ => 2 * (p.deadline - planned) + 2
  | .over .. => 0

private theorem nextTick_gt {interval planned came : Nat} (positive : interval ≠ 0) :
    planned < nextTick interval planned came := by
  unfold nextTick
  split <;> omega

private theorem remaining_wake_lt (environment : Environment σ ρ) (interval : Nat)
    (p : Progress σ ρ) (since planned : Nat) (state : σ) :
    (p.wake environment interval since planned state).1.remaining <
      2 * (p.deadline - planned) + 1 := by
  unfold wake
  dsimp only
  split
  · simp [finish, remaining]
  split
  · simp [finish, remaining]
  split
  · simp [finish, remaining]
  rename_i positive early _
  have later : planned < nextTick interval planned (max planned since) := nextTick_gt positive
  have sooner : planned < p.deadline :=
    Nat.lt_of_le_of_lt (Nat.le_max_left planned since) (Nat.lt_of_not_le early)
  simp only [remaining, deadline] at *
  omega

theorem remaining_step_lt [Resource ρ] (environment : Environment σ ρ) (interval : Nat)
    (p : Progress σ ρ) (state : σ) (active : p.due?.isSome) :
    (p.step environment interval state).1.remaining < p.remaining := by
  unfold step
  split
  case h_1 since planned asleep =>
    have bound := remaining_wake_lt environment interval p since planned state
    have own : p.remaining = 2 * (p.deadline - planned) + 1 := by simp [remaining, asleep]
    rwa [own]
  case h_2 planned lands land flying =>
    have own : p.remaining = 2 * (p.deadline - planned) + 2 := by simp [remaining, flying]
    rw [own]
    dsimp only
    unfold settle
    split
    · simp [finish, remaining]
    · simp [remaining, deadline]
  case h_3 outcome endedAt ended => simp [due?, ended] at active

def run [Resource ρ] (environment : Environment σ ρ) (interval : Nat) (p : Progress σ ρ)
    (state : σ) : Ending ρ × σ :=
  match ended : p.stage with
  | .over outcome endedAt => (⟨outcome, endedAt, p.starts⟩, state)
  | .idle since planned =>
    have : (p.step environment interval state).1.remaining < p.remaining :=
      remaining_step_lt environment interval p state (by simp [due?, ended])
    run environment interval (p.step environment interval state).1
      (p.step environment interval state).2
  | .busy planned lands land =>
    have : (p.step environment interval state).1.remaining < p.remaining :=
      remaining_step_lt environment interval p state (by simp [due?, ended])
    run environment interval (p.step environment interval state).1
      (p.step environment interval state).2
termination_by p.remaining

def ending? (p : Progress σ ρ) : Option (Ending ρ) :=
  match p.stage with
  | .over outcome endedAt => some ⟨outcome, endedAt, p.starts⟩
  | _ => none

end Progress

def nextDue? (waits : List (Progress σ ρ)) : Option Nat := (waits.filterMap Progress.due?).min?

/-- Let the first of the waits that are due at a time go on. -/
def stepFirst [Resource ρ] (environment : Environment σ ρ) (interval now : Nat) :
    List (Progress σ ρ) → σ → List (Progress σ ρ) × σ
  | [], state => ([], state)
  | p :: waits, state =>
    if p.due? = some now then
      let (p, state) := p.step environment interval state
      (p :: waits, state)
    else
      let (waits, state) := stepFirst environment interval now waits state
      (p :: waits, state)

/-- A bound on the steps that are left of several waits. -/
def remaining (waits : List (Progress σ ρ)) : Nat :=
  waits.foldr (fun p rest => p.remaining + rest) 0

private theorem remaining_stepFirst_lt [Resource ρ] (environment : Environment σ ρ)
    (interval now : Nat) (waits : List (Progress σ ρ)) (state : σ)
    (due : now ∈ waits.filterMap Progress.due?) :
    remaining (stepFirst environment interval now waits state).1 < remaining waits := by
  induction waits generalizing state with
  | nil => simp at due
  | cons p waits ih =>
    unfold stepFirst
    split
    case isTrue first =>
      have less := Progress.remaining_step_lt environment interval p state (by simp [first])
      simp only [remaining, List.foldr_cons]
      omega
    case isFalse later =>
      have rest : now ∈ waits.filterMap Progress.due? := by
        obtain ⟨q, member, dueAt⟩ := List.mem_filterMap.mp due
        rcases List.mem_cons.mp member with same | member
        · exact absurd (same ▸ dueAt) later
        · exact List.mem_filterMap.mpr ⟨q, member, dueAt⟩
      have less := ih state rest
      simp only [remaining, List.foldr_cons] at less ⊢
      omega

/-- Let several waits go on until all have ended. Of those that are due at the same time the first
in the list goes first. -/
def runAll [Resource ρ] (environment : Environment σ ρ) (interval : Nat)
    (waits : List (Progress σ ρ)) (state : σ) : List (Progress σ ρ) × σ :=
  match due : nextDue? waits with
  | none => (waits, state)
  | some now =>
    have : remaining (stepFirst environment interval now waits state).1 < remaining waits :=
      remaining_stepFirst_lt environment interval now waits state (List.min?_mem due)
    runAll environment interval (stepFirst environment interval now waits state).1
      (stepFirst environment interval now waits state).2
termination_by remaining waits

end Provision.Wait
