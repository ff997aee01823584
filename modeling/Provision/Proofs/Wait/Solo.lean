import Provision.Proofs.Wait.Termination
import Provision.Wait.Crowd

/-!
A wait among others and the same wait alone. What a wait does depends on nothing but what it reads
at its ticks and what its fetches bring, so it follows, turn by turn, the steps of any wait alone
that reads and is brought the same.
-/
namespace Provision.Wait

variable {σ τ ρ : Type}

private theorem getElem?_of_longer {α : Type} {items more : List α} {n : Nat} {item : α}
    (isStart : items <+: more) (present : items[n]? = some item) : more[n]? = some item := by
  obtain ⟨inside, rfl⟩ := List.getElem?_eq_some_iff.mp present
  exact List.prefix_iff_getElem?.mp isStart n inside

private theorem getElem?_concat {α : Type} {items : List α} {n : Nat} (length : items.length = n)
    (item : α) : (items ++ [item])[n]? = some item :=
  length ▸ List.getElem?_concat_length

structure Transcript.Extends (heard more : Transcript ρ) : Prop where
  flags : heard.flags <+: more.flags
  durations : heard.durations <+: more.durations
  replies : heard.replies <+: more.replies

theorem Transcript.note_extends (waiter : Waiter σ ρ) (p : Progress σ ρ) (state : σ)
    (heard : Transcript ρ) : heard.Extends (heard.note waiter p state) := by
  have same : heard.Extends heard :=
    ⟨List.prefix_refl _, List.prefix_refl _, List.prefix_refl _⟩
  unfold note
  split
  · dsimp only
    split
    · exact same
    split
    · exact ⟨List.prefix_append _ _, List.prefix_refl _, List.prefix_refl _⟩
    · exact ⟨List.prefix_append _ _, List.prefix_append _ _, List.prefix_refl _⟩
  · exact ⟨List.prefix_refl _, List.prefix_refl _, List.prefix_append _ _⟩
  · exact same

namespace Course

/-- Whether a wait alone is for the same as one among others, and reads at its ticks and is brought
the same as that. -/
structure Replays (solo : Course τ ρ) (interval : Nat) (request : Wait × Nat)
    (heard : Transcript ρ) : Prop where
  request_eq : solo.request = request.1
  began_eq : solo.began = request.2
  interval_eq : solo.waiter.interval = interval
  flag_iff {n : Nat} {set : Bool} (read : heard.flags[n]? = some set) :
    solo.IsCancelled (solo.tick n) ↔ set = true
  lands_eq {n takes : Nat} (took : heard.durations[n]? = some takes) :
    (solo.poll (solo.tick n)).lands = (solo.tick n).time + takes
  fetched_eq {n : Nat} {reply : Except Error (Option ρ)} (got : heard.replies[n]? = some reply) :
    (solo.poll (solo.tick n)).fetched = reply

variable {solo : Course τ ρ} {interval : Nat} {request : Wait × Nat} {heard : Transcript ρ}

theorem Replays.of_extends {more : Transcript ρ} (replays : solo.Replays interval request more)
    (longer : heard.Extends more) : solo.Replays interval request heard where
  request_eq := replays.request_eq
  began_eq := replays.began_eq
  interval_eq := replays.interval_eq
  flag_iff read := replays.flag_iff (getElem?_of_longer longer.flags read)
  lands_eq took := replays.lands_eq (getElem?_of_longer longer.durations took)
  fetched_eq got := replays.fetched_eq (getElem?_of_longer longer.replies got)

/-- The wait asleep before a tick, in surroundings of any kind. -/
def sleeping (solo : Course τ ρ) (n : Nat) : Progress σ ρ where
  wait := solo.request
  began := solo.began
  stage := .idle (solo.tick n).since (solo.tick n).planned
  starts := solo.times n

/-- The wait while the fetch of a tick is under way, in surroundings of any kind. -/
def fetching (solo : Course τ ρ) (n : Nat) (land : σ → Except Error (Option ρ) × σ) :
    Progress σ ρ where
  wait := solo.request
  began := solo.began
  stage := .busy (solo.tick (n + 1)).planned (solo.poll (solo.tick n)).lands land
  starts := solo.times (n + 1)

/-- A wait among others that stands where the same wait alone does, with as much written down as
there were ticks. -/
inductive Follows (solo : Course τ ρ) : Member σ ρ → Progress τ ρ × τ → Prop where
  | asleep {n : Nat} {heard : Transcript ρ} (flags : heard.flags.length = n)
    (durations : heard.durations.length = n) (replies : heard.replies.length = n) :
    Follows solo ⟨solo.sleeping n, heard⟩ (solo.sleeping n, (solo.tick n).state)
  | flying {n : Nat} {heard : Transcript ρ} {land : σ → Except Error (Option ρ) × σ}
    {land' : τ → Except Error (Option ρ) × τ} {state : τ} (flags : heard.flags.length = n + 1)
    (durations : heard.durations.length = n + 1) (replies : heard.replies.length = n)
    (lands : land' state =
      ((solo.poll (solo.tick n)).fetched, (solo.poll (solo.tick n)).state)) :
    Follows solo ⟨solo.fetching n land, heard⟩ (solo.fetching n land', state)
  | over {outcome : Except Error (Option ρ)} {endedAt : Nat} {starts : List Nat}
    {heard : Transcript ρ} {state : τ} :
    Follows solo ⟨⟨solo.request, solo.began, .over outcome endedAt, starts⟩, heard⟩
      (⟨solo.request, solo.began, .over outcome endedAt, starts⟩, state)

theorem Follows.same {member : Member σ ρ} {place : Progress τ ρ × τ}
    (follows : solo.Follows member place) :
    member.progress.starts = place.1.starts ∧ member.progress.due? = place.1.due? ∧
      member.progress.ending? = place.1.ending? := by
  cases follows <;> exact ⟨rfl, rfl, rfl⟩

end Course

/-- A wait alone that reads and is brought what a transcript says. The state counts fetches. -/
def Transcript.replay (heard : Transcript ρ) (interval : Nat) (request : Wait × Nat) :
    Course Nat ρ where
  waiter.environment.isCancelled n _ := heard.flags.getD n false
  waiter.environment.fetch _ _ _ n :=
    (⟨heard.durations.getD n 0, fun n => (heard.replies.getD n (.ok none), n + 1)⟩, n)
  waiter.interval := interval
  request := request.1
  began := request.2
  state := 0

theorem Transcript.replay_replays (heard : Transcript ρ) (interval : Nat) (request : Wait × Nat) :
    (heard.replay interval request).Replays interval request heard := by
  have counts (n : Nat) : ((heard.replay interval request).tick n).state = n := by
    induction n with
    | zero => rfl
    | succ n ih =>
      rw [Course.tick]
      exact congrArg (· + 1) ih
  constructor
  case request_eq => rfl
  case began_eq => rfl
  case interval_eq => rfl
  case flag_iff =>
    intro n set read
    rw [Course.IsCancelled, counts]
    simp [replay, read]
  case lands_eq =>
    intro n takes took
    rw [Course.poll, counts]
    simp [replay, took]
  case fetched_eq =>
    intro n reply got
    rw [Course.poll, counts]
    simp [replay, got]

variable [Resource ρ]

namespace Progress

theorem after_succ (environment : Environment σ ρ) (interval n : Nat) (p : Progress σ ρ)
    (state : σ) :
    after environment interval (n + 1) p state =
      (after environment interval n p state).1.step environment interval
        (after environment interval n p state).2 := by
  induction n generalizing p state with
  | zero => rfl
  | succ n ih => exact ih _ _

theorem step_of_ended (environment : Environment σ ρ) (interval : Nat) {p : Progress σ ρ}
    {ending : Ending ρ} (ended : p.ending? = some ending) (state : σ) :
    p.step environment interval state = (p, state) := by
  cases stage : p.stage with
  | idle => simp [ending?, stage] at ended
  | busy => simp [ending?, stage] at ended
  | «over» => simp [step, stage]

theorem ending?_after_of_le {environment : Environment σ ρ} {interval m n : Nat} {p : Progress σ ρ}
    {state : σ} {ending : Ending ρ}
    (ended : (after environment interval m p state).1.ending? = some ending) (later : m ≤ n) :
    (after environment interval n p state).1.ending? = some ending := by
  induction n, later using Nat.le_induction with
  | base => exact ended
  | succ n _ ih => rw [after_succ, step_of_ended environment interval ih, ih]

end Progress

namespace Course

variable {solo : Course τ ρ} {waiter : Waiter σ ρ} {request : Wait × Nat} {heard : Transcript ρ}
  {state : σ}

/-- Where a wait alone stands after so many steps, and the state then. -/
def standing (solo : Course σ ρ) (k : Nat) : Progress σ ρ × σ :=
  Progress.after solo.waiter.environment solo.waiter.interval k
    (.start solo.waiter.interval solo.request solo.began) solo.state

theorem standing_succ (solo : Course σ ρ) (k : Nat) :
    solo.standing (k + 1) =
      (solo.standing k).1.step solo.waiter.environment solo.waiter.interval
        (solo.standing k).2 := Progress.after_succ _ _ _ _ _

theorem Replays.follows_start {interval : Nat} (replays : solo.Replays interval request heard) :
    solo.Follows (⟨.start interval request.1 request.2, {}⟩ : Member σ ρ) (solo.standing 0) := by
  rw [← replays.request_eq, ← replays.began_eq, ← replays.interval_eq]
  exact .asleep (n := 0) rfl rfl rfl

private theorem follows_of_sleeping {n : Nat} (flags : heard.flags.length = n)
    (durations : heard.durations.length = n) (replies : heard.replies.length = n)
    (replays : solo.Replays waiter.interval request (heard.note waiter (solo.sleeping n) state)) :
    solo.Follows (Member.step waiter ⟨solo.sleeping n, heard⟩ state).1
      ((solo.sleeping n).step solo.waiter.environment solo.waiter.interval
        (solo.tick n).state) := by
  have interval := replays.interval_eq
  have time : max (solo.tick n).planned (solo.tick n).since = (solo.tick n).time := rfl
  have deadline (α : Type) : (solo.sleeping n : Progress α ρ).deadline = solo.deadline := rfl
  have stage (α : Type) : (solo.sleeping n : Progress α ρ).stage =
      .idle (solo.tick n).since (solo.tick n).planned := rfl
  simp only [Transcript.note, stage, time, deadline] at replays
  simp only [Member.step, Transcript.note, Progress.step, Progress.wake, stage, time, deadline,
    interval]
  by_cases none : waiter.interval = 0
  · simp only [none, if_true]
    exact .over
  by_cases late : solo.deadline ≤ (solo.tick n).time
  · simp only [none, late, if_true, if_false]
    exact .over
  by_cases set : waiter.environment.isCancelled state (solo.tick n).time
  · simp only [none, late, set, if_true, if_false, or_self] at replays ⊢
    have called : solo.waiter.environment.isCancelled (solo.tick n).state (solo.tick n).time :=
      (replays.flag_iff (getElem?_concat flags true)).mpr rfl
    simp only [called, if_true]
    exact .over
  · simp only [none, late, set, if_false, or_self, Bool.false_eq_true] at replays ⊢
    have clear : ¬ solo.waiter.environment.isCancelled (solo.tick n).state (solo.tick n).time :=
      fun called =>
        Bool.false_ne_true ((replays.flag_iff (getElem?_concat flags false)).mp called)
    have lands := replays.lands_eq (getElem?_concat durations _)
    have starts (α : Type) : (solo.sleeping n : Progress α ρ).starts ++ [(solo.tick n).time] =
        solo.times (n + 1) := (solo.times_succ n).symm
    simp only [clear, starts, ← lands]
    rw [← interval]
    exact .flying (by simp [flags]) (by simp [durations]) replies rfl

/-- What a fetch brings is judged in the same way for both. -/
private theorem follows_of_fetching {n : Nat} {land : σ → Except Error (Option ρ) × σ}
    {land' : τ → Except Error (Option ρ) × τ} {state' : τ} (flags : heard.flags.length = n + 1)
    (durations : heard.durations.length = n + 1) (replies : heard.replies.length = n)
    (lands : land' state' =
      ((solo.poll (solo.tick n)).fetched, (solo.poll (solo.tick n)).state))
    (replays : solo.Replays waiter.interval request
      (heard.note waiter (solo.fetching n land) state)) :
    solo.Follows (Member.step waiter ⟨solo.fetching n land, heard⟩ state).1
      ((solo.fetching n land').step solo.waiter.environment solo.waiter.interval state') := by
  have fetched := replays.fetched_eq (getElem?_concat replies (land state).1)
  simp only [fetching, Member.step, Transcript.note, Progress.step, Progress.settle, lands,
    ← fetched]
  cases judged : solo.request.judge (solo.poll (solo.tick n)).fetched with
  | none => exact .asleep (n := n + 1) flags durations (by simp [replies])
  | some outcome => exact .over

/-- A turn of a wait among others is a step of the wait alone. -/
theorem Follows.step {member : Member σ ρ} {place : Progress τ ρ × τ}
    (follows : solo.Follows member place)
    (replays : solo.Replays waiter.interval request (member.step waiter state).1.heard) :
    solo.Follows (member.step waiter state).1
      (place.1.step solo.waiter.environment solo.waiter.interval place.2) := by
  cases follows with
  | asleep flags durations replies => exact follows_of_sleeping flags durations replies replays
  | flying flags durations replies lands =>
    exact follows_of_fetching flags durations replies lands replays
  | «over» => exact .over

/-- Whether a wait among others stands where the same wait alone does after so many steps, and
ends as that one does. -/
structure Matches (solo : Course τ ρ) (k : Nat) (p : Progress σ ρ) : Prop where
  starts_eq : p.starts = (solo.after k).starts
  due_eq : p.due? = (solo.after k).due?
  ending_eq : p.ending? = (solo.after k).ending?
  ran {ending : Ending ρ} (ended : p.ending? = some ending) : ending = solo.run.1
  ends (enough : 2 * solo.fetches + 1 ≤ k) : p.ending? = some solo.run.1

theorem ending?_after_of_fetches_le (solo : Course τ ρ) {k : Nat}
    (enough : 2 * solo.fetches + 1 ≤ k) : (solo.after k).ending? = some solo.run.1 := by
  obtain ⟨m, bound, ended⟩ := solo.exists_after
  exact Progress.ending?_after_of_le ended (Nat.le_trans bound enough)

theorem eq_run_of_ending?_after {k : Nat} {ending : Ending ρ}
    (ended : (solo.after k).ending? = some ending) : ending = solo.run.1 := by
  have later := Progress.ending?_after_of_le ended (Nat.le_max_left k (2 * solo.fetches + 1))
  have last := solo.ending?_after_of_fetches_le (Nat.le_max_right k (2 * solo.fetches + 1))
  exact Option.some.inj (later.symm.trans last)

theorem Follows.matches {member : Member σ ρ} {k : Nat}
    (follows : solo.Follows member (solo.standing k)) : solo.Matches k member.progress := by
  obtain ⟨starts, due, ending⟩ := follows.same
  refine ⟨starts, due, ending, fun ended => ?_, fun enough => ?_⟩
  · exact eq_run_of_ending?_after (ending.symm.trans ended)
  · exact ending.trans (solo.ending?_after_of_fetches_le enough)

end Course

end Provision.Wait
