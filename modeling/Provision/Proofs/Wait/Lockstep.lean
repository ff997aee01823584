import Provision.Proofs.Wait.Outcome
import Provision.Proofs.Wait.Pace

/-!
Waits that keep step. Two waits that find the same at every tick which both come to end at the same
tick and in the same way. Above all, how long the fetches of a wait take makes no difference to it
as long as none takes more than an interval.
-/
namespace Provision.Wait

variable {σ τ ρ ρ' : Type} [Resource ρ] [Resource ρ']

namespace Course

variable {course : Course σ ρ} {other : Course τ ρ'} {n : Nat}

theorem reaches_zero (course : Course σ ρ) : course.Reaches 0 :=
  fun m earlier => absurd earlier (Nat.not_lt_zero m)

theorem Reaches.le_fetches (positive : 0 < course.waiter.interval) (reached : course.Reaches n) :
    n ≤ course.fetches := by
  cases n with
  | zero => exact Nat.zero_le _
  | succ m =>
    have last : course.Continues (course.tick m) := reached m (Nat.lt_succ_self m)
    exact (lt_fetches_iff positive).mpr ⟨reached.of_le (Nat.le_succ m), last.1⟩

/-- Whether two waits find the same at the ticks that both come to. -/
structure KeepsStep (course : Course σ ρ) (other : Course τ ρ') : Prop where
  late_iff {n : Nat} (reached : course.Reaches n) (reached' : other.Reaches n) :
    course.deadline ≤ (course.tick n).time ↔ other.deadline ≤ (other.tick n).time
  flag_iff {n : Nat} (reached : course.Reaches n) (reached' : other.Reaches n) :
    course.IsCancelled (course.tick n) ↔ other.IsCancelled (other.tick n)
  pending_iff {n : Nat} (reached : course.Reaches n) (asks : course.Asks (course.tick n))
    (reached' : other.Reaches n) (asks' : other.Asks (other.tick n)) :
    course.request.judge (course.poll (course.tick n)).fetched = none ↔
      other.request.judge (other.poll (other.tick n)).fetched = none

inductive CloseTogether (course : Course σ ρ) (other : Course τ ρ') (n : Nat) : Prop where
  | expired (due : course.deadline ≤ (course.tick n).time)
    (due' : other.deadline ≤ (other.tick n).time)
  | cancelled (early : (course.tick n).time < course.deadline)
    (set : course.IsCancelled (course.tick n)) (early' : (other.tick n).time < other.deadline)
    (set' : other.IsCancelled (other.tick n))
  | answered {outcome : Except Error (Option ρ)} {outcome' : Except Error (Option ρ')}
    (asks : course.Asks (course.tick n))
    (judged : course.request.judge (course.poll (course.tick n)).fetched = some outcome)
    (asks' : other.Asks (other.tick n))
    (judged' : other.request.judge (other.poll (other.tick n)).fetched = some outcome')

namespace KeepsStep

theorem asks_iff (step : course.KeepsStep other) (reached : course.Reaches n)
    (reached' : other.Reaches n) : course.Asks (course.tick n) ↔ other.Asks (other.tick n) := by
  have early_iff := not_congr (step.late_iff reached reached')
  rw [Nat.not_le, Nat.not_le] at early_iff
  exact and_congr early_iff (not_congr (step.flag_iff reached reached'))

theorem continues (step : course.KeepsStep other) (reached : course.Reaches n)
    (reached' : other.Reaches n) (goesOn : course.Continues (course.tick n)) :
    other.Continues (other.tick n) := by
  obtain ⟨asks, pending⟩ := goesOn
  have asks' := (step.asks_iff reached reached').mp asks
  exact ⟨asks', (step.pending_iff reached asks reached' asks').mp pending⟩

theorem reaches (step : course.KeepsStep other) (reached : course.Reaches n) :
    other.Reaches n := by
  induction n with
  | zero => exact other.reaches_zero
  | succ n ih =>
    have before : course.Reaches n := reached.of_le (Nat.le_succ n)
    have last : course.Continues (course.tick n) := reached n (Nat.lt_succ_self n)
    exact (ih before).succ (step.continues before (ih before) last)

theorem exists_closeTogether (step : course.KeepsStep other)
    (positive : 0 < course.waiter.interval) :
    ∃ n, course.Reaches n ∧ other.Reaches n ∧ course.CloseTogether other n := by
  obtain ⟨n, closing, state, reached, closes⟩ := exists_closes positive
  have reached' := step.reaches reached
  refine ⟨n, reached, reached', ?_⟩
  cases closes with
  | expired due => exact .expired due ((step.late_iff reached reached').mp due)
  | cancelled early set =>
    refine .cancelled early set ?_ ((step.flag_iff reached reached').mp set)
    exact Nat.lt_of_not_le fun due' =>
      Nat.not_le_of_lt early ((step.late_iff reached reached').mpr due')
  | answered asks judged =>
    have asks' := (step.asks_iff reached reached').mp asks
    cases judged' : other.request.judge (other.poll (other.tick n)).fetched with
    | none =>
      have pending := (step.pending_iff reached asks reached' asks').mpr judged'
      cases judged.symm.trans pending
    | some outcome' => exact .answered asks judged asks' judged'

theorem fetches_eq (step : course.KeepsStep other) (positive : 0 < course.waiter.interval)
    (positive' : 0 < other.waiter.interval) : course.fetches = other.fetches := by
  obtain ⟨n, reached, reached', together⟩ := step.exists_closeTogether positive
  cases together with
  | expired due due' =>
    rw [fetches_of_closes positive reached (.expired due),
      fetches_of_closes positive' reached' (.expired due')]
  | cancelled early set early' set' =>
    rw [fetches_of_closes positive reached (.cancelled early set),
      fetches_of_closes positive' reached' (.cancelled early' set')]
  | answered asks judged asks' judged' =>
    rw [fetches_of_closes positive reached (.answered asks judged),
      fetches_of_closes positive' reached' (.answered asks' judged')]
    rfl

end KeepsStep

omit [Resource ρ] in
/-- Whether a tick comes too late is a matter of its number alone if all fetches are swift. -/
theorem Swift.late_iff (swift : course.Swift n) :
    course.deadline ≤ (course.tick n).time ↔
      course.request.timeout ≤ (n + 1) * course.waiter.interval := by
  obtain ⟨planned, time⟩ := swift.time_eq
  rw [time, planned, deadline]
  omega

theorem Swift.start_eq (swift : course.Swift course.fetches)
    (inside : n < course.run.1.starts.length) :
    course.run.1.starts[n] = course.began + (n + 1) * course.waiter.interval := by
  have before : course.Swift n := fun m earlier => swift m (Nat.lt_trans earlier inside)
  rw [course.start_eq n inside, before.time_eq.2, before.time_eq.1]

end Course

/-- Whether two outcomes of a wait are the same, but for the seconds that a timeout names. -/
def EndsAlike (request : Wait) (outcome other : Except Error (Option ρ)) : Prop :=
  outcome = other ∨ ∃ elapsed elapsed', outcome = .error (request.timedOut elapsed) ∧
    other = .error (request.timedOut elapsed')

namespace Course

variable {course : Course σ ρ} {other : Course τ ρ} {n : Nat}

/-- Whether two waits for the same are told the same: by the replies, one by one, and by the flag,
tick by tick, as long as both go on. -/
structure ToldAlike (course : Course σ ρ) (other : Course τ ρ) : Prop where
  request_eq : course.request = other.request
  interval_eq : course.waiter.interval = other.waiter.interval
  flag_iff {n : Nat} (reached : course.Reaches n) (reached' : other.Reaches n) :
    course.IsCancelled (course.tick n) ↔ other.IsCancelled (other.tick n)
  reply_eq {n : Nat} (inside : n < course.fetches) (inside' : n < other.fetches) :
    (course.poll (course.tick n)).fetched = (other.poll (other.tick n)).fetched

theorem ToldAlike.keepsStep (alike : course.ToldAlike other)
    (positive : 0 < course.waiter.interval) (swift : course.Swift course.fetches)
    (swift' : other.Swift other.fetches) : course.KeepsStep other := by
  have positive' : 0 < other.waiter.interval := alike.interval_eq ▸ positive
  constructor
  case late_iff =>
    intro n reached reached'
    have before : course.Swift n := fun m earlier =>
      swift m (Nat.lt_of_lt_of_le earlier (reached.le_fetches positive))
    have before' : other.Swift n := fun m earlier =>
      swift' m (Nat.lt_of_lt_of_le earlier (reached'.le_fetches positive'))
    rw [before.late_iff, before'.late_iff, alike.request_eq, alike.interval_eq]
  case flag_iff => exact alike.flag_iff
  case pending_iff =>
    intro n reached asks reached' asks'
    have inside := (lt_fetches_iff positive).mpr ⟨reached, asks⟩
    have inside' := (lt_fetches_iff positive').mpr ⟨reached', asks'⟩
    rw [alike.request_eq, alike.reply_eq inside inside']

/-- Waits for the same that are told the same end alike if they keep step. -/
theorem ToldAlike.endsAlike (alike : course.ToldAlike other)
    (positive : 0 < course.waiter.interval) (step : course.KeepsStep other) :
    course.request.EndsAlike course.run.1.outcome other.run.1.outcome := by
  have positive' : 0 < other.waiter.interval := alike.interval_eq ▸ positive
  obtain ⟨n, reached, reached', together⟩ := step.exists_closeTogether positive
  cases together with
  | expired due due' =>
    rw [run_of_closes positive reached (.expired due),
      run_of_closes positive' reached' (.expired due'), ← alike.request_eq]
    exact .inr ⟨_, _, rfl, rfl⟩
  | cancelled early set early' set' =>
    rw [run_of_closes positive reached (.cancelled early set),
      run_of_closes positive' reached' (.cancelled early' set'), ← alike.request_eq]
    exact .inl rfl
  | answered asks judged asks' judged' =>
    rw [run_of_closes positive reached (.answered asks judged),
      run_of_closes positive' reached' (.answered asks' judged')]
    have inside := (lt_fetches_iff positive).mpr ⟨reached, asks⟩
    have inside' := (lt_fetches_iff positive').mpr ⟨reached', asks'⟩
    rw [alike.request_eq, alike.reply_eq inside inside'] at judged
    exact .inl (Option.some.inj (judged.symm.trans judged'))

/-- Waits for the same that are told the same fetch at the same times after their beginning, and
end alike, however long their fetches take, as long as none takes more than an interval. -/
theorem latency_unseen (course : Course σ ρ) (other : Course τ ρ) (alike : course.ToldAlike other)
    (swift : course.Swift course.fetches) (swift' : other.Swift other.fetches) :
    (∀ n (inside : n < course.run.1.starts.length),
        course.run.1.starts[n] = course.began + (n + 1) * course.waiter.interval) ∧
      (∀ n (inside : n < other.run.1.starts.length),
        other.run.1.starts[n] = other.began + (n + 1) * course.waiter.interval) ∧
      course.run.1.starts.length = other.run.1.starts.length ∧
      course.request.EndsAlike course.run.1.outcome other.run.1.outcome := by
  refine ⟨fun n inside => swift.start_eq inside, ?_, ?_⟩
  · intro n inside
    rw [alike.interval_eq]
    exact swift'.start_eq inside
  rcases Nat.eq_zero_or_pos course.waiter.interval with none | positive
  · rw [course.run_of_no_interval none,
      other.run_of_no_interval (alike.interval_eq.symm.trans none), ← alike.request_eq]
    exact ⟨rfl, .inl rfl⟩
  · have step := alike.keepsStep positive swift swift'
    exact ⟨step.fetches_eq positive (alike.interval_eq ▸ positive), alike.endsAlike positive step⟩

/-- A wait whose fetches take no time, and one whose fetches take a whole interval each: the last of
them lands with the tick that follows and with the deadline. -/
theorem lingering_unseen :
    let registry (takes : Nat) := Registry.empty.register .vlan (lingering takes)
    let brief : Course Unit Snapshot :=
      ⟨Waiter.over (registry 0) (fun _ _ => false) 10, Wait.deploy .vlan "v-1" 30, 0, ()⟩
    let long : Course Unit Snapshot :=
      ⟨Waiter.over (registry 10) (fun _ _ => false) 10, Wait.deploy .vlan "v-1" 30, 0, ()⟩
    brief.ToldAlike long ∧ brief.Swift brief.fetches ∧ long.Swift long.fetches ∧
      long.run.1.starts = [10, 20] ∧ long.run.1.endedAt = 30 ∧ brief.run.1.starts.length = 2 ∧
      brief.request.EndsAlike brief.run.1.outcome long.run.1.outcome := by
  intro registry brief long
  have alike : brief.ToldAlike long := ⟨rfl, rfl, fun _ _ => Iff.rfl, fun _ _ => rfl⟩
  have swift : brief.Swift brief.fetches := fun n _ => Nat.le_add_right _ _
  have swift' : long.Swift long.fetches := fun n _ => Nat.le_refl _
  have reached : long.Reaches 2 := by
    intro m before
    have early : ∀ m < 2, (long.tick m).time < 30 := by decide
    have pends : long.request.Pends (.ok (some
        { id := "v-1", name := "lan", state := "PENDING_ADD", kind := .vlan : Snapshot })) :=
      ⟨_, "PENDING_ADD", rfl, ⟨rfl, rfl⟩, by decide, by decide⟩
    exact ⟨⟨early m before, Bool.false_ne_true⟩, pends.judge_eq⟩
  have ran := congrArg Prod.fst (run_of_closes (by decide) reached (.expired (by decide)))
  have unseen := (latency_unseen brief long alike swift swift').2.2
  rw [ran] at unseen ⊢
  exact ⟨alike, swift, swift', rfl, rfl, unseen⟩

end Course

end Provision.Wait
