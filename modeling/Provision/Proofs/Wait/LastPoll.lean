import Provision.Proofs.Wait.Deadline

namespace Provision

variable {σ ρ : Type} [Resource ρ]

namespace Wait.Course

def LastBrings (course : Course σ ρ) (fetched : Except Error (Option ρ)) : Prop :=
  ∃ n, course.fetches = n + 1 ∧ (course.poll (course.tick n)).fetched = fetched

/-- Whether the last poll found nothing, or no backup where that is looked at. -/
def LastMisses (course : Course σ ρ) (source : StateSource) : Prop :=
  ∃ found, course.LastBrings (.ok found) ∧ source.Misses found

/-- Whether the last poll found a resource in a state, or its backup where that is looked at. -/
def LastShows (course : Course σ ρ) (source : StateSource) (resource : ρ) (state : String) : Prop :=
  course.LastBrings (.ok (some resource)) ∧ source.Shows resource state

variable (course : Course σ ρ)

theorem outcome_eq_ok_iff {found : Option ρ} :
    course.run.1.outcome = .ok found ↔
      ∃ fetched, course.LastBrings fetched ∧ course.request.Settles fetched (.ok found) := by
  rcases Nat.eq_zero_or_pos course.waiter.interval with none | positive
  · have ran := course.run_of_no_interval none
    have idle : course.fetches = 0 := by rw [fetches, ran]; rfl
    rw [ran]
    constructor
    · intro failed
      cases failed
    · rintro ⟨fetched, ⟨n, count, -⟩, -⟩
      cases idle.symm.trans count
  constructor
  · intro ended
    obtain ⟨n, closing, state, reached, closes⟩ := exists_closes positive
    have count := fetches_of_closes positive reached closes
    rw [run_of_closes positive reached closes] at ended
    cases closes with
    | expired due => cases ended
    | cancelled early set => cases ended
    | answered asks judged =>
      cases ended
      exact ⟨_, ⟨n, count, rfl⟩, judge_eq_some_iff.mp judged⟩
  · rintro ⟨fetched, ⟨n, count, rfl⟩, settles⟩
    have inside : n < course.fetches := count ▸ Nat.lt_succ_self n
    rw [run_of_settles positive inside settles]

theorem outcome_eq_none_iff :
    course.run.1.outcome = .ok none ↔
      course.request.deleting = true ∧ course.LastMisses course.request.source := by
  rw [outcome_eq_ok_iff]
  constructor
  · rintro ⟨fetched, last, settles⟩
    obtain ⟨found, rfl, missing, wanted⟩ := settles.of_none
    exact ⟨wanted, found, last, missing⟩
  · rintro ⟨wanted, found, last, missing⟩
    exact ⟨_, last, .gone missing wanted⟩

theorem outcome_eq_some_iff {resource : ρ} :
    course.run.1.outcome = .ok (some resource) ↔
      course.LastShows course.request.source resource course.request.target.text := by
  rw [outcome_eq_ok_iff]
  constructor
  · rintro ⟨fetched, last, settles⟩
    cases settles with
    | settled shows => exact ⟨last, shows⟩
  · rintro ⟨last, shows⟩
    exact ⟨_, last, .settled shows⟩

/-- A wait with a time between its polls fails by the deadline, by the flag, or by its last poll. -/
theorem fails_of_outcome (positive : 0 < course.waiter.interval) {error : Error}
    (failed : course.run.1.outcome = .error error) :
    (∃ elapsed, error = course.request.timedOut elapsed) ∨
      error = .cancelled course.request.description ∨
      ∃ fetched, course.LastBrings fetched ∧ course.request.Settles fetched (.error error) := by
  obtain ⟨n, closing, state, reached, closes⟩ := course.exists_closes positive
  have count := fetches_of_closes positive reached closes
  rw [run_of_closes positive reached closes] at failed
  cases closes with
  | expired due =>
    cases failed
    exact .inl ⟨_, rfl⟩
  | cancelled early set =>
    cases failed
    exact .inr (.inl rfl)
  | answered asks judged =>
    cases failed
    exact .inr (.inr ⟨_, ⟨n, count, rfl⟩, judge_eq_some_iff.mp judged⟩)

end Wait.Course

end Provision
