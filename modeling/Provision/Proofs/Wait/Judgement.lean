import Provision.Wait.Basic

namespace Provision

variable {ρ : Type} [Resource ρ]

/-- Whether nothing was found: no resource, a trace of one, or no backup where that is looked at. -/
def StateSource.Misses (source : StateSource) (found : Option ρ) : Prop :=
  ∀ resource ∈ found, (snapshot resource).deleted = true ∨
    source = .backup ∧ (snapshot resource).backupState = none

/-- Whether a live resource is in a state, or its backup where that is looked at. -/
def StateSource.Shows (source : StateSource) (resource : ρ) (state : String) : Prop :=
  (snapshot resource).deleted = false ∧
    match source with
    | .resource => (snapshot resource).state = state
    | .backup => (snapshot resource).backupState = some state

theorem StateSource.observe_eq_none_iff {source : StateSource} {found : Option ρ} :
    source.observe found = none ↔ source.Misses found := by
  cases found with
  | none => simp [observe, Misses]
  | some resource =>
    cases deleted : (snapshot resource).deleted <;> cases source <;>
      simp [observe, Misses, deleted]

theorem StateSource.observe_eq_some_iff {source : StateSource} {found : Option ρ}
    {state : String} :
    source.observe found = some state ↔
      ∃ resource, found = some resource ∧ source.Shows resource state := by
  cases found with
  | none => simp [observe]
  | some resource =>
    cases deleted : (snapshot resource).deleted <;> cases source <;>
      simp [observe, Shows, deleted]

/-- The texts of the states in which an operation is under way. -/
def State.pendingTexts : List String := ["PENDING_ADD", "PENDING_CHANGE", "PENDING_DELETE"]

theorem State.isPending_ofString?_iff {text : String} :
    (State.ofString? text).any State.isPending = true ↔ text ∈ State.pendingTexts := by
  constructor
  · intro pending
    obtain ⟨state, found, underWay⟩ := (Option.any_eq_true _ _).mp pending
    rw [ofString?] at found
    have same : state.text = text := by simpa using List.find?_some found
    subst same
    cases state <;> revert underWay <;> decide
  · intro member
    simp only [pendingTexts, List.mem_cons, List.not_mem_nil, or_false] at member
    rcases member with rfl | rfl | rfl <;> decide

namespace Wait

inductive Settles (request : Wait) : Except Error (Option ρ) → Except Error (Option ρ) → Prop where
  | failed (error : Error) : Settles request (.error error) (.error error)
  | gone {found : Option ρ} (missing : request.source.Misses found)
    (wanted : request.deleting = true) : Settles request (.ok found) (.ok none)
  | lost {found : Option ρ} (missing : request.source.Misses found)
    (unwanted : request.deleting = false) : Settles request (.ok found) (.error request.notFound)
  | settled {resource : ρ} (shows : request.source.Shows resource request.target.text) :
    Settles request (.ok (some resource)) (.ok (some resource))
  | unexpected {resource : ρ} {state : String} (shows : request.source.Shows resource state)
    (other : state ≠ request.target.text) (unknown : state ∉ State.pendingTexts) :
    Settles request (.ok (some resource))
      (.error (request.unexpected (snapshot resource).name state))

def Pends (request : Wait) (fetched : Except Error (Option ρ)) : Prop :=
  ∃ resource state, fetched = .ok (some resource) ∧ request.source.Shows resource state ∧
    state ≠ request.target.text ∧ state ∈ State.pendingTexts

variable {request : Wait} {fetched outcome : Except Error (Option ρ)}

theorem judge_of_misses {found : Option ρ} (missing : request.source.Misses found) :
    request.judge (.ok found) =
      some (if request.deleting then .ok none else .error request.notFound) := by
  simp [judge, StateSource.observe_eq_none_iff.mpr missing]

theorem judge_of_shows {resource : ρ} {state : String}
    (shown : request.source.Shows resource state) :
    request.judge (.ok (some resource)) =
      if state = request.target.text then some (.ok (some resource))
      else if state ∈ State.pendingTexts then none
      else some (.error (request.unexpected (snapshot resource).name state)) := by
  have observed : request.source.observe (some resource) = some state :=
    StateSource.observe_eq_some_iff.mpr ⟨resource, rfl, shown⟩
  simp only [judge, observed, State.isPending_ofString?_iff]
  rfl

theorem misses_or_shows (source : StateSource) (found : Option ρ) :
    source.Misses found ∨
      ∃ resource state, found = some resource ∧ source.Shows resource state := by
  cases observed : source.observe found with
  | none => exact .inl (StateSource.observe_eq_none_iff.mp observed)
  | some state =>
    obtain ⟨resource, same, shown⟩ := StateSource.observe_eq_some_iff.mp observed
    exact .inr ⟨resource, state, same, shown⟩

theorem Settles.judge_eq (settles : request.Settles fetched outcome) :
    request.judge fetched = some outcome := by
  cases settles with
  | failed error => rfl
  | gone missing wanted => simp [judge_of_misses missing, wanted]
  | lost missing unwanted => simp [judge_of_misses missing, unwanted]
  | settled shown => simp [judge_of_shows shown]
  | unexpected shown other unknown => simp [judge_of_shows shown, other, unknown]

/-- A wait ends well without a resource only if it was to go away and nothing was found. -/
theorem Settles.of_none (settles : request.Settles fetched (.ok none)) :
    ∃ found, fetched = .ok found ∧ request.source.Misses found ∧ request.deleting = true := by
  cases settles with
  | gone missing wanted => exact ⟨_, rfl, missing, wanted⟩

theorem Pends.judge_eq (pends : request.Pends fetched) : request.judge fetched = none := by
  obtain ⟨resource, state, rfl, shown, other, known⟩ := pends
  simp [judge_of_shows shown, other, known]

theorem pends_or_settles (request : Wait) (fetched : Except Error (Option ρ)) :
    request.Pends fetched ∨ ∃ outcome, request.Settles fetched outcome := by
  cases fetched with
  | error error => exact .inr ⟨_, .failed error⟩
  | ok found =>
    obtain missing | ⟨resource, state, rfl, shown⟩ := misses_or_shows request.source found
    · cases wanted : request.deleting with
      | true => exact .inr ⟨_, .gone missing wanted⟩
      | false => exact .inr ⟨_, .lost missing wanted⟩
    · by_cases same : state = request.target.text
      · subst same
        exact .inr ⟨_, .settled shown⟩
      · by_cases known : state ∈ State.pendingTexts
        · exact .inl ⟨resource, state, rfl, shown, same, known⟩
        · exact .inr ⟨_, .unexpected shown same known⟩

theorem judge_eq_none_iff : request.judge fetched = none ↔ request.Pends fetched := by
  constructor
  · intro unjudged
    obtain pends | ⟨outcome, settles⟩ := request.pends_or_settles fetched
    · exact pends
    · simp [settles.judge_eq] at unjudged
  · exact Pends.judge_eq

theorem judge_eq_some_iff : request.judge fetched = some outcome ↔
    request.Settles fetched outcome := by
  constructor
  · intro judged
    obtain pends | ⟨other, settles⟩ := request.pends_or_settles fetched
    · simp [pends.judge_eq] at judged
    · cases Option.some.inj (settles.judge_eq.symm.trans judged)
      exact settles
  · exact Settles.judge_eq

end Wait

end Provision
