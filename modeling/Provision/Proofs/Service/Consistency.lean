import Provision.Proofs.Service.Standing

/-!
The invariant of calls that share what is known of the organization: each call stands as what it has
sent led to, one of them at most is looking up the organization, and nothing is known but what was
given or what a lookup named. Every turn keeps it.
-/
namespace Provision.Service

namespace Pool

def sentBy {α : Type} (pool : Pool α) (i : Nat) : List Dispatch :=
  pool.dispatches.filter fun dispatch => dispatch.sender = i

def IsLooking {α : Type} (pool : Pool α) (i : Nat) : Prop :=
  ∃ task, pool.tasks[i]? = some task ∧ task.IsLooking

/-- Each call stands as what it has sent led to, and one of them at most is looking up the
organization. -/
structure Placed (endpoint : Endpoint) (calls : List Call) (pool : Pool Call.Result) : Prop where
  stands {i : Nat} {task : Task Call.Result} (present : pool.tasks[i]? = some task) :
    ∃ call, calls[i]? = some call ∧
      task.Stands endpoint call pool.session.organizationId (pool.sentBy i)
  sender_lt : ∀ dispatch ∈ pool.dispatches, dispatch.sender < pool.tasks.length
  looker_iff (i : Nat) : pool.looker = some i ↔ pool.IsLooking i

/-- What is known of the organization is what was given or what the last lookup named. -/
structure Informed (endpoint : Endpoint) (pool : Pool Call.Result) : Prop where
  asked : ∀ dispatch ∈ pool.dispatches, dispatch.isLookup = true →
    endpoint.lookup.message = .ok dispatch.message
  unknown {i : Nat} (looks : pool.looker = some i) : pool.session.organizationId = none
  given {id : String} (isGiven : endpoint.organizationId = some id) :
    pool.session.organizationId = some id ∧
      ∀ dispatch ∈ pool.dispatches, dispatch.isLookup = false
  origin {id : String} (known : pool.session.organizationId = some id) :
    endpoint.organizationId = some id ∨ ∃ dispatch ∈ pool.dispatches, dispatch.Names id
  landed {dispatch : Dispatch} {id : String} (sent : dispatch ∈ pool.dispatches)
    (names : dispatch.Names id) :
    pool.looker = some dispatch.sender ∨ pool.session.organizationId = some id
  last : pool.dispatches.Pairwise fun earlier later =>
    ∀ id, earlier.Names id → later.isLookup = false

variable {endpoint : Endpoint} {calls : List Call} {network : Network}
  {pool later : Pool Call.Result} {i : Nat}

theorem Placed.of_turn (placed : pool.Placed endpoint calls) {task other : Task Call.Result}
    (present : pool.tasks[i]? = some task) (tasks : later.tasks = pool.tasks.set i other)
    {more : List Dispatch} (dispatches : later.dispatches = pool.dispatches ++ more)
    (own : ∀ dispatch ∈ more, dispatch.sender = i)
    (kept : ∀ id, pool.session.organizationId = some id → later.session.organizationId = some id)
    (stands : ∀ call, calls[i]? = some call →
      other.Stands endpoint call later.session.organizationId (pool.sentBy i ++ more))
    (self : later.looker = some i ↔ other.IsLooking)
    (others : ∀ j, j ≠ i → (later.looker = some j ↔ pool.looker = some j)) :
    later.Placed endpoint calls := by
  obtain ⟨inside, _⟩ := List.getElem?_eq_some_iff.mp present
  -- What the others have sent and where they stand is as before, for `more` is of `i` alone.
  have here : later.tasks[i]? = some other := by
    rw [tasks]
    exact getElem?_set_of_present present other
  have elsewhere {j : Nat} (apart : j ≠ i) : later.tasks[j]? = pool.tasks[j]? := by
    rw [tasks, List.getElem?_set_ne (Ne.symm apart)]
  constructor
  case stands =>
    intro j found there
    by_cases same : j = i
    · subst same
      cases here.symm.trans there
      obtain ⟨call, isCall, _⟩ := placed.stands present
      have every : more.filter (fun dispatch => dispatch.sender = j) = more :=
        List.filter_eq_self.mpr (by simpa using own)
      have all : later.sentBy j = pool.sentBy j ++ more := by
        simp only [sentBy, dispatches, List.filter_append, every]
      exact ⟨call, isCall, all ▸ stands call isCall⟩
    · rw [elsewhere same] at there
      obtain ⟨call, isCall, before⟩ := placed.stands there
      have none : more.filter (fun dispatch => dispatch.sender = j) = [] := by
        apply List.filter_eq_nil_iff.mpr
        intro dispatch member
        simpa [own dispatch member] using Ne.symm same
      have all : later.sentBy j = pool.sentBy j := by
        simp only [sentBy, dispatches, List.filter_append, none, List.append_nil]
      exact ⟨call, isCall, all ▸ before.mono kept⟩
  case sender_lt =>
    intro dispatch member
    rw [tasks, List.length_set]
    rw [dispatches] at member
    rcases List.mem_append.mp member with before | new
    · exact placed.sender_lt dispatch before
    · rw [own dispatch new]
      exact inside
  case looker_iff =>
    intro j
    by_cases same : j = i
    · subst same
      rw [self, IsLooking, here]
      simp
    · rw [others j same, placed.looker_iff, IsLooking, IsLooking, elsewhere same]

theorem Placed.looker_iff_isLooking (placed : pool.Placed endpoint calls)
    {task : Task Call.Result} (present : pool.tasks[i]? = some task) :
    pool.looker = some i ↔ task.IsLooking := by
  rw [placed.looker_iff, IsLooking, present]
  simp

/-- A turn that neither begins nor ends a lookup leaves the others as they stand. -/
theorem Placed.of_calm_turn (placed : pool.Placed endpoint calls) {task other : Task Call.Result}
    (present : pool.tasks[i]? = some task) (tasks : later.tasks = pool.tasks.set i other)
    (calm : ¬ task.IsLooking) (stillCalm : ¬ other.IsLooking)
    (known : later.session.organizationId = pool.session.organizationId)
    (looker : later.looker = pool.looker) {more : List Dispatch}
    (dispatches : later.dispatches = pool.dispatches ++ more)
    (own : ∀ dispatch ∈ more, dispatch.sender = i)
    (stands : ∀ call, calls[i]? = some call →
      other.Stands endpoint call pool.session.organizationId (pool.sentBy i ++ more)) :
    later.Placed endpoint calls := by
  refine placed.of_turn present tasks dispatches own ?_ ?_ ?_ ?_
  · exact fun id isKnown => known.trans isKnown
  · exact known ▸ stands
  · rw [looker, placed.looker_iff_isLooking present]
    exact iff_of_false calm stillCalm
  · exact fun j _ => looker ▸ Iff.rfl

theorem Informed.of_calm_turn (informed : pool.Informed endpoint)
    (known : later.session.organizationId = pool.session.organizationId)
    (looker : later.looker = pool.looker) {more : List Dispatch}
    (dispatches : later.dispatches = pool.dispatches ++ more)
    (others : ∀ dispatch ∈ more, dispatch.isLookup = false) : later.Informed endpoint := by
  constructor
  case asked =>
    intro dispatch member isLookup
    rw [dispatches] at member
    rcases List.mem_append.mp member with before | new
    · exact informed.asked dispatch before isLookup
    · cases isLookup.symm.trans (others dispatch new)
  case unknown =>
    intro j looks
    rw [known]
    exact informed.unknown (looker ▸ looks)
  case given =>
    intro id isGiven
    obtain ⟨isKnown, none⟩ := informed.given isGiven
    refine ⟨known.trans isKnown, fun dispatch member => ?_⟩
    rw [dispatches] at member
    rcases List.mem_append.mp member with before | new
    · exact none dispatch before
    · exact others dispatch new
  case origin =>
    intro id isKnown
    rw [known] at isKnown
    rcases informed.origin isKnown with isGiven | ⟨dispatch, member, names⟩
    · exact .inl isGiven
    · exact .inr ⟨dispatch, dispatches ▸ List.mem_append_left more member, names⟩
  case landed =>
    intro dispatch id member names
    rw [known, looker]
    rw [dispatches] at member
    rcases List.mem_append.mp member with before | new
    · exact informed.landed before names
    · cases names.1.symm.trans (others dispatch new)
  case last =>
    rw [dispatches]
    refine List.pairwise_append.mpr ⟨informed.last, ?_, ?_⟩
    · exact List.pairwise_iff_getElem.mpr fun _ _ _ inside _ _ _ =>
        others _ (List.getElem_mem inside)
    · exact fun _ _ dispatch new _ _ => others dispatch new

/-- A lookup begins only as long as none has named the organization. -/
theorem Informed.of_asking (informed : pool.Informed endpoint)
    (unknown : pool.session.organizationId = none) (free : pool.looker = none)
    (known : later.session.organizationId = none) (looker : later.looker = some i)
    {dispatch : Dispatch} (own : dispatch.sender = i)
    (sendable : endpoint.lookup.message = .ok dispatch.message)
    (dispatches : later.dispatches = pool.dispatches ++ [dispatch]) : later.Informed endpoint := by
  have silent {earlier : Dispatch} (member : earlier ∈ pool.dispatches) {id : String} :
      ¬ earlier.Names id := by
    intro names
    rcases informed.landed member names with looks | isKnown
    · cases free.symm.trans looks
    · cases unknown.symm.trans isKnown
  constructor
  case asked =>
    intro other member isLookup
    rw [dispatches] at member
    rcases List.mem_append.mp member with before | new
    · exact informed.asked other before isLookup
    · cases List.mem_singleton.mp new
      exact sendable
  case unknown => exact fun _ => known
  case given =>
    intro id isGiven
    cases unknown.symm.trans (informed.given isGiven).1
  case origin =>
    intro id isKnown
    cases known.symm.trans isKnown
  case landed =>
    intro other id member names
    rw [dispatches] at member
    rcases List.mem_append.mp member with before | new
    · exact absurd names (silent before)
    · cases List.mem_singleton.mp new
      exact .inl (own ▸ looker)
  case last =>
    rw [dispatches]
    refine List.pairwise_append.mpr ⟨informed.last, List.pairwise_singleton _ _, ?_⟩
    exact fun earlier member _ _ _ names => absurd names (silent member)

/-- The one that looks up the organization has sent that lookup only. -/
theorem Placed.exists_lookup (placed : pool.Placed endpoint calls) {lookup : Lookup}
    {delivery : Delivery} {next : Except Error String → Operation Call.Result}
    (present : pool.tasks[i]? = some (.looking lookup delivery next)) :
    ∃ own call, pool.sentBy i = [own] ∧ own.isLookup = true ∧ lookup = endpoint.lookup ∧
      delivery = own.delivery ∧ calls[i]? = some call ∧
      call.operation endpoint = .organization endpoint.lookup next := by
  obtain ⟨call, isCall, stands⟩ := placed.stands present
  generalize sent : pool.sentBy i = all at stands
  cases stands with
  | looking isLookup begun => exact ⟨_, call, rfl, isLookup, rfl, rfl, isCall, begun⟩
  | resolved _ sends _ => exact sends.elim

section Landing

variable {own : Dispatch}

theorem mem_dispatches_of_sentBy (alone : pool.sentBy i = [own]) : own ∈ pool.dispatches := by
  have member : own ∈ pool.sentBy i := alone ▸ List.mem_singleton_self own
  exact (List.mem_filter.mp member).1

/-- Nothing but the lookup under way can be what names the organization. -/
theorem Informed.eq_of_names (informed : pool.Informed endpoint) (looks : pool.looker = some i)
    (alone : pool.sentBy i = [own]) {dispatch : Dispatch} {id : String}
    (sent : dispatch ∈ pool.dispatches) (names : dispatch.Names id) : dispatch = own := by
  rcases informed.landed sent names with sender | isKnown
  · have same : dispatch.sender = i := Option.some.inj (sender.symm.trans looks)
    have member : dispatch ∈ pool.sentBy i := List.mem_filter.mpr ⟨sent, by simpa using same⟩
    exact List.mem_singleton.mp (alone ▸ member)
  · cases (informed.unknown looks).symm.trans isKnown

theorem Informed.of_refused (informed : pool.Informed endpoint) (looks : pool.looker = some i)
    (alone : pool.sentBy i = [own]) {error : Error} (fails : own.Fails error)
    (known : later.session.organizationId = pool.session.organizationId)
    (dispatches : later.dispatches = pool.dispatches) : later.Informed endpoint := by
  have unknown : later.session.organizationId = none := known.trans (informed.unknown looks)
  constructor
  case asked => exact dispatches ▸ informed.asked
  case unknown => exact fun _ => unknown
  case given =>
    intro id isGiven
    cases (informed.unknown looks).symm.trans (informed.given isGiven).1
  case origin =>
    intro id isKnown
    cases unknown.symm.trans isKnown
  case landed =>
    intro dispatch id sent names
    cases informed.eq_of_names looks alone (dispatches ▸ sent) names
    exact absurd fails (Dispatch.not_fails_of_names names error)
  case last => exact dispatches ▸ informed.last

theorem Informed.of_named (informed : pool.Informed endpoint) (looks : pool.looker = some i)
    (alone : pool.sentBy i = [own]) {id : String} (names : own.Names id)
    (known : later.session.organizationId = some id) (looker : later.looker = none)
    (dispatches : later.dispatches = pool.dispatches) : later.Informed endpoint := by
  constructor
  case asked => exact dispatches ▸ informed.asked
  case unknown =>
    intro j looking
    cases looker.symm.trans looking
  case given =>
    intro id isGiven
    cases (informed.unknown looks).symm.trans (informed.given isGiven).1
  case origin =>
    intro other isKnown
    cases known.symm.trans isKnown
    exact .inr ⟨own, dispatches ▸ mem_dispatches_of_sentBy alone, names⟩
  case landed =>
    intro dispatch other sent also
    cases informed.eq_of_names looks alone (dispatches ▸ sent) also
    cases names.unique also
    exact .inr known
  case last => exact dispatches ▸ informed.last

end Landing

/-- Calls that stand as what they have sent led to, and know of the organization what that told. -/
structure Consistent (endpoint : Endpoint) (calls : List Call) (pool : Pool Call.Result) :
    Prop where
  placed : pool.Placed endpoint calls
  informed : pool.Informed endpoint

theorem Consistent.of_calm_turn (consistent : pool.Consistent endpoint calls)
    {task other : Task Call.Result} (present : pool.tasks[i]? = some task)
    (tasks : later.tasks = pool.tasks.set i other)
    (calm : ¬ task.IsLooking) (stillCalm : ¬ other.IsLooking)
    (known : later.session.organizationId = pool.session.organizationId)
    (looker : later.looker = pool.looker) {more : List Dispatch}
    (dispatches : later.dispatches = pool.dispatches ++ more)
    (own : ∀ dispatch ∈ more, dispatch.sender = i ∧ dispatch.isLookup = false)
    (stands : ∀ call, calls[i]? = some call →
      other.Stands endpoint call pool.session.organizationId (pool.sentBy i ++ more)) :
    later.Consistent endpoint calls where
  placed := consistent.placed.of_calm_turn present tasks calm stillCalm known looker dispatches
    (fun dispatch member => (own dispatch member).1) stands
  informed := consistent.informed.of_calm_turn known looker dispatches
    fun dispatch member => (own dispatch member).2

theorem Consistent.of_silent_turn (consistent : pool.Consistent endpoint calls)
    {task other : Task Call.Result} (present : pool.tasks[i]? = some task)
    (tasks : later.tasks = pool.tasks.set i other)
    (calm : ¬ task.IsLooking) (stillCalm : ¬ other.IsLooking)
    (known : later.session.organizationId = pool.session.organizationId)
    (looker : later.looker = pool.looker) (dispatches : later.dispatches = pool.dispatches)
    (stands : ∀ call, calls[i]? = some call →
      other.Stands endpoint call pool.session.organizationId (pool.sentBy i)) :
    later.Consistent endpoint calls := by
  have same : later.dispatches = pool.dispatches ++ [] := by rw [dispatches, List.append_nil]
  apply consistent.of_calm_turn present tasks calm stillCalm known looker same
  · exact fun dispatch none => absurd none List.not_mem_nil
  · rw [List.append_nil]
    exact stands

theorem Consistent.advance_fresh (consistent : pool.Consistent endpoint calls) {call : Call}
    (isCall : calls[i]? = some call)
    (present : pool.tasks[i]? = some (.ready (call.operation endpoint)))
    (silent : pool.sentBy i = []) : (pool.advance network i).Consistent endpoint calls := by
  obtain ⟨next, begun, failing, asking⟩ := call.exists_operation_eq endpoint
  rw [begun] at present
  have calm := Task.not_isLooking_ready (.organization endpoint.lookup next)
  cases known : pool.session.organizationId with
  | some id =>
    rw [advance_known present known]
    refine consistent.of_silent_turn present rfl calm (Task.not_isLooking_ready _) rfl rfl rfl ?_
    rintro other isOther
    cases isCall.symm.trans isOther
    rw [silent]
    exact .resolved known (asking id) fun dispatch none => absurd none List.not_mem_nil
  | none =>
    cases free : pool.looker with
    | some looking =>
      rw [advance_waiting present known free]
      exact consistent
    | none =>
      -- Nobody is looking the organization up, so this call does, if it can.
      cases sendable : endpoint.lookup.message with
      | error error =>
        rw [advance_unsendable present known free sendable, failing]
        refine consistent.of_silent_turn present rfl calm (Task.not_isLooking_ready _) rfl rfl
          rfl ?_
        rintro other isOther
        rw [silent]
        exact .unsent
      | ok message =>
        rw [advance_asking present known free sendable]
        constructor
        case placed =>
          refine consistent.placed.of_turn present rfl rfl (by simp) ?_ ?_ ?_ ?_
          · exact fun id isKnown => absurd (known.symm.trans isKnown) (Option.some_ne_none id).symm
          · rintro other isOther
            cases isCall.symm.trans isOther
            rw [silent]
            exact .looking rfl begun
          · exact iff_of_true rfl (Task.isLooking_looking _ _ _)
          · intro j apart
            simp [free, Ne.symm apart]
        case informed => exact consistent.informed.of_asking known free known rfl rfl sendable rfl

theorem Consistent.advance_looking (consistent : pool.Consistent endpoint calls) {lookup : Lookup}
    {delivery : Delivery} {next : Except Error String → Operation Call.Result}
    (present : pool.tasks[i]? = some (.looking lookup delivery next)) :
    (pool.advance network i).Consistent endpoint calls := by
  obtain ⟨own, call, alone, isLookup, rfl, rfl, isCall, begun⟩ :=
    consistent.placed.exists_lookup present
  obtain ⟨_, begins, failing, asking⟩ := call.exists_operation_eq endpoint
  cases begun.symm.trans begins
  have looks : pool.looker = some i :=
    (consistent.placed.looker_iff_isLooking present).mpr (Task.isLooking_looking _ _ _)
  have unknown := consistent.informed.unknown looks
  have others (j : Nat) (apart : j ≠ i) : none = some j ↔ pool.looker = some j := by
    simp [looks, Ne.symm apart]
  cases read : endpoint.lookup.read own.delivery with
  | error error =>
    rw [advance_refused present read, failing]
    have fails : own.Fails error := ⟨isLookup, readAccount_eq_error_iff.mp read⟩
    constructor
    case placed =>
      refine consistent.placed.of_turn present rfl (List.append_nil _).symm (by simp)
        (fun id isKnown => isKnown) ?_ ?_ others
      · rintro other isOther
        rw [alone]
        exact .failed fails
      · exact iff_of_false (Option.some_ne_none i).symm (Task.not_isLooking_ready _)
    case informed => exact consistent.informed.of_refused looks alone fails rfl rfl
  | ok id =>
    rw [advance_named present read]
    have names : own.Names id := ⟨isLookup, readAccount_eq_ok_iff.mp read⟩
    constructor
    case placed =>
      refine consistent.placed.of_turn present rfl (List.append_nil _).symm (by simp) ?_ ?_ ?_
        others
      · exact fun other isKnown => absurd (unknown.symm.trans isKnown) (Option.some_ne_none _).symm
      · rintro other isOther
        cases isCall.symm.trans isOther
        rw [alone]
        refine .resolved rfl (asking id) ?_
        simpa using Or.inl names
      · exact iff_of_false (Option.some_ne_none i).symm (Task.not_isLooking_ready _)
    case informed => exact consistent.informed.of_named looks alone names rfl rfl rfl

theorem Consistent.advance_resolved (consistent : pool.Consistent endpoint calls) {call : Call}
    (isCall : calls[i]? = some call) {task : Task Call.Result}
    (present : pool.tasks[i]? = some task) {id : String}
    (known : pool.session.organizationId = some id) (sends : task.Sends (call.Asks endpoint id))
    (each : ∀ dispatch ∈ pool.sentBy i, dispatch.Names id ∨
      dispatch.isLookup = false ∧ call.Asks endpoint id dispatch.message) :
    (pool.advance network i).Consistent endpoint calls := by
  have goesOn (other : Task Call.Result) (further : other.Sends (call.Asks endpoint id))
      {any : Call} (isAny : calls[i]? = some any) :
      other.Stands endpoint any pool.session.organizationId (pool.sentBy i) := by
    cases isCall.symm.trans isAny
    exact .resolved known further each
  cases task with
  | looking _ _ _ => exact sends.elim
  | sending delivery next =>
    rw [advance_delivered present]
    exact consistent.of_silent_turn present rfl (Task.not_isLooking_sending _ _)
      (Task.not_isLooking_ready _) rfl rfl rfl
      fun _ => goesOn (.ready (next delivery)) (sends delivery)
  | ready operation =>
    have calm := Task.not_isLooking_ready operation
    cases operation with
    | done value =>
      rw [advance_done present]
      exact consistent
    | organization _ _ => exact sends.elim
    | consult context next =>
      rw [advance_consult present]
      exact consistent.of_silent_turn present rfl calm (Task.not_isLooking_ready _) rfl rfl rfl
        fun _ => goesOn (.ready next) sends
    | sleep milliseconds next =>
      rw [advance_sleep present]
      exact consistent.of_silent_turn present rfl calm (Task.not_isLooking_ready _) rfl rfl rfl
        fun _ => goesOn (.ready next) sends
    | send message next =>
      rw [advance_send present]
      refine consistent.of_calm_turn present rfl calm (Task.not_isLooking_sending _ _) rfl rfl rfl
        (by simp) ?_
      rintro any isAny
      cases isCall.symm.trans isAny
      refine .resolved known sends.2 fun dispatch member => ?_
      rcases List.mem_append.mp member with before | new
      · exact each dispatch before
      · cases List.mem_singleton.mp new
        exact .inr ⟨rfl, sends.1⟩

theorem Consistent.advance (consistent : pool.Consistent endpoint calls) (network : Network)
    (i : Nat) : (pool.advance network i).Consistent endpoint calls := by
  cases present : pool.tasks[i]? with
  | none =>
    rw [advance_absent present]
    exact consistent
  | some task =>
    obtain ⟨call, isCall, stands⟩ := consistent.placed.stands present
    -- How the call stands says which turns it can take.
    generalize sent : pool.sentBy i = all at stands
    cases stands with
    | fresh => exact consistent.advance_fresh isCall present sent
    | looking _ _ => exact consistent.advance_looking present
    | failed _ =>
      rw [advance_done present]
      exact consistent
    | unsent =>
      rw [advance_done present]
      exact consistent
    | resolved known sends each =>
      exact consistent.advance_resolved isCall present known sends (sent ▸ each)

theorem Consistent.run (consistent : pool.Consistent endpoint calls) (network : Network)
    (schedule : List Nat) : (pool.run network schedule).Consistent endpoint calls := by
  induction schedule generalizing pool with
  | nil => exact consistent
  | cons i _ ih => exact ih (consistent.advance network i)

end Pool

end Provision.Service
