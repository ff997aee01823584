import Provision.Proofs.Service.Turns

namespace Provision.Service

/-- Whether an operation, whatever is delivered to it, sends such messages only and never needs the
organization again. -/
def Operation.Sends {α : Type} (allowed : Message → Prop) : Operation α → Prop
  | done _ => True
  | organization _ _ => False
  | consult _ next => next.Sends allowed
  | send message next => allowed message ∧ ∀ delivery, (next delivery).Sends allowed
  | sleep _ next => next.Sends allowed

theorem Operation.Sends.bind {α β : Type} {allowed : Message → Prop} {operation : Operation α}
    {next : α → Operation β} (sends : operation.Sends allowed)
    (others : ∀ value, (next value).Sends allowed) : (operation.bind next).Sends allowed := by
  induction operation with
  | done value => exact others value
  | organization lookup _ _ => exact sends.elim
  | consult context _ ih => exact ih sends
  | send message _ ih => exact ⟨sends.1, fun delivery => ih delivery (sends.2 delivery)⟩
  | sleep milliseconds _ ih => exact ih sends

/-- Whether a message is one that a call asks for in an organization. That is the organization of
the first context, and the one of the message if the builder keeps it. -/
inductive Call.Asks (endpoint : Endpoint) (organizationId : String) : Call → Message → Prop where
  | intro {limit : Nat} {description : String} {build : Endpoint.RequestBuilder} {asked : Nat}
    {context left : RetryContext} {request : Request} {message : Message}
    (first : asked = 0 → context.organizationId = organizationId)
    (own : build.KeepsOrganization → left.organizationId = organizationId)
    (built : build asked context = .ok (request, left))
    (prepared : endpoint.sendable request left.organizationId = .ok message) :
    Asks endpoint organizationId (.execute limit description build) message

section Attempts

variable {endpoint : Endpoint} {limit : Nat} {description : String}
  {build : Endpoint.RequestBuilder} {made : Nat} {context : RetryContext} {organizationId : String}

private theorem sends_attempt
    {retry : RetryContext → Error → Operation (Option (Except Error Reply))}
    (first : made = 0 → context.organizationId = organizationId)
    (kept : build.KeepsOrganization → context.organizationId = organizationId)
    (again : ∀ request left error, build made context = .ok (request, left) →
      (retry left error).Sends
        (Call.Asks endpoint organizationId (.execute limit description build))) :
    (endpoint.attempt description (build made) context retry).Sends
      (Call.Asks endpoint organizationId (.execute limit description build)) := by
  rw [Endpoint.attempt, Operation.Sends]
  cases built : build made context with
  | error error => trivial
  | ok own =>
    obtain ⟨request, left⟩ := own
    dsimp only
    cases prepared : endpoint.sendable request left.organizationId with
    | error error => trivial
    | ok message =>
      have own (keeps : build.KeepsOrganization) : left.organizationId = organizationId :=
        (keeps made context request left built).trans (kept keeps)
      refine ⟨.intro first own built prepared, fun delivery => ?_⟩
      cases delivery with
      | unsent reason => exact again request left _ built
      | unreadable status reason => trivial
      | reply reply => trivial

theorem sends_attempts (left : Nat) (first : made = 0 → context.organizationId = organizationId)
    (kept : build.KeepsOrganization → context.organizationId = organizationId) :
    (endpoint.attempts description build left made context).Sends
      (Call.Asks endpoint organizationId (.execute limit description build)) := by
  induction left generalizing made context with
  | zero => trivial
  | succ left ih =>
    refine sends_attempt first kept fun request rest error built => ?_
    have own (keeps : build.KeepsOrganization) :
        (rest.afterFailure error).organizationId = organizationId :=
      (keeps made context request rest built).trans (kept keeps)
    have again : (endpoint.attempts description build left (made + 1)
        (rest.afterFailure error)).Sends _ := ih (fun none => absurd none (Nat.succ_ne_zero _)) own
    split
    · trivial
    · unfold Endpoint.pause
      split <;> exact again

end Attempts

/-- A call begins with the organization. Without it the call fails, and with it the call asks in
it. -/
theorem Call.exists_operation_eq (endpoint : Endpoint) (call : Call) :
    ∃ next, call.operation endpoint = .organization endpoint.lookup next ∧
      (∀ error, next (.error error) = .done (some (.error error))) ∧
      ∀ id, (next (.ok id)).Sends (call.Asks endpoint id) := by
  cases call with
  | organization => exact ⟨_, rfl, fun error => rfl, fun id => trivial⟩
  | execute limit description build =>
    refine ⟨_, rfl, fun error => rfl, fun id => Operation.Sends.bind ?_ fun result => trivial⟩
    exact sends_attempts _ (fun _ => rfl) fun _ => rfl

/-- Whether the delivery of a lookup names an organization: a reply of success holds an account of
it. -/
inductive Delivery.Names : Delivery → String → Prop where
  | intro {reply : Reply} {account : Account} (success : reply.isSuccess = true)
    (holds : reply.decode Account.record.codec.decode = .ok account) :
    Names (.reply reply) account.organizationId

/-- Whether the delivery of a lookup names none, and the failure that this is. -/
inductive Delivery.Refuses : Delivery → Error → Prop where
  | unsent (reason : String) : Refuses (.unsent reason) (.transport reason)
  | unreadable (status : UInt16) (reason : String) :
    Refuses (.unreadable status reason) (.transport reason)
  | status {reply : Reply} (failure : reply.isSuccess = false) :
    Refuses (.reply reply) (.api reply.status "ACCOUNT_LOOKUP_FAILED" reply.text)
  | body {reply : Reply} {error : Error} (success : reply.isSuccess = true)
    (holds : reply.decode Account.record.codec.decode = .error error) :
    Refuses (.reply reply) error

theorem readAccount_eq_ok_iff {delivery : Delivery} {id : String} :
    Endpoint.readAccount delivery = .ok id ↔ delivery.Names id := by
  constructor
  · intro read
    rcases delivery with reason | ⟨status, reason⟩ | reply
    · cases read
    · cases read
    · rw [Endpoint.readAccount] at read
      split at read
      next success =>
        cases holds : reply.decode Account.record.codec.decode with
        | error error => simp [holds, Except.map] at read
        | ok account =>
          simp only [holds, Except.map, Except.ok.injEq] at read
          exact read ▸ .intro success holds
      next => cases read
  · rintro ⟨success, holds⟩
    simp [Endpoint.readAccount, success, holds, Except.map]

theorem readAccount_eq_error_iff {delivery : Delivery} {error : Error} :
    Endpoint.readAccount delivery = .error error ↔ delivery.Refuses error := by
  constructor
  · intro read
    rcases delivery with reason | ⟨status, reason⟩ | reply
    · cases read
      exact .unsent reason
    · cases read
      exact .unreadable status reason
    · rw [Endpoint.readAccount] at read
      split at read
      next success =>
        cases holds : reply.decode Account.record.codec.decode with
        | error found =>
          simp only [holds, Except.map, Except.error.injEq] at read
          exact .body success (read ▸ holds)
        | ok account => simp [holds, Except.map] at read
      next failure =>
        cases read
        exact .status (Bool.eq_false_iff.mpr failure)
  · rintro (_ | _ | failure | ⟨success, holds⟩)
    · rfl
    · rfl
    · simp [Endpoint.readAccount, failure]
    · simp [Endpoint.readAccount, success, holds, Except.map]

namespace Dispatch

def Names (dispatch : Dispatch) (id : String) : Prop :=
  dispatch.isLookup = true ∧ dispatch.delivery.Names id

def Fails (dispatch : Dispatch) (error : Error) : Prop :=
  dispatch.isLookup = true ∧ dispatch.delivery.Refuses error

theorem not_fails_of_names {dispatch : Dispatch} {id : String} (names : dispatch.Names id)
    (error : Error) : ¬ dispatch.Fails error := by
  intro fails
  cases (readAccount_eq_ok_iff.mpr names.2).symm.trans (readAccount_eq_error_iff.mpr fails.2)

theorem Names.unique {dispatch : Dispatch} {id other : String} (names : dispatch.Names id)
    (also : dispatch.Names other) : other = id :=
  Except.ok.inj ((readAccount_eq_ok_iff.mpr also.2).symm.trans (readAccount_eq_ok_iff.mpr names.2))

theorem Fails.unique {dispatch : Dispatch} {error other : Error} (fails : dispatch.Fails error)
    (also : dispatch.Fails other) : other = error :=
  Except.error.inj
    ((readAccount_eq_error_iff.mpr also.2).symm.trans (readAccount_eq_error_iff.mpr fails.2))

end Dispatch

namespace Task

variable {α : Type}

def IsLooking (task : Task α) : Prop :=
  ∃ lookup delivery next, task = .looking lookup delivery next

theorem isLooking_looking (lookup : Lookup) (delivery : Delivery)
    (next : Except Error String → Operation α) : (looking lookup delivery next).IsLooking :=
  ⟨lookup, delivery, next, rfl⟩

theorem not_isLooking_ready (operation : Operation α) : ¬ (ready operation).IsLooking := by
  rintro ⟨_, _, _, same⟩
  cases same

theorem not_isLooking_sending (delivery : Delivery) (next : Delivery → Operation α) :
    ¬ (sending delivery next).IsLooking := by
  rintro ⟨_, _, _, same⟩
  cases same

def Sends (allowed : Message → Prop) : Task α → Prop
  | ready operation => operation.Sends allowed
  | looking _ _ _ => False
  | sending _ next => ∀ delivery, (next delivery).Sends allowed

/-- How a call stands after what it has sent, when the organization is known so. -/
inductive Stands (endpoint : Endpoint) (call : Call) (known : Option String) :
    List Dispatch → Task Call.Result → Prop where
  | fresh : Stands endpoint call known [] (.ready (call.operation endpoint))
  | looking {own : Dispatch} {next : Except Error String → Operation Call.Result}
    (isLookup : own.isLookup = true)
    (begun : call.operation endpoint = .organization endpoint.lookup next) :
    Stands endpoint call known [own] (.looking endpoint.lookup own.delivery next)
  | failed {own : Dispatch} {error : Error} (fails : own.Fails error) :
    Stands endpoint call known [own] (.ready (.done (some (.error error))))
  | unsent {error : Error} : Stands endpoint call known [] (.ready (.done (some (.error error))))
  | resolved {sent : List Dispatch} {task : Task Call.Result} {id : String}
    (isKnown : known = some id) (sends : task.Sends (call.Asks endpoint id))
    (each : ∀ dispatch ∈ sent, dispatch.Names id ∨
      dispatch.isLookup = false ∧ call.Asks endpoint id dispatch.message) :
    Stands endpoint call known sent task

theorem Stands.mono {endpoint : Endpoint} {call : Call} {known later : Option String}
    {sent : List Dispatch} {task : Task Call.Result} (stands : task.Stands endpoint call known sent)
    (kept : ∀ id, known = some id → later = some id) : task.Stands endpoint call later sent := by
  cases stands with
  | fresh => exact .fresh
  | looking isLookup begun => exact .looking isLookup begun
  | failed fails => exact .failed fails
  | unsent => exact .unsent
  | resolved isKnown sends each => exact .resolved (kept _ isKnown) sends each

end Task

end Provision.Service
