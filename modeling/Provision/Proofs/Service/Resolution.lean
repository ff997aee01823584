import Provision.Proofs.Service.Consistency

/-!
How the organization is resolved by calls that are under way at once. Whatever their order, it is
looked up by one of them at a time and never again once it is known, and all of them begin in the
one organization. A call whose own lookup fails ends with that, and the next one looks it up anew.
-/
namespace Provision.Service

namespace Pool

variable {endpoint : Endpoint} {calls : List Call} {network : Network} {pool : Pool Call.Result}
  {i : Nat}

namespace Consistent

variable {dispatch : Dispatch} {error : Error}

theorem exists_stands (consistent : pool.Consistent endpoint calls)
    (sent : dispatch ∈ pool.dispatches) :
    ∃ call task, calls[dispatch.sender]? = some call ∧ pool.tasks[dispatch.sender]? = some task ∧
      task.Stands endpoint call pool.session.organizationId (pool.sentBy dispatch.sender) ∧
      dispatch ∈ pool.sentBy dispatch.sender := by
  have inside := consistent.placed.sender_lt dispatch sent
  have present := List.getElem?_eq_getElem inside
  obtain ⟨call, isCall, stands⟩ := consistent.placed.stands present
  exact ⟨call, _, isCall, present, stands, List.mem_filter.mpr ⟨sent, by simp⟩⟩

theorem asks (consistent : pool.Consistent endpoint calls) (sent : dispatch ∈ pool.dispatches)
    (isRequest : dispatch.isLookup = false) :
    ∃ id call, pool.session.organizationId = some id ∧ calls[dispatch.sender]? = some call ∧
      call.Asks endpoint id dispatch.message := by
  obtain ⟨call, task, isCall, _, stands, own⟩ := consistent.exists_stands sent
  generalize pool.sentBy dispatch.sender = all at stands own
  cases stands with
  | fresh => cases own
  | unsent => cases own
  | looking isLookup _ =>
    cases List.mem_singleton.mp own
    cases isRequest.symm.trans isLookup
  | failed fails =>
    cases List.mem_singleton.mp own
    cases isRequest.symm.trans fails.1
  | resolved known _ each =>
    rcases each dispatch own with names | ⟨_, asks⟩
    · cases isRequest.symm.trans names.1
    · exact ⟨_, call, known, isCall, asks⟩

end Consistent

end Pool

/-- Of two calls under way at once the first fails to look up the organization; the second has
waited for that and looks it up then. -/
example :
    let base : Url :=
      ⟨['h', 't', 't', 'p'], some ⟨[], [], .domain ['a', 'p', 'i'], none⟩, .rooted [[]], none, none⟩
    let endpoint : Endpoint := ⟨base, "2.4", "client", none, .none, none⟩
    let account := "\x7b\"organization\":\x7b\"id\":\"o-1\"\x7d\x7d"
    let network : Network := fun before _ =>
      if before.isEmpty then ⟨.unsent "timed out", 200⟩ else ⟨.reply ⟨200, Text.utf8 account⟩, 20⟩
    let pool := (endpoint.pool [.organization, .organization]).run network [0, 1, 0, 1, 1]
    pool.dispatches.map Dispatch.sender = [0, 1] ∧ pool.session.organizationId = some "o-1" := by
  decide +kernel

end Provision.Service
