import Provision.Proofs.Wait.LastPoll

namespace Provision

variable {σ ρ : Type}

namespace Wait

variable {request : Wait} {outcome : Except Error (Option ρ)}

theorem present_eq_ok_iff {resource : ρ} :
    request.present outcome = .ok resource ↔ outcome = .ok (some resource) := by
  rcases outcome with error | _ | found <;> simp [present, Except.bind]

/-- Where something is always found, looking for it fails only as the wait itself does. -/
theorem present_eq_error_iff (found : outcome ≠ .ok none) {error : Error} :
    request.present outcome = .error error ↔ outcome = .error error := by
  rcases outcome with own | _ | resource
  · simp [present, Except.bind]
  · exact absurd rfl found
  · simp [present, Except.bind]

theorem settled_eq_ok_iff : settled outcome = .ok () ↔ ∃ found, outcome = .ok found := by
  cases outcome <;> simp [settled, Except.map]

theorem settled_eq_error_iff {error : Error} :
    settled outcome = .error error ↔ outcome = .error error := by
  cases outcome <;> simp [settled, Except.map]

end Wait

namespace Waiter

variable [Resource ρ] (waiter : Waiter σ ρ) (now : Nat) (state : σ)

def course (errand : Errand) : Wait.Course σ ρ := ⟨waiter, errand.request, now, state⟩

structure TellsLastPoll : Prop where
  /-- A wait ends well without a resource only if that is to go away. -/
  never_none {request : Wait} (kept : request.deleting = false) :
    (waiter.wait request now state).1.outcome ≠ .ok none
  /-- The resource is there and has come to rest; so it is with the next four. -/
  deploy {kind : Kind} {id : String} {timeout : Nat} {resource : ρ} :
    let errand := Errand.deploy kind id timeout
    (waiter.perform errand now state).1 = .ok resource ↔
      (waiter.course now state errand).LastShows .resource resource "NORMAL"
  change {kind : Kind} {id action : String} {timeout : Nat} {resource : ρ} :
    let errand := Errand.change kind id action timeout
    (waiter.perform errand now state).1 = .ok resource ↔
      (waiter.course now state errand).LastShows .resource resource "NORMAL"
  clone {imageId : String} {timeout : Nat} {resource : ρ} :
    let errand := Errand.clone imageId timeout
    (waiter.perform errand now state).1 = .ok resource ↔
      (waiter.course now state errand).LastShows .resource resource "NORMAL"
  backupDeploy {serverId : String} {timeout : Nat} {resource : ρ} :
    let errand := Errand.backupDeploy serverId timeout
    (waiter.perform errand now state).1 = .ok resource ↔
      (waiter.course now state errand).LastShows .backup resource "NORMAL"
  backupChange {serverId action : String} {timeout : Nat} {resource : ρ} :
    let errand := Errand.backupChange serverId action timeout
    (waiter.perform errand now state).1 = .ok resource ↔
      (waiter.course now state errand).LastShows .backup resource "NORMAL"
  /-- The whole is gone itself. -/
  nestedDelete_gone {kind : Kind} {id action : String} {timeout : Nat} :
    let errand := Errand.nestedDelete kind id action timeout
    (waiter.perform errand now state).1 = .ok none ↔
      (waiter.course now state errand).LastMisses .resource
  nestedDelete_settled {kind : Kind} {id action : String} {timeout : Nat} {resource : ρ} :
    let errand := Errand.nestedDelete kind id action timeout
    (waiter.perform errand now state).1 = .ok (some resource) ↔
      (waiter.course now state errand).LastShows .resource resource "NORMAL"
  /-- The resource is gone, or it has come to rest and is still there. -/
  delete {kind : Kind} {id : String} {timeout : Nat} :
    let errand := Errand.delete kind id timeout
    (waiter.perform errand now state).1 = .ok () ↔
      (waiter.course now state errand).LastMisses .resource ∨
        ∃ resource, (waiter.course now state errand).LastShows .resource resource "NORMAL"
  backupRemoval {serverId : String} {timeout : Nat} :
    let errand := Errand.backupRemoval serverId timeout
    (waiter.perform errand now state).1 = .ok () ↔
      (waiter.course now state errand).LastMisses .backup ∨
        ∃ resource, (waiter.course now state errand).LastShows .backup resource "NORMAL"
  /-- An errand fails just as its wait does. -/
  fails {errand : Errand} {error : Error} :
    (waiter.perform errand now state).1 = .error error ↔
      (waiter.wait errand.request now state).1.outcome = .error error

variable {waiter now state}

private theorem outcome_ne_none {request : Wait} (kept : request.deleting = false) :
    (waiter.wait request now state).1.outcome ≠ .ok none := by
  intro gone
  have wanted := (waiter.course now state (.wait request)).outcome_eq_none_iff.mp gone
  cases kept.symm.trans wanted.1

/-- A resource that has to be there is what the last poll found in the target state. -/
private theorem present_eq_ok_iff (errand : Errand) {resource : ρ} :
    errand.request.present (waiter.wait errand.request now state).1.outcome = .ok resource ↔
      (waiter.course now state errand).LastShows errand.request.source resource
        errand.request.target.text :=
  Wait.present_eq_ok_iff.trans (waiter.course now state errand).outcome_eq_some_iff

private theorem settled_eq_ok_iff (errand : Errand) (wanted : errand.request.deleting = true) :
    Wait.settled (waiter.wait errand.request now state).1.outcome = .ok () ↔
      (waiter.course now state errand).LastMisses errand.request.source ∨
        ∃ resource, (waiter.course now state errand).LastShows errand.request.source resource
          errand.request.target.text := by
  let course := waiter.course now state errand
  rw [Wait.settled_eq_ok_iff]
  constructor
  · rintro ⟨_ | resource, ended⟩
    · exact .inl (course.outcome_eq_none_iff.mp ended).2
    · exact .inr ⟨resource, course.outcome_eq_some_iff.mp ended⟩
  · rintro (missing | ⟨resource, shows⟩)
    · exact ⟨none, course.outcome_eq_none_iff.mpr ⟨wanted, missing⟩⟩
    · exact ⟨some resource, course.outcome_eq_some_iff.mpr shows⟩

theorem perform_eq_error_iff {errand : Errand} {error : Error} :
    (waiter.perform errand now state).1 = .error error ↔
      (waiter.wait errand.request now state).1.outcome = .error error := by
  cases errand with
  | wait request => exact Iff.rfl
  | nestedDelete kind id action timeout => exact Iff.rfl
  | delete kind id timeout => exact Wait.settled_eq_error_iff
  | backupRemoval serverId timeout => exact Wait.settled_eq_error_iff
  | deploy kind id timeout => exact Wait.present_eq_error_iff (outcome_ne_none rfl)
  | change kind id action timeout => exact Wait.present_eq_error_iff (outcome_ne_none rfl)
  | clone imageId timeout => exact Wait.present_eq_error_iff (outcome_ne_none rfl)
  | backupDeploy serverId timeout => exact Wait.present_eq_error_iff (outcome_ne_none rfl)
  | backupChange serverId action timeout => exact Wait.present_eq_error_iff (outcome_ne_none rfl)

variable (waiter now state)

/-- The errands of every waiter do, whatever its fetches bring and whenever its flag is set. -/
theorem tellsLastPoll : waiter.TellsLastPoll now state where
  never_none := outcome_ne_none
  deploy {kind id timeout _} := present_eq_ok_iff (.deploy kind id timeout)
  change {kind id action timeout _} := present_eq_ok_iff (.change kind id action timeout)
  clone {imageId timeout _} := present_eq_ok_iff (.clone imageId timeout)
  backupDeploy {serverId timeout _} := present_eq_ok_iff (.backupDeploy serverId timeout)
  backupChange {serverId action timeout _} :=
    present_eq_ok_iff (.backupChange serverId action timeout)
  nestedDelete_gone {kind id action timeout} :=
    (waiter.course now state (.nestedDelete kind id action timeout)).outcome_eq_none_iff.trans
      (and_iff_right rfl)
  nestedDelete_settled {kind id action timeout _} :=
    (waiter.course now state (.nestedDelete kind id action timeout)).outcome_eq_some_iff
  delete {kind id timeout} := settled_eq_ok_iff (.delete kind id timeout) rfl
  backupRemoval {serverId timeout} := settled_eq_ok_iff (.backupRemoval serverId timeout) rfl
  fails := perform_eq_error_iff

/-- A network that was to go away has come to rest again, and that is the end of it too. -/
example :
    let found : Snapshot := { id := "v-1", name := "lan", state := "NORMAL", kind := .vlan }
    let waiter := Waiter.over (Registry.empty.register .vlan fun _ _ state =>
      (⟨0, fun state => (.ok (some found), state)⟩, state)) (fun _ _ => false) 10
    (waiter.perform (.delete .vlan "v-1" 25) 0 ()).1.isOk = true := by
  decide +kernel

end Waiter

end Provision
