import Provision.Resource.Basic

/-!
Waits: what is waited for, and how a fetched resource is judged. A wait ends when the resource is in
the target state, is missing, or is in a state that no operation under way explains.
-/
namespace Provision

inductive StateSource where
  | resource
  | backup
deriving DecidableEq, Repr

/-- What is waited for. The timeout is in milliseconds of an ideal clock, so the deadline of a wait
is exactly that far from its beginning, and none is too far. -/
structure Wait where
  kind : Kind
  id : String
  action : String
  /-- The state that the resource is supposed to be in until then. -/
  expected : State
  timeout : Nat
  target : State := .normal
  deleting : Bool := false
  source : StateSource := .resource
deriving DecidableEq, Repr

/-- The state of a live resource that counts, if it has one. -/
def StateSource.observe {ρ : Type} [Resource ρ] (source : StateSource) (fetched : Option ρ) :
    Option String :=
  match fetched with
  | none => none
  | some found =>
    let seen := snapshot found
    if seen.deleted then none
    else
      match source with
      | .resource => some seen.state
      | .backup => seen.backupState

namespace Wait

def subject (wait : Wait) : String :=
  match wait.source with
  | .resource => wait.kind.name
  | .backup => s!"{wait.kind.name} backup"

def description (wait : Wait) : String := s!"Wait for {wait.action} of {wait.subject} '{wait.id}'"

def notFound (wait : Wait) : Error := .notFound s!"no {wait.subject} found with id '{wait.id}'"

/-- The failure of a wait whose deadline passed after so many milliseconds. -/
def timedOut (wait : Wait) (elapsed : Nat) : Error :=
  .timeout (s!"timed out after {elapsed / 1000} seconds waiting for {wait.action} of " ++
    s!"{wait.subject} '{wait.id}'")

def noInterval (wait : Wait) : Error :=
  .config s!"poll interval must be greater than zero ({wait.description})"

/-- The failure of a wait that finds a resource in a state that it should not be in. -/
def unexpected (wait : Wait) (name state : String) : Error :=
  .unexpectedState wait.action wait.subject name wait.id state

variable {ρ : Type} [Resource ρ]

/-- How a wait ends when a fetch brings this, or `none` if it goes on. -/
def judge (wait : Wait) (fetched : Except Error (Option ρ)) : Option (Except Error (Option ρ)) :=
  match fetched with
  | .error error => some (.error error)
  | .ok found =>
    match wait.source.observe found with
    | none => some (if wait.deleting then .ok none else .error wait.notFound)
    | some state =>
      if state = wait.target.text then some (.ok found)
      else if (State.ofString? state).any State.isPending then none
      else
        let name := (found.map fun resource => (snapshot resource).name).getD ""
        some (.error (wait.unexpected name state))

def untilGone (wait : Wait) : Wait := { wait with deleting := true }

def deploy (kind : Kind) (id : String) (timeout : Nat) : Wait :=
  { kind, id, action := "Deploy", expected := .pendingAdd, timeout }

def change (kind : Kind) (id action : String) (timeout : Nat) : Wait :=
  { kind, id, action, expected := .pendingChange, timeout }

/-- Wait for the removal of a part, which is a change of the whole. -/
def nestedDelete (kind : Kind) (id action : String) (timeout : Nat) : Wait :=
  (change kind id action timeout).untilGone

def delete (kind : Kind) (id : String) (timeout : Nat) : Wait :=
  { kind, id, action := "Delete", expected := .pendingDelete, timeout, deleting := true }

def clone (imageId : String) (timeout : Nat) : Wait :=
  { kind := .customerImage, id := imageId, action := "Clone", expected := .pendingAdd, timeout }

def backupDeploy (serverId : String) (timeout : Nat) : Wait :=
  { kind := .server, id := serverId, action := "Enable backup", expected := .pendingAdd, timeout,
    source := .backup }

def backupChange (serverId action : String) (timeout : Nat) : Wait :=
  { kind := .server, id := serverId, action, expected := .pendingChange, timeout,
    source := .backup }

def backupRemoval (serverId : String) (timeout : Nat) : Wait :=
  { kind := .server, id := serverId, action := "Disable backup", expected := .pendingDelete,
    timeout, source := .backup, deleting := true }

/-- The resource that a wait ends with; there is none in a wait for one to go away. -/
def present (wait : Wait) (outcome : Except Error (Option ρ)) : Except Error ρ :=
  outcome.bind fun
    | some found => .ok found
    | none => .error wait.notFound

def settled (outcome : Except Error (Option ρ)) : Except Error Unit := outcome.map fun _ => ()

end Wait

end Provision
