import Provision.Resource.Kind
import Provision.Resource.State

namespace Provision

structure Snapshot where
  id : String
  name : String
  state : String
  kind : Kind
  /-- Whether the resource is a trace of one that is gone. -/
  deleted : Bool := false
  backupState : Option String := none
deriving DecidableEq, Repr

class Resource (ρ : Type) where
  snapshot : ρ → Snapshot

export Resource (snapshot)

instance : Resource Snapshot := ⟨id⟩

end Provision
