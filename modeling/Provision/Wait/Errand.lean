import Provision.Wait.Basic

namespace Provision

inductive Errand where
  | wait (request : Wait)
  | deploy (kind : Kind) (id : String) (timeout : Nat)
  | change (kind : Kind) (id action : String) (timeout : Nat)
  | nestedDelete (kind : Kind) (id action : String) (timeout : Nat)
  | delete (kind : Kind) (id : String) (timeout : Nat)
  | clone (imageId : String) (timeout : Nat)
  | backupDeploy (serverId : String) (timeout : Nat)
  | backupChange (serverId action : String) (timeout : Nat)
  | backupRemoval (serverId : String) (timeout : Nat)
deriving DecidableEq, Repr

namespace Errand

def request : Errand → Wait
  | wait request => request
  | deploy kind id timeout => .deploy kind id timeout
  | change kind id action timeout => .change kind id action timeout
  | nestedDelete kind id action timeout => .nestedDelete kind id action timeout
  | delete kind id timeout => .delete kind id timeout
  | clone imageId timeout => .clone imageId timeout
  | backupDeploy serverId timeout => .backupDeploy serverId timeout
  | backupChange serverId action timeout => .backupChange serverId action timeout
  | backupRemoval serverId timeout => .backupRemoval serverId timeout

def Result (ρ : Type) : Errand → Type
  | wait _ | nestedDelete .. => Option ρ
  | delete .. | backupRemoval .. => Unit
  | deploy .. | change .. | clone .. | backupDeploy .. | backupChange .. => ρ

variable {ρ : Type}

/-- What the caller of an errand gets when its wait has ended so. -/
def conclude (errand : Errand) : Except Error (Option ρ) → Except Error (errand.Result ρ) :=
  match errand with
  | wait _ | nestedDelete .. => fun outcome => outcome
  | delete .. | backupRemoval .. => Wait.settled
  | deploy .. | change .. | clone .. | backupDeploy .. | backupChange .. => errand.request.present

end Errand

end Provision
