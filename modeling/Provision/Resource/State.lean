namespace Provision

/-- A known state. Any other text that a server reports means that something went wrong. -/
inductive State where
  /-- No operation is under way. -/
  | normal
  | pendingAdd
  | pendingChange
  | pendingDelete
deriving DecidableEq, Repr

namespace State

def text : State → String
  | normal => "NORMAL"
  | pendingAdd => "PENDING_ADD"
  | pendingChange => "PENDING_CHANGE"
  | pendingDelete => "PENDING_DELETE"

def all : List State := [normal, pendingAdd, pendingChange, pendingDelete]

def ofString? (text : String) : Option State := all.find? (·.text = text)

def isPending (state : State) : Bool := state != normal

end State

end Provision
