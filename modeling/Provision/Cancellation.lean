namespace Provision

/-- A holder's handle of a switch. Copies of a handle are handles of the same switch. -/
structure Flag where
  index : Nat
deriving DecidableEq, Repr

structure Switches where
  states : List Bool := []
deriving DecidableEq, Repr

namespace Switches

def make (switches : Switches) : Flag × Switches :=
  (⟨switches.states.length⟩, ⟨switches.states ++ [false]⟩)

def isCancelled (switches : Switches) (flag : Flag) : Bool := switches.states.getD flag.index false

def cancel (switches : Switches) (flag : Flag) : Switches := ⟨switches.states.set flag.index true⟩

def reset (switches : Switches) (flag : Flag) : Switches := ⟨switches.states.set flag.index false⟩

end Switches

end Provision
