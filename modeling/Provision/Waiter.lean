import Provision.Wait.Errand
import Provision.Wait.Progress

namespace Provision

/-- An environment, and the milliseconds between two polls, on an ideal clock: it counts whole
milliseconds without a limit, and whoever sleeps wakes up when that is due and never later. -/
structure Waiter (σ ρ : Type) where
  environment : Wait.Environment σ ρ
  interval : Nat := 5000

namespace Waiter

variable {σ ρ : Type} [Resource ρ]

def wait (waiter : Waiter σ ρ) (request : Wait) (now : Nat) (state : σ) : Wait.Ending ρ × σ :=
  (Wait.Progress.start waiter.interval request now).run waiter.environment waiter.interval state

def perform (waiter : Waiter σ ρ) (errand : Errand) (now : Nat) (state : σ) :
    Except Error (errand.Result ρ) × σ :=
  let (ending, state) := waiter.wait errand.request now state
  (errand.conclude ending.outcome, state)

def waitAll (waiter : Waiter σ ρ) (requests : List Wait) (now : Nat) (state : σ) :
    List (Wait.Ending ρ) × σ :=
  let begun := requests.map fun request => Wait.Progress.start waiter.interval request now
  let (ended, state) := Wait.runAll waiter.environment waiter.interval begun state
  (ended.filterMap Wait.Progress.ending?, state)

end Waiter

end Provision
