import Provision.Client.Basic
import Provision.Waiter

namespace Provision.Client

open Service

/-- What waits of a client depend on: its session, and the switches of flags. -/
structure Situation where
  session : Session
  switches : Switches

/-- The surroundings of a client's waits. A fetch takes as long as its messages and the pauses
between them. -/
def environment (client : Client) (network : Network) : Wait.Environment Situation Model where
  isCancelled situation _ := situation.switches.isCancelled client.flag
  fetch kind id now situation :=
    let session := { situation.session with clock := now }
    let (fetched, session) := (client.getResource kind id).run network session
    (⟨session.clock - now, fun situation => (fetched, situation)⟩, { situation with session })

def waiter (client : Client) (network : Network) : Waiter Situation Model where
  environment := client.environment network
  interval := client.pollInterval

def wait (client : Client) (network : Network) (request : Wait) (situation : Situation) :
    Except Error (Option Model) × Situation :=
  let (ending, situation) :=
    (client.waiter network).wait request situation.session.clock situation
  (ending.outcome,
    { situation with session := { situation.session with clock := ending.endedAt } })

def perform (client : Client) (network : Network) (errand : Errand) (situation : Situation) :
    Except Error (errand.Result Model) × Situation :=
  let (outcome, situation) := client.wait network errand.request situation
  (errand.conclude outcome, situation)

end Provision.Client
