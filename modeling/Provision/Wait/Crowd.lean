import Provision.Cancellation
import Provision.Waiter

/-!
Waits of clones of a waiter that are under way at once. They share a registry and the switches of
flags, and take turns in any order. A turn goes from one sleep or fetch of a wait to the next; in
between anybody may put a switch on or off.
-/
namespace Provision

namespace Wait

/-- What waits of clones share: the switches, and all that fetchers depend on. -/
structure Scene (ω : Type) where
  switches : Switches
  world : ω

end Wait

open Wait in
/-- A waiter over a registry that looks at a flag. Its clones share both. -/
def Waiter.heeding {ω ρ : Type} [Resource ρ] (registry : Registry (Launcher ω ρ)) (flag : Flag)
    (interval : Nat) : Waiter (Scene ω) ρ where
  environment.isCancelled scene _ := scene.switches.isCancelled flag
  environment.fetch kind id now scene :=
    let (flight, world) := launch registry kind id now scene.world
    (⟨flight.takes, fun scene =>
      let (fetched, world) := flight.land scene.world
      (fetched, { scene with world })⟩, { scene with world })
  interval := interval

namespace Wait

variable {σ ω ρ : Type}

/-- What a wait has read and been brought, tick by tick. -/
structure Transcript (ρ : Type) where
  flags : List Bool := []
  durations : List Nat := []
  replies : List (Except Error (Option ρ)) := []

/-- Write down what a wait reads or is brought when it goes on. -/
def Transcript.note (waiter : Waiter σ ρ) (p : Progress σ ρ) (state : σ) (heard : Transcript ρ) :
    Transcript ρ :=
  match p.stage with
  | .idle since planned =>
    let tick := max planned since
    if waiter.interval = 0 ∨ p.deadline ≤ tick then heard
    else if waiter.environment.isCancelled state tick then
      { heard with flags := heard.flags ++ [true] }
    else
      let (flight, _) := waiter.environment.fetch p.wait.kind p.wait.id tick state
      { heard with
        flags := heard.flags ++ [false]
        durations := heard.durations ++ [flight.takes] }
  | .busy _ _ land => { heard with replies := heard.replies ++ [(land state).1] }
  | .over .. => heard

structure Member (σ ρ : Type) where
  progress : Progress σ ρ
  heard : Transcript ρ := {}

/-- Let a wait go on, and write down what it reads or is brought. -/
def Member.step [Resource ρ] (waiter : Waiter σ ρ) (member : Member σ ρ) (state : σ) :
    Member σ ρ × σ :=
  let heard := member.heard.note waiter member.progress state
  let (progress, state) := member.progress.step waiter.environment waiter.interval state
  (⟨progress, heard⟩, state)

inductive Event where
  | turn (i : Nat)
  | cancel (flag : Flag)
  | reset (flag : Flag)
deriving DecidableEq, Repr

/-- What an event does to the switches if it is a call on a flag. -/
def Event.call (switches : Switches) : Event → Switches
  | turn _ => switches
  | cancel flag => switches.cancel flag
  | reset flag => switches.reset flag

structure Crowd (ω ρ : Type) where
  scene : Scene ω
  members : List (Member (Scene ω) ρ)

namespace Crowd

def start (interval : Nat) (requests : List (Wait × Nat)) (scene : Scene ω) : Crowd ω ρ where
  scene
  members := requests.map fun (request, began) => ⟨.start interval request began, {}⟩

variable [Resource ρ]

def turn (waiter : Waiter (Scene ω) ρ) (crowd : Crowd ω ρ) (i : Nat) : Crowd ω ρ :=
  match crowd.members[i]? with
  | none => crowd
  | some member =>
    let (member, scene) := member.step waiter crowd.scene
    { scene, members := crowd.members.set i member }

def advance (waiter : Waiter (Scene ω) ρ) (crowd : Crowd ω ρ) (event : Event) : Crowd ω ρ :=
  match event with
  | .turn i => crowd.turn waiter i
  | _ => { crowd with scene := { crowd.scene with switches := event.call crowd.scene.switches } }

def run (waiter : Waiter (Scene ω) ρ) (schedule : List Event) (crowd : Crowd ω ρ) : Crowd ω ρ :=
  schedule.foldl (advance waiter) crowd

end Crowd

end Wait

end Provision
