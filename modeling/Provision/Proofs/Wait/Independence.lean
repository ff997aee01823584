import Provision.Proofs.Wait.Solo

/-!
Waits of clones of a waiter that are under way at once. In whatever order they take their turns, and
whoever sets or resets flags in between, each of them goes on as it would alone.
-/
namespace Provision

namespace Switches

theorem isCancelled_cancel {switches : Switches} {flag other : Flag}
    (set : switches.isCancelled flag = true) : (switches.cancel other).isCancelled flag = true := by
  have inside : flag.index < switches.states.length := by
    apply Nat.lt_of_not_le
    intro outside
    simp [isCancelled, outside] at set
  simp only [isCancelled, List.getD_eq_getElem?_getD, cancel, List.getElem?_set] at set ⊢
  split
  case isTrue same => simp [same, inside]
  case isFalse => exact set

theorem isCancelled_reset {flag other : Flag} (different : other ≠ flag) (switches : Switches) :
    (switches.reset other).isCancelled flag = switches.isCancelled flag := by
  have apart : other.index ≠ flag.index := fun same =>
    different (by cases other; cases flag; exact congrArg Flag.mk same)
  simp only [isCancelled, List.getD_eq_getElem?_getD, reset, List.getElem?_set, if_neg apart]

end Switches

namespace Wait

variable {ω ρ : Type} [Resource ρ]

/-- A flag that is set stays set unless it is reset itself. -/
theorem Event.isCancelled_call {switches : Switches} {flag : Flag} {event : Event}
    (set : switches.isCancelled flag = true) (left : event ≠ .reset flag) :
    (event.call switches).isCancelled flag = true := by
  cases event with
  | turn => exact set
  | cancel => exact Switches.isCancelled_cancel set
  | reset other =>
    have different : other ≠ flag := fun same => left (congrArg Event.reset same)
    exact (Switches.isCancelled_reset different switches).trans set

namespace Crowd

variable {waiter : Waiter (Scene ω) ρ}

theorem run_concat (schedule : List Event) (event : Event) (crowd : Crowd ω ρ) :
    run waiter (schedule ++ [event]) crowd = (run waiter schedule crowd).advance waiter event :=
  List.foldl_concat ..

theorem turn_of_absent {crowd : Crowd ω ρ} {i : Nat} (absent : crowd.members[i]? = none) :
    crowd.turn waiter i = crowd := by
  rw [turn, absent]

theorem turn_of_present {crowd : Crowd ω ρ} {i : Nat} {member : Member (Scene ω) ρ}
    (present : crowd.members[i]? = some member) :
    crowd.turn waiter i =
      ⟨(member.step waiter crowd.scene).2,
        crowd.members.set i (member.step waiter crowd.scene).1⟩ := by
  rw [turn, present]

/-- A turn of a wait is a step of that wait, and of no other. -/
theorem members_turn (crowd : Crowd ω ρ) (i j : Nat) :
    (crowd.turn waiter i).members[j]? =
      if i = j then crowd.members[j]?.map fun member => (member.step waiter crowd.scene).1
      else crowd.members[j]? := by
  cases present : crowd.members[i]? with
  | none =>
    rw [turn_of_absent present]
    split
    case isTrue same => rw [← same, present]; rfl
    case isFalse => rfl
  | some member =>
    obtain ⟨inside, _⟩ := List.getElem?_eq_some_iff.mp present
    rw [turn_of_present present, List.getElem?_set]
    split
    case isTrue same => rw [← same, present]; simp
    case isFalse => rfl

/-- Each of several waits follows any wait alone that reads and is brought the same. -/
theorem exists_follows (waiter : Waiter (Scene ω) ρ) (requests : List (Wait × Nat))
    (scene : Scene ω) (schedule : List Event) {i : Nat} (inside : i < requests.length) :
    ∃ member, (run waiter schedule (start waiter.interval requests scene)).members[i]? =
        some member ∧
      ∀ {τ : Type} (solo : Course τ ρ),
        solo.Replays waiter.interval requests[i] member.heard →
          solo.Follows member (solo.standing (schedule.count (.turn i))) := by
  induction schedule using List.reverseRecOn with
  | nil =>
    exact ⟨⟨.start waiter.interval requests[i].1 requests[i].2, {}⟩, by simp [run, start, inside],
      fun solo replays => replays.follows_start⟩
  | append_singleton schedule event ih =>
    obtain ⟨member, present, follows⟩ := ih
    rw [run_concat]
    generalize run waiter schedule (start waiter.interval requests scene) = crowd at present ⊢
    -- Only a turn of this very wait makes a difference to it.
    by_cases own : event = .turn i
    · subst own
      refine ⟨(member.step waiter crowd.scene).1, ?_, fun solo replays => ?_⟩
      · rw [advance, members_turn, if_pos rfl, present]
        rfl
      · have before := replays.of_extends (Transcript.note_extends ..)
        rw [List.count_append, List.count_singleton_self, Course.standing_succ]
        exact (follows solo before).step replays
    · refine ⟨member, ?_, fun solo replays => ?_⟩
      · cases event with
        | turn j =>
          have other : j ≠ i := fun same => own (congrArg Event.turn same)
          rw [advance, members_turn, if_neg other, present]
        | cancel => exact present
        | reset => exact present
      · rw [List.count_append, List.count_singleton, if_neg (by simpa using own)]
        exact follows solo replays

/-- Letting the first wait go on that is due is a turn of one of them, or of none. -/
theorem exists_stepFirst_eq (waiter : Waiter (Scene ω) ρ) (now : Nat) (scene : Scene ω)
    (members : List (Member (Scene ω) ρ)) :
    ∃ i, stepFirst waiter.environment waiter.interval now (members.map Member.progress) scene =
      let turned := turn waiter ⟨scene, members⟩ i
      (turned.members.map Member.progress, turned.scene) := by
  induction members with
  | nil => exact ⟨0, rfl⟩
  | cons member members ih =>
    rw [List.map_cons, stepFirst]
    by_cases due : member.progress.due? = some now
    · rw [if_pos due]
      exact ⟨0, rfl⟩
    · obtain ⟨i, stepped⟩ := ih
      rw [if_neg due, stepped]
      refine ⟨i + 1, ?_⟩
      cases present : members[i]? with
      | none =>
        have absent : (member :: members)[i + 1]? = none := present
        rw [turn_of_absent present, turn_of_absent absent]
        rfl
      | some other =>
        have further : (member :: members)[i + 1]? = some other := present
        rw [turn_of_present present, turn_of_present further]
        rfl

theorem exists_runAll_eq (waiter : Waiter (Scene ω) ρ) (waits : List (Progress (Scene ω) ρ))
    (scene : Scene ω) (members : List (Member (Scene ω) ρ))
    (same : members.map Member.progress = waits) :
    ∃ turns : List Nat, runAll waiter.environment waiter.interval waits scene =
      let ran := run waiter (turns.map Event.turn) ⟨scene, members⟩
      (ran.members.map Member.progress, ran.scene) := by
  induction waits, scene using runAll.induct waiter.environment waiter.interval
    generalizing members with
  | case1 waits scene none =>
    refine ⟨[], ?_⟩
    rw [runAll]
    split
    · rw [← same]
      rfl
    · rename_i now due
      cases none.symm.trans due
  | case2 waits scene now due less ih =>
    obtain ⟨i, stepped⟩ := exists_stepFirst_eq waiter now scene members
    rw [same] at stepped
    obtain ⟨turns, ran⟩ := ih (turn waiter ⟨scene, members⟩ i).members (by rw [stepped])
    refine ⟨i :: turns, ?_⟩
    rw [runAll]
    split
    · rename_i none
      cases none.symm.trans due
    · rename_i first firstDue
      cases firstDue.symm.trans due
      rw [ran]
      simp only [stepped]
      rfl

/-- Waits that all begin at one time on one clock are a crowd that takes turns. -/
theorem exists_waitAll_eq (waiter : Waiter (Scene ω) ρ) (requests : List Wait) (now : Nat)
    (scene : Scene ω) :
    ∃ turns : List Nat, waiter.waitAll requests now scene =
      let begun := start waiter.interval (requests.map fun request => (request, now)) scene
      let ran := run waiter (turns.map Event.turn) begun
      (ran.members.filterMap fun member => member.progress.ending?, ran.scene) := by
  obtain ⟨turns, ran⟩ := exists_runAll_eq waiter
    (requests.map fun request => Progress.start waiter.interval request now) scene
    (start waiter.interval (requests.map fun request => (request, now)) scene).members
    (by simp [start])
  refine ⟨turns, ?_⟩
  rw [Waiter.waitAll, ran]
  simp only [List.filterMap_map]
  rfl

end Crowd

section Heeding

variable {registry : Registry (Launcher ω ρ)} {flag : Flag} {interval : Nat}

/-- Whether a fetch under way, if there is one, leaves the switches alone. -/
def Stage.Harmless : Stage (Scene ω) ρ → Prop
  | .busy _ _ land => ∀ scene, (land scene).2.switches = scene.switches
  | .idle .. | .over .. => True

theorem Stage.Harmless.step {p : Progress (Scene ω) ρ} (harmless : p.stage.Harmless)
    (scene : Scene ω) :
    let waiter := Waiter.heeding registry flag interval
    (p.step waiter.environment waiter.interval scene).2.switches = scene.switches ∧
      (p.step waiter.environment waiter.interval scene).1.stage.Harmless := by
  intro waiter
  cases stage : p.stage with
  | idle since planned =>
    simp only [Progress.step, stage, Progress.wake]
    split
    · exact ⟨rfl, trivial⟩
    split
    · exact ⟨rfl, trivial⟩
    split
    · exact ⟨rfl, trivial⟩
    · exact ⟨rfl, fun _ => rfl⟩
  | busy planned lands land =>
    rw [stage] at harmless
    simp only [Progress.step, stage, Progress.settle]
    refine ⟨harmless scene, ?_⟩
    split <;> trivial
  | «over» =>
    simp only [Progress.step, stage]
    exact ⟨trivial, trivial⟩

/-- A wait that goes on while the flag is set starts no fetch. -/
theorem Progress.starts_step_of_cancelled {scene : Scene ω} (p : Progress (Scene ω) ρ)
    (set : scene.switches.isCancelled flag = true) :
    let waiter := Waiter.heeding registry flag interval
    (p.step waiter.environment waiter.interval scene).1.starts = p.starts := by
  intro waiter
  have called (time : Nat) : waiter.environment.isCancelled scene time = true := set
  cases stage : p.stage with
  | idle since planned =>
    simp only [Progress.step, stage, Progress.wake, called, if_true]
    split
    · rfl
    split <;> rfl
  | busy planned lands land =>
    simp only [Progress.step, stage, Progress.settle]
    split <;> rfl
  | «over» => rw [Progress.step, stage]

namespace Crowd

/-- Whether the fetches under way leave the switches alone. -/
def Harmless (crowd : Crowd ω ρ) : Prop := ∀ member ∈ crowd.members, member.progress.stage.Harmless

theorem Harmless.advance {crowd : Crowd ω ρ} (harmless : crowd.Harmless) (event : Event) :
    (crowd.advance (.heeding registry flag interval) event).scene.switches =
        event.call crowd.scene.switches ∧
      (crowd.advance (.heeding registry flag interval) event).Harmless := by
  cases event with
  | turn i =>
    cases present : crowd.members[i]? with
    | none =>
      rw [Crowd.advance, turn_of_absent present]
      exact ⟨rfl, harmless⟩
    | some member =>
      obtain ⟨unwritten, still⟩ :=
        (harmless member (List.mem_of_getElem? present)).step crowd.scene
      rw [Crowd.advance, turn_of_present present]
      refine ⟨unwritten, fun other isMember => ?_⟩
      rcases List.mem_or_eq_of_mem_set isMember with old | rfl
      · exact harmless other old
      · exact still
  | cancel => exact ⟨rfl, harmless⟩
  | reset => exact ⟨rfl, harmless⟩

theorem Harmless.run {crowd : Crowd ω ρ} (harmless : crowd.Harmless) (schedule : List Event) :
    (Crowd.run (.heeding registry flag interval) schedule crowd).scene.switches =
        schedule.foldl Event.call crowd.scene.switches ∧
      (Crowd.run (.heeding registry flag interval) schedule crowd).Harmless := by
  induction schedule using List.reverseRecOn with
  | nil => exact ⟨rfl, harmless⟩
  | append_singleton schedule event ih =>
    obtain ⟨switches, before⟩ := ih
    rw [run_concat, List.foldl_concat, ← switches]
    exact before.advance event

omit [Resource ρ] in
theorem harmless_start (requests : List (Wait × Nat)) (scene : Scene ω) :
    (start interval requests scene : Crowd ω ρ).Harmless := by
  intro member isMember
  obtain ⟨request, _, rfl⟩ := List.mem_map.mp isMember
  trivial

/-- The times at which a wait among others has fetched. -/
def starts? (crowd : Crowd ω ρ) (i : Nat) : Option (List Nat) :=
  crowd.members[i]?.map fun member => member.progress.starts

theorem starts?_advance_of_cancelled {crowd : Crowd ω ρ} (event : Event)
    (set : crowd.scene.switches.isCancelled flag = true) (i : Nat) :
    (crowd.advance (.heeding registry flag interval) event).starts? i = crowd.starts? i := by
  cases event with
  | turn j =>
    rw [starts?, starts?, Crowd.advance, members_turn]
    split
    · rw [Option.map_map]
      congr 1
      funext member
      exact member.progress.starts_step_of_cancelled set
    · rfl
  | cancel => rfl
  | reset => rfl

theorem Harmless.starts?_run {crowd : Crowd ω ρ} (harmless : crowd.Harmless)
    {schedule : List Event} (left : .reset flag ∉ schedule)
    (set : crowd.scene.switches.isCancelled flag = true) (i : Nat) :
    (Crowd.run (.heeding registry flag interval) schedule crowd).starts? i =
      crowd.starts? i := by
  induction schedule generalizing crowd with
  | nil => rfl
  | cons event schedule ih =>
    rw [List.mem_cons, not_or] at left
    obtain ⟨switches, still⟩ := harmless.advance event
    have stillSet := Event.isCancelled_call set (Ne.symm left.1)
    rw [← switches] at stillSet
    exact (ih still left.2 stillSet).trans (starts?_advance_of_cancelled event set i)

/-- How several waits of clones of a waiter go on among each other. -/
structure Independent (registry : Registry (Launcher ω ρ)) (flag : Flag) (interval : Nat)
    (requests : List (Wait × Nat)) (scene : Scene ω) (schedule : List Event) : Prop where
  /-- Each stands where it would alone after as many steps, if it read at its ticks and were brought
  by its fetches the same. There is a wait alone that does and is. -/
  alone {i : Nat} (inside : i < requests.length) :
    ∃ member, (Crowd.run (.heeding registry flag interval) schedule
        (start interval requests scene)).members[i]? = some member ∧
      (∃ solo : Course Nat ρ, solo.Replays interval requests[i] member.heard) ∧
      ∀ {τ : Type} (solo : Course τ ρ), solo.Replays interval requests[i] member.heard →
        solo.Matches (schedule.count (.turn i)) member.progress
  /-- The switches are as the calls on flags leave them. -/
  unwritten :
    (Crowd.run (.heeding registry flag interval) schedule
        (start interval requests scene)).scene.switches =
      schedule.foldl Event.call scene.switches
  /-- None of them starts a fetch once the flag is set and left so. -/
  quiet {earlier later : List Event} (split : schedule = earlier ++ later)
    (set : (Crowd.run (.heeding registry flag interval) earlier
      (start interval requests scene)).scene.switches.isCancelled flag = true)
    (left : .reset flag ∉ later) (i : Nat) :
    (Crowd.run (.heeding registry flag interval) schedule
        (start interval requests scene)).starts? i =
      (Crowd.run (.heeding registry flag interval) earlier (start interval requests scene)).starts? i

/-- Waits of clones of a waiter do not disturb each other, in whatever order they go on and whoever
calls on flags in between. -/
theorem independent (registry : Registry (Launcher ω ρ)) (flag : Flag) (interval : Nat)
    (requests : List (Wait × Nat)) (scene : Scene ω) (schedule : List Event) :
    Independent registry flag interval requests scene schedule := by
  have begun : (start interval requests scene : Crowd ω ρ).Harmless :=
    harmless_start requests scene
  constructor
  case alone =>
    intro i inside
    obtain ⟨member, present, follows⟩ :=
      exists_follows (.heeding registry flag interval) requests scene schedule inside
    refine ⟨member, present, ?_, fun solo replays => (follows solo replays).matches⟩
    exact ⟨_, member.heard.replay_replays interval requests[i]⟩
  case unwritten => exact (begun.run schedule).1
  case quiet =>
    intro earlier later split set left i
    rw [split, Crowd.run, List.foldl_append]
    exact (begun.run earlier).2.starts?_run left set i

-- The flag is set while the first wait fetches, and before the second comes to its first tick.
example :
    let waiter : Waiter (Scene Unit) Snapshot :=
      .heeding (Registry.empty.register .vlan (lingering 4)) ⟨0⟩ 10
    let begun : Crowd Unit Snapshot :=
      start 10 [(Wait.deploy .vlan "v-1" 30, 0), (Wait.deploy .vlan "v-2" 30, 5)] ⟨⟨[false]⟩, ()⟩
    let ended := Crowd.run waiter [.turn 0, .cancel ⟨0⟩, .turn 0, .turn 1, .turn 0] begun
    ended.members.filterMap (fun member => member.progress.ending?) =
      [⟨.error (.cancelled "Wait for Deploy of VLAN 'v-1'"), 20, [10]⟩,
        ⟨.error (.cancelled "Wait for Deploy of VLAN 'v-2'"), 15, []⟩] := by
  rfl

end Crowd

end Heeding

end Wait

end Provision
