import Provision.Proofs.Wait.Judgement
import Provision.Proofs.Wait.Ticks

/-!
The outcome of a wait over a registry. The first tick that is terminal fixes it: a tick is judged by
the deadline, then by the flag, and then by what the registry brings.
-/
namespace Provision

variable {σ ρ : Type} [Resource ρ]

/-- A waiter over a registry, with a flag that depends on the state and the time. -/
def Waiter.over (registry : Registry (Wait.Launcher σ ρ)) (isCancelled : σ → Nat → Bool)
    (interval : Nat) : Waiter σ ρ :=
  ⟨⟨isCancelled, Wait.launch registry⟩, interval⟩

namespace Wait

def Launcher.reply (launcher : Launcher σ ρ) (id : String) (now : Nat) (state : σ) :
    Except Error (Option ρ) :=
  let launched := launcher id now state
  (launched.1.land launched.2).1

/-- What a registry brings: the reply of the fetcher of a kind, unless there is none, or it found a
resource of another kind. -/
inductive Brings (registry : Registry (Launcher σ ρ)) (kind : Kind) (id : String) (now : Nat)
    (state : σ) : Except Error (Option ρ) → Prop where
  | unregistered (missing : registry.fetcher? kind = none) :
    Brings registry kind id now state
      (.error (.config s!"no fetcher registered for {kind.name} resources"))
  | failed {launcher : Launcher σ ρ} {error : Error}
    (registered : registry.fetcher? kind = some launcher)
    (replied : Launcher.reply launcher id now state = .error error) :
    Brings registry kind id now state (.error error)
  | absent {launcher : Launcher σ ρ} (registered : registry.fetcher? kind = some launcher)
    (replied : Launcher.reply launcher id now state = .ok none) :
    Brings registry kind id now state (.ok none)
  | foreign {launcher : Launcher σ ρ} {resource : ρ}
    (registered : registry.fetcher? kind = some launcher)
    (replied : Launcher.reply launcher id now state = .ok (some resource))
    (other : (snapshot resource).kind ≠ kind) :
    Brings registry kind id now state
      (.error (.internal (s!"fetcher for {kind.name} '" ++ id ++
        s!"' returned a {(snapshot resource).kind.name}")))
  | found {launcher : Launcher σ ρ} {resource : ρ}
    (registered : registry.fetcher? kind = some launcher)
    (replied : Launcher.reply launcher id now state = .ok (some resource))
    (same : (snapshot resource).kind = kind) :
    Brings registry kind id now state (.ok (some resource))

theorem reply_launch_of_none {registry : Registry (Launcher σ ρ)} {kind : Kind}
    (missing : registry.fetcher? kind = none) (id : String) (now : Nat) (state : σ) :
    Launcher.reply (launch registry kind) id now state =
      .error (.config s!"no fetcher registered for {kind.name} resources") := by
  simp [Launcher.reply, launch, Registry.lookup, missing]

theorem reply_launch_of_some {registry : Registry (Launcher σ ρ)} {kind : Kind}
    {launcher : Launcher σ ρ} (registered : registry.fetcher? kind = some launcher) (id : String)
    (now : Nat) (state : σ) :
    Launcher.reply (launch registry kind) id now state =
      (Launcher.reply launcher id now state).bind (Registry.accept kind id) := by
  simp [Launcher.reply, launch, Registry.lookup, registered]

theorem brings_iff {registry : Registry (Launcher σ ρ)} {kind : Kind} {id : String} {now : Nat}
    {state : σ} {reply : Except Error (Option ρ)} :
    Brings registry kind id now state reply ↔
      Launcher.reply (launch registry kind) id now state = reply := by
  constructor
  · intro brings
    cases brings with
    | unregistered missing => exact reply_launch_of_none missing id now state
    | failed registered replied => rw [reply_launch_of_some registered, replied]; rfl
    | absent registered replied => rw [reply_launch_of_some registered, replied]; rfl
    | foreign registered replied other =>
      rw [reply_launch_of_some registered, replied]
      simp [Except.bind, Registry.accept, other]
    | found registered replied same =>
      rw [reply_launch_of_some registered, replied]
      simp [Except.bind, Registry.accept, same]
  · rintro rfl
    cases registered : registry.fetcher? kind with
    | none =>
      rw [reply_launch_of_none registered]
      exact .unregistered registered
    | some launcher =>
      rw [reply_launch_of_some registered]
      cases replied : Launcher.reply launcher id now state with
      | error error => exact .failed registered replied
      | ok found =>
        cases found with
        | none => exact .absent registered replied
        | some resource =>
          by_cases same : (snapshot resource).kind = kind
          · simp only [Except.bind, Registry.accept, same, if_true]
            exact .found registered replied same
          · simp only [Except.bind, Registry.accept, same, if_false]
            exact .foreign registered replied same

namespace Course

variable (course : Course σ ρ) (registry : Registry (Launcher σ ρ)) (tick : Tick σ)

/-- Whether a tick shows the operation under way, so that the wait goes on. -/
def Passes : Prop :=
  tick.time < course.deadline ∧ ¬ course.IsCancelled tick ∧
    ∃ reply, Brings registry course.request.kind course.request.id tick.time tick.state reply ∧
      course.request.Pends reply

/-- How a tick is terminal: the ending that it fixes, with its own fetch if there is one. -/
inductive Terminates : Ending ρ → Prop where
  | expired (due : course.deadline ≤ tick.time) :
    Terminates
      ⟨.error (course.request.timedOut (max course.deadline tick.since - course.began)),
        max course.deadline tick.since, []⟩
  | cancelled (early : tick.time < course.deadline) (set : course.IsCancelled tick) :
    Terminates ⟨.error (.cancelled course.request.description), tick.time, []⟩
  | replied {reply outcome : Except Error (Option ρ)} (early : tick.time < course.deadline)
    (clear : ¬ course.IsCancelled tick)
    (brings : Brings registry course.request.kind course.request.id tick.time tick.state reply)
    (settles : course.request.Settles reply outcome) :
    Terminates ⟨outcome, (course.poll tick).lands, [tick.time]⟩

variable {course registry tick}

private theorem brings_poll (fetches : course.waiter.environment.fetch = launch registry)
    (tick : Tick σ) (reply : Except Error (Option ρ)) :
    Brings registry course.request.kind course.request.id tick.time tick.state reply ↔
      (course.poll tick).fetched = reply := by
  rw [brings_iff, ← fetches]
  rfl

private theorem passes_iff (fetches : course.waiter.environment.fetch = launch registry) :
    course.Passes registry tick ↔ course.Continues tick := by
  constructor
  · rintro ⟨early, clear, reply, brings, pends⟩
    have replied := (brings_poll fetches tick reply).mp brings
    exact ⟨⟨early, clear⟩, replied ▸ pends.judge_eq⟩
  · rintro ⟨⟨early, clear⟩, unjudged⟩
    have brings := (brings_poll fetches tick _).mpr rfl
    exact ⟨early, clear, _, brings, judge_eq_none_iff.mp unjudged⟩

private theorem terminates_iff (fetches : course.waiter.environment.fetch = launch registry)
    {closing : Ending ρ} :
    course.Terminates registry tick closing ↔ ∃ state, course.Closes tick closing state := by
  constructor
  · intro terminates
    cases terminates with
    | expired due => exact ⟨_, .expired due⟩
    | cancelled early set => exact ⟨_, .cancelled early set⟩
    | replied early clear brings settles =>
      have replied := (brings_poll fetches tick _).mp brings
      exact ⟨_, .answered ⟨early, clear⟩ (replied ▸ settles.judge_eq)⟩
  · rintro ⟨state, closes⟩
    cases closes with
    | expired due => exact .expired due
    | cancelled early set => exact .cancelled early set
    | answered asks judged =>
      have brings := (brings_poll fetches tick _).mpr rfl
      exact .replied asks.1 asks.2 brings (judge_eq_some_iff.mp judged)

end Course

end Wait

open Wait in
/-- A wait over a registry ends as its first terminal tick fixes, whatever is waited for, whatever
the fetchers bring and however long they take, and whenever the flag is set and reset. It fetches
once at every tick before, and at the terminal tick unless the deadline or the flag ends it. -/
theorem Waiter.wait_eq_iff_first_terminal_tick (registry : Registry (Launcher σ ρ))
    (isCancelled : σ → Nat → Bool) (interval : Nat) (positive : 0 < interval) (request : Wait)
    (began : Nat) (state : σ) (ending : Ending ρ) :
    let course : Course σ ρ := ⟨Waiter.over registry isCancelled interval, request, began, state⟩
    ((Waiter.over registry isCancelled interval).wait request began state).1 = ending ↔
      ∃ n closing, (∀ m < n, course.Passes registry (course.tick m)) ∧
        course.Terminates registry (course.tick n) closing ∧
        ending = { closing with starts := course.times n ++ closing.starts } := by
  intro course
  have fetches : course.waiter.environment.fetch = launch registry := rfl
  have reaches (n : Nat) :
      course.Reaches n ↔ ∀ m < n, course.Passes registry (course.tick m) := by
    simp only [Course.passes_iff fetches, Course.Reaches]
  change course.run.1 = ending ↔ _
  rw [Course.ending_eq_iff positive]
  constructor
  · rintro ⟨n, closing, state, reached, closes, same⟩
    have terminates := (Course.terminates_iff fetches).mpr ⟨state, closes⟩
    exact ⟨n, closing, (reaches n).mp reached, terminates, same⟩
  · rintro ⟨n, closing, passes, terminates, same⟩
    obtain ⟨state, closes⟩ := (Course.terminates_iff fetches).mp terminates
    exact ⟨n, closing, state, (reaches n).mpr passes, closes, same⟩

/-- The launcher of a network that is always being made, and takes some time to say so. -/
def Wait.lingering (takes : Nat) : Wait.Launcher Unit Snapshot := fun id _ state =>
  (⟨takes, fun state =>
    (.ok (some { id, name := "lan", state := "PENDING_ADD", kind := .vlan }), state)⟩, state)

open Wait in
/-- Two fetches of 12 ms each, the second of which lands after the deadline of 25 ms. -/
theorem Waiter.wait_lingering_expires :
    let registry := Registry.empty.register .vlan (lingering 12)
    let request := Wait.deploy .vlan "v-1" 25
    0 < 10 ∧ ((Waiter.over registry (fun _ _ => false) 10).wait request 0 ()).1 =
      ⟨.error (request.timedOut 34), 34, [10, 22]⟩ := by
  intro registry request
  refine ⟨by decide, (Waiter.wait_eq_iff_first_terminal_tick _ _ _ (by decide) _ _ _ _).mpr
    ⟨2, ⟨.error (request.timedOut 34), 34, []⟩, ?_, .expired (by decide), rfl⟩⟩
  intro m before
  have brings (now : Nat) : Brings registry .vlan "v-1" now ()
      (.ok (some { id := "v-1", name := "lan", state := "PENDING_ADD", kind := .vlan })) :=
    .found rfl rfl rfl
  have pends : request.Pends (.ok (some
      { id := "v-1", name := "lan", state := "PENDING_ADD", kind := .vlan : Snapshot })) :=
    ⟨_, "PENDING_ADD", rfl, ⟨rfl, rfl⟩, by decide, by decide⟩
  have early : ∀ m < 2, (Course.tick ⟨Waiter.over registry (fun _ _ => false) 10, request, 0, ()⟩
      m).time < 25 := by decide
  exact ⟨early m before, Bool.false_ne_true, _, brings _, pends⟩

end Provision
