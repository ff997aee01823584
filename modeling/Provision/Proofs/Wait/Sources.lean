import Provision.Proofs.Wait.Lockstep

/-!
What a wait sees of the resources it is brought. It looks at one state of theirs only, so a wait
for a backup is the same wait for a resource whose own state is that of the backup, and what the
other state is makes no difference to it.
-/
namespace Provision

variable {σ ρ ρ' : Type}

/-- The registry whose fetchers are made from those of another. -/
def Registry.map {φ ψ : Type} (make : φ → ψ) (registry : Registry φ) : Registry ψ :=
  ⟨fun kind => (registry.fetcher? kind).map make⟩

theorem Registry.lookup_map {φ ψ : Type} (make : φ → ψ) (registry : Registry φ) (kind : Kind) :
    (registry.map make).lookup kind = (registry.lookup kind).map make := by
  simp only [lookup, map]
  cases registry.fetcher? kind <;> rfl

theorem Registry.accept_of_eq [Resource ρ] {kind : Kind} {resource : ρ}
    (same : (snapshot resource).kind = kind) (id : String) :
    accept kind id (some resource) = .ok (some resource) := if_pos same

theorem Registry.accept_of_ne [Resource ρ] {kind : Kind} {resource : ρ}
    (other : (snapshot resource).kind ≠ kind) (id : String) :
    accept kind id (some resource) = .error (.internal
      (s!"fetcher for {kind.name} '" ++ id ++
        s!"' returned a {(snapshot resource).kind.name}")) := if_neg other

/-- What is left of a resource of a kind if the state of its backup is taken for its own. There is
nothing left of a live one without a backup. -/
def Snapshot.asBackup (kind : Kind) (seen : Snapshot) : Option Snapshot :=
  if seen.deleted = false ∧ seen.kind = kind then
    seen.backupState.map fun state => { seen with state }
  else some seen

theorem Snapshot.asBackup_of_some {kind : Kind} {seen : Snapshot} {state : String}
    (live : seen.deleted = false) (same : seen.kind = kind)
    (backup : seen.backupState = some state) :
    seen.asBackup kind = some { seen with state } := by
  rw [asBackup, if_pos ⟨live, same⟩, backup]
  rfl

theorem Snapshot.asBackup_of_none {kind : Kind} {seen : Snapshot} (live : seen.deleted = false)
    (same : seen.kind = kind) (backup : seen.backupState = none) : seen.asBackup kind = none := by
  rw [asBackup, if_pos ⟨live, same⟩, backup]
  rfl

theorem Snapshot.asBackup_of_deleted {seen : Snapshot} (gone : seen.deleted = true) (kind : Kind) :
    seen.asBackup kind = some seen := if_neg fun both => by simp [gone] at both

theorem Snapshot.asBackup_of_ne {kind : Kind} {seen : Snapshot} (other : seen.kind ≠ kind) :
    seen.asBackup kind = some seen := if_neg fun both => other both.2

namespace Wait

def looking (request : Wait) (source : StateSource) : Wait := { request with source }

/-- The launcher that brings another resource, or none, in place of each. Which one may depend on
the state after the fetch. -/
def Launcher.alter (change : σ → ρ → Option ρ') (launcher : Launcher σ ρ) : Launcher σ ρ' :=
  fun id now state =>
    let (flight, state) := launcher id now state
    (⟨flight.takes, fun state =>
      let (fetched, state) := flight.land state
      (fetched.map (·.bind (change state)), state)⟩, state)

def Ending.map (change : ρ → ρ') (ending : Ending ρ) : Ending ρ' :=
  { outcome := ending.outcome.map (·.map change), endedAt := ending.endedAt,
    starts := ending.starts }

namespace Course

/-- Whether two waits come to the same ticks, as long as they go on, and have the same deadline. -/
structure SharesTicks (course : Course σ ρ) (other : Course σ ρ') : Prop where
  tick_eq (n : Nat) : course.tick n = other.tick n
  began_eq : course.began = other.began
  timeout_eq : course.request.timeout = other.request.timeout

variable {course : Course σ ρ} {other : Course σ ρ'}

namespace SharesTicks

theorem deadline_eq (shares : course.SharesTicks other) : course.deadline = other.deadline := by
  rw [deadline, deadline, shares.began_eq, shares.timeout_eq]

theorem times_eq (shares : course.SharesTicks other) (n : Nat) : course.times n = other.times n := by
  simp only [times, shares.tick_eq]

/-- When a fetch lands, and the state after it, show in the next tick. -/
theorem lands_eq (shares : course.SharesTicks other) (n : Nat) :
    (course.poll (course.tick n)).lands = (other.poll (other.tick n)).lands :=
  congrArg Tick.since (shares.tick_eq (n + 1))

theorem state_eq (shares : course.SharesTicks other) (n : Nat) :
    (course.poll (course.tick n)).state = (other.poll (other.tick n)).state :=
  congrArg Tick.state (shares.tick_eq (n + 1))

end SharesTicks

variable [Resource ρ] [Resource ρ']

inductive EndTogether (course : Course σ ρ) (other : Course σ ρ') : Prop where
  | expired {elapsed : Nat}
    (ended : course.run.1.outcome = .error (course.request.timedOut elapsed))
    (ended' : other.run.1.outcome = .error (other.request.timedOut elapsed))
  | cancelled (ended : course.run.1.outcome = .error (.cancelled course.request.description))
    (ended' : other.run.1.outcome = .error (.cancelled other.request.description))
  | answered {n : Nat} (last : course.fetches = n + 1)
    (after : course.run.2 = (course.poll (course.tick n)).state)
    (judged : course.request.judge (course.poll (course.tick n)).fetched =
      some course.run.1.outcome)
    (judged' : other.request.judge (other.poll (other.tick n)).fetched =
      some other.run.1.outcome)

theorem SharesTicks.keepsStep (shares : course.SharesTicks other)
    (flag_iff : ∀ tick, course.IsCancelled tick ↔ other.IsCancelled tick)
    (pending_iff : ∀ n, course.request.judge (course.poll (course.tick n)).fetched = none ↔
      other.request.judge (other.poll (other.tick n)).fetched = none) :
    course.KeepsStep other where
  late_iff _ _ := by rw [shares.tick_eq, shares.deadline_eq]
  flag_iff _ _ := by
    rw [flag_iff, shares.tick_eq]
  pending_iff _ _ _ _ := pending_iff _

theorem SharesTicks.endTogether (shares : course.SharesTicks other)
    (step : course.KeepsStep other) (positive : 0 < course.waiter.interval)
    (positive' : 0 < other.waiter.interval) :
    course.run.1.starts = other.run.1.starts ∧ course.run.1.endedAt = other.run.1.endedAt ∧
      course.run.2 = other.run.2 ∧ course.EndTogether other := by
  obtain ⟨n, reached, reached', together⟩ := step.exists_closeTogether positive
  cases together with
  | expired due due' =>
    have ran := run_of_closes positive reached (.expired due)
    have ran' := run_of_closes positive' reached' (.expired due')
    rw [← shares.tick_eq, ← shares.deadline_eq, ← shares.began_eq, ← shares.times_eq] at ran'
    have together : course.EndTogether other := .expired (by rw [ran]) (by rw [ran'])
    rw [ran, ran'] at *
    exact ⟨rfl, rfl, rfl, together⟩
  | cancelled early set early' set' =>
    have ran := run_of_closes positive reached (.cancelled early set)
    have ran' := run_of_closes positive' reached' (.cancelled early' set')
    rw [← shares.tick_eq, ← shares.times_eq] at ran'
    have together : course.EndTogether other := .cancelled (by rw [ran]) (by rw [ran'])
    rw [ran, ran']
    exact ⟨rfl, rfl, rfl, together⟩
  | answered asks judged asks' judged' =>
    have last := fetches_of_closes positive reached (.answered asks judged)
    have ran := run_of_closes positive reached (.answered asks judged)
    have ran' := run_of_closes positive' reached' (.answered asks' judged')
    have together : course.EndTogether other := by
      refine .answered last ?_ ?_ ?_
      · rw [ran]
      · rw [judged, ran]
      · rw [judged', ran']
    rw [ran, ran', shares.lands_eq, shares.state_eq, shares.times_eq, shares.tick_eq]
    exact ⟨rfl, rfl, rfl, together⟩

end Course

section

variable [Resource ρ] [Resource ρ']

/-- The same wait over the registry whose fetchers bring something else, looking at a source of
states. -/
def Course.altered (course : Course σ ρ) (registry : Registry (Launcher σ ρ))
    (change : σ → ρ → Option ρ') (source : StateSource) : Course σ ρ' where
  waiter := Waiter.over (registry.map (Launcher.alter change))
    course.waiter.environment.isCancelled course.waiter.interval
  request := course.request.looking source
  began := course.began
  state := course.state

variable {course : Course σ ρ} {registry : Registry (Launcher σ ρ)}

/-- A fetcher's reply, and what is brought in its place. Both go through the registry, which looks
at their kinds. -/
theorem Course.exists_reply (fetches : course.waiter.environment.fetch = launch registry)
    (change : σ → ρ → Option ρ') (source : StateSource) (tick : Tick σ) :
    let altered := course.altered registry change source
    (course.poll tick).lands = (altered.poll tick).lands ∧
      (course.poll tick).state = (altered.poll tick).state ∧
      ∃ reply : Except Error (Option ρ),
        (course.poll tick).fetched =
            reply.bind (Registry.accept course.request.kind course.request.id) ∧
          (altered.poll tick).fetched =
            (reply.map (·.bind (change (course.poll tick).state))).bind
              (Registry.accept course.request.kind course.request.id) := by
  intro altered
  have found : (registry.map (Launcher.alter change)).lookup course.request.kind =
      (registry.lookup course.request.kind).map (Launcher.alter change) :=
    Registry.lookup_map _ _ _
  simp only [altered, Course.altered, looking, Course.poll, Waiter.over, fetches,
    launch, found]
  cases registry.lookup course.request.kind with
  | error error => exact ⟨rfl, rfl, .error error, rfl, rfl⟩
  | ok launcher => exact ⟨rfl, rfl, _, rfl, rfl⟩

theorem Course.sharesTicks_altered (fetches : course.waiter.environment.fetch = launch registry)
    (change : σ → ρ → Option ρ') (source : StateSource) :
    course.SharesTicks (course.altered registry change source) where
  tick_eq n := by
    induction n with
    | zero => rfl
    | succ n ih =>
      have ⟨lands, after, _⟩ := exists_reply fetches change source (course.tick n)
      simp only [tick, ← ih, next, lands, after]
      rfl
  began_eq := rfl
  timeout_eq := rfl

end

variable [Resource ρ] [Resource ρ']

/-- The failures that a wait comes to by itself, by how it calls what it waits for. -/
inductive OwnFailure (request : Wait) : (String → Error) → Prop where
  | timedOut (elapsed : Nat) : OwnFailure request fun subject =>
    .timeout (s!"timed out after {elapsed / 1000} seconds waiting for {request.action} of " ++
      s!"{subject} '{request.id}'")
  | cancelled : OwnFailure request fun subject =>
    .cancelled s!"Wait for {request.action} of {subject} '{request.id}'"
  | notFound : OwnFailure request fun subject =>
    .notFound s!"no {subject} found with id '{request.id}'"
  | unexpected (name state : String) : OwnFailure request fun subject =>
    .unexpectedState request.action subject name request.id state
  | noInterval : OwnFailure request fun subject =>
    let description := s!"Wait for {request.action} of {subject} '{request.id}'"
    .config s!"poll interval must be greater than zero ({description})"

/-- How the outcome of a wait for a resource, whose own state is that of a backup, goes with that of
the wait for the backup. Some failures are those of the last fetch. -/
inductive Mirrors (request : Wait) (fetchFails : Error → Prop) :
    Except Error (Option Snapshot) → Except Error (Option ρ) → Prop where
  /-- The resource that is found is the original one. -/
  | found {resource : ρ} {state : String} (backup : (snapshot resource).backupState = some state) :
    Mirrors request fetchFails (.ok (some { snapshot resource with state })) (.ok (some resource))
  | gone : Mirrors request fetchFails (.ok none) (.ok none)
  | failed {error : Error} (failed : fetchFails error) :
    Mirrors request fetchFails (.error error) (.error error)
  /-- The failures of the wait itself name the backup. -/
  | own {failure : String → Error} (own : request.OwnFailure failure) :
    Mirrors request fetchFails (.error (failure request.kind.name))
      (.error (failure s!"{request.kind.name} backup"))

theorem Mirrors.mono {request : Wait} {fails fails' : Error → Prop}
    {outcome' : Except Error (Option Snapshot)} {outcome : Except Error (Option ρ)}
    (mirrors : request.Mirrors fails outcome' outcome) (more : ∀ error, fails error → fails' error) :
    request.Mirrors fails' outcome' outcome := by
  cases mirrors with
  | found backup => exact .found backup
  | gone => exact .gone
  | failed failed => exact .failed (more _ failed)
  | own own => exact .own own

/-- What a wait for a backup is brought, and what the wait for a resource is that stands for it. -/
inductive StandsFor (kind : Kind) :
    Except Error (Option Snapshot) → Except Error (Option ρ) → Prop where
  | failed (error : Error) : StandsFor kind (.error error) (.error error)
  | missing {mirrored : Option Snapshot} {found : Option ρ}
    (missing : StateSource.resource.Misses mirrored) (missing' : StateSource.backup.Misses found) :
    StandsFor kind (.ok mirrored) (.ok found)
  | shown {resource : ρ} {state : String} (shows : StateSource.backup.Shows resource state) :
    StandsFor kind (.ok (some { snapshot resource with state })) (.ok (some resource))

/-- The registry refuses a resource of another kind in either wait. -/
theorem standsFor_accept (kind : Kind) (id : String) (reply : Except Error (Option ρ)) :
    StandsFor kind
      ((reply.map (·.bind fun found => (snapshot found).asBackup kind)).bind
        (Registry.accept kind id))
      (reply.bind (Registry.accept kind id)) := by
  have nothing {α : Type} [Resource α] (source : StateSource) :
      source.Misses (none : Option α) := fun _ found => absurd found (Option.not_mem_none _)
  rcases reply with error | _ | resource
  · exact .failed error
  · exact .missing (nothing _) (nothing _)
  change StandsFor kind (Registry.accept kind id ((snapshot resource).asBackup kind))
    (Registry.accept kind id (some resource))
  by_cases same : (snapshot resource).kind = kind
  case neg =>
    have same' : (snapshot (snapshot resource)).kind ≠ kind := same
    rw [Snapshot.asBackup_of_ne same, Registry.accept_of_ne same' id, Registry.accept_of_ne same id]
    exact .failed _
  case pos =>
    rw [Registry.accept_of_eq same id]
    cases gone : (snapshot resource).deleted with
    | true =>
      have same' : (snapshot (snapshot resource)).kind = kind := same
      rw [Snapshot.asBackup_of_deleted gone, Registry.accept_of_eq same' id]
      refine .missing ?_ ?_
      · rintro _ ⟨⟩
        exact .inl gone
      · rintro _ ⟨⟩
        exact .inl gone
    | false =>
      cases backup : (snapshot resource).backupState with
      | none =>
        rw [Snapshot.asBackup_of_none gone same backup]
        refine .missing (nothing _) ?_
        rintro _ ⟨⟩
        exact .inr ⟨rfl, backup⟩
      | some state =>
        let replacement : Snapshot := { snapshot resource with state }
        have same' : (snapshot replacement).kind = kind := same
        rw [Snapshot.asBackup_of_some gone same backup, Registry.accept_of_eq same' id]
        exact .shown ⟨gone, backup⟩

variable {request : Wait} {mirrored : Except Error (Option Snapshot)}
  {fetched : Except Error (Option ρ)}

/-- Whose state it is makes no difference to how it is judged. -/
theorem StandsFor.judge (stands : StandsFor request.kind mirrored fetched) :
    ((request.looking .resource).judge mirrored = none ∧
        (request.looking .backup).judge fetched = none) ∨
      ∃ outcome' outcome, (request.looking .resource).judge mirrored = some outcome' ∧
        (request.looking .backup).judge fetched = some outcome ∧
        request.Mirrors (fun error => fetched = .error error) outcome' outcome := by
  cases stands with
  | failed error => exact .inr ⟨_, _, rfl, rfl, .failed rfl⟩
  | missing missing missing' =>
    have judged : (request.looking .resource).judge _ = _ := judge_of_misses missing
    have judged' : (request.looking .backup).judge _ = _ := judge_of_misses missing'
    refine .inr ⟨_, _, judged, judged', ?_⟩
    cases wanted : request.deleting with
    | true =>
      simp only [looking, wanted]
      exact .gone
    | false =>
      simp only [looking, wanted]
      exact .own .notFound
  | @shown resource state shows =>
    have shows' : StateSource.resource.Shows { snapshot resource with state } state :=
      ⟨shows.1, rfl⟩
    by_cases settled : state = request.target.text
    · subst settled
      have settles : (request.looking .resource).Settles _ _ := .settled shows'
      have settles' : (request.looking .backup).Settles _ _ := .settled shows
      exact .inr ⟨_, _, settles.judge_eq, settles'.judge_eq, .found shows.2⟩
    by_cases pending : state ∈ State.pendingTexts
    · have pends : (request.looking .resource).Pends _ := ⟨_, _, rfl, shows', settled, pending⟩
      have pends' : (request.looking .backup).Pends _ := ⟨_, _, rfl, shows, settled, pending⟩
      exact .inl ⟨pends.judge_eq, pends'.judge_eq⟩
    · have settles : (request.looking .resource).Settles _ _ := .unexpected shows' settled pending
      have settles' : (request.looking .backup).Settles _ _ := .unexpected shows settled pending
      exact .inr ⟨_, _, settles.judge_eq, settles'.judge_eq, .own (.unexpected _ _)⟩

/-- A change of resources that leaves alone all that a wait looks at. -/
structure Unseen (source : StateSource) (change : ρ → ρ') : Prop where
  kind_eq (resource : ρ) : (snapshot (change resource)).kind = (snapshot resource).kind
  name_eq (resource : ρ) : (snapshot (change resource)).name = (snapshot resource).name
  observe_eq (resource : ρ) :
    source.observe (some (change resource)) = source.observe (some resource)

variable {change : ρ → ρ'}

theorem unseen_of_own
    (only : ∀ resource, ∃ own, snapshot (change resource) = { snapshot resource with state := own }) :
    Unseen .backup change := by
  constructor <;> intro resource <;> obtain ⟨own, changed⟩ := only resource
  case kind_eq => rw [changed]
  case name_eq => rw [changed]
  case observe_eq => simp only [StateSource.observe, changed]

theorem unseen_of_backup
    (only : ∀ resource, ∃ backup,
      snapshot (change resource) = { snapshot resource with backupState := backup }) :
    Unseen .resource change := by
  constructor <;> intro resource <;> obtain ⟨backup, changed⟩ := only resource
  case kind_eq => rw [changed]
  case name_eq => rw [changed]
  case observe_eq => simp only [StateSource.observe, changed]

theorem Unseen.judge_ok (unseen : Unseen request.source change) (found : Option ρ) :
    request.judge (.ok (found.map change)) =
      (request.judge (.ok found)).map (·.map (·.map change)) := by
  cases found with
  | none =>
    simp only [judge, Option.map_none, StateSource.observe]
    split <;> rfl
  | some resource =>
    simp only [judge, Option.map_some, unseen.observe_eq, unseen.name_eq, Option.getD_some]
    cases request.source.observe (some resource) with
    | none =>
      dsimp only
      split <;> rfl
    | some state =>
      dsimp only
      split
      · rfl
      · split <;> rfl

theorem Unseen.judge_accept (unseen : Unseen request.source change) (id : String)
    (reply : Except Error (Option ρ)) :
    request.judge ((reply.map (·.bind fun found => some (change found))).bind
        (Registry.accept request.kind id)) =
      (request.judge (reply.bind (Registry.accept request.kind id))).map
        (·.map (·.map change)) := by
  rcases reply with error | _ | resource
  · rfl
  · exact unseen.judge_ok none
  change request.judge (Registry.accept request.kind id (some (change resource))) =
    (request.judge (Registry.accept request.kind id (some resource))).map _
  by_cases same : (snapshot resource).kind = request.kind
  · have same' := (unseen.kind_eq resource).trans same
    rw [Registry.accept_of_eq same id, Registry.accept_of_eq same' id]
    exact unseen.judge_ok (some resource)
  · have same' : (snapshot (change resource)).kind ≠ request.kind := by
      rwa [unseen.kind_eq resource]
    rw [Registry.accept_of_ne same id, Registry.accept_of_ne same' id, unseen.kind_eq]
    rfl

namespace Course

variable {course : Course σ ρ} {registry : Registry (Launcher σ ρ)}

def FetchFails (course : Course σ ρ) (error : Error) : Prop :=
  ∃ n, course.fetches = n + 1 ∧ (course.poll (course.tick n)).fetched = .error error

/-- The wait for a resource whose own state is that of the backup. -/
def mirror (course : Course σ ρ) (registry : Registry (Launcher σ ρ)) : Course σ Snapshot :=
  course.altered registry (fun _ found => (snapshot found).asBackup course.request.kind) .resource

theorem sharesTicks_mirror (fetches : course.waiter.environment.fetch = launch registry) :
    course.SharesTicks (course.mirror registry) := sharesTicks_altered fetches _ _

theorem standsFor_mirror (fetches : course.waiter.environment.fetch = launch registry)
    (isRequest : course.request = request.looking .backup) (n : Nat) :
    StandsFor request.kind
      ((course.mirror registry).poll ((course.mirror registry).tick n)).fetched
      (course.poll (course.tick n)).fetched := by
  obtain ⟨_, _, reply, fetched, fetched'⟩ := exists_reply fetches
    (fun _ found => (snapshot found).asBackup course.request.kind) .resource (course.tick n)
  rw [← (sharesTicks_mirror fetches).tick_eq, fetched, mirror, fetched', isRequest]
  exact standsFor_accept request.kind request.id reply

theorem keepsStep_mirror (fetches : course.waiter.environment.fetch = launch registry)
    (isRequest : course.request = request.looking .backup) :
    course.KeepsStep (course.mirror registry) := by
  have isMirrored : (course.mirror registry).request = request.looking .resource :=
    congrArg (·.looking .resource) isRequest
  apply (sharesTicks_mirror fetches).keepsStep fun _ => Iff.rfl
  intro n
  rw [isRequest, isMirrored]
  rcases (standsFor_mirror fetches isRequest n).judge with
    ⟨pending', pending⟩ | ⟨_, _, ended', ended, _⟩
  · exact iff_of_true pending pending'
  · rw [ended, ended']
    exact iff_of_false (Option.some_ne_none _) (Option.some_ne_none _)

/-- A wait for a backup ends when its mirror does, and in the same way. -/
theorem run_mirror (fetches : course.waiter.environment.fetch = launch registry)
    (isRequest : course.request = request.looking .backup) :
    (course.mirror registry).run.1.starts = course.run.1.starts ∧
      (course.mirror registry).run.1.endedAt = course.run.1.endedAt ∧
      (course.mirror registry).run.2 = course.run.2 ∧
      request.Mirrors course.FetchFails (course.mirror registry).run.1.outcome
        course.run.1.outcome := by
  have isMirrored : (course.mirror registry).request = request.looking .resource :=
    congrArg (·.looking .resource) isRequest
  rcases Nat.eq_zero_or_pos course.waiter.interval with none | positive
  · have none' : (course.mirror registry).waiter.interval = 0 := none
    rw [run_of_no_interval _ none, run_of_no_interval _ none', isRequest, isMirrored]
    exact ⟨rfl, rfl, rfl, .own .noInterval⟩
  have positive' : 0 < (course.mirror registry).waiter.interval := positive
  obtain ⟨starts, endedAt, after, together⟩ := (sharesTicks_mirror fetches).endTogether
    (keepsStep_mirror fetches isRequest) positive positive'
  refine ⟨starts.symm, endedAt.symm, after.symm, ?_⟩
  cases together with
  | expired ended ended' =>
    rw [ended, ended', isRequest, isMirrored]
    exact .own (.timedOut _)
  | cancelled ended ended' =>
    rw [ended, ended', isRequest, isMirrored]
    exact .own .cancelled
  | @answered n last _ judged judged' =>
    rw [isRequest] at judged
    rw [isMirrored] at judged'
    rcases (standsFor_mirror fetches isRequest n).judge with
      ⟨_, pending⟩ | ⟨outcome', outcome, ended', ended, mirrors⟩
    · cases judged.symm.trans pending
    · rw [Option.some.inj (judged.symm.trans ended), Option.some.inj (judged'.symm.trans ended')]
      exact mirrors.mono fun error failed => ⟨n, last, failed⟩

theorem judge_unseen (fetches : course.waiter.environment.fetch = launch registry)
    (change : σ → ρ → ρ') (unseen : ∀ state, Unseen course.request.source (change state)) (n : Nat) :
    let changed := course.altered registry (fun state found => some (change state found))
      course.request.source
    changed.request.judge (changed.poll (changed.tick n)).fetched =
      (course.request.judge (course.poll (course.tick n)).fetched).map
        (·.map (·.map (change (course.poll (course.tick n)).state))) := by
  intro changed
  have shares : course.SharesTicks changed := sharesTicks_altered fetches _ _
  obtain ⟨_, _, reply, fetched, fetched'⟩ := exists_reply fetches
    (fun state found => some (change state found)) course.request.source (course.tick n)
  rw [← shares.tick_eq, fetched, fetched']
  exact (unseen _).judge_accept course.request.id reply

/-- A change of what a wait does not look at only changes the resource that it ends with. -/
theorem run_unseen (fetches : course.waiter.environment.fetch = launch registry)
    (change : σ → ρ → ρ') (unseen : ∀ state, Unseen course.request.source (change state)) :
    (course.altered registry (fun state found => some (change state found))
        course.request.source).run =
      (course.run.1.map (change course.run.2), course.run.2) := by
  let changed := course.altered registry (fun state found => some (change state found))
    course.request.source
  change changed.run = _
  rcases Nat.eq_zero_or_pos course.waiter.interval with none | positive
  · have none' : changed.waiter.interval = 0 := none
    rw [run_of_no_interval _ none, run_of_no_interval _ none']
    rfl
  have judged (n : Nat) : changed.request.judge (changed.poll (changed.tick n)).fetched =
      (course.request.judge (course.poll (course.tick n)).fetched).map _ :=
    judge_unseen fetches change unseen n
  have shares : course.SharesTicks changed := sharesTicks_altered fetches _ _
  have step : course.KeepsStep changed := by
    apply shares.keepsStep fun _ => Iff.rfl
    intro n
    rw [judged, Option.map_eq_none_iff]
  have positive' : 0 < changed.waiter.interval := positive
  obtain ⟨starts, endedAt, after, together⟩ := shares.endTogether step positive positive'
  have outcome : changed.run.1.outcome =
      course.run.1.outcome.map (·.map (change course.run.2)) := by
    cases together with
    | expired ended ended' =>
      rw [ended, ended']
      rfl
    | cancelled ended ended' =>
      rw [ended, ended']
      rfl
    | @answered n _ last ended ended' =>
      rw [judged, ended, ← last] at ended'
      exact (Option.some.inj ended').symm
  have ending : changed.run.1 = course.run.1.map (change course.run.2) := by
    rw [Ending.map, ← outcome, endedAt, starts]
  rw [← ending, after]

end Course

/-- What a wait over a registry sees of the resources that it is brought, whichever source of states
it looks at. -/
structure SeesOneState (registry : Registry (Launcher σ ρ)) (isCancelled : σ → Nat → Bool)
    (interval : Nat) (request : Wait) (began : Nat) (state : σ) : Prop where
  /-- A wait for a backup fetches and ends when the wait for a resource does whose own state is that
  of the backup, in the same way and in the same state after it. -/
  as_resource :
    let course : Course σ ρ :=
      ⟨Waiter.over registry isCancelled interval, request.looking .backup, began, state⟩
    let mirror := course.mirror registry
    mirror.run.1.starts = course.run.1.starts ∧ mirror.run.1.endedAt = course.run.1.endedAt ∧
      mirror.run.2 = course.run.2 ∧
      request.Mirrors course.FetchFails mirror.run.1.outcome course.run.1.outcome
  /-- A wait for a backup does not see a resource's own state. -/
  own_unseen {ρ' : Type} [Resource ρ'] (change : σ → ρ → ρ')
    (onlyState : ∀ state resource, ∃ own,
      snapshot (change state resource) = { snapshot resource with state := own }) :
    let course : Course σ ρ :=
      ⟨Waiter.over registry isCancelled interval, request.looking .backup, began, state⟩
    (course.altered registry (fun state found => some (change state found)) .backup).run =
      (course.run.1.map (change course.run.2), course.run.2)
  /-- A wait for a resource does not see the state of its backup. -/
  backup_unseen {ρ' : Type} [Resource ρ'] (change : σ → ρ → ρ')
    (onlyBackup : ∀ state resource, ∃ backup,
      snapshot (change state resource) = { snapshot resource with backupState := backup }) :
    let course : Course σ ρ :=
      ⟨Waiter.over registry isCancelled interval, request.looking .resource, began, state⟩
    (course.altered registry (fun state found => some (change state found)) .resource).run =
      (course.run.1.map (change course.run.2), course.run.2)

/-- Every wait sees one state only, whatever it is brought, and whenever the flag is set. -/
theorem seesOneState (registry : Registry (Launcher σ ρ)) (isCancelled : σ → Nat → Bool)
    (interval : Nat) (request : Wait) (began : Nat) (state : σ) :
    SeesOneState registry isCancelled interval request began state where
  as_resource := Course.run_mirror rfl rfl
  own_unseen change onlyState :=
    Course.run_unseen rfl change fun state => unseen_of_own (onlyState state)
  backup_unseen change onlyBackup :=
    Course.run_unseen rfl change fun state => unseen_of_backup (onlyBackup state)

end Wait

end Provision
