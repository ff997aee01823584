import Mathlib.Data.List.Induction
import Provision.Resource.Registry

namespace Provision.Registry

variable {φ ρ σ : Type}

def ofHistory (history : List (Kind × φ)) : Registry φ :=
  history.foldl (fun registry entry => registry.register entry.1 entry.2) empty

def IsLast (history : List (Kind × φ)) (kind : Kind) (fetcher : φ) : Prop :=
  ∃ earlier later, history = earlier ++ (kind, fetcher) :: later ∧ kind ∉ later.map Prod.fst

section History

variable {history : List (Kind × φ)} {kind : Kind} {fetcher : φ}

theorem ofHistory_concat (history : List (Kind × φ)) (entry : Kind × φ) :
    ofHistory (history ++ [entry]) = (ofHistory history).register entry.1 entry.2 := by
  rw [ofHistory, List.foldl_append, ← ofHistory]
  rfl

theorem fetcher?_ofHistory_eq_none_iff :
    (ofHistory history).fetcher? kind = none ↔ kind ∉ history.map Prod.fst := by
  induction history using List.reverseRecOn with
  | nil => simp [ofHistory, empty]
  | append_singleton history entry ih =>
    rw [ofHistory_concat, fetcher?_register, List.map_append, List.mem_append, not_or, ← ih]
    by_cases own : kind = entry.1 <;> simp [own]

theorem contains_ofHistory_iff :
    (ofHistory history).contains kind = true ↔ ∃ fetcher, (kind, fetcher) ∈ history := by
  rw [contains, Option.isSome_iff_ne_none, ne_eq, fetcher?_ofHistory_eq_none_iff, not_not]
  simp

/-- The fetcher of a kind is the one that was registered last for it. -/
theorem fetcher?_ofHistory_eq_some_iff :
    (ofHistory history).fetcher? kind = some fetcher ↔ IsLast history kind fetcher := by
  constructor
  · intro known
    induction history using List.reverseRecOn with
    | nil => cases known
    | append_singleton history entry ih =>
      rw [ofHistory_concat, fetcher?_register] at known
      split at known
      · next own =>
        cases known
        exact ⟨history, [], by rw [own], List.not_mem_nil⟩
      · next other =>
        obtain ⟨earlier, later, rfl, fresh⟩ := ih known
        exact ⟨earlier, later ++ [entry], by simp, by simpa [other] using fresh⟩
  · rintro ⟨earlier, later, rfl, fresh⟩
    induction later using List.reverseRecOn with
    | nil => simp [ofHistory_concat]
    | append_singleton later entry ih =>
      rw [List.map_append, List.mem_append, not_or] at fresh
      have other : kind ≠ entry.1 := by simpa using fresh.2
      rw [← List.cons_append, ← List.append_assoc, ofHistory_concat, fetcher?_register,
        if_neg other, ih fresh.1]

theorem fetcher?_ofHistory_filter :
    (ofHistory (history.filter (·.1 = kind))).fetcher? kind =
      (ofHistory history).fetcher? kind := by
  induction history using List.reverseRecOn with
  | nil => rfl
  | append_singleton history entry ih =>
    rw [List.filter_append, ofHistory_concat, fetcher?_register]
    by_cases own : entry.1 = kind
    · simp [own, ofHistory_concat]
    · simp [own, Ne.symm own, ih]

end History

theorem pairwise_kinds (registry : Registry φ) :
    registry.kinds.Pairwise fun kind next => kind.ctorIdx < next.ctorIdx := by
  have declared : Kind.all.Pairwise fun kind next => kind.ctorIdx < next.ctorIdx := by decide
  exact declared.filter _

theorem mem_kinds_iff {registry : Registry φ} {kind : Kind} :
    kind ∈ registry.kinds ↔ registry.contains kind = true := by
  rw [kinds, List.mem_filter, and_iff_right (Kind.mem_all kind)]

inductive Passes [Resource ρ] (kind : Kind) (id : String) :
    Except Error (Option ρ) → Except Error (Option ρ) → Prop where
  | kept {result : Except Error (Option ρ)}
    (own : ∀ resource, result = .ok (some resource) → (snapshot resource).kind = kind) :
    Passes kind id result result
  | foreign {resource : ρ} (other : (snapshot resource).kind ≠ kind) :
    Passes kind id (.ok (some resource)) (.error (.internal
      (s!"fetcher for {kind.name} '" ++ id ++ s!"' returned a {(snapshot resource).kind.name}")))

theorem passes_accept [Resource ρ] (kind : Kind) (id : String) (result : Except Error (Option ρ)) :
    Passes kind id result (result.bind (accept kind id)) := by
  match result with
  | .error error => exact .kept nofun
  | .ok none => exact .kept nofun
  | .ok (some resource) =>
    by_cases own : (snapshot resource).kind = kind
    · have same : accept kind id (some resource) = .ok (some resource) := by rw [accept, if_pos own]
      change Passes kind id _ (accept kind id (some resource))
      rw [same]
      exact .kept fun other found => by cases found; exact own
    · change Passes kind id _ (accept kind id (some resource))
      rw [accept, if_neg own]
      exact .foreign own

/-- Fetchers with a state of their own, run so that their calls are noted. -/
def noting (answer : φ → String → σ → Except Error (Option ρ) × σ) (fetcher : φ) (id : String) :
    StateM (σ × List (φ × String)) (Except Error (Option ρ)) := fun (state, calls) =>
  let (result, state) := answer fetcher id state
  (result, state, calls ++ [(fetcher, id)])

/-- How a registry keeps fetchers through a history of registrations. -/
structure IsStore (history : List (Kind × φ)) : Prop where
  mem_kinds (kind : Kind) :
    kind ∈ (ofHistory history).kinds ↔ ∃ fetcher, (kind, fetcher) ∈ history
  /-- The kinds stand in the order of their declaration, each of them once. -/
  ordered : (ofHistory history).kinds.Pairwise fun kind next => kind.ctorIdx < next.ctorIdx
  /-- The fetcher that was registered last is called with the identifier, and no other. -/
  calls {ρ σ : Type} [Resource ρ] (answer : φ → String → σ → Except Error (Option ρ) × σ)
    (kind : Kind) (id : String) (fetcher : φ) (state : σ) (calls : List (φ × String)) :
    IsLast history kind fetcher → ∃ result, Passes kind id (answer fetcher id state).1 result ∧
      (fetch (noting answer) (ofHistory history) kind id).run (state, calls) =
        (result, (answer fetcher id state).2, calls ++ [(fetcher, id)])
  /-- Without a fetcher nothing is called. -/
  refuses {ρ σ : Type} [Resource ρ] (answer : φ → String → σ → Except Error (Option ρ) × σ)
    (kind : Kind) (id : String) (before : σ × List (φ × String)) :
    (∀ fetcher, (kind, fetcher) ∉ history) →
      (fetch (noting answer) (ofHistory history) kind id).run before =
        (.error (.config s!"no fetcher registered for {kind.name} resources"), before)
  /-- What is registered for other kinds, and when, changes nothing. -/
  independent {ρ : Type} [Resource ρ] {m : Type → Type} [Monad m]
    (run : φ → String → m (Except Error (Option ρ))) (kind : Kind) (id : String)
    (other : List (Kind × φ)) :
    other.filter (·.1 = kind) = history.filter (·.1 = kind) →
      fetch run (ofHistory other) kind id = fetch run (ofHistory history) kind id

/-- Every history of registrations is kept so. -/
theorem isStore (history : List (Kind × φ)) : IsStore history where
  mem_kinds kind := mem_kinds_iff.trans contains_ofHistory_iff
  ordered := pairwise_kinds _
  calls answer kind id fetcher state calls last := by
    have known := fetcher?_ofHistory_eq_some_iff.mpr last
    refine ⟨_, passes_accept kind id _, ?_⟩
    simp only [fetch, lookup, known]
    rfl
  refuses answer kind id before never := by
    have missing : (ofHistory history).fetcher? kind = none := by
      rw [fetcher?_ofHistory_eq_none_iff]
      intro registered
      obtain ⟨⟨_, fetcher⟩, member, rfl⟩ := List.mem_map.mp registered
      exact never fetcher member
    simp only [fetch, lookup, missing]
    rfl
  independent run kind id other same := by
    have alike : (ofHistory other).fetcher? kind = (ofHistory history).fetcher? kind := by
      rw [← fetcher?_ofHistory_filter, same, fetcher?_ofHistory_filter]
    simp only [fetch, lookup, alike]

end Provision.Registry
