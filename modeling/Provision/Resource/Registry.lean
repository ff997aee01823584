import Provision.Resource.Basic

namespace Provision

structure Registry (φ : Type) where
  fetcher? : Kind → Option φ

namespace Registry

variable {φ ρ : Type}

def empty : Registry φ := ⟨fun _ => none⟩

def register (registry : Registry φ) (kind : Kind) (fetcher : φ) : Registry φ :=
  ⟨fun other => if other = kind then some fetcher else registry.fetcher? other⟩

def contains (registry : Registry φ) (kind : Kind) : Bool := (registry.fetcher? kind).isSome

def kinds (registry : Registry φ) : List Kind := Kind.all.filter registry.contains

def debug (registry : Registry φ) : String :=
  let names := ", ".intercalate (registry.kinds.map Kind.typeName)
  s!"ResourceRegistry \x7b types: [{names}] \x7d"

def lookup (registry : Registry φ) (kind : Kind) : Except Error φ :=
  match registry.fetcher? kind with
  | some fetcher => .ok fetcher
  | none => .error (.config s!"no fetcher registered for {kind.name} resources")

def accept [Resource ρ] (kind : Kind) (id : String) (fetched : Option ρ) :
    Except Error (Option ρ) :=
  match fetched with
  | none => .ok none
  | some found =>
    if (snapshot found).kind = kind then .ok fetched
    else .error (.internal
      (s!"fetcher for {kind.name} '" ++ id ++ s!"' returned a {(snapshot found).kind.name}"))

/-- Fetch a resource by its kind and identifier, given how fetchers are run. -/
def fetch [Resource ρ] {m : Type → Type} [Monad m]
    (run : φ → String → m (Except Error (Option ρ))) (registry : Registry φ) (kind : Kind)
    (id : String) : m (Except Error (Option ρ)) :=
  match registry.lookup kind with
  | .error error => pure (.error error)
  | .ok fetcher => do
    let result ← run fetcher id
    return result.bind (accept kind id)

@[simp] theorem fetcher?_register (registry : Registry φ) (kind other : Kind) (fetcher : φ) :
    (registry.register kind fetcher).fetcher? other =
      if other = kind then some fetcher else registry.fetcher? other := rfl

end Registry

end Provision
