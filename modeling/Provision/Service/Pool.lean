import Provision.Service.Endpoint

/-!
Calls of a client that are under way at once. The operations of clones share a session and take
turns in any order, a step of one of them at a time. Only one of them at a time looks up the
organization; others that need it wait for that, and look it up themselves if it fails.
-/
namespace Provision.Service

inductive Task (α : Type) where
  | ready (operation : Operation α)
  /-- It has sent a lookup of the organization, and the delivery is on its way. -/
  | looking (lookup : Lookup) (delivery : Delivery) (next : Except Error String → Operation α)
  /-- It has sent another message, and the delivery is on its way. -/
  | sending (delivery : Delivery) (next : Delivery → Operation α)

/-- A message that one of several operations has sent, and what becomes of it. -/
structure Dispatch where
  sender : Nat
  isLookup : Bool
  message : Message
  delivery : Delivery

structure Pool (α : Type) where
  session : Session
  tasks : List (Task α)
  /-- The number of the operation that is looking up the organization. -/
  looker : Option Nat := none
  dispatches : List Dispatch := []

namespace Pool

variable {α : Type}

def put (pool : Pool α) (i : Nat) (task : Task α) (session : Session := pool.session) : Pool α :=
  { pool with tasks := pool.tasks.set i task, session }

/-- Send a message of an operation, which stands so until the delivery arrives. -/
def dispatch (network : Network) (pool : Pool α) (i : Nat) (isLookup : Bool) (message : Message)
    (stand : Delivery → Task α) : Pool α :=
  let (delivery, session) := pool.session.exchange network message
  { pool.put i (stand delivery) session with
    dispatches := pool.dispatches ++ [⟨i, isLookup, message, delivery⟩] }

/-- Give an operation the identifier of the organization, or have it looked up, unless that is
under way. -/
def resolve (network : Network) (pool : Pool α) (i : Nat) (lookup : Lookup)
    (next : Except Error String → Operation α) : Pool α :=
  match pool.session.organizationId, pool.looker with
  | some id, _ => pool.put i (.ready (next (.ok id)))
  | none, some _ => pool
  | none, none =>
    match lookup.message with
    | .error error => pool.put i (.ready (next (.error error)))
    | .ok message =>
      { pool.dispatch network i true message fun delivery => .looking lookup delivery next with
        looker := some i }

/-- Take the delivery of a lookup. Only an identifier is kept. -/
def settle (pool : Pool α) (i : Nat) (lookup : Lookup) (delivery : Delivery)
    (next : Except Error String → Operation α) : Pool α :=
  match lookup.read delivery with
  | .error error => { pool.put i (.ready (next (.error error))) with looker := none }
  | .ok id =>
    { pool.put i (.ready (next (.ok id))) { pool.session with organizationId := id } with
      looker := none }

def advance (network : Network) (pool : Pool α) (i : Nat) : Pool α :=
  match pool.tasks[i]? with
  | some (.ready (.organization lookup next)) => pool.resolve network i lookup next
  | some (.ready (.consult context next)) =>
    pool.put i (.ready next) (pool.session.note (.consulted context))
  | some (.ready (.send message next)) =>
    pool.dispatch network i false message fun delivery => .sending delivery next
  | some (.ready (.sleep milliseconds next)) =>
    pool.put i (.ready next) (pool.session.note (.slept milliseconds) milliseconds)
  | some (.looking lookup delivery next) => pool.settle i lookup delivery next
  | some (.sending delivery next) => pool.put i (.ready (next delivery))
  | some (.ready (.done _)) | none => pool

def run (network : Network) (schedule : List Nat) (pool : Pool α) : Pool α :=
  schedule.foldl (advance network) pool

end Pool

inductive Call where
  | organization
  /-- The reply to a request, as far as a limit of attempts goes. -/
  | execute (limit : Nat) (description : String) (build : Endpoint.RequestBuilder)

/-- What a call leads to, if there is an end of it within its limit. -/
abbrev Call.Result := Option (Except Error (String ⊕ Reply))

def Call.operation (endpoint : Endpoint) : Call → Operation Result
  | organization => endpoint.organization.bind fun id => .done (some (id.map .inl))
  | execute limit description build =>
    (endpoint.execute limit description build).bind fun reply => .done (reply.map (·.map .inr))

def Endpoint.pool (endpoint : Endpoint) (calls : List Call) : Pool Call.Result where
  session := endpoint.session
  tasks := calls.map fun call => .ready (call.operation endpoint)

end Provision.Service
