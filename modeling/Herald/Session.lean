import Herald.Service

/-!
A relay under use: steps, what each of them answers, and the relay after it. A step that fails
leaves a failure as its answer and the relay goes on; a request to a service that cannot be opened
ends the session.
-/
namespace Herald

/-- Arguments are texts as they were given; the relay reads them when the step is made. -/
inductive Step where
  | put (raw : List UInt8)
  | get (id : String)
  | contains (id : String)
  | counts
  | registerKey (keyId publicKey : String)
  | createFilter (topic keyId : String)
  | publish (payload publicKey topic : String) (work : Work)
  | poll (filter : Filter)
  | pending (filter : Filter)
  | ingest (raw : List UInt8)
  | deliver (delivery : Relay.Delivery)
  | advance (filter : Filter)
  | current
  | request (request : Http.Request)

inductive Outcome where
  | stored (id : ContentId)
  | document (d : Document)
  | contains (there : Bool)
  | counts (stored : Nat) (published : UInt64)
  | registered
  | filter (f : Filter)
  | published (payload : String)
  | messages (messages : List Received)
  | pending (count : Nat)
  | ingested (receipt : Receipt)
  | delivered (reply : List UInt8) (stored : Nat) (published : UInt64)
  | latest (id : Option ContentId)
  | response (response : Http.Response)

inductive Step.Fault where
  | failure (f : Failure)
  | closed (fault : Http.Cors.Fault)
deriving DecidableEq

namespace Relay

def settle {α : Type} (r : Relay) (outcome : α → Outcome) :
    Except Failure (α × Relay) → Except Failure Outcome × Relay
  | .ok (a, after) => (.ok (outcome a), after)
  | .error f => (.error f, r)

def put (r : Relay) (raw : List UInt8) : Except Failure Outcome × Relay :=
  match Document.submit raw with
  | .error f => (.error f, r)
  | .ok d =>
    let (result, store) := r.store.put d
    (result.map .stored, { r with store })

def get (r : Relay) (id : String) : Except Failure Document := do
  r.store.get (← ContentId.read id)

/-- Keys are registered with the hub, whatever the channel answers. -/
def registerKey (r : Relay) (keyId publicKey : String) : Except Failure (Unit × Relay) := do
  let id ← KeyId.read keyId
  let key ← PublicKey.read publicKey
  return ((), { r with channel := { r.channel with hub := r.channel.hub.registerKey id key } })

def createFilter (r : Relay) (topic keyId : String) : Except Failure (Filter × Relay) := do
  let topic ← Topic.read topic
  let (filter, channel) ← r.channel.createFilter topic (← KeyId.read keyId)
  return (filter, { r with channel })

def publish (r : Relay) (now : Nat) (payload publicKey topic : String) (work : Work) :
    Except Failure (String × Relay) := do
  let id ← ContentId.read payload
  let recipient ← PublicKey.read publicKey
  let topic ← Topic.read topic
  let channel ← r.channel.publish now ⟨id, recipient, topic, work⟩
  return (id.payload, { r with channel })

def answered : Except Failure Outcome × Relay → Except Step.Fault Outcome × Relay
  | (result, r) => (result.mapError .failure, r)

def request (r : Relay) (now : Nat) (request : Http.Request) :
    Except Step.Fault Outcome × Relay :=
  match r.serviceRules with
  | .error fault => (.error (.closed fault), r)
  | .ok rules =>
    let (response, after) := r.respond now rules request
    (.ok (.response response), after)

def step (r : Relay) (now : Nat) : Step → Except Step.Fault Outcome × Relay
  | .put raw => answered (r.put raw)
  | .get id => answered ((r.get id).map .document, r)
  | .contains id =>
    answered ((ContentId.read id).map fun id => .contains (r.store.objects.contains id), r)
  | .counts => (.ok (.counts r.store.objects.size r.channel.hub.published), r)
  | .registerKey keyId publicKey =>
    answered (r.settle (fun _ => .registered) (r.registerKey keyId publicKey))
  | .createFilter topic keyId => answered (r.settle .filter (r.createFilter topic keyId))
  | .publish payload publicKey topic work =>
    answered (r.settle .published (r.publish now payload publicKey topic work))
  | .poll filter => answered (r.settle .messages (r.poll filter))
  | .pending filter => (.ok (.pending (r.channel.hub.pending filter)), r)
  | .ingest raw =>
    let (result, after) := r.ingest now raw
    answered (result.map .ingested, after)
  | .deliver delivery =>
    let (reply, after) := r.receive now delivery
    (.ok (.delivered reply after.store.objects.size after.channel.hub.published), after)
  | .advance filter => answered (r.settle .latest (r.advance filter))
  | .current => (.ok (.latest r.latest), r)
  | .request request => r.request now request

def run (r : Relay) :
    List (Nat × Step) → Except Http.Cors.Fault (List (Except Failure Outcome) × Relay)
  | [] => .ok ([], r)
  | (now, s) :: rest => do
    let (answer, after) := r.step now s
    let answer ← match answer with
      | .ok outcome => .ok (.ok outcome)
      | .error (.failure f) => .ok (.error f)
      | .error (.closed fault) => .error fault
    let (answers, final) ← after.run rest
    return (answer :: answers, final)

end Relay

end Herald
