import Herald.Channel.Access
import Herald.Http.Cors
import Herald.Meter
import Herald.Store.Access

/-!
The relay: a store and a channel, where documents are announced, the filter the relay itself
listens on, and the newest announcement it has seen there. A document is stored before it is
announced, and announced only if it was stored.
-/
namespace Herald

structure Target where
  topic : Topic
  recipient : PublicKey
  work : Work
deriving DecidableEq

def Target.announcement (t : Target) (id : ContentId) : Announcement :=
  ⟨id, t.recipient, t.topic, t.work⟩

structure Receipt where
  id : ContentId
  payload : String
deriving DecidableEq

structure Relay where
  target : Target
  filter : Filter
  store : Store
  channel : Channel
  /-- The newest announcement that was taken for the latest one. -/
  latest : Option ContentId
  meter : Meter
  served : UInt64
  metered : Bool
  origins : List String
  /-- When it started, in seconds. -/
  started : Nat

namespace Relay

def count (r : Relay) (c : Counter) : Relay :=
  { r with meter := r.meter.increment c }

/-- Reads, stores and announces a document, in this order, as far as it succeeds. -/
def relay (r : Relay) (now : Nat) (raw : List UInt8) : Except Failure Receipt × Relay :=
  match Document.submit raw with
  | .error f => (.error f, r)
  | .ok d =>
    match r.store.put d with
    | (.error f, store) => (.error f, { r with store })
    | (.ok id, store) =>
      match r.channel.publish now (r.target.announcement id) with
      | .error f => (.error f, { r with store })
      | .ok channel => (.ok ⟨id, id.payload⟩, { r with store, channel })

/-- Every document is counted, the failed ones by kind. -/
def ingest (r : Relay) (now : Nat) (raw : List UInt8) : Except Failure Receipt × Relay :=
  match r.relay now raw with
  | (.ok receipt, r) => (.ok receipt, r.count .documents)
  | (.error f, r) => (.error f, r.count (.failures f.kind))

inductive Delivery where
  | complete (raw : List UInt8)
  | broken
deriving DecidableEq, Repr

/-- What is written back to the producer, and the relay afterwards. Nothing is ever written. -/
def receive (r : Relay) (now : Nat) : Delivery → List UInt8 × Relay
  | .complete raw => ([], (r.ingest now raw).2)
  | .broken => ([], r)

def poll (r : Relay) (f : Filter) : Except Failure (List Received × Relay) := do
  let (messages, channel) ← r.channel.poll f
  return (messages, { r with channel })

/-- Polls a filter and takes its newest announcement, if there is one, for the latest. -/
def advance (r : Relay) (f : Filter) : Except Failure (Option ContentId × Relay) := do
  let (messages, r) ← r.poll f
  let latest := (messages.getLast?.map (·.payload)).or r.latest
  return (latest, { r with latest })

end Relay

structure Setup where
  topic : String
  keyId : String
  publicKey : String
  work : Work
  store : Store.Access
  channel : Channel.Access
  origins : List String
  metered : Bool

/-- The hub of a relay knows its key from the start; the relay's filter is the first. -/
def Setup.relay (s : Setup) (now : Nat) : Except Failure Relay := do
  let topic ← Topic.read s.topic
  let keyId ← KeyId.read s.keyId
  let key ← PublicKey.read s.publicKey
  let (own, hub) ← (Hub.empty.registerKey keyId key).createFilter topic keyId
  return {
    target := ⟨topic, key, s.work⟩
    filter := match s.channel with
      | .normal => own
      | .down => ⟨"gone"⟩
    store := ⟨s.store, .empty⟩
    channel := ⟨s.channel, hub⟩
    latest := none
    meter := .zero
    served := 0
    metered := s.metered
    origins := s.origins
    started := now }

end Herald
