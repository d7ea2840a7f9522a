import Herald.Announcement
import Herald.Digest

/-!
Announcements within one process. A filter belongs to a topic and a key identity; a publish reaches
every filter of its topic whose identity then owns the recipient key, and waits in the filter's
queue until the filter is polled. Filters and publishes are numbered from zero.
-/
namespace Herald

structure Subscription where
  filter : Filter
  topic : Topic
  keyId : KeyId
  /-- The oldest first. -/
  queue : List Received

structure Hub where
  keys : List (KeyId × PublicKey)
  subscriptions : List Subscription
  nextFilter : UInt64
  published : UInt64

def littleEndian (n : UInt64) : List UInt8 :=
  (List.range 8).map fun i => UInt8.ofNat (n.toNat / Nat.pow 256 i)

namespace Hub

def empty : Hub := ⟨[], [], 0, 0⟩

/-- The last registration of a key identity counts. -/
def owner? (h : Hub) (id : KeyId) : Option PublicKey :=
  h.keys.lookup id

def registerKey (h : Hub) (id : KeyId) (key : PublicKey) : Hub :=
  { h with keys := (id, key) :: h.keys.filter (·.1 ≠ id) }

def subscription? (h : Hub) (f : Filter) : Option Subscription :=
  h.subscriptions.find? (·.filter = f)

def handle (n : UInt64) : Filter :=
  ⟨s!"memory-filter-{n.toNat}"⟩

def createFilter (h : Hub) (topic : Topic) (id : KeyId) : Except Failure (Filter × Hub) :=
  match h.owner? id with
  | none => .error (.channel s!"non-existent key ID {id.text}")
  | some _ =>
    let filter := handle h.nextFilter
    .ok (filter, { h with
      subscriptions := h.subscriptions.filter (·.filter ≠ filter) ++ [⟨filter, topic, id, []⟩]
      nextFilter := h.nextFilter + 1 })

/-- Tells one publish from every other, also of the same payload. -/
def envelopeHash (a : Announcement) (number : UInt64) : String :=
  "0x" ++ Text.Hex.encode (Digest.ofBytes (a.topic.bytes ++ a.payload.bytes ++ littleEndian number))

def receipt (a : Announcement) (number : UInt64) (now : Nat) : Received :=
  ⟨a.payload, a.topic, some now, some (envelopeHash a number)⟩

def reaches (h : Hub) (a : Announcement) (s : Subscription) : Bool :=
  s.topic = a.topic && h.owner? s.keyId = some a.recipient

def publish (h : Hub) (now : Nat) (a : Announcement) : Except Failure Hub :=
  match a.work.validate with
  | .error f => .error (.channel s!"message rejected: {f.message}")
  | .ok () =>
    let message := receipt a h.published now
    .ok { h with
      subscriptions := h.subscriptions.map fun s =>
        if h.reaches a s then { s with queue := s.queue ++ [message] } else s
      published := h.published + 1 }

def pending (h : Hub) (f : Filter) : Nat :=
  match h.subscription? f with
  | some s => s.queue.length
  | none => 0

def drain (h : Hub) (f : Filter) : Hub :=
  { h with subscriptions := h.subscriptions.map fun s =>
      if s.filter = f then { s with queue := [] } else s }

def poll (h : Hub) (f : Filter) : Except Failure (List Received × Hub) :=
  match h.subscription? f with
  | none => .error (.channel s!"filter {f.text} not found")
  | some s => .ok (s.queue, h.drain f)

end Hub

end Herald
