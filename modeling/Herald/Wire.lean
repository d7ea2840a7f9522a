import Herald.Announcement
import Herald.Document
import Herald.Json.Record

/-!
The JSON forms of the relay's own types. Identifiers, topics, keys and handles are strings in their
written form; work, announcements and received announcements are records. What a form writes, its
reader reads back.
-/
namespace Herald

open Json (Reader Shape Field Value need)

namespace ContentId

def json (id : ContentId) : Value := .string id.text

def reader : Reader ContentId := Json.named read Failure.message

end ContentId

namespace Topic

def json (t : Topic) : Value := .string t.hex

def reader : Reader Topic := Json.named read Failure.message

end Topic

namespace PublicKey

def json (k : PublicKey) : Value := .string k.hex

def reader : Reader PublicKey := Json.named read Failure.message

end PublicKey

namespace KeyId

def json (id : KeyId) : Value := .string id.text

def reader : Reader KeyId := Json.named read Failure.message

end KeyId

namespace Filter

def json (f : Filter) : Value := .string f.text

def reader : Reader Filter := fun input => do
  let (s, rest) ← Json.text input
  return (⟨s⟩, rest)

end Filter

namespace Document

def reader : Reader Document := fun input => do
  let (v, rest) ← Json.value Json.maxDepth input
  return (ofValue v, rest)

end Document

def Json.ofNat (n : Nat) : Value := .number (.int n)

namespace Work

structure Draft where
  target : Option Float := none
  seconds : Option Nat := none

def shape : Shape Draft Work where
  title := "struct WorkParams"
  fields :=
    [.of "target" Draft.target (fun d x => { d with target := some x }) Json.float false,
     .of "time_secs" Draft.seconds (fun d n => { d with seconds := some n })
       (Json.natBelow "u32" UInt32.size) false]
  draft := {}
  build d := do
    return ⟨← need "target" d.target, .ofNat (← need "time_secs" d.seconds)⟩

def reader : Reader Work := shape.read

def json (w : Work) : Value :=
  .object [("target", .number (.float w.target)), ("time_secs", Json.ofNat w.seconds.toNat)]

end Work

namespace Announcement

structure Draft where
  payload : Option ContentId := none
  recipient : Option PublicKey := none
  topic : Option Topic := none
  work : Option Work := none

def shape : Shape Draft Announcement where
  title := "struct Announcement"
  fields :=
    [.of "payload" Draft.payload (fun d a => { d with payload := some a }) ContentId.reader false,
     .of "recipient_public_key" Draft.recipient (fun d a => { d with recipient := some a })
       PublicKey.reader false,
     .of "topic" Draft.topic (fun d a => { d with topic := some a }) Topic.reader false,
     .of "work" Draft.work (fun d a => { d with work := some a }) Work.reader false]
  draft := {}
  build d := do
    return ⟨← need "payload" d.payload, ← need "recipient_public_key" d.recipient,
      ← need "topic" d.topic, ← need "work" d.work⟩

def reader : Reader Announcement := shape.read

def json (a : Announcement) : Value :=
  .object [("payload", a.payload.json), ("recipient_public_key", a.recipient.json),
    ("topic", a.topic.json), ("work", a.work.json)]

end Announcement

namespace Received

structure Draft where
  payload : Option ContentId := none
  topic : Option Topic := none
  timestamp : Option (Option Nat) := none
  hash : Option (Option String) := none

def shape : Shape Draft Received where
  title := "struct ReceivedAnnouncement"
  fields :=
    [.of "payload" Draft.payload (fun d a => { d with payload := some a }) ContentId.reader false,
     .of "topic" Draft.topic (fun d a => { d with topic := some a }) Topic.reader false,
     .of "timestamp" Draft.timestamp (fun d a => { d with timestamp := some a })
       (Json.optional (Json.natBelow "u64" UInt64.size)) true,
     .of "hash" Draft.hash (fun d a => { d with hash := some a }) (Json.optional Json.text) true]
  draft := {}
  build d := do
    return ⟨← need "payload" d.payload, ← need "topic" d.topic, d.timestamp.getD none, d.hash.getD none⟩

def reader : Reader Received := shape.read

/-- What the transport did not tell is left out. -/
def json (r : Received) : Value :=
  .object ([("payload", r.payload.json), ("topic", r.topic.json)] ++
    (r.timestamp.map fun t => ("timestamp", Json.ofNat t)).toList ++
    (r.hash.map fun h => ("hash", Value.string h)).toList)

end Received

end Herald
