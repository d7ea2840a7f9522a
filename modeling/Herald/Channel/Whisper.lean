import Herald.Http.Client
import Herald.Wire

/-!
The client of a Whisper node. Every request is a remote procedure call with a number of its own,
counted from one, so an operation also yields the client that makes the next call; the reply is an
envelope that holds a result or an error. Messages that carry no identifier or no topic are passed over.
-/
namespace Herald

open Http.Client (Pending)
open Json (Reader Shape Value)

structure Whisper where
  endpoint : Url
  /-- How long an envelope lives, in seconds. -/
  lifetime : UInt32
  nextId : UInt64
deriving DecidableEq

namespace Whisper

def label : String := "whisper"

def connect (build : Http.Client.Builder) (url : String) (lifetime : UInt32) (timeout : UInt64) :
    Except Failure Whisper := do
  let endpoint ← (Url.read url).mapError fun fault =>
    .invalid s!"invalid RPC url {url}: {fault.message}"
  (build timeout).mapError fun reason => .channel s!"failed to build HTTP client: {reason}"
  return ⟨endpoint, lifetime, 1⟩

structure Complaint where
  code : Int
  message : String

structure Complaint.Draft where
  code : Option Int := none
  message : Option String := none

def complaint : Shape Complaint.Draft Complaint where
  title := "struct RpcError"
  fields :=
    [.of "code" Complaint.Draft.code (fun d n => { d with code := some n })
       (Json.intBetween "i64" (-0x8000000000000000) 0x7FFFFFFFFFFFFFFF) false,
     .of "message" Complaint.Draft.message (fun d s => { d with message := some s }) Json.text false]
  draft := {}
  build d := do return ⟨← Json.need "code" d.code, ← Json.need "message" d.message⟩

structure Envelope (α : Type) where
  result : Option α
  error : Option Complaint

structure Envelope.Draft (α : Type) where
  result : Option (Option α) := none
  error : Option (Option Complaint) := none

def envelope {α : Type} (result : Reader α) : Shape (Envelope.Draft α) (Envelope α) where
  title := "struct RpcResponse"
  fields :=
    [.of "result" Envelope.Draft.result (fun d a => { d with result := some a })
       (Json.optional result) false,
     .of "error" Envelope.Draft.error (fun d e => { d with error := some e })
       (Json.optional complaint.read) true]
  draft := {}
  build d := .ok ⟨d.result.getD none, d.error.getD none⟩

structure Request where
  method : String
  params : List Value

def call (node : Whisper) (r : Request) : Http.Call where
  url := node.endpoint
  content := .json (Value.object [("jsonrpc", .string "2.0"), ("id", Json.ofNat node.nextId.toNat),
    ("method", .string r.method), ("params", .array r.params)]).print

def conclude {α : Type} (method : String) (result : Reader α) (answer : Http.Client.Answer) :
    Except Failure α :=
  if answer.isSuccess then
    match answer.body.map (Json.whole (envelope result).read) with
    | some (.ok ⟨_, some e⟩) => .error (.channel s!"{method} failed (code {e.code}): {e.message}")
    | some (.ok ⟨some a, none⟩) => .ok a
    | some (.ok ⟨none, none⟩) => .error (.channel s!"{method} returned no result")
    | _ => .error (.channel s!"invalid {method} response: {Http.Client.Fault.badBody.message}")
  else
    let body := Text.trim (Text.decodeLossy answer.bytes)
    .error (.channel s!"{method} rejected (status {Http.Status.text answer.status}): {body}")

/-- The number of the call is used up, whatever becomes of it. -/
def perform {α : Type} (node : Whisper) (r : Request) (result : Reader α) :
    Pending (Except Failure α) × Whisper :=
  let call := node.call r
  (⟨call, fun reply =>
    match Http.Client.send call reply with
    | .error fault => .error (.channel s!"{r.method} request failed: {fault.message}")
    | .ok answer => conclude r.method result answer⟩,
   { node with nextId := node.nextId + 1 })

def filterRequest (topic : Topic) (id : KeyId) : Request where
  method := "shh_newMessageFilter"
  params := [.object [("privateKeyID", id.json), ("topics", .array [topic.json])]]

def createFilter (node : Whisper) (topic : Topic) (id : KeyId) :
    Pending (Except Failure Filter) × Whisper :=
  let (asked, node) := node.perform (filterRequest topic id) Json.text
  (asked.map (·.map Filter.mk), node)

def postRequest (node : Whisper) (a : Announcement) : Request where
  method := "shh_post"
  params := [.object [("payload", .string a.payload.payload),
    ("powTarget", .number (.float a.work.target)),
    ("powTime", Json.ofNat a.work.seconds.toNat),
    ("pubKey", a.recipient.json), ("topic", a.topic.json),
    ("ttl", Json.ofNat node.lifetime.toNat)]]

/-- A result stands inside the envelope, so it nests one level less. -/
def anyResult : Reader Value :=
  Json.value (Json.maxDepth - 1)

/-- Older nodes answer with a truth value, newer ones with the hash of the envelope. -/
def accept : Value → Except Failure Unit
  | .bool false => .error (.channel "shh_post refused the message")
  | _ => .ok ()

def publish (node : Whisper) (a : Announcement) : Pending (Except Failure Unit) × Whisper :=
  let (asked, node) := node.perform (node.postRequest a) anyResult
  (asked.map (·.bind accept), node)

structure Message where
  payload : String
  topic : String
  timestamp : Option Nat
  hash : Option String

structure Message.Draft where
  payload : Option String := none
  topic : Option String := none
  timestamp : Option (Option Nat) := none
  hash : Option (Option String) := none

def message : Shape Message.Draft Message where
  title := "struct WhisperMessage"
  fields :=
    [.of "payload" Message.Draft.payload (fun d s => { d with payload := some s }) Json.text false,
     .of "topic" Message.Draft.topic (fun d s => { d with topic := some s }) Json.text false,
     .of "timestamp" Message.Draft.timestamp (fun d n => { d with timestamp := some n })
       (Json.optional (Json.natBelow "u64" UInt64.size)) true,
     .of "hash" Message.Draft.hash (fun d s => { d with hash := some s })
       (Json.optional Json.text) true]
  draft := {}
  build d := do
    return ⟨← Json.need "payload" d.payload, ← Json.need "topic" d.topic, d.timestamp.getD none,
      d.hash.getD none⟩

def Message.received? (m : Message) : Option Received :=
  match ContentId.readPayload m.payload, Topic.read m.topic with
  | .ok payload, .ok topic => some ⟨payload, topic, m.timestamp, m.hash⟩
  | _, _ => none

def pollRequest (f : Filter) : Request where
  method := "shh_getFilterMessages"
  params := [f.json]

def poll (node : Whisper) (f : Filter) : Pending (Except Failure (List Received)) × Whisper :=
  let (asked, node) := node.perform (pollRequest f) (Json.listOf message.read)
  (asked.map (·.map (·.filterMap Message.received?)), node)

end Whisper

end Herald
