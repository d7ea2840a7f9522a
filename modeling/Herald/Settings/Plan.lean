import Herald.Net.Address
import Herald.Relay
import Herald.Settings

/-!
What a node makes of its settings: the addresses it listens on and the way it announces. A plan is
sound when both addresses and the announcements can be had and the two listeners stay apart.
-/
namespace Herald.Settings

open Config (Key)

/-- Settings that are of the right kind and yet cannot be used. -/
inductive Fault where
  | zero (key : Key)
  | notAddress (key : Key) (host : String)
  | sharedEndpoint (host : String) (port : UInt16)
  | work (failure : Failure)
  | topic (failure : Failure)
  | recipient (failure : Failure)
  | keyId (failure : Failure)
deriving DecidableEq, Repr

def Fault.message : Fault → String
  | .zero key => s!"{key.path} must be greater than zero"
  | .notAddress key host =>
    s!"{key.path} must be an IP address, got '{host}': invalid IP address syntax"
  | .sharedEndpoint host port => s!"ingest and HTTP listeners must not share {host}:{port}"
  | .work failure => s!"invalid proof-of-work settings: {failure.message}"
  | .topic failure => s!"invalid {topicKey.path}: {failure.message}"
  | .recipient failure => s!"invalid {recipientKey.path}: {failure.message}"
  | .keyId failure => s!"invalid {keyIdKey.path}: {failure.message}"

structure Ingest where
  address : Address
  port : UInt16
  /-- In milliseconds. -/
  interval : UInt64
deriving DecidableEq

structure Service where
  address : Address
  port : UInt16
  origins : List String
deriving DecidableEq

def readHost (key : Key) (host : String) : Except Fault Address :=
  match Address.read? (Text.trim host) with
  | some address => .ok address
  | none => .error (.notAddress key host)

def ingest (s : Settings) : Except Fault Ingest := do
  return ⟨← readHost ingestHostKey s.ingestHost, s.ingestPort, s.pollInterval⟩

def service (s : Settings) : Except Fault Service := do
  return ⟨← readHost httpHostKey s.httpHost, s.httpPort, s.origins⟩

def readTopic (s : Settings) : Except Fault Topic :=
  (Topic.read s.topic).mapError .topic

def readKeyId (s : Settings) : Except Fault KeyId :=
  (KeyId.read s.keyId).mapError .keyId

def work (s : Settings) : Work :=
  ⟨s.workTarget, s.workSeconds⟩

def target (s : Settings) : Except Fault Target := do
  s.work.validate.mapError .work
  let topic ← s.readTopic
  let recipient ← (PublicKey.read s.recipient).mapError .recipient
  return ⟨topic, recipient, s.work⟩

/-- A client waits for at least a second. -/
def timeout (s : Settings) : UInt64 :=
  max s.clientTimeout 1

/-- A socket on one of the addresses may receive what was meant for the other. -/
def overlap (a b : Address) : Bool :=
  a = b || a.isUnspecified || b.isUnspecified

def validate (s : Settings) : Except Fault Unit := do
  if s.ingestPort = 0 then throw (.zero ingestPortKey)
  if s.httpPort = 0 then throw (.zero httpPortKey)
  if s.pollInterval = 0 then throw (.zero pollIntervalKey)
  let ingestAddress ← readHost ingestHostKey s.ingestHost
  let httpAddress ← readHost httpHostKey s.httpHost
  if s.ingestPort = s.httpPort && overlap ingestAddress httpAddress then
    throw (.sharedEndpoint s.httpHost s.httpPort)
  let _ ← s.target
  let _ ← s.readKeyId

end Herald.Settings
