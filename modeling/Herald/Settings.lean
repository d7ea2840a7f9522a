import Herald.Config.Key
import Herald.Failure
import Herald.Number.Literal

/-!
The settings of a node. Each has a default; a value that is there must be of the right kind. What a
value means beyond that, such as a topic that is no topic, is found out later.
-/
namespace Herald

open Config (Key)

inductive StoreMode where
  | memory
  | ipfs
deriving DecidableEq, Repr

inductive ChannelMode where
  | memory
  | whisper
deriving DecidableEq, Repr

def StoreMode.label : StoreMode → String
  | .memory => "memory"
  | .ipfs => "ipfs"

def ChannelMode.label : ChannelMode → String
  | .memory => "memory"
  | .whisper => "whisper"

structure Settings where
  storeMode : StoreMode
  storeUrl : String
  channelMode : ChannelMode
  channelUrl : String
  topic : String
  recipient : String
  keyId : String
  workTarget : Float
  workSeconds : UInt32
  /-- How long an envelope lives, in seconds. -/
  lifetime : UInt32
  ingestHost : String
  ingestPort : UInt16
  /-- In milliseconds. -/
  pollInterval : UInt64
  httpHost : String
  httpPort : UInt16
  origins : List String
  /-- In seconds. -/
  clientTimeout : UInt64
  logLevel : String
  logFormat : String
  metered : Bool
  file : Option String
deriving DecidableEq

namespace Settings

def storeModeKey : Key := ⟨"store", "mode"⟩
def storeUrlKey : Key := ⟨"store", "api_url"⟩
def channelModeKey : Key := ⟨"channel", "mode"⟩
def channelUrlKey : Key := ⟨"channel", "rpc_url"⟩
def topicKey : Key := ⟨"channel", "topic"⟩
def recipientKey : Key := ⟨"channel", "recipient_public_key"⟩
def keyIdKey : Key := ⟨"channel", "key_id"⟩
def workTargetKey : Key := ⟨"channel", "work_target"⟩
def workSecondsKey : Key := ⟨"channel", "work_time_secs"⟩
def lifetimeKey : Key := ⟨"channel", "ttl_secs"⟩
def ingestHostKey : Key := ⟨"ingest", "host"⟩
def ingestPortKey : Key := ⟨"ingest", "port"⟩
def pollIntervalKey : Key := ⟨"ingest", "poll_interval_ms"⟩
def httpHostKey : Key := ⟨"http", "host"⟩
def httpPortKey : Key := ⟨"http", "port"⟩
def originsKey : Key := ⟨"http", "allowed_origins"⟩
def clientTimeoutKey : Key := ⟨"http", "client_timeout_secs"⟩
def logLevelKey : Key := ⟨"log", "level"⟩
def logFormatKey : Key := ⟨"log", "format"⟩
def meteredKey : Key := ⟨"metrics", "enabled"⟩

def keys : List Key :=
  [storeModeKey, storeUrlKey, channelModeKey, channelUrlKey, topicKey, recipientKey, keyIdKey,
    workTargetKey, workSecondsKey, lifetimeKey, ingestHostKey, ingestPortKey, pollIntervalKey,
    httpHostKey, httpPortKey, originsKey, clientTimeoutKey, logLevelKey, logFormatKey, meteredKey]

def defaultTopic : String := "0x12345678"

def defaultRecipient : String :=
  "0x0476a7fe325709fe6420b216d7fb3bea263b012f44bfd5a00a1c7e125f0cfe2b" ++
  "220d6d1a6e5f0ed87ef39953d4a19969cf7d100cd52546b0a970ae0956001b83ce"

def defaultKeyId : String :=
  "20b637d3d40cb74875765250e8ad693aceed234b500c02adec0e279f4daaf49a"

inductive ValueFault where
  | storeMode (word : String)
  | channelMode (word : String)
  | number (key : Key) (raw : String) (fault : Number.LiteralFault)
deriving DecidableEq, Repr

def ValueFault.message : ValueFault → String
  | .storeMode word => s!"unknown store mode '{word}'; expected 'memory' or 'ipfs'"
  | .channelMode word => s!"unknown channel mode '{word}'; expected 'memory' or 'whisper'"
  | .number key raw fault => s!"invalid value '{raw}' for {key.path}: {fault.message}"

def readStoreMode (text : String) : Except ValueFault StoreMode :=
  match Text.lower (Text.trim text) with
  | "memory" => .ok .memory
  | "ipfs" => .ok .ipfs
  | word => .error (.storeMode word)

def readChannelMode (text : String) : Except ValueFault ChannelMode :=
  match Text.lower (Text.trim text) with
  | "memory" => .ok .memory
  | "whisper" => .ok .whisper
  | word => .error (.channelMode word)

/-- Origins stand between commas; blank ones are none. -/
def readOrigins (text : String) : List String :=
  ((Text.pieces (· = ',') text.toList).map fun cs => String.ofList (Text.trimChars cs)).filter
    (· ≠ "")

def parsed {α : Type} (root : Config.Value) (key : Key) (default : α)
    (reader : String → Except Number.LiteralFault α) : Except ValueFault α :=
  match key.text? root with
  | none => .ok default
  | some raw => (reader raw).mapError (.number key raw)

def readUInt16 (text : String) : Except Number.LiteralFault UInt16 :=
  (Number.readNat (UInt16.size - 1) text).map UInt16.ofNat

def readUInt32 (text : String) : Except Number.LiteralFault UInt32 :=
  (Number.readNat (UInt32.size - 1) text).map UInt32.ofNat

def readUInt64 (text : String) : Except Number.LiteralFault UInt64 :=
  (Number.readNat (UInt64.size - 1) text).map UInt64.ofNat

/-- The settings in a configuration; of several faults the first in this order is told. -/
def ofConfig (root : Config.Value) : Except ValueFault Settings := do
  let text (key : Key) (default : String) : String := (key.text? root).getD default
  let storeMode ← readStoreMode (text storeModeKey "memory")
  let channelMode ← readChannelMode (text channelModeKey "memory")
  let workTarget ← parsed root workTargetKey 12.5 Number.readFloat
  let workSeconds ← parsed root workSecondsKey 10 readUInt32
  let lifetime ← parsed root lifetimeKey 60 readUInt32
  let ingestPort ← parsed root ingestPortKey 12345 readUInt16
  let pollInterval ← parsed root pollIntervalKey 100 readUInt64
  let httpPort ← parsed root httpPortKey 5007 readUInt16
  let clientTimeout ← parsed root clientTimeoutKey 30 readUInt64
  return {
    storeMode, channelMode, workTarget, workSeconds, lifetime, ingestPort, pollInterval, httpPort
    clientTimeout
    storeUrl := text storeUrlKey "http://127.0.0.1:5001"
    channelUrl := text channelUrlKey "http://127.0.0.1:8454"
    topic := text topicKey defaultTopic
    recipient := text recipientKey defaultRecipient
    keyId := text keyIdKey defaultKeyId
    ingestHost := text ingestHostKey "127.0.0.1"
    httpHost := text httpHostKey "0.0.0.0"
    origins := readOrigins (text originsKey "")
    logLevel := text logLevelKey "info"
    logFormat := text logFormatKey "pretty"
    metered := (meteredKey.truth? root).getD true
    file := none }

def provenance (s : Settings) : String :=
  s.file.getD "defaults + environment"

end Settings

end Herald
