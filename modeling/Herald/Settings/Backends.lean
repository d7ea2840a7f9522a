import Herald.Channel.Whisper
import Herald.Settings.Plan
import Herald.Store.Ipfs

/-!
The store and the channel that the settings ask for: in memory, or as clients of a node elsewhere.
A hub in memory holds the configured key from the start, so a node hears its own announcements.
-/
namespace Herald.Settings

inductive StoreBackend where
  | memory (objects : Objects)
  | ipfs (node : Ipfs)

inductive ChannelBackend where
  | memory (hub : Hub)
  | whisper (node : Whisper)

def StoreBackend.label : StoreBackend → String
  | .memory _ => StoreMode.memory.label
  | .ipfs _ => Ipfs.label

def ChannelBackend.label : ChannelBackend → String
  | .memory _ => ChannelMode.memory.label
  | .whisper _ => Whisper.label

/-- The settings cannot be used, or there is no client for a node. -/
inductive BackendFault where
  | settings (fault : Fault)
  | client (failure : Failure)
deriving DecidableEq, Repr

def BackendFault.message : BackendFault → String
  | .settings fault => fault.message
  | .client failure => failure.message

def store (build : Http.Client.Builder) (s : Settings) : Except BackendFault StoreBackend :=
  match s.storeMode with
  | .memory => .ok (.memory .empty)
  | .ipfs => ((Ipfs.connect build s.storeUrl s.timeout).map .ipfs).mapError .client

def hub (s : Settings) : Except Fault Hub := do
  let target ← s.target
  return Hub.empty.registerKey (← s.readKeyId) target.recipient

def channel (build : Http.Client.Builder) (s : Settings) : Except BackendFault ChannelBackend :=
  match s.channelMode with
  | .memory => (s.hub.map .memory).mapError .settings
  | .whisper =>
    ((Whisper.connect build s.channelUrl s.lifetime s.timeout).map .whisper).mapError .client

end Herald.Settings
