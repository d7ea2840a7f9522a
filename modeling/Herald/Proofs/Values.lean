import Herald.Proofs.Results
import Herald.Settings
import Mathlib.Tactic.MkIffOfInductiveProp

/-!
What the values in a configuration make of the settings. Every setting is what its own value says, or its
default if no value of it can be used; and a fault is that of a value which its setting cannot take.
-/
namespace Herald.Settings

open Config (Key)
open Number (LiteralFault)

variable {α : Type}

/-- The number that was given, or the default. -/
def Takes (reader : String → Except LiteralFault α) (default : α) (given : Option String) (a : α) : Prop :=
  match given with
  | none => a = default
  | some raw => reader raw = .ok a

theorem takes_some_iff {reader : String → Except LiteralFault α} {default a : α} {raw : String} :
    Takes reader default (some raw) a ↔ reader raw = .ok a :=
  Iff.rfl

/-- Every setting is what is given for it, or its default. -/
@[mk_iff] structure Reflects (texts : Key → Option String) (truth : Option Bool) (s : Settings) : Prop where
  storeMode : readStoreMode ((texts storeModeKey).getD "memory") = .ok s.storeMode
  storeUrl : s.storeUrl = (texts storeUrlKey).getD "http://127.0.0.1:5001"
  channelMode : readChannelMode ((texts channelModeKey).getD "memory") = .ok s.channelMode
  channelUrl : s.channelUrl = (texts channelUrlKey).getD "http://127.0.0.1:8454"
  topic : s.topic = (texts topicKey).getD defaultTopic
  recipient : s.recipient = (texts recipientKey).getD defaultRecipient
  keyId : s.keyId = (texts keyIdKey).getD defaultKeyId
  workTarget : Takes Number.readFloat 12.5 (texts workTargetKey) s.workTarget
  workSeconds : Takes readUInt32 10 (texts workSecondsKey) s.workSeconds
  lifetime : Takes readUInt32 60 (texts lifetimeKey) s.lifetime
  ingestHost : s.ingestHost = (texts ingestHostKey).getD "127.0.0.1"
  ingestPort : Takes readUInt16 12345 (texts ingestPortKey) s.ingestPort
  pollInterval : Takes readUInt64 100 (texts pollIntervalKey) s.pollInterval
  httpHost : s.httpHost = (texts httpHostKey).getD "0.0.0.0"
  httpPort : Takes readUInt16 5007 (texts httpPortKey) s.httpPort
  origins : s.origins = readOrigins ((texts originsKey).getD "")
  clientTimeout : Takes readUInt64 30 (texts clientTimeoutKey) s.clientTimeout
  logLevel : s.logLevel = (texts logLevelKey).getD "info"
  logFormat : s.logFormat = (texts logFormatKey).getD "pretty"
  metered : s.metered = truth.getD true
  file : s.file = none

theorem reflects_congr {texts texts' : Key → Option String} (same : ∀ k ∈ keys, texts k = texts' k)
    {truth : Option Bool} {s : Settings} : s.Reflects texts truth ↔ s.Reflects texts' truth := by
  simp only [keys, List.forall_mem_cons] at same
  obtain ⟨_, _⟩ := same
  simp only [reflects_iff, *]

theorem parsed_eq_ok_iff {root : Config.Value} {key : Key} {default a : α}
    {reader : String → Except LiteralFault α} :
    parsed root key default reader = .ok a ↔ Takes reader default (key.text? root) a := by
  unfold parsed Takes
  cases key.text? root with
  | none => exact ⟨fun same => (Except.ok.inj same).symm, fun same => congrArg Except.ok same.symm⟩
  | some raw => exact mapError_eq_ok_iff

theorem ofConfig_eq_ok_iff {root : Config.Value} {s : Settings} :
    ofConfig root = .ok s ↔ s.Reflects (fun k => k.text? root) (meteredKey.truth? root) := by
  unfold ofConfig
  simp only [bind_eq_ok_iff, parsed_eq_ok_iff]
  constructor
  · rintro ⟨_, storeMode, _, channelMode, _, workTarget, _, workSeconds, _, lifetime, _, ingestPort,
      _, pollInterval, _, httpPort, _, clientTimeout, same⟩
    cases same
    exact ⟨storeMode, rfl, channelMode, rfl, rfl, rfl, rfl, workTarget, workSeconds, lifetime, rfl,
      ingestPort, pollInterval, rfl, httpPort, rfl, clientTimeout, rfl, rfl, rfl, rfl⟩
  · intro h
    refine ⟨_, h.storeMode, _, h.channelMode, _, h.workTarget, _, h.workSeconds, _, h.lifetime,
      _, h.ingestPort, _, h.pollInterval, _, h.httpPort, _, h.clientTimeout, ?_⟩
    rw [← h.storeUrl, ← h.channelUrl, ← h.topic, ← h.recipient, ← h.keyId, ← h.ingestHost, ← h.httpHost,
      ← h.origins, ← h.logLevel, ← h.logFormat, ← h.metered, ← h.file]
    rfl

def bounds : List (Key × Nat) :=
  [(workSecondsKey, UInt32.size - 1), (lifetimeKey, UInt32.size - 1), (ingestPortKey, UInt16.size - 1),
    (pollIntervalKey, UInt64.size - 1), (httpPortKey, UInt16.size - 1), (clientTimeoutKey, UInt64.size - 1)]

/-- A value that was given and that its setting cannot take. -/
inductive Refused (texts : Key → Option String) : ValueFault → Prop
  | storeMode {text : String} {fault : ValueFault} : texts storeModeKey = some text →
      readStoreMode text = .error fault → Refused texts fault
  | channelMode {text : String} {fault : ValueFault} : texts channelModeKey = some text →
      readChannelMode text = .error fault → Refused texts fault
  | target {raw : String} {fault : LiteralFault} : texts workTargetKey = some raw →
      Number.readFloat raw = .error fault → Refused texts (.number workTargetKey raw fault)
  | whole {k : Key} {bound : Nat} {raw : String} {fault : LiteralFault} : (k, bound) ∈ bounds →
      texts k = some raw → Number.readNat bound raw = .error fault → Refused texts (.number k raw fault)

theorem Refused.congr {texts texts' : Key → Option String} (same : ∀ k ∈ keys, texts k = texts' k)
    {fault : ValueFault} (refused : Refused texts fault) : Refused texts' fault := by
  have known : ∀ p ∈ bounds, p.1 ∈ keys := by decide +kernel
  cases refused with
  | storeMode given unread => exact .storeMode ((same _ (by simp [keys])).symm.trans given) unread
  | channelMode given unread => exact .channelMode ((same _ (by simp [keys])).symm.trans given) unread
  | target given unread => exact .target ((same _ (by simp [keys])).symm.trans given) unread
  | whole bounded given unread => exact .whole bounded ((same _ (known _ bounded)).symm.trans given) unread

theorem parsed_eq_error {root : Config.Value} {key : Key} {default : α}
    {reader : String → Except LiteralFault α} {fault : ValueFault}
    (failed : parsed root key default reader = .error fault) : ∃ raw f,
      key.text? root = some raw ∧ reader raw = .error f ∧ fault = .number key raw f := by
  unfold parsed at failed
  cases text : key.text? root with
  | none =>
    rw [text] at failed
    contradiction
  | some raw =>
    rw [text] at failed
    obtain ⟨f, unread, same⟩ := mapError_eq_error_iff.1 failed
    exact ⟨raw, f, rfl, unread, same⟩

theorem exists_text_of_error {β : Type} {given : Option String} {default : String}
    {reader : String → Except ValueFault β} {fault : ValueFault} (fine : (reader default).isOk = true)
    (failed : reader (given.getD default) = .error fault) :
    ∃ text, given = some text ∧ reader text = .error fault := by
  cases given with
  | none =>
    rw [Option.getD_none] at failed
    rw [failed] at fine
    contradiction
  | some text => exact ⟨text, rfl, failed⟩

theorem refused_whole {root : Config.Value} {key : Key} {default : α} {bound : Nat} {of : Nat → α}
    {fault : ValueFault} (known : (key, bound) ∈ bounds)
    (failed : parsed root key default (fun text => (Number.readNat bound text).map of) = .error fault) :
    Refused (fun k => k.text? root) fault := by
  obtain ⟨raw, f, given, unread, rfl⟩ := parsed_eq_error failed
  exact .whole known given (map_eq_error_iff.1 unread)

theorem refused_of_ofConfig {root : Config.Value} {fault : ValueFault}
    (failed : ofConfig root = .error fault) : Refused (fun k => k.text? root) fault := by
  unfold ofConfig at failed
  simp only [bind_eq_error_iff] at failed
  obtain failed | ⟨_, _, failed | ⟨_, _, failed | ⟨_, _, failed | ⟨_, _, failed | ⟨_, _, failed |
    ⟨_, _, failed | ⟨_, _, failed | ⟨_, _, failed | ⟨_, _, ⟨⟩⟩⟩⟩⟩⟩⟩⟩⟩⟩ := failed
  · obtain ⟨text, given, refused⟩ := exists_text_of_error (by decide +kernel) failed
    exact .storeMode given refused
  · obtain ⟨text, given, refused⟩ := exists_text_of_error (by decide +kernel) failed
    exact .channelMode given refused
  · obtain ⟨raw, f, given, unread, rfl⟩ := parsed_eq_error failed
    exact .target given unread
  all_goals exact refused_whole (by simp [bounds]) failed

end Herald.Settings
