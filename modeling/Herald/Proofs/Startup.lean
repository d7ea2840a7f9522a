import Herald.Launch
import Herald.Proofs.Results
import Herald.Settings.Backends

/-!
What a start takes from its settings. They are sound exactly when the addresses, the topic, the key and
the way of announcing can all be had from them and the two listeners stay apart. Where clients can be
built, a node with sound settings lacks a store or a channel only if that is elsewhere and its URL is none.
-/
namespace Herald

/-- Clients can be built, whatever their timeout. This fails only where the TLS backend cannot be
initialised or the resolver cannot read the configuration of the system. -/
def Http.Client.Builder.Works (build : Http.Client.Builder) : Prop :=
  ∀ timeout, build timeout = .ok ()

theorem Ipfs.connect_eq_error_iff {build : Http.Client.Builder} (works : build.Works) {url : String}
    {timeout : UInt64} {failure : Failure} : connect build url timeout = .error failure ↔
      ∃ f, Url.read url = .error f ∧
        failure = .invalid s!"invalid IPFS API url {url}: {f.message}" := by
  unfold connect
  rw [works timeout]
  simp only [bind_eq_error_iff, mapError_eq_error_iff]
  constructor
  · rintro (⟨_, ⟨⟩, _⟩ | ⟨_, _, unread | ⟨_, _, ⟨⟩⟩⟩)
    exact unread
  · exact fun unread => .inr ⟨(), rfl, .inl unread⟩

theorem Whisper.connect_eq_error_iff {build : Http.Client.Builder} (works : build.Works) {url : String}
    {lifetime : UInt32} {timeout : UInt64} {failure : Failure} :
    connect build url lifetime timeout = .error failure ↔
      ∃ f, Url.read url = .error f ∧ failure = .invalid s!"invalid RPC url {url}: {f.message}" := by
  unfold connect
  rw [works timeout]
  simp only [bind_eq_error_iff, mapError_eq_error_iff]
  constructor
  · rintro (unread | ⟨_, _, ⟨_, ⟨⟩, _⟩ | ⟨_, _, ⟨⟩⟩⟩)
    exact unread
  · exact fun unread => .inl unread

namespace Settings

theorem ingest_eq_ok_iff {s : Settings} {i : Ingest} : s.ingest = .ok i ↔
    ∃ address, readHost ingestHostKey s.ingestHost = .ok address ∧
      i = ⟨address, s.ingestPort, s.pollInterval⟩ := by
  unfold ingest
  simp only [bind_eq_ok_iff]
  constructor
  · rintro ⟨address, read, same⟩
    cases same
    exact ⟨address, read, rfl⟩
  · rintro ⟨address, read, rfl⟩
    exact ⟨address, read, rfl⟩

theorem service_eq_ok_iff {s : Settings} {h : Service} : s.service = .ok h ↔
    ∃ address, readHost httpHostKey s.httpHost = .ok address ∧
      h = ⟨address, s.httpPort, s.origins⟩ := by
  unfold service
  simp only [bind_eq_ok_iff]
  constructor
  · rintro ⟨address, read, same⟩
    cases same
    exact ⟨address, read, rfl⟩
  · rintro ⟨address, read, rfl⟩
    exact ⟨address, read, rfl⟩

theorem of_target {s : Settings} {target : Target} (aimed : s.target = .ok target) :
    target.work.validate = .ok () ∧ s.readTopic = .ok target.topic ∧
      PublicKey.read s.recipient = .ok target.recipient := by
  unfold Settings.target at aimed
  simp only [bind_eq_ok_iff] at aimed
  obtain ⟨_, worked, topic, topical, recipient, keyed, same⟩ := aimed
  cases same
  exact ⟨mapError_eq_ok_iff.1 worked, topical, mapError_eq_ok_iff.1 keyed⟩

theorem overlap_eq_false_iff {a b : Address} :
    overlap a b = false ↔ a ≠ b ∧ a.isUnspecified = false ∧ b.isUnspecified = false := by
  simp [overlap, and_assoc]

/-- All that a start takes from its settings can be had, and the listeners stay apart: on one port only at
two addresses, of which neither stands for others as well. -/
structure Startable (s : Settings) : Prop where
  ingestPort : s.ingestPort ≠ 0
  httpPort : s.httpPort ≠ 0
  pollInterval : s.pollInterval ≠ 0
  ingest : ∃ i, s.ingest = .ok i
  service : ∃ h, s.service = .ok h
  target : ∃ t, s.target = .ok t
  topic : ∃ t, s.readTopic = .ok t
  keyId : ∃ k, s.readKeyId = .ok k
  apart : ∀ i h, s.ingest = .ok i → s.service = .ok h → i.port = h.port →
    i.address ≠ h.address ∧ i.address.isUnspecified = false ∧ h.address.isUnspecified = false

theorem validate_eq_ok_iff {s : Settings} : s.validate = .ok () ↔
    s.ingestPort ≠ 0 ∧ s.httpPort ≠ 0 ∧ s.pollInterval ≠ 0 ∧
      ∃ a, readHost ingestHostKey s.ingestHost = .ok a ∧
      ∃ b, readHost httpHostKey s.httpHost = .ok b ∧
        (s.ingestPort = s.httpPort → overlap a b = false) ∧
        (∃ t, s.target = .ok t) ∧ ∃ k, s.readKeyId = .ok k := by
  unfold validate
  dsimp only
  simp only [check_eq_ok_iff, bind_eq_ok_iff, Bool.and_eq_true, decide_eq_true_eq, not_and,
    Bool.not_eq_true, ne_eq]
  have last (k : KeyId) : (s.readKeyId = .ok k ∧ (pure () : Except Fault Unit) = .ok ()) ↔
      s.readKeyId = .ok k := and_iff_left rfl
  simp only [last, exists_and_right]

theorem startable_iff {s : Settings} : s.validate = .ok () ↔ s.Startable := by
  rw [validate_eq_ok_iff]
  constructor
  · rintro ⟨ingestPort, httpPort, pollInterval, a, here, b, there, apart, ⟨target, aimed⟩, keyed⟩
    refine ⟨ingestPort, httpPort, pollInterval, ⟨_, ingest_eq_ok_iff.2 ⟨a, here, rfl⟩⟩,
      ⟨_, service_eq_ok_iff.2 ⟨b, there, rfl⟩⟩, ⟨target, aimed⟩, ⟨_, (of_target aimed).2.1⟩, keyed, ?_⟩
    intro i h listens serves shared
    obtain ⟨a', here', rfl⟩ := ingest_eq_ok_iff.1 listens
    obtain ⟨b', there', rfl⟩ := service_eq_ok_iff.1 serves
    cases Except.ok.inj (here.symm.trans here')
    cases Except.ok.inj (there.symm.trans there')
    exact overlap_eq_false_iff.1 (apart shared)
  · intro h
    obtain ⟨i, listens⟩ := h.ingest
    obtain ⟨w, serves⟩ := h.service
    have apart := h.apart i w listens serves
    obtain ⟨a, here, rfl⟩ := ingest_eq_ok_iff.1 listens
    obtain ⟨b, there, rfl⟩ := service_eq_ok_iff.1 serves
    exact ⟨h.ingestPort, h.httpPort, h.pollInterval, a, here, b, there,
      fun shared => overlap_eq_false_iff.2 (apart shared), h.target, h.keyId⟩

theorem store_of_memory {s : Settings} (here : s.storeMode = .memory) (build : Http.Client.Builder) :
    s.store build = .ok (.memory .empty) := by
  unfold store
  rw [here]

theorem client_eq_error_iff {α β : Type} {x : Except Failure α} {f : α → β} {fault : BackendFault} :
    (x.map f).mapError .client = .error fault ↔ ∃ failure, x = .error failure ∧ fault = .client failure := by
  rw [mapError_eq_error_iff]
  simp only [map_eq_error_iff]

theorem store_eq_error_iff {build : Http.Client.Builder} (works : build.Works) {s : Settings}
    {fault : BackendFault} : s.store build = .error fault ↔
      s.storeMode = .ipfs ∧ ∃ f, Url.read s.storeUrl = .error f ∧
        fault = .client (.invalid s!"invalid IPFS API url {s.storeUrl}: {f.message}") := by
  unfold store
  cases s.storeMode with
  | memory => simp
  | ipfs =>
    simp only [client_eq_error_iff, Ipfs.connect_eq_error_iff works, true_and]
    constructor
    · rintro ⟨_, ⟨f, unread, rfl⟩, rfl⟩
      exact ⟨f, unread, rfl⟩
    · rintro ⟨f, unread, rfl⟩
      exact ⟨_, ⟨f, unread, rfl⟩, rfl⟩

theorem hub_of_target {s : Settings} {target : Target} {key : KeyId} (aimed : s.target = .ok target)
    (keyed : s.readKeyId = .ok key) : s.hub = .ok (Hub.empty.registerKey key target.recipient) := by
  unfold Settings.hub
  rw [aimed, keyed]
  rfl

theorem channel_of_memory {s : Settings} {target : Target} {key : KeyId} (aimed : s.target = .ok target)
    (keyed : s.readKeyId = .ok key) (here : s.channelMode = .memory) (build : Http.Client.Builder) :
    s.channel build = .ok (.memory (Hub.empty.registerKey key target.recipient)) := by
  unfold channel
  rw [here, hub_of_target aimed keyed]
  rfl

theorem exists_channel_of_memory {s : Settings} (h : s.Startable) (here : s.channelMode = .memory)
    (build : Http.Client.Builder) : ∃ backend, s.channel build = .ok backend := by
  obtain ⟨target, aimed⟩ := h.target
  obtain ⟨key, keyed⟩ := h.keyId
  exact ⟨_, channel_of_memory aimed keyed here build⟩

theorem channel_eq_error_iff {build : Http.Client.Builder} (works : build.Works) {s : Settings}
    (h : s.Startable) {fault : BackendFault} : s.channel build = .error fault ↔
      s.channelMode = .whisper ∧ ∃ f, Url.read s.channelUrl = .error f ∧
        fault = .client (.invalid s!"invalid RPC url {s.channelUrl}: {f.message}") := by
  cases mode : s.channelMode with
  | memory =>
    obtain ⟨backend, made⟩ := exists_channel_of_memory h mode build
    simp [made]
  | whisper =>
    unfold channel
    rw [mode]
    simp only [client_eq_error_iff, Whisper.connect_eq_error_iff works, true_and]
    constructor
    · rintro ⟨_, ⟨f, unread, rfl⟩, rfl⟩
      exact ⟨f, unread, rfl⟩
    · rintro ⟨f, unread, rfl⟩
      exact ⟨_, ⟨f, unread, rfl⟩, rfl⟩

theorem launched_iff {look : String → Config.Entry} {environment : List (String × String)}
    {line : CommandLine} {s : Settings} : Launch.settings look environment line = .ok s ↔
      ∃ loaded, Launch.load look environment line.config = .ok loaded ∧ s = line.override loaded ∧
        s.Startable := by
  unfold Launch.settings
  simp only [bind_eq_ok_iff]
  constructor
  · rintro ⟨loaded, read, _, valid, same⟩
    cases same
    exact ⟨loaded, read, rfl, startable_iff.1 (mapError_eq_ok_iff.1 valid)⟩
  · rintro ⟨loaded, read, rfl, ready⟩
    refine ⟨loaded, read, (), ?_, rfl⟩
    rw [startable_iff.2 ready]
    rfl

/-- Settings are accepted exactly if all that a start takes from them can be had and the listeners stay
apart, whatever the settings are and wherever they come from; a node runs with none but such settings,
those of its command line among them. From accepted settings a store and a channel in memory can be built
on any machine, and all others on a machine that can build clients, unless the URL that stands for them is
none. -/
theorem validate_exact : (∀ s : Settings, s.validate = .ok () ↔ s.Startable) ∧
    (∀ look environment line s, Launch.settings look environment line = .ok s ↔
      ∃ loaded, Launch.load look environment line.config = .ok loaded ∧ s = line.override loaded ∧
        s.Startable) ∧
    ∀ (s : Settings) (build : Http.Client.Builder), s.validate = .ok () →
      (s.storeMode = .memory → ∃ backend, s.store build = .ok backend) ∧
      (s.channelMode = .memory → ∃ backend, s.channel build = .ok backend) ∧
      (build.Works →
        (∀ fault, s.store build = .error fault ↔ s.storeMode = .ipfs ∧
          ∃ f, Url.read s.storeUrl = .error f ∧
            fault = .client (.invalid s!"invalid IPFS API url {s.storeUrl}: {f.message}")) ∧
        ∀ fault, s.channel build = .error fault ↔ s.channelMode = .whisper ∧
          ∃ f, Url.read s.channelUrl = .error f ∧
            fault = .client (.invalid s!"invalid RPC url {s.channelUrl}: {f.message}")) := by
  refine ⟨fun _ => startable_iff, fun _ _ _ _ => launched_iff, fun s build valid => ?_⟩
  have ready := startable_iff.1 valid
  refine ⟨fun here => ⟨_, store_of_memory here build⟩,
    fun here => exists_channel_of_memory ready here build, fun works => ⟨?_, ?_⟩⟩
  · exact fun _ => store_eq_error_iff works
  · exact fun _ => channel_eq_error_iff works ready

def crowdedEnvironment : List (String × String) :=
  [("RELAY_INGEST_PORT", "5000"), ("RELAY_HTTP_HOST", " ::1"), ("RELAY_STORE_MODE", "IPFS"),
    ("RELAY_STORE_API_URL", "nowhere")]

def crowdedLine : CommandLine :=
  { httpPort := some 5000 }

theorem validate_exact_crowded : ∃ s,
    Launch.settings (fun _ => .missing) crowdedEnvironment crowdedLine = .ok s ∧
    s.validate = .ok () ∧ s.Startable ∧ s.ingestPort = s.httpPort ∧
    Http.Client.Builder.Works (fun _ => .ok ()) ∧ (∃ fault, s.store (fun _ => .ok ()) = .error fault) ∧
    ∃ channel, s.channel (fun _ => .ok ()) = .ok channel := by
  have checked : (Launch.settings (fun _ => .missing) crowdedEnvironment crowdedLine).toOption.any
      (fun s => s.ingestPort = s.httpPort && s.storeMode = .ipfs && s.channelMode = .memory &&
        (Url.read s.storeUrl).toOption.isNone) = true := by decide +kernel
  cases launched : Launch.settings (fun _ => .missing) crowdedEnvironment crowdedLine with
  | error fault =>
    rw [launched] at checked
    cases checked
  | ok s =>
    rw [launched] at checked
    simp only [Except.toOption, Option.any_some, Bool.and_eq_true, decide_eq_true_eq] at checked
    obtain ⟨⟨⟨shared, elsewhere⟩, here⟩, unread⟩ := checked
    obtain ⟨accepts, launches, builds⟩ := validate_exact
    obtain ⟨_, _, _, ready⟩ := (launches _ _ _ s).1 launched
    have valid := (accepts s).2 ready
    have works : Http.Client.Builder.Works (fun _ => .ok ()) := fun _ => rfl
    obtain ⟨_, channels, clients⟩ := builds s (fun _ => .ok ()) valid
    refine ⟨s, rfl, valid, ready, shared, works, ?_, channels here⟩
    cases read : Url.read s.storeUrl with
    | ok url =>
      rw [read] at unread
      cases unread
    | error f => exact ⟨_, ((clients works).1 _).2 ⟨elsewhere, f, read, rfl⟩⟩

end Settings

end Herald
