import Herald.CommandLine
import Herald.Proofs.Newest
import Herald.Proofs.Startup
import Herald.Proofs.Values

/-!
A node in memory hears itself. The topic, the key and the recipient are read from their texts wherever
they are needed, and always as the same; so what a node with sound settings announces waits in the
filter that the node itself makes, until it is polled.
-/
namespace Herald

structure Wiring where
  hub : Hub
  target : Target
  topic : Topic
  key : KeyId
  filter : Filter
  ready : Hub

namespace Settings

/-- Every part is made, each from the texts in the settings. -/
structure Wires (s : Settings) (w : Wiring) : Prop where
  store : ∀ build, s.store build = .ok (.memory .empty)
  channel : ∀ build, s.channel build = .ok (.memory w.hub)
  target : s.target = .ok w.target
  topic : s.readTopic = .ok w.topic
  key : s.readKeyId = .ok w.key
  filter : w.hub.createFilter w.topic w.key = .ok (w.filter, w.ready)

theorem exists_wires {s : Settings} (valid : s.validate = .ok ()) (stores : s.storeMode = .memory)
    (channels : s.channelMode = .memory) : ∃ w, s.Wires w := by
  have ready := startable_iff.1 valid
  obtain ⟨target, aimed⟩ := ready.target
  obtain ⟨key, keyed⟩ := ready.keyId
  obtain ⟨_, topical, _⟩ := of_target aimed
  obtain ⟨filter, ready, created⟩ : ∃ filter ready,
      (Hub.empty.registerKey key target.recipient).createFilter target.topic key =
        .ok (filter, ready) := by
    unfold Hub.createFilter
    rw [Hub.owner?_registerKey, if_pos rfl]
    exact ⟨_, _, rfl⟩
  refine ⟨⟨_, target, target.topic, key, filter, ready⟩, ?_, ?_, aimed, topical, keyed, created⟩
  · exact store_of_memory stores
  · exact channel_of_memory aimed keyed channels

end Settings

def Step.isLocal (own : Filter) : Step → Bool
  | .ingest _ => true
  | .poll f => f = own
  | _ => false

def heard : Except Failure Outcome → List ContentId
  | .ok (.messages messages) => messages.map (·.payload)
  | _ => []

namespace Relay

/-- A relay whose store and channel work and whose own filter its announcements reach. -/
structure Hears (r : Relay) : Prop extends r.Tuned where
  takes : r.store.access = .normal
  valid : r.target.work.validate = .ok ()

def submitted (raw : List UInt8) : Except Failure Outcome :=
  (Document.submit raw).map fun d => .ingested ⟨d.id, d.id.payload⟩

variable {r : Relay}

theorem Hears.ingest_answer (h : r.Hears) (now : Nat) (raw : List UInt8) :
    (r.ingest now raw).1.map .ingested = submitted raw := by
  unfold submitted
  cases read : Document.submit raw with
  | ok d =>
    rw [ingest_of_submit h.works h.takes h.valid read now]
    rfl
  | error f =>
    unfold ingest relay
    rw [read]
    rfl

theorem Hears.ingest (h : r.Hears) (now : Nat) (raw : List UInt8) :
    (r.ingest now raw).2.Hears ∧ (r.ingest now raw).2.filter = r.filter ∧
      (r.ingest now raw).2.unread = r.unread ++ (announced? (submitted raw)).toList := by
  have goes := goes_ingest h.works now raw
  obtain ⟨tuned, unread⟩ := h.toTuned.ingest now raw
  rw [h.ingest_answer] at unread
  refine ⟨⟨tuned, goes.access.trans h.takes, ?_⟩, goes.filter, unread⟩
  rw [goes.target]
  exact h.valid

theorem Hears.poll (h : r.Hears) : ∃ messages after, r.poll r.filter = .ok (messages, after) ∧
    messages.map (·.payload) = r.unread ∧ after.Hears ∧ after.filter = r.filter ∧ after.unread = [] := by
  obtain ⟨sub, here, _⟩ := h.listening
  obtain ⟨after, polled⟩ := poll_of_known h.works ⟨sub, here⟩
  have goes := ((goes_poll h.works r.filter).1 _ after polled).2
  obtain ⟨tuned, empty⟩ := h.toTuned.drain goes
  refine ⟨_, after, polled, rfl, ⟨tuned, goes.access.trans h.takes, ?_⟩, goes.filter, empty⟩
  rw [goes.target]
  exact h.valid

theorem Hears.step (h : r.Hears) (now : Nat) {s : Step} (own : s.isLocal r.filter = true) :
    ∃ answer, (r.step now s).1 = answer.mapError .failure ∧ (r.step now s).2.Hears ∧
      (r.step now s).2.filter = r.filter ∧
      r.unread ++ (announced? answer).toList = heard answer ++ (r.step now s).2.unread ∧
      (∀ raw, s = .ingest raw → answer = submitted raw) ∧
      (∀ f, s = .poll f → ∃ messages, answer = .ok (.messages messages) ∧
        messages.map (·.payload) = r.unread) := by
  cases s with
  | ingest raw =>
    obtain ⟨hears, filter, unread⟩ := h.ingest now raw
    have silent : heard (submitted raw) = [] := by
      unfold submitted
      cases Document.submit raw <;> rfl
    refine ⟨submitted raw, ?_, hears, filter, ?_, ?_, ?_⟩
    · rw [← h.ingest_answer now raw]
      rfl
    · rw [silent]
      exact unread.symm
    · intro raw' same
      cases same
      rfl
    · intro f other
      cases other
  | poll f =>
    have same : f = r.filter := of_decide_eq_true own
    subst same
    obtain ⟨messages, after, polled, payloads, hears, filter, empty⟩ := h.poll
    rw [Relay.step, polled]
    refine ⟨.ok (.messages messages), rfl, hears, filter, ?_, ?_, ?_⟩
    · change r.unread ++ [] = messages.map (·.payload) ++ after.unread
      rw [empty, payloads]
    · intro raw other
      cases other
    · intro f _
      exact ⟨messages, rfl, payloads⟩
  | _ => contradiction

theorem Hears.run {steps : List (Nat × Step)} : ∀ {r : Relay}, r.Hears →
    (∀ t ∈ steps, t.2.isLocal r.filter = true) → ∃ answers final, r.run steps = .ok (answers, final) ∧
      final.Hears ∧ final.filter = r.filter ∧
      r.unread ++ answers.filterMap announced? = answers.flatMap heard ++ final.unread := by
  induction steps with
  | nil => exact fun {r} h _ => ⟨[], r, rfl, h, rfl, List.append_nil _⟩
  | cons t rest ih =>
    intro r h own
    obtain ⟨answer, replied, hears, filter, settled, _⟩ := h.step t.1 (own t (by simp))
    obtain ⟨later, final, ran, last, same, balance⟩ := ih hears fun u hu => by
      rw [filter]
      exact own u (by simp [hu])
    refine ⟨answer :: later, final, run_cons_eq_ok.2 ⟨answer, later, replied, ran, rfl⟩, last,
      same.trans filter, ?_⟩
    have first : (answer :: later).filterMap announced? =
        (announced? answer).toList ++ later.filterMap announced? := by
      cases announced : announced? answer with
      | none => exact List.filterMap_cons_none announced
      | some id => exact List.filterMap_cons_some announced
    rw [first, List.flatMap_cons, ← List.append_assoc, settled, List.append_assoc, balance,
      List.append_assoc]

/-- A session in which every document is announced and every poll hands out what was announced since
the poll before. -/
structure Echoes (r : Relay) (steps : List (Nat × Step)) (answers : List (Except Failure Outcome)) :
    Prop where
  ingested : ∀ before now raw behind, steps = before ++ (now, .ingest raw) :: behind →
    answers[before.length]? = some (submitted raw)
  polled : ∀ before now behind, steps = before ++ (now, .poll r.filter) :: behind → ∃ messages,
    answers[before.length]? = some (.ok (.messages messages)) ∧
    (answers.take before.length).flatMap heard ++ messages.map (·.payload) =
      (answers.take before.length).filterMap announced?

theorem Hears.echoes (h : r.Hears) (fresh : r.unread = []) {steps : List (Nat × Step)}
    (own : ∀ t ∈ steps, t.2.isLocal r.filter = true) :
    ∃ answers final, r.run steps = .ok (answers, final) ∧ r.Echoes steps answers := by
  obtain ⟨answers, final, ran, _⟩ := h.run own
  -- The steps in front of another are a session as well.
  have ready (before : List (Nat × Step)) (part : before <+: steps) {first : List (Except Failure Outcome)}
      (reached : r.run before = .ok (first, r.after before)) : (r.after before).Hears ∧
        (r.after before).filter = r.filter ∧
        first.filterMap announced? = first.flatMap heard ++ (r.after before).unread := by
    obtain ⟨_, _, ran', hears, filter, balance⟩ := h.run fun t ht => own t (part.subset ht)
    rw [reached] at ran'
    cases ran'
    rw [fresh] at balance
    exact ⟨hears, filter, balance⟩
  refine ⟨answers, final, ran, ?_, ?_⟩
  · rintro before now raw behind rfl
    obtain ⟨first, answer, _, _, _, told, reached, replied, _⟩ := run_around ran
    obtain ⟨hears, filter, _⟩ := ready before (List.prefix_append _ _) reached
    have fed : Step.isLocal (r.after before).filter (.ingest raw) = true := rfl
    obtain ⟨answer', replied', _, _, _, right, _⟩ := hears.step now fed
    cases answer_injective (replied.symm.trans replied')
    rw [told, right raw rfl]
  · rintro before now behind rfl
    obtain ⟨first, answer, later, rfl, length, told, reached, replied, _⟩ := run_around ran
    obtain ⟨hears, filter, balance⟩ := ready before (List.prefix_append _ _) reached
    have mine : Step.isLocal (r.after before).filter (.poll r.filter) = true := by
      rw [filter]
      exact decide_eq_true rfl
    obtain ⟨answer', replied', _, _, _, _, right⟩ := hears.step now mine
    cases answer_injective (replied.symm.trans replied')
    obtain ⟨messages, rfl, payloads⟩ := right r.filter rfl
    refine ⟨messages, told, ?_⟩
    rw [← length, List.take_left, balance, payloads]

structure StartsWith (r : Relay) (w : Wiring) : Prop where
  target : r.target = w.target
  filter : r.filter = w.filter
  store : r.store = ⟨.normal, .empty⟩
  channel : r.channel = ⟨.normal, w.ready⟩

theorem StartsWith.hears {w : Wiring} (starts : r.StartsWith w) {s : Settings} (wires : s.Wires w)
    (channels : s.channelMode = .memory) : r.Hears ∧ r.unread = [] := by
  obtain ⟨valid, topical, _⟩ := Settings.of_target wires.target
  obtain ⟨_, keys, _, _, found⟩ := Hub.createFilter_eq_ok wires.filter
  have topic : w.topic = w.target.topic := Except.ok.inj (wires.topic.symm.trans topical)
  have hub : w.hub = Hub.empty.registerKey w.key w.target.recipient := by
    have made := Settings.channel_of_memory wires.target wires.key channels
    let build : Http.Client.Builder := fun _ => .ok ()
    exact Settings.ChannelBackend.memory.inj (Except.ok.inj ((wires.channel build).symm.trans (made build)))
  have owner : w.ready.owner? w.key = some w.target.recipient := by
    rw [Hub.owner?, keys, ← Hub.owner?, hub, Hub.owner?_registerKey, if_pos rfl]
  have here : w.ready.subscription? w.filter = some ⟨w.filter, w.topic, w.key, []⟩ := by
    rw [found, if_pos rfl]
  refine ⟨⟨⟨?_, ?_⟩, ?_, ?_⟩, ?_⟩
  · rw [starts.channel]
  · rw [starts.channel, starts.filter, starts.target]
    exact ⟨_, here, topic, owner⟩
  · rw [starts.store]
  · rw [starts.target]
    exact valid
  · rw [unread, Hub.waiting, starts.channel, starts.filter]
    dsimp only
    rw [here]
    rfl

end Relay

/-- The topic, the key and the recipient of a node are those in its configuration. -/
structure Wiring.ReadFrom (w : Wiring) (root : Config.Value) : Prop where
  topic : Topic.read ((Settings.topicKey.text? root).getD Settings.defaultTopic) = .ok w.topic
  key : KeyId.read ((Settings.keyIdKey.text? root).getD Settings.defaultKeyId) = .ok w.key
  recipient : PublicKey.read ((Settings.recipientKey.text? root).getD Settings.defaultRecipient) =
    .ok w.target.recipient

/-- A node in memory with sound settings can be built, and hears itself: whatever bytes it is fed and
whenever its filter is polled, every document is ingested, and the polls hand out the identifiers of the
receipts, in order and once each. -/
theorem node_hears_itself {root : Config.Value} {line : CommandLine} {s : Settings}
    (read : Settings.ofConfig root = .ok s) (valid : (line.override s).validate = .ok ())
    (stores : (line.override s).storeMode = .memory)
    (channels : (line.override s).channelMode = .memory) :
    ∃ w : Wiring, (line.override s).Wires w ∧ w.ReadFrom root ∧
      ∀ r : Relay, r.StartsWith w → ∀ steps : List (Nat × Step),
        (∀ t ∈ steps, t.2.isLocal w.filter = true) →
        ∃ answers final, r.run steps = .ok (answers, final) ∧ r.Echoes steps answers := by
  obtain ⟨w, wires⟩ := Settings.exists_wires valid stores channels
  have reflects := Settings.ofConfig_eq_ok_iff.1 read
  obtain ⟨_, _, keyed⟩ := Settings.of_target wires.target
  refine ⟨w, wires, ⟨?_, ?_, ?_⟩, ?_⟩
  · rw [← reflects.topic]
    exact mapError_eq_ok_iff.1 wires.topic
  · rw [← reflects.keyId]
    exact mapError_eq_ok_iff.1 wires.key
  · rw [← reflects.recipient]
    exact keyed
  · intro r starts steps own
    obtain ⟨hears, fresh⟩ := starts.hears wires channels
    rw [← starts.filter] at own
    exact hears.echoes fresh own

def looseConfig : Config.Value :=
  .table [("channel_topic", .text " 12ABCDEF "), ("channel_key_id", .text "0X0A"),
    ("channel_work_target", .text "1.5")]

def looseLine : CommandLine :=
  { ingestPort := some 15000, logLevel := some "debug" }

def Wiring.relay (w : Wiring) : Relay where
  target := w.target
  filter := w.filter
  store := ⟨.normal, .empty⟩
  channel := ⟨.normal, w.ready⟩
  latest := none
  meter := .zero
  served := 0
  metered := true
  origins := []
  started := 0

def looseSteps (f : Filter) : List (Nat × Step) :=
  [(1, .ingest (Text.encode "[1]")), (2, .ingest (Text.encode "]")), (3, .poll f), (4, .poll f)]

theorem node_hears_itself_loose : ∃ (s : Settings) (w : Wiring), ∃ answers final,
    Settings.ofConfig looseConfig = .ok s ∧ (looseLine.override s).validate = .ok () ∧
    (looseLine.override s).Wires w ∧ w.ReadFrom looseConfig ∧ w.relay.StartsWith w ∧
    w.relay.run (looseSteps w.filter) = .ok (answers, final) ∧
    w.relay.Echoes (looseSteps w.filter) answers := by
  have checked : (Settings.ofConfig looseConfig).toOption.any (fun s =>
      (looseLine.override s).validate = .ok () && (looseLine.override s).storeMode = .memory &&
        (looseLine.override s).channelMode = .memory) = true := by decide +kernel
  cases read : Settings.ofConfig looseConfig with
  | error fault =>
    rw [read] at checked
    contradiction
  | ok s =>
    rw [read] at checked
    simp only [Except.toOption, Option.any_some, Bool.and_eq_true, decide_eq_true_eq] at checked
    obtain ⟨⟨valid, stores⟩, channels⟩ := checked
    obtain ⟨w, wires, texts, echoes⟩ := node_hears_itself read valid stores channels
    have starts : w.relay.StartsWith w := ⟨rfl, rfl, rfl, rfl⟩
    obtain ⟨answers, final, ran, heard⟩ := echoes w.relay starts (looseSteps w.filter)
      (by simp [looseSteps, Step.isLocal])
    exact ⟨s, w, answers, final, rfl, valid, wires, texts, starts, ran, heard⟩

end Herald
