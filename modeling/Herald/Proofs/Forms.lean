import Herald.Proofs.Digits
import Herald.Proofs.Json.Members
import Herald.Wire

/-!
The JSON forms of the relay's own types. What is written is read back; and of an announcement, sent or
received, nothing matters but what it has under the names of its fields, however it is presented. A string
that names nothing is never read as a part of one.
-/
namespace Herald

open Json (Enumerates Faithful Number Reader Reads ReadsRecords Says SameMembers Slot Spells Value Written
  parse valuesOf whole)

namespace Json

theorem spells_print {v : Value} (back : ∀ n ∈ v.numbers, parse n.print = .ok (.number n)) :
    Spells [] v.print v := by
  have denotes := denotes_print (rereads_self v back) []
  rw [List.append_nil] at denotes
  exact ⟨v.print, [], .nil, denotes, .nil⟩

theorem returns_int {n : Nat} (small : n < UInt64.size) :
    parse (Number.int n).print = .ok (.number (.int n)) :=
  have top : UInt64.size = 2 ^ 64 := rfl
  parse_int_print (by simp only [Number.Fits]; omega)

theorem whole_named {α ε : Type} {read : String → Except ε α} {message : ε → String} {s : String} {a : α}
    (named : read s = .ok a) : whole (Json.named read message) (Value.string s).print = .ok a := by
  have written := spells_print (v := .string s) nofun
  exact whole_of_reads ((reads_named_iff (.of_spells written)).2 ⟨s, rfl, named⟩) written

end Json

theorem ContentId.whole_json (id : ContentId) : whole reader id.json.print = .ok id :=
  Json.whole_named (mapError_eq_ok_iff.2 id.parse_text)

theorem Topic.whole_json (t : Topic) : whole reader t.json.print = .ok t :=
  Json.whole_named (namedByDigits.read_write t)

theorem PublicKey.whole_json (k : PublicKey) : whole reader k.json.print = .ok k :=
  Json.whole_named (namedByDigits.read_write k)

theorem KeyId.whole_json (id : KeyId) : whole reader id.json.print = .ok id :=
  Json.whole_named (namedByDigits.read_write id)

theorem Filter.whole_json (f : Filter) : whole reader f.json.print = .ok f := by
  have reads : Reads reader f.json f := by
    intro t u denotes behind s lead
    have text := Json.reads_text f.text t u denotes behind s lead
    simp [reader, text, bind, Except.bind, pure, Except.pure]
  exact Json.whole_of_reads reads (Json.spells_print nofun)

namespace Received

structure Within (r : Received) (ms : List (String × Value)) : Prop where
  payload : ∃ s, valuesOf "payload" ms = [.string s] ∧ ContentId.read s = .ok r.payload
  topic : ∃ s, valuesOf "topic" ms = [.string s] ∧ Topic.read s = .ok r.topic
  timestamp : Says Json.ofNat (valuesOf "timestamp" ms) r.timestamp
  small : ∀ n ∈ r.timestamp, n < UInt64.size
  hash : Says Value.string (valuesOf "hash" ms) r.hash

def names : List String := ["payload", "topic", "timestamp", "hash"]

def slots : List (Slot Draft) :=
  [⟨"payload", Draft.payload, fun d a => { d with payload := some a }, ContentId.reader, false⟩,
   ⟨"topic", Draft.topic, fun d a => { d with topic := some a }, Topic.reader, false⟩,
   ⟨"timestamp", Draft.timestamp, fun d a => { d with timestamp := some a },
    Json.optional (Json.natBelow "u64" UInt64.size), true⟩,
   ⟨"hash", Draft.hash, fun d a => { d with hash := some a }, Json.optional Json.text, true⟩]

theorem build_eq_ok_iff {d : Draft} {r : Received} : shape.build d = .ok r ↔
    d.payload = some r.payload ∧ d.topic = some r.topic ∧ d.timestamp.getD none = r.timestamp ∧
      d.hash.getD none = r.hash := by
  obtain ⟨payload, topic, timestamp, hash⟩ := d
  obtain ⟨payload', topic', timestamp', hash'⟩ := r
  cases payload <;> cases topic <;>
    simp [shape, Json.need, bind, Except.bind, pure, Except.pure]

theorem lawful_slots : Slot.Lawful slots where
  nodup := by simp [slots]
  get_set := by simp [slots]
  get_other := by simp [slots]
  ext d d' same := by
    cases d
    cases d'
    simpa [slots] using same

theorem hasSlots : shape.HasSlots slots where
  lawful := lawful_slots
  fields := rfl
  faithful := by
    simp only [slots, List.forall_mem_cons, List.not_mem_nil, false_implies, implies_true, and_true]
    exact ⟨Json.faithful_named _ _, Json.faithful_named _ _,
      Json.faithful_optional (Json.faithful_natBelow _ _), Json.faithful_optional Json.faithful_text⟩
  empty := by simp [slots, shape]
  needed d r built := by
    obtain ⟨payload, topic, _⟩ := build_eq_ok_iff.1 built
    simp [slots, payload, topic]

theorem builds_iff (ms : List (String × Value)) (written : ∀ m ∈ ms, Written m.2) (r : Received) :
    shape.Builds slots ms r ↔ r.Within ms := by
  constructor
  · rintro ⟨d, takes, built⟩
    obtain ⟨payload, topic, timestamp, hash⟩ := build_eq_ok_iff.1 built
    obtain ⟨time, small⟩ := Slot.told_of_takes Json.ofNat (takes _ (.tail _ (.tail _ (.head _))))
      rfl written (Json.faithful_natBelow _ _) fun v n there reads =>
        ((Json.reads_natBelow_iff there).1 reads).1
    obtain ⟨code, _⟩ := Slot.told_of_takes Value.string
      (takes _ (.tail _ (.tail _ (.tail _ (.head _))))) rfl written Json.faithful_text fun v s there =>
        (Json.reads_text_iff there).1
    rw [show d.timestamp.getD none = _ from timestamp] at time small
    rw [show d.hash.getD none = _ from hash] at code
    refine ⟨(Slot.takes_named_iff rfl payload written).1 (takes _ (.head _)),
      (Slot.takes_named_iff rfl topic written).1 (takes _ (.tail _ (.head _))), time, fun n mem => ?_, code⟩
    have alone : valuesOf "timestamp" ms = [Json.ofNat n] := by
      rwa [show r.timestamp = some n from mem] at time
    exact ((Json.reads_natBelow_iff (Json.written_of_alone written alone)).1 (small n mem)).2
  · rintro ⟨payload, topic, time, small, code⟩
    -- The draft knows a `null` from a member that is missing, the record does not.
    obtain ⟨timestamp, told, takes₃⟩ := Slot.exists_takes_optional "timestamp" Draft.timestamp
      (fun d a => { d with timestamp := some a }) (Json.natBelow "u64" UInt64.size) true time nofun
      (fun n mem => Json.reads_natBelow (small n mem)) (rfl : Draft.timestamp {} = none)
    obtain ⟨hash, told', takes₄⟩ := Slot.exists_takes_optional "hash" Draft.hash
      (fun d a => { d with hash := some a }) Json.text true code nofun
      (fun s _ => Json.reads_text s) (rfl : Draft.hash {} = none)
    refine ⟨⟨some r.payload, some r.topic, timestamp, hash⟩, ?_, build_eq_ok_iff.2 ⟨rfl, rfl, told, told'⟩⟩
    simp only [slots, List.forall_mem_cons, List.not_mem_nil, false_implies, implies_true, and_true]
    refine ⟨(Slot.takes_named_iff ?_ ?_ written).2 payload, (Slot.takes_named_iff ?_ ?_ written).2 topic,
      takes₃ _ rfl, takes₄ _ rfl⟩ <;> rfl

theorem readsRecords : ReadsRecords reader names ["timestamp", "hash"]
    [("payload", fun s => ∃ id, ContentId.read s = .ok id), ("topic", fun s => ∃ t, Topic.read s = .ok t)]
    Within := by
  refine .of_builds hasSlots builds_iff (fun r ms ns same within => ?_) fun r ms within check mem => ?_
  · obtain ⟨⟨s, here, named⟩, ⟨s', there, named'⟩, time, small, code⟩ := within
    exact ⟨⟨s, same.alone (by decide) (by decide) here, named⟩,
      ⟨s', same.alone (by decide) (by decide) there, named'⟩, same.told (by decide) nofun time, small,
      same.told (by decide) nofun code⟩
  · obtain ⟨⟨s, here, named⟩, ⟨s', there, named'⟩, _⟩ := within
    simp only [List.mem_cons, List.not_mem_nil, or_false] at mem
    obtain rfl | rfl := mem
    · exact ⟨s, here, _, named⟩
    · exact ⟨s', there, _, named'⟩

theorem within_json {r : Received} (small : ∀ n ∈ r.timestamp, n < UInt64.size) :
    ∃ ms, r.json = .object ms ∧ r.Within ms := by
  refine ⟨_, rfl, ⟨_, ?_, mapError_eq_ok_iff.2 r.payload.parse_text⟩,
    ⟨_, ?_, Topic.namedByDigits.read_write r.topic⟩, ?_, small, ?_⟩
  all_goals
    cases r.timestamp <;> cases r.hash <;> simp [valuesOf, Says, ContentId.json, Topic.json]

theorem whole_json {r : Received} (small : ∀ n ∈ r.timestamp, n < UInt64.size) :
    whole reader r.json.print = .ok r := by
  have numbers : ∀ n ∈ r.json.numbers, ∃ t ∈ r.timestamp, n = .int t := by
    obtain ⟨payload, topic, timestamp, hash⟩ := r
    cases timestamp <;> cases hash <;>
      simp [json, Value.numbers, Value.numbersMembers, ContentId.json, Topic.json, Json.ofNat]
  have spells : Spells [] r.json.print r.json := Json.spells_print fun n mem => by
    obtain ⟨t, told, rfl⟩ := numbers n mem
    exact Json.returns_int (small t told)
  obtain ⟨ms, same, within⟩ := within_json small
  rw [readsRecords.read_iff _ _ _ spells, same]
  exact ⟨ms, .object, within⟩

end Received

namespace Work

structure Within (w : Work) (ms : List (String × Value)) : Prop where
  target : ∃ n : Number, valuesOf "target" ms = [.number n] ∧ n.toFloat = w.target
  seconds : valuesOf "time_secs" ms = [Json.ofNat w.seconds.toNat]

def names : List String := ["target", "time_secs"]

def slots : List (Slot Draft) :=
  [⟨"target", Draft.target, fun d x => { d with target := some x }, Json.float, false⟩,
   ⟨"time_secs", Draft.seconds, fun d n => { d with seconds := some n },
    Json.natBelow "u32" UInt32.size, false⟩]

theorem build_eq_ok_iff {d : Draft} {w : Work} : shape.build d = .ok w ↔
    d.target = some w.target ∧ ∃ n, d.seconds = some n ∧ UInt32.ofNat n = w.seconds := by
  obtain ⟨target, seconds⟩ := d
  obtain ⟨target', seconds'⟩ := w
  cases target <;> cases seconds <;> simp [shape, Json.need, bind, Except.bind, pure, Except.pure]

theorem lawful_slots : Slot.Lawful slots where
  nodup := by simp [slots]
  get_set := by simp [slots]
  get_other := by simp [slots]
  ext d d' same := by
    cases d
    cases d'
    simpa [slots] using same

theorem hasSlots : shape.HasSlots slots where
  lawful := lawful_slots
  fields := rfl
  faithful := by
    simp only [slots, List.forall_mem_cons, List.not_mem_nil, false_implies, implies_true, and_true]
    exact ⟨Json.faithful_numberOf _ _, Json.faithful_natBelow _ _⟩
  empty := by simp [slots, shape]
  needed d w built := by
    obtain ⟨target, n, seconds, _⟩ := build_eq_ok_iff.1 built
    simp [slots, target, seconds]

theorem builds_iff (ms : List (String × Value)) (written : ∀ m ∈ ms, Written m.2) (w : Work) :
    shape.Builds slots ms w ↔ w.Within ms := by
  constructor
  · rintro ⟨d, takes, built⟩
    obtain ⟨target, n, seconds, same⟩ := build_eq_ok_iff.1 built
    obtain ⟨v, here, reads⟩ := (Slot.takes_iff rfl target).1 (takes _ (.head _))
    obtain ⟨v', there, reads'⟩ := (Slot.takes_iff rfl seconds).1 (takes _ (.tail _ (.head _)))
    obtain ⟨m, rfl, float⟩ := (Json.reads_float_iff (Json.written_of_alone written here)).1 reads
    obtain ⟨rfl, small⟩ := (Json.reads_natBelow_iff (Json.written_of_alone written there)).1 reads'
    refine ⟨⟨m, here, float⟩, ?_⟩
    rw [← same, UInt32.toNat_ofNat_of_lt' small]
    exact there
  · rintro ⟨⟨m, here, float⟩, there⟩
    refine ⟨⟨some w.target, some w.seconds.toNat⟩, ?_,
      build_eq_ok_iff.2 ⟨rfl, _, rfl, UInt32.ofNat_toNat⟩⟩
    simp only [slots, List.forall_mem_cons, List.not_mem_nil, false_implies, implies_true, and_true]
    refine ⟨(Slot.takes_iff rfl rfl).2 ⟨_, here, ?_⟩, (Slot.takes_iff rfl rfl).2 ⟨_, there, ?_⟩⟩
    · exact (Json.reads_float_iff (Json.written_of_alone written here)).2 ⟨m, rfl, float⟩
    · exact Json.reads_natBelow w.seconds.toNat_lt

end Work

namespace Announcement

/-- What the members of an announcement say; its work is a record of its own. -/
structure Within (a : Announcement) (ms : List (String × Value)) : Prop where
  payload : ∃ s, valuesOf "payload" ms = [.string s] ∧ ContentId.read s = .ok a.payload
  recipient : ∃ s, valuesOf "recipient_public_key" ms = [.string s] ∧ PublicKey.read s = .ok a.recipient
  topic : ∃ s, valuesOf "topic" ms = [.string s] ∧ Topic.read s = .ok a.topic
  work : ∃ v parts, valuesOf "work" ms = [v] ∧ Enumerates Work.names v parts ∧ a.work.Within parts

def names : List String := ["payload", "recipient_public_key", "topic", "work"]

def slots : List (Slot Draft) :=
  [⟨"payload", Draft.payload, fun d a => { d with payload := some a }, ContentId.reader, false⟩,
   ⟨"recipient_public_key", Draft.recipient, fun d a => { d with recipient := some a }, PublicKey.reader,
    false⟩,
   ⟨"topic", Draft.topic, fun d a => { d with topic := some a }, Topic.reader, false⟩,
   ⟨"work", Draft.work, fun d a => { d with work := some a }, Work.reader, false⟩]

theorem build_eq_ok_iff {d : Draft} {a : Announcement} : shape.build d = .ok a ↔
    d.payload = some a.payload ∧ d.recipient = some a.recipient ∧ d.topic = some a.topic ∧
      d.work = some a.work := by
  obtain ⟨payload, recipient, topic, work⟩ := d
  obtain ⟨payload', recipient', topic', work'⟩ := a
  cases payload <;> cases recipient <;> cases topic <;> cases work <;>
    simp [shape, Json.need, bind, Except.bind, pure, Except.pure]

theorem lawful_slots : Slot.Lawful slots where
  nodup := by simp [slots]
  get_set := by simp [slots]
  get_other := by simp [slots]
  ext d d' same := by
    cases d
    cases d'
    simpa [slots] using same

theorem hasSlots : shape.HasSlots slots where
  lawful := lawful_slots
  fields := rfl
  faithful := by
    simp only [slots, List.forall_mem_cons, List.not_mem_nil, false_implies, implies_true, and_true]
    exact ⟨Json.faithful_named _ _, Json.faithful_named _ _, Json.faithful_named _ _,
      Work.hasSlots.faithful_read⟩
  empty := by simp [slots, shape]
  needed d a built := by
    obtain ⟨payload, recipient, topic, work⟩ := build_eq_ok_iff.1 built
    simp [slots, payload, recipient, topic, work]

theorem builds_iff (ms : List (String × Value)) (written : ∀ m ∈ ms, Written m.2) (a : Announcement) :
    shape.Builds slots ms a ↔ a.Within ms := by
  constructor
  · rintro ⟨d, takes, built⟩
    obtain ⟨payload, recipient, topic, work⟩ := build_eq_ok_iff.1 built
    obtain ⟨v, here, reads⟩ := (Slot.takes_iff rfl work).1 (takes _ (.tail _ (.tail _ (.tail _ (.head _)))))
    have parts := (Work.hasSlots.reads_iff Work.builds_iff (Json.written_of_alone written here)).1 reads
    obtain ⟨parts, enumerated, within⟩ := parts
    exact ⟨(Slot.takes_named_iff rfl payload written).1 (takes _ (.head _)),
      (Slot.takes_named_iff rfl recipient written).1 (takes _ (.tail _ (.head _))),
      (Slot.takes_named_iff rfl topic written).1 (takes _ (.tail _ (.tail _ (.head _)))),
      ⟨v, parts, here, enumerated, within⟩⟩
  · rintro ⟨payload, recipient, topic, ⟨v, parts, here, enumerated, within⟩⟩
    have reads := (Work.hasSlots.reads_iff Work.builds_iff (Json.written_of_alone written here)).2
      ⟨parts, enumerated, within⟩
    refine ⟨⟨some a.payload, some a.recipient, some a.topic, some a.work⟩, ?_,
      build_eq_ok_iff.2 ⟨rfl, rfl, rfl, rfl⟩⟩
    simp only [slots, List.forall_mem_cons, List.not_mem_nil, false_implies, implies_true, and_true]
    refine ⟨(Slot.takes_named_iff ?_ ?_ written).2 payload, (Slot.takes_named_iff ?_ ?_ written).2 recipient,
      (Slot.takes_named_iff ?_ ?_ written).2 topic, (Slot.takes_iff rfl rfl).2 ⟨v, here, reads⟩⟩ <;> rfl

theorem readsRecords : ReadsRecords reader names []
    [("payload", fun s => ∃ id, ContentId.read s = .ok id),
      ("recipient_public_key", fun s => ∃ k, PublicKey.read s = .ok k),
      ("topic", fun s => ∃ t, Topic.read s = .ok t)] Within := by
  refine .of_builds hasSlots builds_iff (fun a ms ns same within => ?_) fun a ms within check mem => ?_
  · obtain ⟨⟨s₁, here₁, named₁⟩, ⟨s₂, here₂, named₂⟩, ⟨s₃, here₃, named₃⟩, ⟨v, parts, here₄, made⟩⟩ := within
    exact ⟨⟨s₁, same.alone (by decide) nofun here₁, named₁⟩, ⟨s₂, same.alone (by decide) nofun here₂, named₂⟩,
      ⟨s₃, same.alone (by decide) nofun here₃, named₃⟩, ⟨v, parts, same.alone (by decide) nofun here₄, made⟩⟩
  · obtain ⟨⟨s₁, here₁, named₁⟩, ⟨s₂, here₂, named₂⟩, ⟨s₃, here₃, named₃⟩, _⟩ := within
    simp only [List.mem_cons, List.not_mem_nil, or_false] at mem
    obtain rfl | rfl | rfl := mem
    · exact ⟨s₁, here₁, _, named₁⟩
    · exact ⟨s₂, here₂, _, named₂⟩
    · exact ⟨s₃, here₃, _, named₃⟩

theorem within_json (a : Announcement) : ∃ ms, a.json = .object ms ∧ a.Within ms := by
  refine ⟨_, rfl, ⟨_, ?_, mapError_eq_ok_iff.2 a.payload.parse_text⟩,
    ⟨_, ?_, PublicKey.namedByDigits.read_write a.recipient⟩, ⟨_, ?_, Topic.namedByDigits.read_write a.topic⟩,
    ⟨a.work.json, [("target", .number (.float a.work.target)), ("time_secs", Json.ofNat a.work.seconds.toNat)],
      ?_, .object, ⟨⟨.float a.work.target, ?_, rfl⟩, ?_⟩⟩⟩
  all_goals simp [valuesOf, ContentId.json, PublicKey.json, Topic.json, Work.json]

theorem whole_json {a : Announcement}
    (returns : parse (Number.float a.work.target).print = .ok (.number (.float a.work.target))) :
    whole reader a.json.print = .ok a := by
  have numbers : a.json.numbers = [.float a.work.target, .int a.work.seconds.toNat] := by
    simp [json, Value.numbers, Value.numbersMembers, ContentId.json, PublicKey.json, Topic.json, Work.json,
      Json.ofNat]
  have spells : Spells [] a.json.print a.json := Json.spells_print fun n mem => by
    simp only [numbers, List.mem_cons, List.not_mem_nil, or_false] at mem
    obtain rfl | rfl := mem
    · exact returns
    · exact Json.returns_int (Nat.lt_trans a.work.seconds.toNat_lt (by decide))
  obtain ⟨ms, same, within⟩ := within_json a
  rw [readsRecords.read_iff _ _ _ spells, same]
  exact ⟨ms, .object, within⟩

end Announcement

theorem json_forms :
    (∀ id : ContentId, whole ContentId.reader id.json.print = .ok id) ∧
    (∀ t : Topic, whole Topic.reader t.json.print = .ok t) ∧
    (∀ k : PublicKey, whole PublicKey.reader k.json.print = .ok k) ∧
    (∀ id : KeyId, whole KeyId.reader id.json.print = .ok id) ∧
    (∀ f : Filter, whole Filter.reader f.json.print = .ok f) ∧
    (∀ r : Received, (∀ n ∈ r.timestamp, n < UInt64.size) → whole Received.reader r.json.print = .ok r) ∧
    (∀ a : Announcement,
      parse (Number.float a.work.target).print = .ok (.number (.float a.work.target)) →
        whole Announcement.reader a.json.print = .ok a) ∧
    ReadsRecords Received.reader ["payload", "topic", "timestamp", "hash"] ["timestamp", "hash"]
      [("payload", fun s => ∃ id, ContentId.read s = .ok id), ("topic", fun s => ∃ t, Topic.read s = .ok t)]
      Received.Within ∧
    ReadsRecords Announcement.reader ["payload", "recipient_public_key", "topic", "work"] []
      [("payload", fun s => ∃ id, ContentId.read s = .ok id),
        ("recipient_public_key", fun s => ∃ k, PublicKey.read s = .ok k),
        ("topic", fun s => ∃ t, Topic.read s = .ok t)] Announcement.Within :=
  ⟨ContentId.whole_json, Topic.whole_json, PublicKey.whole_json, KeyId.whole_json, Filter.whole_json,
    fun _ => Received.whole_json, fun _ => Announcement.whole_json, Received.readsRecords,
    Announcement.readsRecords⟩

def sampleSent : Announcement where
  payload := ⟨"b2", by decide, by decide, by decide⟩
  recipient := ⟨List.replicate 33 3, .inl rfl⟩
  topic := ⟨[0x07, 0xD1, 0, 0xFF], rfl⟩
  work := .standard

def sampleHeard : Received where
  payload := sampleSent.payload
  topic := sampleSent.topic
  timestamp := some 18446744073709551615
  hash := none

theorem json_forms_reversed :
    whole Announcement.reader sampleSent.json.print = .ok sampleSent ∧
    ∃ ms, sampleHeard.json = .object ms ∧ whole Received.reader (Value.object
      (("hash", .null) :: (ms.reverse ++ [("more", .array [])]))).print = .ok sampleHeard := by
  obtain ⟨-, -, -, -, -, heard, sent, records, -⟩ := json_forms
  have returns : parse (Number.float 12.5).print = .ok (.number (.float 12.5)) := by decide +kernel
  have small : ∀ n ∈ sampleHeard.timestamp, n < UInt64.size := by decide
  refine ⟨sent sampleSent returns, _, rfl, ?_⟩
  have read := heard sampleHeard small
  refine (records.same _ _ _ _ _ (Json.spells_print ?_) (Json.spells_print ?_) ?_).1 read
  · decide +kernel
  · decide +kernel
  · have reversed := List.reverse_perm [("payload", sampleHeard.payload.json),
      ("topic", sampleHeard.topic.json), ("timestamp", Json.ofNat 18446744073709551615)]
    refine (SameMembers.of_perm reversed.symm).trans ((SameMembers.of_unknown ?_ _).trans
      (SameMembers.of_null ?_ ?_)) <;> decide +kernel

end Herald
