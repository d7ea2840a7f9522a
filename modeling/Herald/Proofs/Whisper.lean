import Herald.Channel.Whisper
import Herald.Proofs.Json.Numbers
import Herald.Proofs.Payloads

/-!
A Whisper client and its node agree on what an announcement looks like. A node that takes posts and
hands their strings back, in objects that may hold more, in any order and among messages that are no
announcements, gives the client back what it published.
-/
namespace Herald

open Http.Client (Pending)
open Json (Reader Shape Slot Value Spells Reads Rereads Says valuesOf)

theorem Json.RereadsMembers.valuesOf {ms ns : List (String × Value)} (rereads : Json.RereadsMembers ms ns)
    (name : String) : List.Forall₂ Rereads (valuesOf name ms) (valuesOf name ns) := by
  induction ms generalizing ns with
  | nil =>
    cases rereads
    exact .nil
  | cons m ms ih =>
    cases rereads with
    | cons first others =>
      rw [Json.valuesOf, Json.valuesOf]
      split
      · exact .cons first (ih others)
      · exact ih others

namespace Whisper

inductive Ask where
  | filter (topic : Topic) (id : KeyId)
  | publish (a : Announcement)
  | poll (f : Filter)

inductive Verdict where
  | created (result : Except Failure Filter)
  | published (result : Except Failure Unit)
  | polled (result : Except Failure (List Received))

def serve (node : Whisper) : Ask → Pending Verdict × Whisper
  | .filter topic id => ((node.createFilter topic id).1.map .created, (node.createFilter topic id).2)
  | .publish a => ((node.publish a).1.map .published, (node.publish a).2)
  | .poll f => ((node.poll f).1.map .polled, (node.poll f).2)

/-- What was asked for, the call that the client made, the reply and what the client made of it. -/
structure Exchange where
  ask : Ask
  call : Http.Call
  reply : Http.Reply
  verdict : Verdict

/-- One operation after the other, with a node that replies to each call from a state of its own. -/
def converse {σ : Type} (respond : σ → Http.Call → Http.Reply × σ) (node : Whisper) (s : σ) :
    List Ask → List Exchange
  | [] => []
  | ask :: asks =>
    let asked := (node.serve ask).1
    let answer := respond s asked.call
    ⟨ask, asked.call, answer.1, asked.conclude answer.1⟩ ::
      converse respond (node.serve ask).2 answer.2 asks

theorem exists_of_mem_converse {σ : Type} {respond : σ → Http.Call → Http.Reply × σ} {asks : List Ask}
    {e : Exchange} : ∀ {node : Whisper} {s : σ}, e ∈ node.converse respond s asks →
      ∃ node : Whisper, e.call = (node.serve e.ask).1.call ∧
        e.verdict = (node.serve e.ask).1.conclude e.reply := by
  induction asks with
  | nil =>
    intro node s mem
    cases mem
  | cons ask asks ih =>
    intro node s mem
    obtain rfl | mem := List.mem_cons.1 mem
    · exact ⟨node, rfl, rfl⟩
    · exact ih mem

def envelopeSlots {α : Type} (result : Reader α) : List (Slot (Envelope.Draft α)) :=
  [⟨"result", Envelope.Draft.result, fun d a => { d with result := some a }, Json.optional result, false⟩,
   ⟨"error", Envelope.Draft.error, fun d e => { d with error := some e },
    Json.optional complaint.read, true⟩]

theorem lawful_envelopeSlots {α : Type} (result : Reader α) : Slot.Lawful (envelopeSlots result) where
  nodup := by simp [envelopeSlots]
  get_set := by simp [envelopeSlots]
  get_other := by simp [envelopeSlots]
  ext d d' same := by
    cases d
    cases d'
    simpa [envelopeSlots] using same

/-- A result in an envelope without an error. -/
structure Encloses (members : List (String × Value)) (result : Value) : Prop where
  result : valuesOf "result" members = [result]
  error : valuesOf "error" members = [] ∨ valuesOf "error" members = [.null]

theorem reads_envelope {α : Type} {result : Reader α} {members : List (String × Value)} {v : Value}
    {a : α} (encloses : Encloses members v) (solid : v ≠ .null) (reads : Reads result v a) :
    Reads (envelope result).read (.object members) ⟨some a, none⟩ := by
  have takes : ∃ held : Option (Option Complaint), held.getD none = none ∧
      ∀ p ∈ envelopeSlots result, p.Takes {} members ⟨some (some a), held⟩ := by
    -- Nothing is told of complaints, so their form does not matter.
    have told : Says (fun c : Complaint => .string c.message) (valuesOf "error" members) none :=
      encloses.error
    obtain ⟨held, none, error⟩ := Slot.exists_takes_optional "error" Envelope.Draft.error
      (fun (d : Envelope.Draft α) e => { d with error := some e }) complaint.read true told nofun nofun
      (rfl : Envelope.Draft.error {} = none)
    refine ⟨held, none, ?_⟩
    intro p mem
    simp only [envelopeSlots, List.mem_cons, List.not_mem_nil, or_false] at mem
    obtain rfl | rfl := mem
    · exact .inr ⟨v, some a, encloses.result, rfl, Json.reads_optional solid reads, rfl⟩
    · exact error _ rfl
  obtain ⟨held, none, takes⟩ := takes
  refine Shape.reads_object ((lawful_envelopeSlots result).fills rfl takes) ?_
  simp [envelope, none]

/-- A reply that gets through and brings a result: an envelope, other members in it or not. -/
def Gives (call : Http.Call) (reply : Http.Reply) (result : Value) : Prop :=
  ∃ status body members, Http.Client.send call reply = .ok ⟨status, some body⟩ ∧
    Http.Status.isSuccess status = true ∧ Spells [] body (.object members) ∧ Encloses members result

theorem perform_of_gives {α : Type} {node : Whisper} {r : Request} {result : Reader α}
    {reply : Http.Reply} {v : Value} {a : α} (gives : Gives (node.perform r result).1.call reply v)
    (solid : v ≠ .null) (reads : Reads result v a) : (node.perform r result).1.conclude reply = .ok a := by
  obtain ⟨status, body, members, sent, success, spells, encloses⟩ := gives
  have read := Json.whole_of_reads (reads_envelope encloses solid reads) spells
  have sent : Http.Client.send (node.call r) reply = .ok ⟨status, some body⟩ := sent
  simp [perform, sent, conclude, Http.Client.Answer.isSuccess, success, read]

theorem publish_of_gives (node : Whisper) {a : Announcement} {reply : Http.Reply}
    (gives : Gives (node.publish a).1.call reply (.bool true)) :
    (node.publish a).1.conclude reply = .ok () := by
  have flat : (Value.bool true).depth ≤ Json.maxDepth - 1 := Nat.zero_le _
  have performed := perform_of_gives gives (by simp) (Json.reads_value flat)
  exact congrArg (Except.bind · accept) performed

def Calls (request : Value) (method : String) (argument : Value) : Prop :=
  ∃ members, request = .object members ∧ valuesOf "method" members = [.string method] ∧
    valuesOf "params" members = [.array [argument]]

def Posts (request : Value) (payload topic : String) : Prop :=
  ∃ post, Calls request "shh_post" (.object post) ∧
    valuesOf "payload" post = [.string payload] ∧ valuesOf "topic" post = [.string topic]

theorem exists_of_forall₂_singleton {v : Value} {ws : List Value}
    (reads : List.Forall₂ Rereads [v] ws) : ∃ w, ws = [w] ∧ Rereads v w := by
  obtain ⟨w, rest, first, none, rfl⟩ := List.forall₂_cons_left_iff.1 reads
  cases none
  exact ⟨w, rfl, first⟩

theorem calls_of_spells {node : Whisper} {r : Request} {argument : Value} {text : List UInt8}
    {request : Value} (content : (node.call r).content = .json text) (one : r.params = [argument])
    (spells : Spells [] text request) :
    ∃ read, Calls request r.method read ∧ Rereads argument read := by
  cases content
  rw [one] at spells
  cases Json.rereads_of_spells spells with
  | @object _ members reads =>
    obtain ⟨_, method, name⟩ := exists_of_forall₂_singleton (reads.valuesOf "method")
    obtain ⟨_, params, reads⟩ := exists_of_forall₂_singleton (reads.valuesOf "params")
    cases name
    cases reads with
    | array items =>
      cases items with
      | cons back none =>
        cases none
        exact ⟨_, ⟨members, rfl, method, params⟩, back⟩

theorem posts_of_spells (node : Whisper) {a : Announcement} {text : List UInt8} {request : Value}
    (content : (node.publish a).1.call.content = .json text) (spells : Spells [] text request) :
    Posts request a.payload.payload a.topic.hex := by
  obtain ⟨_, calls, back⟩ := calls_of_spells (r := node.postRequest a) content rfl spells
  cases back with
  | @object _ post fields =>
    obtain ⟨_, payload, reads⟩ := exists_of_forall₂_singleton (fields.valuesOf "payload")
    obtain ⟨_, topic, reads'⟩ := exists_of_forall₂_singleton (fields.valuesOf "topic")
    cases reads
    cases reads'
    exact ⟨post, calls, payload, topic⟩

theorem polls_of_spells (node : Whisper) {f : Filter} {text : List UInt8} {request : Value}
    (content : (node.poll f).1.call.content = .json text) (spells : Spells [] text request) :
    Calls request "shh_getFilterMessages" (.string f.text) := by
  obtain ⟨_, calls, back⟩ := calls_of_spells (r := pollRequest f) content rfl spells
  cases back
  exact calls

def messageSlots : List (Slot Message.Draft) :=
  [⟨"payload", Message.Draft.payload, fun d s => { d with payload := some s }, Json.text, false⟩,
   ⟨"topic", Message.Draft.topic, fun d s => { d with topic := some s }, Json.text, false⟩,
   ⟨"timestamp", Message.Draft.timestamp, fun d n => { d with timestamp := some n },
    Json.optional (Json.natBelow "u64" UInt64.size), true⟩,
   ⟨"hash", Message.Draft.hash, fun d s => { d with hash := some s }, Json.optional Json.text, true⟩]

theorem lawful_messageSlots : Slot.Lawful messageSlots where
  nodup := by simp [messageSlots]
  get_set := by simp [messageSlots]
  get_other := by simp [messageSlots]
  ext d d' same := by
    cases d
    cases d'
    simpa [messageSlots] using same

/-- The fields of a message among the members of an object, in any order. -/
structure Message.Within (m : Message) (members : List (String × Value)) : Prop where
  payload : valuesOf "payload" members = [.string m.payload]
  topic : valuesOf "topic" members = [.string m.topic]
  timestamp : Says (fun n : Nat => .number (.int n)) (valuesOf "timestamp" members) m.timestamp
  hash : Says Value.string (valuesOf "hash" members) m.hash
  small : ∀ n ∈ m.timestamp, n < UInt64.size

theorem reads_message {m : Message} {members : List (String × Value)} (within : m.Within members) :
    Reads message.read (.object members) m := by
  obtain ⟨time, told, timestamp⟩ := Slot.exists_takes_optional "timestamp" Message.Draft.timestamp
    (fun d n => { d with timestamp := some n }) (Json.natBelow "u64" UInt64.size) true within.timestamp
    nofun (fun n mem => Json.reads_natBelow (within.small n mem)) (rfl : Message.Draft.timestamp {} = none)
  obtain ⟨code, coded, hash⟩ := Slot.exists_takes_optional "hash" Message.Draft.hash
    (fun d s => { d with hash := some s }) Json.text true within.hash nofun
    (fun s _ => Json.reads_text s) (rfl : Message.Draft.hash {} = none)
  have takes : ∀ p ∈ messageSlots, p.Takes {} members ⟨some m.payload, some m.topic, time, code⟩ := by
    intro p mem
    simp only [messageSlots, List.mem_cons, List.not_mem_nil, or_false] at mem
    obtain rfl | rfl | rfl | rfl := mem
    · exact .inr ⟨_, _, within.payload, rfl, Json.reads_text _, rfl⟩
    · exact .inr ⟨_, _, within.topic, rfl, Json.reads_text _, rfl⟩
    · exact timestamp _ rfl
    · exact hash _ rfl
  refine Shape.reads_object (lawful_messageSlots.fills rfl takes) ?_
  simp [message, Json.need, told, coded, bind, Except.bind, pure, Except.pure]

/-- An object with the strings of an announcement posted before, and what the node tells of it. -/
inductive Shows (before : List Exchange) : Value → Received → Prop
  | mk {members : List (String × Value)} {e : Exchange} {a : Announcement} {timestamp : Option Nat}
      {hash : Option String} : e ∈ before → e.ask = .publish a →
      Message.Within ⟨a.payload.payload, a.topic.hex, timestamp, hash⟩ members →
      Shows before (.object members) ⟨a.payload, a.topic, timestamp, hash⟩

/-- A message that is no announcement: its payload names nothing, or its topic is none. -/
inductive IsJunk : Value → Prop
  | payload {members : List (String × Value)} {m : Message} : m.Within members →
      (∀ id, ContentId.readPayload m.payload ≠ .ok id) → IsJunk (.object members)
  | topic {members : List (String × Value)} {m : Message} : m.Within members →
      ¬ Topic.IsFourBytes m.topic → IsJunk (.object members)

/-- The second list is the first with junk inserted anywhere. -/
inductive Padded : List Value → List Value → Prop
  | nil : Padded [] []
  | keep {item : Value} {items padded : List Value} : Padded items padded →
      Padded (item :: items) (item :: padded)
  | insert {item : Value} {items padded : List Value} : IsJunk item → Padded items padded →
      Padded items (item :: padded)

theorem received?_of_shows {before : List Exchange} {item : Value} {r : Received}
    (shown : Shows before item r) : ∃ m : Message, Reads message.read item m ∧ m.received? = some r := by
  cases shown with
  | @mk members e a timestamp hash _ _ within =>
    refine ⟨_, reads_message within, ?_⟩
    rw [Message.received?, ContentId.readPayload_payload, Topic.read_hex]

theorem received?_of_isJunk {item : Value} (junk : IsJunk item) :
    ∃ m : Message, Reads message.read item m ∧ m.received? = none := by
  cases junk with
  | @payload members m within unnamed =>
    refine ⟨m, reads_message within, ?_⟩
    unfold Message.received?
    split
    · next named _ => exact absurd named (unnamed _)
    · rfl
  | @topic members m within none =>
    refine ⟨m, reads_message within, ?_⟩
    unfold Message.received?
    split
    · next named => exact absurd (Topic.exists_read_iff.1 ⟨_, named⟩) none
    · rfl

theorem messages_of_padded {before : List Exchange} {items padded : List Value}
    (pad : Padded items padded) : ∀ {rs : List Received},
    List.Forall₂ (Shows before) items rs → ∃ ms : List Message,
      List.Forall₂ (Reads message.read) padded ms ∧ ms.filterMap Message.received? = rs := by
  induction pad with
  | nil =>
    intro rs shown
    cases shown
    exact ⟨[], .nil, rfl⟩
  | keep _ ih =>
    intro rs shown
    cases shown with
    | cons head tail =>
      obtain ⟨m, reads, received⟩ := received?_of_shows head
      obtain ⟨ms, others, rest⟩ := ih tail
      exact ⟨m :: ms, .cons reads others, by rw [List.filterMap_cons_some received, rest]⟩
  | insert junk _ ih =>
    intro rs shown
    obtain ⟨m, reads, received⟩ := received?_of_isJunk junk
    obtain ⟨ms, others, rest⟩ := ih shown
    exact ⟨m :: ms, .cons reads others, by rw [List.filterMap_cons_none received, rest]⟩

theorem poll_of_gives (node : Whisper) {f : Filter} {reply : Http.Reply} {items : List Value}
    {ms : List Message} (gives : Gives (node.poll f).1.call reply (.array items))
    (reads : List.Forall₂ (Reads message.read) items ms) :
    (node.poll f).1.conclude reply = .ok (ms.filterMap Message.received?) := by
  have performed := perform_of_gives gives (by simp) (Json.reads_listOf reads)
  exact congrArg (Except.map (·.filterMap Message.received?)) performed

/-- A node that reads a post finds the written forms of payload and topic in it; and if it takes the post,
the announcement is published. A list that shows announcements as they were posted, all or some of them
and in any order, is received as just those, with what the node tells of each; junk anywhere in the list
makes no difference. -/
theorem converse_agrees {σ : Type} {respond : σ → Http.Call → Http.Reply × σ} {node : Whisper} {s : σ}
    {asks : List Ask} {before behind : List Exchange} {e : Exchange}
    (ran : node.converse respond s asks = before ++ e :: behind) :
    (∀ a, e.ask = .publish a →
      (∃ text, e.call.content = .json text ∧
        ∀ request, Spells [] text request → Posts request a.payload.payload a.topic.hex) ∧
      (Gives e.call e.reply (.bool true) → e.verdict = .published (.ok ()))) ∧
    ∀ f, e.ask = .poll f →
      (∃ text, e.call.content = .json text ∧
        ∀ request, Spells [] text request → Calls request "shh_getFilterMessages" (.string f.text)) ∧
      ∀ items padded rs, List.Forall₂ (Shows before) items rs → Padded items padded →
        Gives e.call e.reply (.array padded) → e.verdict = .polled (.ok rs) := by
  have mem : e ∈ node.converse respond s asks := by
    rw [ran]
    simp
  obtain ⟨asked, call, verdict⟩ := exists_of_mem_converse mem
  constructor
  · intro a ask
    rw [ask] at call verdict
    rw [call, verdict]
    refine ⟨⟨_, rfl, fun _ => asked.posts_of_spells rfl⟩, fun gives => ?_⟩
    exact congrArg Verdict.published (asked.publish_of_gives gives)
  · intro f ask
    rw [ask] at call verdict
    rw [call, verdict]
    refine ⟨⟨_, rfl, fun _ => asked.polls_of_spells rfl⟩, ?_⟩
    intro items padded rs shown pad gives
    obtain ⟨ms, reads, received⟩ := messages_of_padded pad shown
    have polled := asked.poll_of_gives gives reads
    rw [received] at polled
    exact congrArg Verdict.polled polled

def posted? (call : Http.Call) : Option (List (String × Value)) :=
  match call.content with
  | .json text =>
    match (Json.parse text).toOption.bind (·.member? "params") with
    | some (.array [.object post]) => some post
    | _ => none
  | _ => none

def mirrored (post : List (String × Value)) : Value :=
  .object (("timestamp", Json.ofNat 1700000000) :: post)

def unreadable : List (String × Value) :=
  [("topic", .string "0xcafebabe"), ("payload", .string "0xnothex")]

def answered (result : Value) : Http.Reply :=
  .whole 200 (Value.object [("id", .null), ("result", result)]).print

/-- Takes every post, and shows all of them to every other call, behind a message that is none. -/
def mirror (posts : List (List (String × Value))) (call : Http.Call) :
    Http.Reply × List (List (String × Value)) :=
  match posted? call with
  | some post => (answered (.bool true), posts ++ [post])
  | none => (answered (.array (.object unreadable :: posts.map mirrored)), posts)

def localNode : Whisper :=
  ⟨⟨"http", some ⟨"", none, some (.name "localhost"), some 8545⟩, .segments [""], none, none⟩, 60, 1⟩

def notice (text : ContentId) : Announcement where
  payload := text
  recipient := ⟨List.replicate 65 4, .inr List.length_replicate⟩
  topic := ⟨[0xCA, 0xFE, 0xBA, 0xBE], rfl⟩
  work := .standard

def fewAsks : List Ask :=
  [.publish (notice oneId), .publish (notice twoId), .poll ⟨"1"⟩]

theorem gives_answered {call : Http.Call} {v : Value}
    (sendable : Http.Client.isSendable (Http.Client.withoutCredentials call.url) = true)
    (back : ∀ n ∈ v.numbers, Json.parse n.print = .ok (.number n)) : Gives call (answered v) v := by
  have reads : Rereads (Value.object [("id", .null), ("result", v)])
      (.object [("id", .null), ("result", v)]) :=
    .object (.cons .null (.cons (Json.rereads_self v back) .nil))
  have denotes := Json.denotes_print reads []
  rw [List.append_nil] at denotes
  refine ⟨200, _, _, ?_, rfl, ⟨_, [], .nil, denotes, .nil⟩, rfl, .inl rfl⟩
  simp [Http.Client.send, sendable, answered]

def kept (a : Announcement) : List (String × Value) :=
  [("payload", .string a.payload.payload), ("powTarget", .number (.float 12.5)),
    ("powTime", Json.ofNat 10), ("pubKey", a.recipient.json), ("topic", a.topic.json),
    ("ttl", Json.ofNat 60)]

theorem shows_kept {before : List Exchange} {e : Exchange} {a : Announcement} (mem : e ∈ before)
    (ask : e.ask = .publish a) :
    Shows before (mirrored (kept a)) ⟨a.payload, a.topic, some 1700000000, none⟩ := by
  refine .mk mem ask ⟨rfl, rfl, rfl, .inl rfl, ?_⟩
  intro n stated
  cases stated
  decide

theorem isJunk_unreadable : IsJunk (.object unreadable) := by
  have within : Message.Within ⟨"0xnothex", "0xcafebabe", none, none⟩ unreadable :=
    ⟨rfl, rfl, .inl rfl, .inl rfl, nofun⟩
  refine .payload within fun id read => ?_
  have refused : (ContentId.readPayload "0xnothex").toOption = none := by decide +kernel
  rw [read] at refused
  contradiction

theorem converse_agrees_mirror : ∃ e₁ e₂ e,
    connect (fun _ => .ok ()) "http://localhost:8545" 60 5 = .ok localNode ∧
    localNode.converse mirror [] fewAsks = [e₁, e₂, e] ∧
    e₁.verdict = .published (.ok ()) ∧ e₂.verdict = .published (.ok ()) ∧
    e.verdict = .polled (.ok [⟨oneId, (notice oneId).topic, some 1700000000, none⟩,
      ⟨twoId, (notice twoId).topic, some 1700000000, none⟩]) := by
  have connected : connect (fun _ => .ok ()) "http://localhost:8545" 60 5 = .ok localNode := by
    decide +kernel
  have first : mirror [] (localNode.serve (.publish (notice oneId))).1.call =
      (answered (.bool true), [kept (notice oneId)]) := by decide +kernel
  have second : mirror [kept (notice oneId)]
      ((localNode.serve (.publish (notice oneId))).2.serve (.publish (notice twoId))).1.call =
      (answered (.bool true), [kept (notice oneId), kept (notice twoId)]) := by decide +kernel
  have third : mirror [kept (notice oneId), kept (notice twoId)]
      (((localNode.serve (.publish (notice oneId))).2.serve (.publish (notice twoId))).2.serve
        (.poll ⟨"1"⟩)).1.call =
      (answered (.array [.object unreadable, mirrored (kept (notice oneId)),
        mirrored (kept (notice twoId))]), [kept (notice oneId), kept (notice twoId)]) := by
    decide +kernel
  obtain ⟨c₁, c₂, c, v₁, v₂, v, ran, web⟩ : ∃ c₁ c₂ c v₁ v₂ v, localNode.converse mirror [] fewAsks =
      [⟨.publish (notice oneId), c₁, answered (.bool true), v₁⟩,
        ⟨.publish (notice twoId), c₂, answered (.bool true), v₂⟩,
        ⟨.poll ⟨"1"⟩, c, answered (.array [.object unreadable, mirrored (kept (notice oneId)),
          mirrored (kept (notice twoId))]), v⟩] ∧
      ∀ call ∈ [c₁, c₂, c], call.url = localNode.endpoint := by
    simp only [fewAsks, converse, first, second, third]
    exact ⟨_, _, _, _, _, _, rfl, by simp [serve, Pending.map, publish, poll, perform, call]⟩
  have sendable {call : Http.Call} (mem : call ∈ [c₁, c₂, c]) :
      Http.Client.isSendable (Http.Client.withoutCredentials call.url) = true := by
    rw [web call mem]
    rfl
  refine ⟨_, _, _, connected, ran, ?_, ?_, ?_⟩
  · exact ((@converse_agrees _ mirror localNode [] fewAsks [] _ _ ran).1 _ rfl).2
      (gives_answered (sendable (by simp)) nofun)
  · exact ((@converse_agrees _ mirror localNode [] fewAsks [_] _ _ ran).1 _ rfl).2
      (gives_answered (sendable (by simp)) nofun)
  · refine ((@converse_agrees _ mirror localNode [] fewAsks [_, _] _ _ ran).2 _ rfl).2 _ _ _
      (.cons (shows_kept (.head _) rfl) (.cons (shows_kept (.tail _ (.head _)) rfl) .nil))
      (.insert isJunk_unreadable (.keep (.keep .nil))) (gives_answered (sendable (by simp)) ?_)
    decide +kernel

end Whisper

end Herald
