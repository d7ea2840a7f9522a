import Herald.Proofs.Json.Makes
import Herald.Proofs.Replies
import Herald.Proofs.Whisper

/-!
What a Whisper client makes of the replies to its calls. Whatever a call comes to that is no success is a
failure of the channel. A success is a whole envelope without an error around a result of the form that was
asked for, and the result of a post must not say no. Calls are numbered from one, in the order in which
they are made, whatever becomes of them.
-/
namespace Herald.Whisper

open Http (Reply)
open Http.Client (Answer heard?)
open Json (Faithful Reader Reads Slot Spells Value Written valuesOf)

variable {α : Type}

/-- The envelope, as a value: an object with the result and without an error, or a list of the same. -/
inductive Carries : Value → Value → Prop
  | object {members : List (String × Value)} {v : Value} : Encloses members v → Carries (.object members) v
  | alone {v : Value} : Carries (.array [v]) v
  | list {v : Value} : Carries (.array [v, .null]) v

theorem Carries.written {w v : Value} (carries : Carries w v) (written : Written w) : Written v := by
  cases carries with
  | object encloses => exact written.valuesOf encloses.result
  | alone => exact written.item v (.head _)
  | list => exact written.item v (.head _)

def complaintSlots : List (Slot Complaint.Draft) :=
  [⟨"code", Complaint.Draft.code, fun d n => { d with code := some n },
    Json.intBetween "i64" (-0x8000000000000000) 0x7FFFFFFFFFFFFFFF, false⟩,
   ⟨"message", Complaint.Draft.message, fun d s => { d with message := some s }, Json.text, false⟩]

theorem faithful_complaint : Faithful complaint.read := by
  have fields : complaint.fields = complaintSlots.map Slot.field := rfl
  refine Json.Shape.faithful_read (Slot.faithful_fields fields ?_)
  intro p mem
  simp only [complaintSlots, List.mem_cons, List.not_mem_nil, or_false] at mem
  obtain rfl | rfl := mem
  · exact Json.faithful_intBetween _ _ _
  · exact Json.faithful_text

def resultSlot (result : Reader α) : Slot (Envelope.Draft α) :=
  ⟨"result", Envelope.Draft.result, fun d a => { d with result := some a }, Json.optional result, false⟩

def errorSlot : Slot (Envelope.Draft α) :=
  ⟨"error", Envelope.Draft.error, fun d e => { d with error := some e },
    Json.optional complaint.read, true⟩

theorem faithful_envelopeSlots {result : Reader α} (faithful : Faithful result) :
    ∀ p ∈ envelopeSlots result, Faithful p.read := by
  intro p mem
  simp only [envelopeSlots, List.mem_cons, List.not_mem_nil, or_false] at mem
  obtain rfl | rfl := mem
  · exact Json.faithful_optional faithful
  · exact Json.faithful_optional faithful_complaint

theorem faithful_envelope {result : Reader α} (faithful : Faithful result) :
    Faithful (envelope result).read :=
  Json.Shape.faithful_read (Slot.faithful_fields rfl (faithful_envelopeSlots faithful))

theorem encloses_of_fills {result : Reader α} (faithful : Faithful result)
    {members : List (String × Value)} (written : Written (.object members)) {d : Envelope.Draft α} {a : α}
    (fills : (envelope result).Fills {} members d) (held : d.result = some (some a))
    (silent : d.error.getD none = none) :
    ∃ v, Encloses members v ∧ v ≠ .null ∧ Reads result v a := by
  have takes := (lawful_envelopeSlots result).takes rfl (faithful_envelopeSlots faithful) fills written.member
  have result := takes _ (.head _)
  have error := takes _ (.tail _ (.head _))
  obtain ⟨_, same⟩ | ⟨v, o, alone, _, reads, holds⟩ := result
  · have same : d.result = none := same
    rw [held] at same
    contradiction
  · have holds : d.result = some o := holds
    rw [held] at holds
    cases holds
    obtain ⟨solid, reads⟩ := Json.reads_of_optional faithful (written.valuesOf alone) reads
    refine ⟨v, ⟨alone, ?_⟩, solid, reads⟩
    obtain ⟨absent, _⟩ | ⟨w, o, alone, _, reads, holds⟩ := error
    · exact .inl absent
    · have holds : d.error = some o := holds
      rw [holds] at silent
      cases silent
      have null := Json.null_of_optional (written.valuesOf alone) reads
      rw [null] at alone
      exact .inr alone

theorem carries_of_fillsInOrder {result : Reader α} (faithful : Faithful result) {vs : List Value}
    (written : Written (.array vs)) {d : Envelope.Draft α} {a : α}
    (fills : Json.Shape.FillsInOrder (envelope result).fields {} vs d) (held : d.result = some (some a))
    (silent : d.error.getD none = none) :
    ∃ v, Carries (.array vs) v ∧ v ≠ .null ∧ Reads result v a := by
  have item := written.item
  cases fills with
  | done mayLack =>
    have needed : (resultSlot result).field.mayLack = true := mayLack _ (.head _)
    contradiction
  | @cons _ _ _ _ _ v _ first rest =>
    have solid := item v (.head _)
    obtain ⟨o, reads, rfl⟩ := Slot.exists_reads_of_fill (p := resultSlot result)
      (Json.faithful_optional faithful) solid first
    cases rest with
    | done =>
      cases held
      obtain ⟨other, reads⟩ := Json.reads_of_optional faithful solid reads
      exact ⟨v, .alone, other, reads⟩
    | @cons _ _ _ _ _ w _ second rest =>
      have last := item w (.tail _ (.head _))
      obtain ⟨e, told, rfl⟩ := Slot.exists_reads_of_fill (p := errorSlot)
        (Json.faithful_optional faithful_complaint) last second
      cases rest with
      | done =>
        cases held
        cases silent
        obtain ⟨other, reads⟩ := Json.reads_of_optional faithful solid reads
        cases Json.null_of_optional last told
        exact ⟨v, .list, other, reads⟩

theorem reads_envelope_iff {result : Reader α} (faithful : Faithful result) {w : Value}
    (written : Written w) {a : α} :
    Reads (envelope result).read w ⟨some a, none⟩ ↔ ∃ v, Carries w v ∧ v ≠ .null ∧ Reads result v a := by
  constructor
  · intro reads
    have fields := Slot.faithful_fields (s := envelope result) rfl (faithful_envelopeSlots faithful)
    have built : ∀ d : Envelope.Draft α, (envelope result).build d = .ok ⟨some a, none⟩ →
        d.result = some (some a) ∧ d.error.getD none = none := by
      rintro ⟨held, silent⟩ built
      simp only [envelope, Except.ok.injEq, Envelope.mk.injEq] at built
      cases held with
      | none => cases built.1
      | some o => exact ⟨congrArg some built.1, built.2⟩
    cases Json.Shape.makes_of_reads fields written reads with
    | object fills made =>
      obtain ⟨held, silent⟩ := built _ made
      obtain ⟨v, encloses, rest⟩ := encloses_of_fills faithful written fills held silent
      exact ⟨v, .object encloses, rest⟩
    | list fills made =>
      obtain ⟨held, silent⟩ := built _ made
      exact carries_of_fillsInOrder faithful written fills held silent
  · rintro ⟨v, carries, solid, reads⟩
    have first := Slot.reads_fill (p := resultSlot result) (Json.reads_optional solid reads) {}
    have second := Slot.reads_fill (p := errorSlot) (Json.reads_optional_null complaint.read)
      (⟨some (some a), none⟩ : Envelope.Draft α)
    cases carries with
    | object encloses => exact reads_envelope encloses solid reads
    | alone => exact Json.Shape.reads_of_makes (.list (.cons first (.done (by simp [Json.Field.of]))) rfl)
    | list => exact Json.Shape.reads_of_makes (.list (.cons first (.cons second (.done (by simp)))) rfl)

/-- A success whose whole body is an envelope without an error, and what stands in it is taken for `a`. -/
def Accepts (result : Reader α) (heard : Option Answer) (a : α) : Prop :=
  ∃ status body, heard = some ⟨status, some body⟩ ∧ Http.Status.isSuccess status = true ∧
    Json.whole (envelope result).read body = .ok ⟨some a, none⟩

theorem conclude_cases (method : String) (result : Reader α) (answer : Answer) :
    (∃ a, conclude method result answer = .ok a ∧ Accepts result (some answer) a) ∨
      Failed .channelUnavailable (conclude method result answer) ∧
        ∀ a, ¬ Accepts result (some answer) a := by
  obtain ⟨status, body⟩ := answer
  unfold conclude
  split
  · next success =>
    cases body with
    | none => exact .inr ⟨⟨_, rfl, rfl⟩, by rintro a ⟨_, _, ⟨⟩, _⟩⟩
    | some body =>
      rw [Option.map_some]
      by_cases read : ∃ a, Json.whole (envelope result).read body = .ok ⟨some a, none⟩
      · obtain ⟨a, read⟩ := read
        rw [read]
        exact .inl ⟨a, rfl, status, body, rfl, success, read⟩
      · refine .inr ⟨?_, ?_⟩
        · split
          · exact ⟨_, rfl, rfl⟩
          · next a filled => exact absurd ⟨a, Option.some.inj filled⟩ read
          · exact ⟨_, rfl, rfl⟩
          · exact ⟨_, rfl, rfl⟩
        · rintro a ⟨_, _, ⟨⟩, _, accepted⟩
          exact read ⟨a, accepted⟩
  · next failed =>
    refine .inr ⟨⟨_, rfl, rfl⟩, ?_⟩
    rintro a ⟨_, _, ⟨⟩, success, _⟩
    exact failed success

theorem Accepts.unique {result : Reader α} {heard : Option Answer} {a b : α}
    (first : Accepts result heard a) (second : Accepts result heard b) : a = b := by
  obtain ⟨_, _, rfl, _, read⟩ := first
  obtain ⟨_, _, ⟨⟩, _, read'⟩ := second
  cases read.symm.trans read'
  rfl

theorem perform_cases (node : Whisper) (r : Request) (result : Reader α) (reply : Reply) :
    let asked := (node.perform r result).1
    (∃ a, asked.conclude reply = .ok a ∧ Accepts result (heard? asked.call.url reply) a) ∨
      Failed .channelUnavailable (asked.conclude reply) ∧
        ∀ a, ¬ Accepts result (heard? asked.call.url reply) a := by
  change (∃ a, _ ∧ Accepts result (heard? (node.call r).url reply) a) ∨
    _ ∧ ∀ a, ¬ Accepts result (heard? (node.call r).url reply) a
  rw [← Http.Client.toOption_send]
  simp only [perform]
  cases Http.Client.send (node.call r) reply with
  | error fault => exact .inr ⟨⟨_, rfl, rfl⟩, by rintro a ⟨_, _, ⟨⟩, _⟩⟩
  | ok answer => exact conclude_cases r.method result answer

theorem accepts_iff {result : Reader α} (faithful : Faithful result) {status : Nat} {body : List UInt8}
    {w : Value} (spells : Spells [] body w) {a : α} :
    Accepts result (some ⟨status, some body⟩) a ↔
      Http.Status.isSuccess status = true ∧ ∃ v, Carries w v ∧ v ≠ .null ∧ Reads result v a := by
  rw [← reads_envelope_iff faithful (Written.of_spells spells),
    ← (faithful_envelope faithful).whole_iff spells]
  constructor
  · rintro ⟨_, _, ⟨⟩, success, read⟩
    exact ⟨success, read⟩
  · rintro ⟨success, read⟩
    exact ⟨status, body, rfl, success, read⟩

/-- Success and failure by what is heard: what succeeds, and that everything else fails for the channel. -/
def Verdict.Fair (heard : Option Answer) : Verdict → Prop
  | .created result => ((∃ f, result = .ok f) ∨ Failed .channelUnavailable result) ∧
      ∀ f : Filter, result = .ok f ↔ Accepts Json.text heard f.text
  | .published result => (result = .ok () ∨ Failed .channelUnavailable result) ∧
      (result = .ok () ↔ ∃ v, Accepts anyResult heard v ∧ v ≠ .bool false)
  | .polled result => (∃ rs, result = .ok rs) ∨ Failed .channelUnavailable result

/-- The same by the value that the whole body spells. -/
def Verdict.Told (status : Nat) (w : Value) : Verdict → Prop
  | .created result => ∀ f : Filter, result = .ok f ↔
      Http.Status.isSuccess status = true ∧ Carries w (.string f.text)
  | .published result => result = .ok () ↔ Http.Status.isSuccess status = true ∧
      ∃ v, Carries w v ∧ v ≠ .null ∧ v ≠ .bool false ∧ v.depth ≤ Json.maxDepth - 1
  | .polled _ => True

theorem createFilter_fair (node : Whisper) (topic : Topic) (id : KeyId) (reply : Reply) :
    let asked := (node.createFilter topic id).1
    (Verdict.created (asked.conclude reply)).Fair (heard? asked.call.url reply) := by
  simp only [createFilter, Http.Client.Pending.map]
  obtain ⟨text, performed, accepts⟩ | ⟨⟨f, failed, kind⟩, refuses⟩ :=
    node.perform_cases (filterRequest topic id) Json.text reply
  · rw [performed]
    refine ⟨.inl ⟨⟨text⟩, rfl⟩, fun f => ⟨?_, fun accepts' => ?_⟩⟩
    · rintro ⟨⟩
      exact accepts
    · rw [accepts.unique accepts']
      rfl
  · rw [failed]
    refine ⟨.inr ⟨f, rfl, kind⟩, fun f => ⟨?_, fun accepts => absurd accepts (refuses f.text)⟩⟩
    rintro ⟨⟩

theorem accept_of_ne {v : Value} (other : v ≠ .bool false) : accept v = .ok () := by
  unfold accept
  split
  · contradiction
  · rfl

theorem publish_fair (node : Whisper) (a : Announcement) (reply : Reply) :
    let asked := (node.publish a).1
    (Verdict.published (asked.conclude reply)).Fair (heard? asked.call.url reply) := by
  simp only [publish, Http.Client.Pending.map]
  obtain ⟨v, performed, accepts⟩ | ⟨⟨f, failed, kind⟩, refuses⟩ :=
    node.perform_cases (node.postRequest a) anyResult reply
  · rw [performed]
    change (Verdict.published (accept v)).Fair _
    by_cases refused : v = .bool false
    · subst refused
      refine ⟨.inr ⟨_, rfl, rfl⟩, ?_, ?_⟩
      · rintro ⟨⟩
      · rintro ⟨w, accepts', other⟩
        exact absurd (accepts'.unique accepts) other
    · rw [accept_of_ne refused]
      exact ⟨.inl rfl, fun _ => ⟨v, accepts, refused⟩, fun _ => rfl⟩
  · rw [failed]
    refine ⟨.inr ⟨f, rfl, kind⟩, ?_, ?_⟩
    · rintro ⟨⟩
    · rintro ⟨v, accepts, _⟩
      exact absurd accepts (refuses v)

theorem poll_fair (node : Whisper) (f : Filter) (reply : Reply) :
    let asked := (node.poll f).1
    (Verdict.polled (asked.conclude reply)).Fair (heard? asked.call.url reply) := by
  simp only [poll, Http.Client.Pending.map]
  obtain ⟨ms, performed, _⟩ | ⟨⟨e, failed, kind⟩, _⟩ :=
    node.perform_cases (pollRequest f) (Json.listOf message.read) reply
  · rw [performed]
    exact .inl ⟨_, rfl⟩
  · rw [failed]
    exact .inr ⟨e, rfl, kind⟩

theorem serve_fair (node : Whisper) (ask : Ask) (reply : Reply) :
    let asked := (node.serve ask).1
    (asked.conclude reply).Fair (heard? asked.call.url reply) := by
  cases ask with
  | filter topic id => exact node.createFilter_fair topic id reply
  | publish a => exact node.publish_fair a reply
  | poll f => exact node.poll_fair f reply

theorem Verdict.Fair.told {status : Nat} {body : List UInt8} {w : Value} {verdict : Verdict}
    (fair : verdict.Fair (some ⟨status, some body⟩)) (spells : Spells [] body w) :
    verdict.Told status w := by
  have written := Written.of_spells spells
  cases verdict with
  | created result =>
    intro f
    rw [fair.2 f, accepts_iff Json.faithful_text spells]
    refine and_congr_right fun _ => ⟨?_, fun carries => ⟨_, carries, nofun, Json.reads_text _⟩⟩
    rintro ⟨v, carries, _, reads⟩
    rwa [← (Json.reads_text_iff (carries.written written)).1 reads]
  | published result =>
    refine fair.2.trans ?_
    simp only [accepts_iff (Json.faithful_value _) spells, anyResult]
    constructor
    · rintro ⟨v, ⟨success, w', carries, solid, reads⟩, other⟩
      obtain ⟨rfl, shallow⟩ := (Json.reads_value_iff (carries.written written)).1 reads
      exact ⟨success, _, carries, solid, other, shallow⟩
    · rintro ⟨success, v, carries, solid, other, shallow⟩
      exact ⟨v, ⟨success, v, carries, solid, Json.reads_value shallow⟩, other⟩
  | polled result => trivial

/-- The number stands in the call, in its text and for everyone who reads it. -/
def Numbered (call : Http.Call) (n : Nat) : Prop :=
  ∃ members, call.content = .json (Value.object members).print ∧
    valuesOf "id" members = [.number (.int n)] ∧
    ∀ request, Spells [] (Value.object members).print request →
      ∃ read, request = .object read ∧ valuesOf "id" read = [.number (.int n)]

theorem numbered_call (node : Whisper) (r : Request) : Numbered (node.call r) node.nextId.toNat := by
  refine ⟨_, rfl, rfl, fun request spells => ?_⟩
  cases Json.rereads_of_spells spells with
  | @object _ members reads =>
    obtain ⟨w, alone, back⟩ := exists_of_forall₂_singleton (reads.valuesOf "id")
    refine ⟨members, rfl, ?_⟩
    have small := node.nextId.toNat_lt
    cases back with
    | number read =>
      rw [Json.parse_int_print ⟨by omega, by omega⟩] at read
      cases read
      exact alone

/-- Something that is asked for, unless its arguments are no arguments, with the reply if there is a call. -/
structure Turn where
  ask : Except Failure Ask
  reply : Reply

structure Attempt where
  call : Http.Call
  reply : Reply
  verdict : Verdict

def attempts (node : Whisper) : List Turn → List Attempt
  | [] => []
  | ⟨.error _, _⟩ :: turns => node.attempts turns
  | ⟨.ok ask, reply⟩ :: turns =>
    let asked := (node.serve ask).1
    ⟨asked.call, reply, asked.conclude reply⟩ :: (node.serve ask).2.attempts turns

theorem numbered_serve (node : Whisper) (ask : Ask) :
    Numbered (node.serve ask).1.call node.nextId.toNat ∧
      (node.serve ask).2 = { node with nextId := node.nextId + 1 } := by
  cases ask with
  | filter topic id => exact ⟨node.numbered_call (filterRequest topic id), rfl⟩
  | publish a => exact ⟨node.numbered_call (node.postRequest a), rfl⟩
  | poll f => exact ⟨node.numbered_call (pollRequest f), rfl⟩

theorem exists_of_attempts {turns : List Turn} {e : Attempt} : ∀ {node : Whisper} {n : Nat},
    (node.attempts turns)[n]? = some e → ∃ ask,
      let asked := (Whisper.serve { node with nextId := node.nextId + UInt64.ofNat n } ask).1
      e.call = asked.call ∧ e.verdict = asked.conclude e.reply := by
  induction turns with
  | nil =>
    intro node n made
    cases made
  | cons turn turns ih =>
    intro node n made
    obtain ⟨ask, reply⟩ := turn
    cases ask with
    | error f => exact ih made
    | ok ask =>
      cases n with
      | zero =>
        cases made
        refine ⟨ask, ?_⟩
        simp
      | succ n =>
        obtain ⟨ask', same⟩ := @ih (node.serve ask).2 n made
        refine ⟨ask', ?_⟩
        have step : node.nextId + UInt64.ofNat (n + 1) = node.nextId + 1 + UInt64.ofNat n := by
          rw [UInt64.ofNat_add, UInt64.add_assoc, UInt64.add_comm 1]
          rfl
        rw [(node.numbered_serve ask).2] at same
        rw [step]
        exact same

/-- Calls succeed or fail by what is heard of their replies, and no failure is of another kind than that
of the channel; the number of a call is its place among the calls, in 64 bits. -/
theorem attempts_fair {build : Http.Client.Builder} {url : String} {lifetime : UInt32} {timeout : UInt64}
    {node : Whisper} (connected : connect build url lifetime timeout = .ok node) {turns : List Turn}
    {n : Nat} {e : Attempt} (made : (node.attempts turns)[n]? = some e) :
    Numbered e.call ((n + 1) % UInt64.size) ∧ e.verdict.Fair (heard? e.call.url e.reply) ∧
      ∀ status body w, heard? e.call.url e.reply = some ⟨status, some body⟩ → Spells [] body w →
        e.verdict.Told status w := by
  obtain ⟨ask, called, judged⟩ := exists_of_attempts made
  have first : node.nextId = 1 := by
    unfold connect at connected
    simp only [bind_eq_ok_iff] at connected
    obtain ⟨_, _, _, _, same⟩ := connected
    cases same
    rfl
  have number : (node.nextId + UInt64.ofNat n).toNat = (n + 1) % UInt64.size := by
    rw [first, UInt64.toNat_add, UInt64.toNat_ofNat']
    simp [UInt64.size, Nat.add_comm]
  have fair : e.verdict.Fair (heard? e.call.url e.reply) := by
    rw [judged, called]
    exact serve_fair _ ask e.reply
  refine ⟨?_, fair, fun status body w heard spells => ?_⟩
  · rw [called, ← number]
    exact (numbered_serve _ ask).1
  · rw [heard] at fair
    exact fair.told spells

theorem nonempty_key : "0a".toList ≠ [] := by
  decide

theorem digits_key : "0a".toList.all isKeyDigit = true := by
  decide

def key : KeyId :=
  ⟨"0a", nonempty_key, digits_key⟩

def fewTurns : List Turn :=
  [⟨.ok (.filter (notice oneId).topic key), answered (.string "0x1")⟩,
    ⟨.error (.invalid "topic"), .lost⟩,
    ⟨.ok (.publish (notice oneId)), answered (.bool false)⟩]

theorem attempts_fair_refused : ∃ e result,
    connect (fun _ => .ok ()) "http://localhost:8545" 60 5 = .ok localNode ∧
    (localNode.attempts fewTurns)[1]? = some e ∧ Numbered e.call 2 ∧
    e.verdict = .published result ∧ Failed .channelUnavailable result := by
  have connected : connect (fun _ => .ok ()) "http://localhost:8545" 60 5 = .ok localNode := by
    decide +kernel
  obtain ⟨e, result, made, web, replied, published⟩ : ∃ e result,
      (localNode.attempts fewTurns)[1]? = some e ∧ e.call.url = localNode.endpoint ∧
      e.reply = answered (.bool false) ∧ e.verdict = .published result :=
    ⟨_, _, rfl, rfl, rfl, rfl⟩
  obtain ⟨numbered, fair, told⟩ := attempts_fair connected made
  have sendable : Http.Client.isSendable (Http.Client.withoutCredentials e.call.url) = true := by
    rw [web]
    rfl
  obtain ⟨status, body, members, sent, success, spells, encloses⟩ :=
    @gives_answered e.call (.bool false) sendable nofun
  rw [← replied] at sent
  have heard := Http.Client.send_eq_ok_iff.1 sent
  rw [published] at fair told
  refine ⟨e, result, connected, made, numbered, published, fair.1.resolve_left fun accepted => ?_⟩
  obtain ⟨_, v, carries, _, other, _⟩ := (told status body _ heard spells).1 accepted
  cases carries with
  | object encloses' =>
    have alone := encloses'.result.symm.trans encloses.result
    exact other (List.singleton_inj.1 alone)

end Herald.Whisper
