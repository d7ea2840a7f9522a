import Herald.Proofs.Drains
import Herald.Proofs.Frame
import Herald.Proofs.Stored

/-!
What ingests leave behind. An ingest reads, stores and announces, and it may fail in each of the
three: then what it did before stays, and what would have come behind it does not happen. A connection
does what an ingest of its bytes does. The counters know every ingest, by how it ended.
-/
namespace Herald

/-- How far an ingest comes. -/
inductive Stage where
  | unread
  | unstored
  | unannounced
  | announced
deriving DecidableEq, Repr

/-- A document goes into a store: its text is found under its identifier, unless something was there,
and nothing else is new. -/
structure Store.Takes (s : Store) (d : Document) (s' : Store) : Prop where
  access : s'.access = s.access
  there : s'.objects.contains d.id = true
  found : ∀ id, s'.objects.get? id =
    (s.objects.get? id).or (if id = d.id then some d.bytes else none)
  size : s'.objects.size = s.objects.size + if s.objects.contains d.id then 0 else 1
  again : s.objects.contains d.id = true → s' = s

/-- One announcement goes through a channel: it is counted, and it is put at the end of the queue of
every filter of its topic whose identity owns its key, and of no other. -/
structure Channel.Carries (c : Channel) (now : Nat) (a : Announcement) (c' : Channel) : Prop where
  access : c'.access = c.access
  once : c'.hub = c.hub.after [.publish now a]
  counted : c'.hub.published = c.hub.published + 1
  keys : c'.hub.keys = c.hub.keys
  queues : ∀ f, c'.hub.subscription? f = (c.hub.subscription? f).map fun s =>
    if s.topic = a.topic ∧ c.hub.owner? s.keyId = some a.recipient then
      { s with queue := s.queue ++ [Hub.receipt a c.hub.published now] }
    else s

theorem Store.takes_of_put {s : Store} {d : Document} {id : ContentId} (put : (s.put d).1 = .ok id) :
    id = d.id ∧ s.Takes d (s.put d).2 := by
  unfold Store.put at put ⊢
  split at put
  · next works =>
    cases put
    rw [works]
    refine ⟨rfl, works.symm, ?_, Objects.get?_put s.objects d, ?_, ?_⟩
    · change (s.objects.put d).2.contains d.id = true
      rw [Objects.contains_put]
      simp
    · change (s.objects.put d).2.size = _
      unfold Objects.put Objects.size
      by_cases there : s.objects.contains d.id = true
      · simp [there]
      · simp [there]
    · intro there
      simp [Objects.put, there, ← works]
  · contradiction
  · contradiction

theorem Store.put_refused {s : Store} {d : Document} {f : Failure} (refused : (s.put d).1 = .error f) :
    (s.put d).2 = s := by
  unfold Store.put at refused ⊢
  split at refused
  · contradiction
  · rfl
  · rfl

theorem Channel.carries_of_publish {c c' : Channel} {now : Nat} {a : Announcement}
    (published : c.publish now a = .ok c') : c.Carries now a c' := by
  unfold publish at published
  split at published
  · contradiction
  · obtain ⟨hub, made, same⟩ := bind_eq_ok_iff.1 published
    cases same
    obtain ⟨keys, _, counted, found⟩ := Hub.publish_eq_ok made
    refine ⟨rfl, ?_, counted, keys, ?_⟩
    · rw [Hub.after, Hub.call_publish_ok made]
      rfl
    · intro f
      simpa [Hub.reaches] using found f

theorem Channel.kind_of_publish {c : Channel} {now : Nat} {a : Announcement} {f : Failure}
    (failed : c.publish now a = .error f) : f.kind = .channelUnavailable := by
  unfold publish at failed
  split at failed
  · cases failed
    rfl
  · cases made : c.hub.publish now a with
    | ok hub =>
      rw [made] at failed
      contradiction
    | error e =>
      rw [made] at failed
      cases failed
      unfold Hub.publish at made
      split at made
      · cases made
        rfl
      · contradiction

namespace Relay

structure Untouched (r r' : Relay) : Prop where
  store : r'.store = r.store
  channel : r'.channel = r.channel
  latest : r'.latest = r.latest

/-- An ingest that comes to a stage: what it found, what it answers and what it leaves behind. -/
def Ends (r : Relay) (now : Nat) (raw : List UInt8) (answer : Except Failure Receipt) (r' : Relay) :
    Stage → Prop
  | .unread => (∃ fault, Document.normalize raw = .error fault) ∧
      (∃ f, answer = .error f ∧ f.kind = .malformedDocument) ∧ r.Untouched r'
  | .unstored => ∃ d f, Document.normalize raw = .ok d ∧ (r.store.put d).1 = .error f ∧
      answer = .error f ∧ r.Untouched r'
  | .unannounced => ∃ d f, Document.normalize raw = .ok d ∧ (r.store.put d).1 = .ok d.id ∧
      r.channel.publish now (r.target.announcement d.id) = .error f ∧
      answer = .error f ∧ f.kind = .channelUnavailable ∧
      r.store.Takes d r'.store ∧ r'.channel = r.channel ∧ r'.latest = r.latest
  | .announced => ∃ d, Document.normalize raw = .ok d ∧ (r.store.put d).1 = .ok d.id ∧
      answer = .ok ⟨d.id, d.id.payload⟩ ∧ r.store.Takes d r'.store ∧
      r.channel.Carries now ⟨d.id, r.target.recipient, r.target.topic, r.target.work⟩ r'.channel ∧
      r'.latest = r.latest

theorem ends_count {r r' : Relay} {now : Nat} {raw : List UInt8} {answer : Except Failure Receipt}
    {stage : Stage} (c : Counter) (h : r.Ends now raw answer r' stage) :
    r.Ends now raw answer (r'.count c) stage := by
  cases stage with
  | unread => exact ⟨h.1, h.2.1, h.2.2.store, h.2.2.channel, h.2.2.latest⟩
  | unstored =>
    obtain ⟨d, f, normalized, refused, told, untouched⟩ := h
    exact ⟨d, f, normalized, refused, told, untouched.store, untouched.channel, untouched.latest⟩
  | unannounced => exact h
  | announced => exact h

theorem exists_ends_relay (r : Relay) (now : Nat) (raw : List UInt8) :
    ∃ stage, r.Ends now raw (r.relay now raw).1 (r.relay now raw).2 stage := by
  unfold relay Document.submit
  cases normalized : Document.normalize raw with
  | error fault => exact ⟨.unread, ⟨fault, normalized⟩, ⟨_, rfl, rfl⟩, rfl, rfl, rfl⟩
  | ok d =>
    dsimp only [Except.mapError]
    have taken := @Store.takes_of_put r.store d
    have refused := @Store.put_refused r.store d
    cases put : r.store.put d with
    | mk result store =>
      rw [put] at taken refused
      have told : (r.store.put d).1 = result := congrArg Prod.fst put
      cases result with
      | error f => exact ⟨.unstored, d, f, normalized, told, rfl, refused rfl, rfl, rfl⟩
      | ok id =>
        obtain ⟨rfl, takes⟩ := taken rfl
        dsimp only
        cases published : r.channel.publish now (r.target.announcement d.id) with
        | error f =>
          have kind := Channel.kind_of_publish published
          exact ⟨.unannounced, d, f, normalized, told, published, rfl, kind, takes, rfl, rfl⟩
        | ok channel =>
          have carries := Channel.carries_of_publish published
          exact ⟨.announced, d, normalized, told, rfl, takes, carries, rfl⟩

theorem exists_ends (r : Relay) (now : Nat) (raw : List UInt8) :
    ∃ stage, r.Ends now raw (r.ingest now raw).1 (r.ingest now raw).2 stage := by
  obtain ⟨stage, ends⟩ := r.exists_ends_relay now raw
  refine ⟨stage, ?_⟩
  unfold ingest
  cases result : r.relay now raw with
  | mk answer r' =>
    rw [result] at ends
    cases answer with
    | ok receipt => exact ends_count _ ends
    | error f => exact ends_count _ ends

def stageOf (r : Relay) (raw : List UInt8) (answer : Except Failure Receipt) : Stage :=
  match Document.normalize raw with
  | .error _ => .unread
  | .ok d =>
    match (r.store.put d).1, answer with
    | .error _, _ => .unstored
    | .ok _, .error _ => .unannounced
    | .ok _, .ok _ => .announced

theorem Ends.stage_eq {r r' : Relay} {now : Nat} {raw : List UInt8} {answer : Except Failure Receipt}
    {stage : Stage} (h : r.Ends now raw answer r' stage) : stage = r.stageOf raw answer := by
  unfold stageOf
  cases stage with
  | unread =>
    obtain ⟨⟨fault, refused⟩, _⟩ := h
    rw [refused]
  | unstored =>
    obtain ⟨d, f, normalized, refused, _⟩ := h
    simp only [normalized, refused]
  | unannounced =>
    obtain ⟨d, f, normalized, stored, _, rfl, _⟩ := h
    simp only [normalized, stored]
  | announced =>
    obtain ⟨d, normalized, stored, rfl, _⟩ := h
    simp only [normalized, stored]

/-- Every ingest comes to one stage, and to no other. -/
theorem exists_unique_ends (r : Relay) (now : Nat) (raw : List UInt8) :
    ∃! stage, r.Ends now raw (r.ingest now raw).1 (r.ingest now raw).2 stage := by
  obtain ⟨stage, ends⟩ := r.exists_ends now raw
  refine ⟨stage, ends, ?_⟩
  intro stage' ends'
  exact ends'.stage_eq.trans ends.stage_eq.symm

def ingested? : Step → Option (List UInt8)
  | .ingest raw | .deliver (.complete raw) => some raw
  | _ => none

/-- How the ingests of a session end, in order. -/
def ingests (r : Relay) : List (Nat × Step) → List (Except Failure Receipt)
  | [] => []
  | (now, s) :: rest =>
    (ingested? s).toList.map (fun raw => (r.ingest now raw).1) ++ (r.step now s).2.ingests rest

theorem ingests_append (r : Relay) (before behind : List (Nat × Step)) :
    r.ingests (before ++ behind) = r.ingests before ++ (r.after before).ingests behind := by
  induction before generalizing r with
  | nil => rfl
  | cons t before ih => rw [List.cons_append, ingests, ih, ingests, after, List.append_assoc]

def counterOf : Except Failure Receipt → Counter
  | .ok _ => .documents
  | .error f => .failures f.kind

theorem relay_keeps (r : Relay) (now : Nat) (raw : List UInt8) :
    (r.relay now raw).2.meter = r.meter ∧ (r.relay now raw).2.target = r.target := by
  obtain ⟨store, channel, _, same⟩ := r.exists_relay now raw
  rw [same]
  exact ⟨rfl, rfl⟩

theorem count_ingest (r : Relay) (now : Nat) (raw : List UInt8) (c : Counter) :
    (r.ingest now raw).2.meter.count c =
      r.meter.count c + UInt64.ofNat ([(r.ingest now raw).1].countP (counterOf · = c)) := by
  have kept := (r.relay_keeps now raw).1
  unfold ingest
  cases result : r.relay now raw with
  | mk answer r' =>
    rw [result] at kept
    have counted (d : Counter) : (r'.count d).meter.count c = r.meter.count c + if d = c then 1 else 0 := by
      rw [count, Meter.count_increment, kept]
      simp only [eq_comm]
    rw [List.countP_singleton]
    simp only [decide_eq_true_eq, apply_ite UInt64.ofNat]
    cases answer with
    | ok receipt => exact counted .documents
    | error f => exact counted (.failures f.kind)

theorem count_step (r : Relay) (now : Nat) (s : Step) {c : Counter} (ingest : c.isIngest = true) :
    (r.step now s).2.meter.count c = r.meter.count c +
      UInt64.ofNat (((ingested? s).toList.map fun raw => (r.ingest now raw).1).countP (counterOf · = c)) := by
  have idle : r.meter.count c = r.meter.count c + UInt64.ofNat 0 := (UInt64.add_zero _).symm
  cases s with
  | ingest raw => exact count_ingest r now raw c
  | deliver delivery =>
    cases delivery with
    | complete raw => exact count_ingest r now raw c
    | broken => exact idle
  | put raw =>
    change (r.put raw).2.meter.count c = r.meter.count c + UInt64.ofNat 0
    unfold put
    cases Document.submit raw <;> exact idle
  | _ => exact ((r.spares_step now rfl).books c ingest).trans idle

theorem target_ingest (r : Relay) (now : Nat) (raw : List UInt8) :
    (r.ingest now raw).2.target = r.target := by
  obtain ⟨store, channel, c, _, _, same⟩ := r.exists_ingest now raw
  rw [same]
  rfl

theorem target_step (r : Relay) (now : Nat) (s : Step) : (r.step now s).2.target = r.target := by
  cases s with
  | ingest raw => exact target_ingest r now raw
  | deliver delivery =>
    cases delivery with
    | complete raw => exact target_ingest r now raw
    | broken => rfl
  | put raw =>
    change (r.put raw).2.target = r.target
    unfold put
    cases Document.submit raw <;> rfl
  | _ => exact (r.spares_step now rfl).target

theorem target_after (r : Relay) (steps : List (Nat × Step)) : (r.after steps).target = r.target := by
  induction steps generalizing r with
  | nil => rfl
  | cons t rest ih => rw [after, ih, target_step]

theorem count_after (r : Relay) (steps : List (Nat × Step)) {c : Counter} (ingest : c.isIngest = true) :
    (r.after steps).meter.count c =
      r.meter.count c + UInt64.ofNat ((r.ingests steps).countP (counterOf · = c)) := by
  induction steps generalizing r with
  | nil => exact (UInt64.add_zero _).symm
  | cons t rest ih =>
    rw [after, ih, count_step _ _ _ ingest, ingests, List.countP_append, UInt64.ofNat_add,
      UInt64.add_assoc]

theorem toNat_count_after {r : Relay} (fresh : r.meter = .zero) (steps : List (Nat × Step)) {c : Counter}
    (ingest : c.isIngest = true) : ((r.after steps).meter.count c).toNat =
      (r.ingests steps).countP (counterOf · = c) % UInt64.size := by
  have zero : r.meter.count c = 0 := by
    rw [fresh]
    rfl
  rw [r.count_after steps ingest, zero, UInt64.zero_add, UInt64.toNat_ofNat']

theorem opened_with {s : Setup} {start : Nat} {r : Relay} (opened : s.relay start = .ok r) :
    r.meter = .zero ∧ ∃ topic key, Topic.read s.topic = .ok topic ∧
      PublicKey.read s.publicKey = .ok key ∧ r.target = ⟨topic, key, s.work⟩ := by
  unfold Setup.relay at opened
  simp only [bind_eq_ok_iff] at opened
  obtain ⟨topic, topical, _, _, key, keyed, _, _, same⟩ := opened
  cases same
  exact ⟨rfl, topic, key, topical, keyed, rfl⟩

def failedAs (k : Kind) : Except Failure Receipt → Bool
  | .ok _ => false
  | .error f => f.kind = k

/-- A step of a session that brings bytes: they come to one stage, and the log has the answer. -/
def Lands (r : Relay) (before : List (Nat × Step)) (t : Nat × Step) (raw : List UInt8)
    (answer : Except Failure Receipt) : Prop :=
  (∃! stage, (r.after before).Ends t.1 raw answer (r.after (before ++ [t])) stage) ∧
    r.ingests (before ++ [t]) = r.ingests before ++ [answer]

theorem lands (r : Relay) (before : List (Nat × Step)) (t : Nat × Step) {raw : List UInt8}
    (brings : ingested? t.2 = some raw) : r.Lands before t raw ((r.after before).ingest t.1 raw).1 := by
  have reached : r.after (before ++ [t]) = ((r.after before).ingest t.1 raw).2 := by
    rw [after_append]
    obtain ⟨now, s⟩ := t
    cases s with
    | ingest raw' =>
      cases brings
      rfl
    | deliver delivery =>
      cases delivery with
      | complete raw' =>
        cases brings
        rfl
      | broken => contradiction
    | _ => contradiction
  unfold Lands
  rw [reached, ingests_append]
  refine ⟨exists_unique_ends _ t.1 raw, ?_⟩
  simp [ingests, brings]

/-- What a session says about the documents that came in. -/
structure Books (s : Setup) (r : Relay) (steps : List (Nat × Step))
    (answers : List (Except Failure Outcome)) : Prop where
  target : ∃ topic key, Topic.read s.topic = .ok topic ∧ PublicKey.read s.publicKey = .ok key ∧
    ∀ before, before <+: steps → (r.after before).target = ⟨topic, key, s.work⟩
  ingested : ∀ before now raw behind, steps = before ++ (now, .ingest raw) :: behind →
    ∃ answer, r.Lands before (now, .ingest raw) raw answer ∧
      answers[before.length]? = some (answer.map .ingested)
  received : ∀ before now raw behind, steps = before ++ (now, .deliver (.complete raw)) :: behind →
    (∃ answer, r.Lands before (now, .deliver (.complete raw)) raw answer) ∧
      r.after (before ++ [(now, .deliver (.complete raw))]) = r.after (before ++ [(now, .ingest raw)]) ∧
      ∃ stored published, answers[before.length]? = some (.ok (.delivered [] stored published))
  broken : ∀ before now behind, steps = before ++ (now, .deliver .broken) :: behind →
    r.after (before ++ [(now, .deliver .broken)]) = r.after before ∧
      ∃ stored published, answers[before.length]? = some (.ok (.delivered [] stored published))
  documents : ∀ before, before <+: steps →
    ((r.after before).meter.count .documents).toNat = (r.ingests before).countP (·.isOk) % UInt64.size
  failures : ∀ before, before <+: steps → ∀ k,
    ((r.after before).meter.count (.failures k)).toNat = (r.ingests before).countP (failedAs k) % UInt64.size

/-- Every document that comes in ends in one of four ways, with all that belongs to it and nothing
else; and at every point of a session the counters say how often each of them happened. -/
theorem books_of_run {s : Setup} {start : Nat} {r final : Relay} {steps : List (Nat × Step)}
    {answers : List (Except Failure Outcome)} (opened : s.relay start = .ok r)
    (ran : r.run steps = .ok (answers, final)) : Books s r steps answers where
  target := by
    obtain ⟨_, topic, key, topical, keyed, aimed⟩ := opened_with opened
    refine ⟨topic, key, topical, keyed, ?_⟩
    intro before _
    rw [target_after, aimed]
  ingested := by
    rintro before now raw behind rfl
    obtain ⟨_, answer, _, _, _, told, _, replied, _⟩ := run_around ran
    have same : ((r.after before).ingest now raw).1.map .ingested = answer := answer_injective replied
    subst same
    exact ⟨_, r.lands before (now, .ingest raw) rfl, told⟩
  received := by
    rintro before now raw behind rfl
    obtain ⟨_, answer, _, _, _, told, _, replied, _⟩ := run_around ran
    have same : .ok (.delivered [] _ _) = answer := answer_injective replied
    subst same
    refine ⟨⟨_, r.lands before (now, .deliver (.complete raw)) rfl⟩, ?_, _, _, told⟩
    rw [after_append, after_append]
    rfl
  broken := by
    rintro before now behind rfl
    obtain ⟨_, answer, _, _, _, told, _, replied, _⟩ := run_around ran
    have same : .ok (.delivered [] _ _) = answer := answer_injective replied
    subst same
    refine ⟨?_, _, _, told⟩
    rw [after_append]
    rfl
  documents := by
    intro before _
    rw [toNat_count_after (opened_with opened).1 before rfl]
    congr 1
    apply List.countP_congr
    intro answer _
    cases answer <;> simp [counterOf, Except.isOk, Except.toBool]
  failures := by
    intro before _ k
    rw [toNat_count_after (opened_with opened).1 before rfl]
    congr 1
    apply List.countP_congr
    intro answer _
    cases answer <;> simp [counterOf, failedAs]

def mixedSteps : List (Nat × Step) :=
  [(1, .ingest (Text.encode "[1]")), (2, .ingest (Text.encode "]")),
    (3, .deliver (.complete (Text.encode "[1]"))), (4, .deliver .broken)]

theorem books_mixed : ∃ r answers final, plainSetup.relay 0 = .ok r ∧
    r.run mixedSteps = .ok (answers, final) ∧ Books plainSetup r mixedSteps answers := by
  obtain ⟨r, opened⟩ : ∃ r, plainSetup.relay 0 = .ok r := ⟨_, rfl⟩
  obtain ⟨backed, access, origins⟩ := backed_of_opened opened
  have opens : r.serviceRules = .ok .anyOrigin := by
    rw [serviceRules, origins]
    rfl
  have indirect : ∀ t ∈ mixedSteps, t.2.isDirect = false := by decide
  obtain ⟨answers, final, ran⟩ := Runs.exists_run ⟨backed, access⟩ opens indirect
  exact ⟨r, answers, final, opened, ran, books_of_run opened ran⟩

end Relay

end Herald
