import Herald.Proofs.Announced

/-!
What steps leave alone. Only a document that comes in reaches the store and the counts of ingests;
every other step goes to the channel, the latest announcement and the counts of requests.
-/
namespace Herald

open Http (Request Route)

def Counter.isIngest : Counter → Bool
  | .requests _ => false
  | .documents | .failures _ => true

/-- A document comes in, to be stored and perhaps to be announced. -/
def Step.isArrival : Step → Bool
  | .put _ | .ingest _ | .deliver (.complete _) => true
  | _ => false

/-- A step that brings no document, is no request and does not advance: it goes to the channel only. -/
def Step.isPlain : Step → Bool
  | .put _ | .ingest _ | .deliver (.complete _) | .advance _ | .request _ => false
  | _ => true

theorem Channel.Continues.refl (c : Channel) : c.Continues c :=
  ⟨rfl, fun _ known => known⟩

theorem Channel.Continues.trans {c c' c'' : Channel} (first : c.Continues c')
    (second : c'.Continues c'') : c.Continues c'' where
  access := second.access.trans first.access
  knows f known := second.knows f (first.knows f known)

namespace Relay

section Operations

variable {r r' : Relay}

/-- The relay goes on over another channel, and is else as it was. -/
def Rechannels (r r' : Relay) : Prop :=
  ∃ channel, r.channel.Continues channel ∧ r' = { r with channel }

/-- The same, but for another announcement that may be the latest. -/
def Turns (r r' : Relay) : Prop :=
  ∃ channel latest, r.channel.Continues channel ∧ r' = { r with channel, latest }

theorem Rechannels.refl (r : Relay) : r.Rechannels r :=
  ⟨r.channel, .refl _, rfl⟩

theorem Turns.refl (r : Relay) : r.Turns r :=
  ⟨r.channel, r.latest, .refl _, rfl⟩

theorem Rechannels.turns (h : r.Rechannels r') : r.Turns r' := by
  obtain ⟨channel, continues, rfl⟩ := h
  exact ⟨channel, r.latest, continues, rfl⟩

theorem of_settle {P : Relay → Prop} {α : Type} {outcome : α → Outcome}
    {x : Except Failure (α × Relay)} (failed : P r) (done : ∀ a after, x = .ok (a, after) → P after) :
    P (answered (r.settle outcome x)).2 := by
  cases x with
  | error f => exact failed
  | ok result => exact done result.1 result.2 rfl

theorem rechannels_registerKey {keyId publicKey : String} {u : Unit}
    (registered : r.registerKey keyId publicKey = .ok (u, r')) : r.Rechannels r' := by
  unfold registerKey at registered
  simp only [bind_eq_ok_iff] at registered
  obtain ⟨id, _, key, _, same⟩ := registered
  cases same
  exact ⟨{ r.channel with hub := r.channel.hub.registerKey id key }, ⟨rfl, fun _ known => known⟩, rfl⟩

theorem rechannels_createFilter {topic keyId : String} {f : Filter}
    (created : r.createFilter topic keyId = .ok (f, r')) : r.Rechannels r' := by
  unfold createFilter at created
  simp only [bind_eq_ok_iff] at created
  obtain ⟨t, _, id, _, ⟨g, channel⟩, made, same⟩ := created
  cases same
  exact ⟨channel, (Channel.createFilter_eq_ok (P := fun _ => True) made).1, rfl⟩

theorem rechannels_publish {now : Nat} {payload publicKey topic told : String} {work : Work}
    (published : r.publish now payload publicKey topic work = .ok (told, r')) : r.Rechannels r' := by
  unfold publish at published
  simp only [bind_eq_ok_iff] at published
  obtain ⟨id, _, key, _, t, _, channel, made, same⟩ := published
  cases same
  exact ⟨channel, (Channel.publish_eq_ok (P := fun _ => True) made).1, rfl⟩

theorem rechannels_poll {f : Filter} {messages : List Received}
    (polled : r.poll f = .ok (messages, r')) : r.Rechannels r' := by
  obtain ⟨⟨ms, channel⟩, made, same⟩ := bind_eq_ok_iff.1 polled
  cases same
  exact ⟨channel, (Channel.poll_eq_ok (P := fun _ => True) made).1, rfl⟩

theorem turns_advance {f : Filter} {latest : Option ContentId}
    (advanced : r.advance f = .ok (latest, r')) : r.Turns r' := by
  obtain ⟨⟨messages, after⟩, polled, same⟩ := bind_eq_ok_iff.1 advanced
  cases same
  obtain ⟨channel, continues, rfl⟩ := rechannels_poll polled
  exact ⟨channel, _, continues, rfl⟩

theorem exists_relay (r : Relay) (now : Nat) (raw : List UInt8) : ∃ store channel,
    r.channel.Continues channel ∧ (r.relay now raw).2 = { r with store, channel } := by
  unfold relay
  cases Document.submit raw with
  | error f => exact ⟨r.store, r.channel, .refl _, rfl⟩
  | ok d =>
    dsimp only
    cases r.store.put d with
    | mk result store =>
      cases result with
      | error f => exact ⟨store, r.channel, .refl _, rfl⟩
      | ok id =>
        dsimp only
        cases announced : r.channel.publish now (r.target.announcement id) with
        | error f => exact ⟨store, r.channel, .refl _, rfl⟩
        | ok channel =>
          exact ⟨store, channel, (Channel.publish_eq_ok (P := fun _ => True) announced).1, rfl⟩

theorem exists_ingest (r : Relay) (now : Nat) (raw : List UInt8) : ∃ store channel c,
    r.channel.Continues channel ∧ c.isIngest = true ∧
      (r.ingest now raw).2 = ({ r with store, channel } : Relay).count c := by
  obtain ⟨store, channel, continues, same⟩ := r.exists_relay now raw
  unfold ingest
  cases relayed : r.relay now raw with
  | mk answer after =>
    rw [relayed] at same
    dsimp only at same
    cases answer with
    | ok receipt => exact ⟨store, channel, .documents, continues, rfl, by rw [same]⟩
    | error f => exact ⟨store, channel, .failures f.kind, continues, rfl, by rw [same]⟩

theorem serve_cases (r : Relay) (now : Nat) (route : Route) :
    (r.record route.endpoint).Turns (r.serve now route).2 ∨
      (r.serve now route).2 = r ∧ ∃ segment, route = .cat segment ∧
        Text.decode? (Text.Percent.decode (Text.encode (String.ofList segment))) = none := by
  cases route with
  | newMessages =>
    left
    change (r.record .newMessages).Turns (r.record .newMessages).serveNewMessages.2
    unfold serveNewMessages
    cases polled : (r.record .newMessages).poll (r.record .newMessages).filter with
    | error f => exact .refl _
    | ok result => exact (rechannels_poll polled).turns
  | cat segment =>
    unfold serve
    dsimp only
    split
    · next illegible => exact .inr ⟨rfl, segment, rfl, illegible⟩
    · exact .inl (.refl _)
  | catLast =>
    left
    change (r.record .catLast).Turns (r.record .catLast).serveCatLast.2
    unfold serveCatLast
    cases advanced : (r.record .catLast).advance (r.record .catLast).filter with
    | error f => exact .refl _
    | ok result =>
      obtain ⟨latest, after⟩ := result
      have turns := turns_advance advanced
      cases latest <;> exact turns
  | health => exact .inl (.refl _)
  | metrics => exact .inl (.refl _)

theorem rechannels_step (r : Relay) (now : Nat) {s : Step} (plain : s.isPlain = true) :
    r.Rechannels (r.step now s).2 := by
  cases s with
  | put raw | ingest raw | advance f | request q => contradiction
  | deliver delivery =>
    cases delivery with
    | complete raw => contradiction
    | broken => exact .refl r
  | registerKey keyId publicKey =>
    rw [step]
    exact of_settle (P := r.Rechannels) (.refl r) fun u after done => rechannels_registerKey done
  | createFilter topic keyId =>
    rw [step]
    exact of_settle (P := r.Rechannels) (.refl r) fun f after done => rechannels_createFilter done
  | publish payload publicKey topic work =>
    rw [step]
    exact of_settle (P := r.Rechannels) (.refl r) fun told after done => rechannels_publish done
  | poll f =>
    rw [step]
    exact of_settle (P := r.Rechannels) (.refl r) fun messages after done => rechannels_poll done
  | _ => exact .refl r

end Operations

/-- The relay goes on with the same store, towards the same target, and with the same counts of
ingests. -/
structure Spares (r r' : Relay) : Prop where
  store : r'.store = r.store
  target : r'.target = r.target
  books : ∀ c : Counter, c.isIngest = true → r'.meter.count c = r.meter.count c

variable {r r' : Relay}

theorem Spares.refl (r : Relay) : r.Spares r :=
  ⟨rfl, rfl, fun _ _ => rfl⟩

theorem Spares.trans {r'' : Relay} (h : r.Spares r') (h' : r'.Spares r'') : r.Spares r'' where
  store := h'.store.trans h.store
  target := h'.target.trans h.target
  books c ingest := (h'.books c ingest).trans (h.books c ingest)

theorem Turns.spares (h : r.Turns r') : r.Spares r' := by
  obtain ⟨channel, latest, _, rfl⟩ := h
  exact ⟨rfl, rfl, fun _ _ => rfl⟩

theorem spares_record (r : Relay) (e : Http.Endpoint) : r.Spares (r.record e) := by
  refine ⟨rfl, rfl, ?_⟩
  intro c ingest
  have other : c ≠ .requests e := by
    rintro rfl
    contradiction
  change (r.meter.increment (.requests e)).count c = _
  rw [Meter.count_increment, if_neg other]
  exact UInt64.add_zero _

theorem spares_serve (r : Relay) (now : Nat) (route : Route) : r.Spares (r.serve now route).2 := by
  obtain turns | ⟨same, _⟩ := r.serve_cases now route
  · exact (r.spares_record route.endpoint).trans turns.spares
  · rw [same]
    exact .refl r

theorem spares_respond (r : Relay) (now : Nat) (rules : Http.Cors) (q : Request) :
    r.Spares (r.respond now rules q).2 := by
  unfold respond dispatch
  cases q.method with
  | options => exact .refl r
  | get | head =>
    cases Route.ofPath? q.path with
    | none => exact .refl r
    | some route => exact spares_serve r now route
  | other name =>
    cases Route.ofPath? q.path <;> exact .refl r

theorem spares_step (r : Relay) (now : Nat) {s : Step} (other : s.isArrival = false) :
    r.Spares (r.step now s).2 := by
  cases s with
  | put raw | ingest raw => contradiction
  | deliver delivery =>
    cases delivery with
    | complete raw => contradiction
    | broken => exact .refl r
  | advance f =>
    rw [step]
    exact of_settle (P := r.Spares) (.refl r) fun latest after done => (turns_advance done).spares
  | request q =>
    rw [step, request]
    cases r.serviceRules with
    | error fault => exact .refl r
    | ok rules => exact spares_respond r now rules q
  | _ => exact (r.rechannels_step now rfl).turns.spares

end Relay

end Herald
