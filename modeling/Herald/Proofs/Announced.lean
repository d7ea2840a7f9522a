import Herald.Proofs.Hub
import Herald.Proofs.Session

/-!
Documents are stored before they are announced. So as long as nobody announces by hand, whatever
waits in a queue, was ever handed out or is held for the latest is the identifier of a stored object,
and `/cat_last` finds what it looks for.
-/
namespace Herald

open Http (Request Response Route)

namespace Channel

structure Continues (c c' : Channel) : Prop where
  access : c'.access = c.access
  knows : ∀ f, c.hub.Knows f → c'.hub.Knows f

variable {P : ContentId → Prop} {c c' : Channel}

theorem createFilter_eq_ok {topic : Topic} {id : KeyId} {f : Filter}
    (created : c.createFilter topic id = .ok (f, c')) :
    c.Continues c' ∧ (c.hub.Queued P → c'.hub.Queued P) := by
  unfold createFilter at created
  split at created
  · contradiction
  · obtain ⟨⟨g, hub⟩, made, same⟩ := bind_eq_ok_iff.1 created
    cases same
    exact ⟨⟨rfl, fun _ known => known.createFilter made⟩, fun queued => queued.createFilter made⟩

theorem publish_eq_ok {now : Nat} {a : Announcement} (accepted : c.publish now a = .ok c') :
    c.Continues c' ∧ (P a.payload → c.hub.Queued P → c'.hub.Queued P) := by
  unfold publish at accepted
  split at accepted
  · contradiction
  · obtain ⟨hub, made, same⟩ := bind_eq_ok_iff.1 accepted
    cases same
    exact ⟨⟨rfl, fun _ known => known.publish made⟩, fun payload queued => queued.publish payload made⟩

theorem poll_eq_ok {f : Filter} {messages : List Received} (polled : c.poll f = .ok (messages, c')) :
    c.Continues c' ∧ (c.hub.Queued P → c'.hub.Queued P ∧ ∀ m ∈ messages, P m.payload) := by
  unfold poll at polled
  split at polled
  · contradiction
  · obtain ⟨⟨ms, hub⟩, made, same⟩ := bind_eq_ok_iff.1 polled
    cases same
    exact ⟨⟨rfl, fun _ known => known.poll made⟩, fun queued => queued.poll made⟩

theorem kind_of_poll {f : Filter} {failure : Failure} (failed : c.poll f = .error failure) :
    failure.kind = .channelUnavailable := by
  unfold poll at failed
  split at failed
  · cases failed
    rfl
  · cases polled : c.hub.poll f with
    | ok result =>
      rw [polled] at failed
      contradiction
    | error e =>
      rw [polled] at failed
      cases failed
      unfold Hub.poll at polled
      split at polled
      · cases polled
        rfl
      · contradiction

theorem exists_poll {f : Filter} (works : c.access = .normal) (known : c.hub.Knows f) :
    ∃ messages c', c.poll f = .ok (messages, c') := by
  obtain ⟨s, here⟩ := known
  have polled : c.hub.poll f = .ok (s.queue, c.hub.drain f) := by rw [Hub.poll, here]
  refine ⟨s.queue, { c with hub := c.hub.drain f }, ?_⟩
  rw [poll, works]
  dsimp only
  rw [polled]
  rfl

end Channel

theorem Objects.contains_put (o : Objects) (d : Document) (id : ContentId) :
    (o.put d).2.contains id = (o.contains id || decide (id = d.id)) := by
  unfold contains
  rw [get?_put]
  by_cases same : id = d.id
  · cases o.get? id <;> simp [same]
  · cases o.get? id <;> simp [same]

theorem Store.contains_put (s : Store) (d : Document) :
    (∀ id, s.objects.contains id = true → (s.put d).2.objects.contains id = true) ∧
      ∀ id, (s.put d).1 = .ok id → (s.put d).2.objects.contains id = true := by
  unfold put
  split
  · constructor
    · intro id there
      change (s.objects.put d).2.contains id = true
      rw [Objects.contains_put, there]
      rfl
    · intro id same
      cases same
      change (s.objects.put d).2.contains d.id = true
      rw [Objects.contains_put]
      simp
  · exact ⟨fun _ there => there, fun _ same => by contradiction⟩
  · exact ⟨fun _ there => there, fun _ same => by contradiction⟩

/-- Such a step announces what it is told to. -/
def Step.isDirect : Step → Bool
  | .publish _ _ _ _ => true
  | _ => false

namespace Relay

def Stored (r : Relay) (id : ContentId) : Prop :=
  r.store.objects.contains id = true

/-- Nothing is announced, nor held for the latest, that is not stored; and the filter on which the
relay listens is there. -/
structure Backed (r : Relay) : Prop where
  queued : r.channel.hub.Queued r.Stored
  latest : ∀ id, r.latest = some id → r.Stored id
  listening : r.channel.access = .normal → r.channel.hub.Knows r.filter

structure Follows (r r' : Relay) : Prop where
  backed : r'.Backed
  stored : ∀ id, r.Stored id → r'.Stored id
  access : r'.channel.access = r.channel.access
  origins : r'.origins = r.origins

theorem Backed.refl {r : Relay} (b : r.Backed) : r.Follows r :=
  ⟨b, fun _ there => there, rfl, rfl⟩

theorem Follows.trans {r r' r'' : Relay} (f : r.Follows r') (g : r'.Follows r'') : r.Follows r'' where
  backed := g.backed
  stored id there := g.stored id (f.stored id there)
  access := g.access.trans f.access
  origins := g.origins.trans f.origins

theorem Backed.count {r : Relay} (b : r.Backed) (c : Counter) : r.Follows (r.count c) :=
  ⟨⟨b.queued, b.latest, b.listening⟩, fun _ there => there, rfl, rfl⟩

theorem Backed.withStore {r : Relay} (b : r.Backed) {store : Store}
    (grows : ∀ id, r.Stored id → store.objects.contains id = true) : r.Follows { r with store } where
  backed := ⟨b.queued.mono grows, fun id held => grows id (b.latest id held), b.listening⟩
  stored := grows
  access := rfl
  origins := rfl

theorem Backed.withChannel {r : Relay} (b : r.Backed) {channel : Channel}
    (continues : r.channel.Continues channel) (queued : channel.hub.Queued r.Stored) :
    r.Follows { r with channel } where
  backed := by
    refine ⟨queued, b.latest, ?_⟩
    intro works
    apply continues.knows
    apply b.listening
    rw [← continues.access]
    exact works
  stored _ there := there
  access := continues.access
  origins := rfl

theorem Backed.relay {r : Relay} (b : r.Backed) (now : Nat) (raw : List UInt8) :
    r.Follows (r.relay now raw).2 := by
  unfold Relay.relay
  cases Document.submit raw with
  | error f => exact b.refl
  | ok d =>
    dsimp only
    obtain ⟨grows, put⟩ := Store.contains_put r.store d
    cases stored : r.store.put d with
    | mk result store =>
      rw [stored] at grows put
      have kept := b.withStore grows
      cases result with
      | error f => exact kept
      | ok id =>
        dsimp only
        cases announced : r.channel.publish now (r.target.announcement id) with
        | error f => exact kept
        | ok channel =>
          obtain ⟨continues, queued⟩ := Channel.publish_eq_ok announced
          exact kept.trans (kept.backed.withChannel continues (queued (put id rfl) kept.backed.queued))

theorem Backed.ingest {r : Relay} (b : r.Backed) (now : Nat) (raw : List UInt8) :
    r.Follows (r.ingest now raw).2 := by
  have relayed := b.relay now raw
  unfold Relay.ingest
  cases result : r.relay now raw with
  | mk answer after =>
    rw [result] at relayed
    cases answer with
    | ok receipt => exact relayed.trans (relayed.backed.count _)
    | error f => exact relayed.trans (relayed.backed.count _)

theorem Backed.receive {r : Relay} (b : r.Backed) (now : Nat) (d : Delivery) :
    r.Follows (r.receive now d).2 := by
  cases d with
  | complete raw => exact b.ingest now raw
  | broken => exact b.refl

theorem Backed.registerKey {r r' : Relay} (b : r.Backed) {keyId publicKey : String} {u : Unit}
    (registered : r.registerKey keyId publicKey = .ok (u, r')) : r.Follows r' := by
  unfold Relay.registerKey at registered
  simp only [bind_eq_ok_iff] at registered
  obtain ⟨id, _, key, _, same⟩ := registered
  cases same
  exact ⟨⟨b.queued, b.latest, b.listening⟩, fun _ there => there, rfl, rfl⟩

theorem Backed.createFilter {r r' : Relay} (b : r.Backed) {topic keyId : String} {f : Filter}
    (created : r.createFilter topic keyId = .ok (f, r')) : r.Follows r' := by
  unfold Relay.createFilter at created
  simp only [bind_eq_ok_iff] at created
  obtain ⟨t, _, id, _, ⟨g, channel⟩, made, same⟩ := created
  cases same
  obtain ⟨continues, queued⟩ := Channel.createFilter_eq_ok made
  exact b.withChannel continues (queued b.queued)

theorem Backed.poll {r r' : Relay} (b : r.Backed) {f : Filter} {messages : List Received}
    (polled : r.poll f = .ok (messages, r')) :
    r.Follows r' ∧ ∀ m ∈ messages, r.Stored m.payload := by
  unfold Relay.poll at polled
  simp only [bind_eq_ok_iff] at polled
  obtain ⟨⟨ms, channel⟩, made, same⟩ := polled
  cases same
  obtain ⟨continues, queued⟩ := Channel.poll_eq_ok made
  obtain ⟨left, taken⟩ := queued b.queued
  exact ⟨b.withChannel continues left, taken⟩

theorem Backed.advance {r r' : Relay} (b : r.Backed) {f : Filter} {latest : Option ContentId}
    (advanced : r.advance f = .ok (latest, r')) : r.Follows r' ∧ r'.latest = latest := by
  unfold Relay.advance at advanced
  simp only [bind_eq_ok_iff] at advanced
  obtain ⟨⟨messages, after⟩, polled, same⟩ := advanced
  cases same
  obtain ⟨follows, taken⟩ := b.poll polled
  refine ⟨⟨⟨follows.backed.queued, ?_, follows.backed.listening⟩, follows.stored, follows.access,
    follows.origins⟩, rfl⟩
  intro id held
  cases newest : messages.getLast? with
  | none =>
    simp only [newest, Option.map_none, Option.none_or] at held
    exact follows.backed.latest id held
  | some m =>
    simp only [newest, Option.map_some, Option.some_or, Option.some.injEq] at held
    subst held
    exact follows.stored _ (taken m (List.mem_of_getLast? newest))

def payloadList (ids : List ContentId) : Json.Value :=
  .object [("payloads", .array (ids.map (·.json)))]

/-- What is shown of announcements, and of the latest one, is stored. -/
structure Shows (r : Relay) (path : List Char) (method : Http.Method) (response : Response) :
    Prop where
  newMessages : Route.ofPath? path = some .newMessages → method = .get → ∃ ids,
    response.status = 200 ∧ response.body = (payloadList ids).print ∧ ∀ id ∈ ids, r.Stored id
  catLast : Route.ofPath? path = some .catLast → response.status ≠ 404

theorem status_load {bytes : List UInt8} {f : Failure} (failed : Document.load bytes = .error f) :
    status f.kind = 502 := by
  unfold Document.load at failed
  cases read : Document.ofBytes bytes with
  | ok d =>
    rw [read] at failed
    contradiction
  | error fault =>
    rw [read] at failed
    cases failed
    rfl

theorem status_showDocument {r : Relay} {id : ContentId} (stored : r.Stored id) :
    (r.showDocument id).status ≠ 404 := by
  unfold showDocument
  cases found : r.store.get id with
  | ok d => exact (by decide : (200 : Nat) ≠ 404)
  | error f =>
    change status f.kind ≠ 404
    have loaded : status f.kind = 502 := by
      unfold Store.get at found
      split at found
      · obtain ⟨bytes, there⟩ := Option.isSome_iff_exists.1 stored
        rw [Objects.get, there] at found
        exact status_load found
      · cases found
        rfl
      · exact status_load found
    rw [loaded]
    decide

theorem Backed.serveNewMessages {r : Relay} (b : r.Backed) :
    r.Follows r.serveNewMessages.2 ∧ (r.channel.access = .normal → ∃ ids,
      r.serveNewMessages.1 = .json 200 (payloadList ids) ∧ ∀ id ∈ ids, r.Stored id) := by
  unfold Relay.serveNewMessages
  cases polled : r.poll r.filter with
  | error f =>
    refine ⟨b.refl, ?_⟩
    intro works
    obtain ⟨messages, channel, taken⟩ := Channel.exists_poll works (b.listening works)
    rw [Relay.poll, taken] at polled
    contradiction
  | ok result =>
    obtain ⟨messages, after⟩ := result
    obtain ⟨follows, taken⟩ := b.poll polled
    refine ⟨follows, ?_⟩
    intro _
    refine ⟨messages.map (·.payload), ?_, ?_⟩
    · dsimp only
      rw [payloadList, List.map_map]
      rfl
    · intro id mem
      obtain ⟨m, hm, rfl⟩ := List.mem_map.1 mem
      exact taken m hm

theorem Backed.serveCatLast {r : Relay} (b : r.Backed) :
    r.Follows r.serveCatLast.2 ∧ r.serveCatLast.1.status ≠ 404 := by
  unfold Relay.serveCatLast
  cases advanced : r.advance r.filter with
  | error f =>
    have refused : f.kind = .channelUnavailable := by
      unfold Relay.advance Relay.poll at advanced
      cases polled : r.channel.poll r.filter with
      | ok result =>
        rw [polled] at advanced
        contradiction
      | error e =>
        rw [polled] at advanced
        cases advanced
        exact Channel.kind_of_poll polled
    refine ⟨b.refl, ?_⟩
    change status f.kind ≠ 404
    rw [refused]
    decide
  | ok result =>
    obtain ⟨latest, after⟩ := result
    obtain ⟨follows, held⟩ := b.advance advanced
    cases latest with
    | none => exact ⟨follows, (by decide : (200 : Nat) ≠ 404)⟩
    | some id => exact ⟨follows, status_showDocument (follows.backed.latest id held)⟩

theorem Backed.record {r : Relay} (b : r.Backed) (e : Http.Endpoint) : r.Follows (r.record e) :=
  ⟨⟨b.queued, b.latest, b.listening⟩, fun _ there => there, rfl, rfl⟩

theorem Backed.serve {r : Relay} (b : r.Backed) (works : r.channel.access = .normal) (now : Nat)
    (route : Route) : r.Follows (r.serve now route).2 ∧
      (route = .newMessages → ∃ ids, (r.serve now route).1 = .json 200 (payloadList ids) ∧
        ∀ id ∈ ids, r.Stored id) ∧
      (route = .catLast → (r.serve now route).1.status ≠ 404) := by
  have counted := b.record route.endpoint
  cases route with
  | newMessages =>
    obtain ⟨follows, shown⟩ := counted.backed.serveNewMessages
    exact ⟨counted.trans follows, fun _ => shown works, fun other => by contradiction⟩
  | cat segment =>
    refine ⟨?_, fun other => by contradiction, fun other => by contradiction⟩
    unfold Relay.serve
    dsimp only
    split
    · exact b.refl
    · exact counted
  | catLast =>
    obtain ⟨follows, found⟩ := counted.backed.serveCatLast
    exact ⟨counted.trans follows, fun other => by contradiction, fun _ => found⟩
  | health => exact ⟨counted, fun other => by contradiction, fun other => by contradiction⟩
  | metrics => exact ⟨counted, fun other => by contradiction, fun other => by contradiction⟩

theorem Backed.dispatch {r : Relay} (b : r.Backed) (works : r.channel.access = .normal) (now : Nat)
    (method : Http.Method) (path : List Char) : r.Follows (r.dispatch now method path).2 ∧
      (r.dispatch now method path).2.Shows path method (r.dispatch now method path).1 := by
  unfold Relay.dispatch
  cases routed : Route.ofPath? path with
  | none =>
    refine ⟨b.refl, ?_, ?_⟩
    · intro here
      rw [routed] at here
      contradiction
    · intro here
      rw [routed] at here
      contradiction
  | some route =>
    obtain ⟨follows, payloads, found⟩ := b.serve works now route
    cases method with
    | get =>
      refine ⟨follows, ?_, ?_⟩
      · intro here _
        rw [routed] at here
        obtain ⟨ids, shown, stored⟩ := payloads (Option.some.inj here)
        refine ⟨ids, ?_, ?_, fun id mem => follows.stored id (stored id mem)⟩
        · dsimp only
          rw [shown]
          rfl
        · dsimp only
          rw [shown]
          rfl
      · intro here
        rw [routed] at here
        exact found (Option.some.inj here)
    | head =>
      refine ⟨follows, fun _ other => by contradiction, ?_⟩
      intro here
      rw [routed] at here
      exact found (Option.some.inj here)
    | options =>
      exact ⟨b.refl, fun _ other => by contradiction, fun _ => (by decide : (405 : Nat) ≠ 404)⟩
    | other name =>
      exact ⟨b.refl, fun _ other => by contradiction, fun _ => (by decide : (405 : Nat) ≠ 404)⟩

theorem Backed.respond {r : Relay} (b : r.Backed) (works : r.channel.access = .normal) (now : Nat)
    (rules : Http.Cors) (request : Request) : r.Follows (r.respond now rules request).2 ∧
      (r.respond now rules request).2.Shows request.path request.method
        (r.respond now rules request).1 := by
  unfold Relay.respond
  cases asked : request.method with
  | options =>
    exact ⟨b.refl, fun _ other => by contradiction, fun _ => (by decide : (200 : Nat) ≠ 404)⟩
  | get | head | other name =>
    obtain ⟨follows, shows⟩ := b.dispatch works now _ request.path
    exact ⟨follows, shows.newMessages, shows.catLast⟩

/-- What an outcome tells of announcements is stored. -/
def Tells (r : Relay) : Step → Outcome → Prop
  | _, .messages messages => ∀ m ∈ messages, r.Stored m.payload
  | _, .latest latest => ∀ id, latest = some id → r.Stored id
  | .request request, .response response => r.Shows request.path request.method response
  | _, _ => True

theorem Tells.mono {r r' : Relay} (f : r.Follows r') {s : Step} {o : Outcome} (tells : r.Tells s o) :
    r'.Tells s o := by
  unfold Tells at tells ⊢
  split at tells
  · exact fun m hm => f.stored _ (tells m hm)
  · exact fun id held => f.stored id (tells id held)
  · refine ⟨?_, tells.catLast⟩
    intro here full
    obtain ⟨ids, shown, body, stored⟩ := tells.newMessages here full
    exact ⟨ids, shown, body, fun id mem => f.stored id (stored id mem)⟩
  · trivial

def Sound (r : Relay) (s : Step) (result : Except Step.Fault Outcome × Relay) : Prop :=
  r.Follows result.2 ∧ ∀ o, result.1 = .ok o → result.2.Tells s o

theorem Backed.settle {r : Relay} (b : r.Backed) {α : Type} {s : Step} {outcome : α → Outcome}
    {x : Except Failure (α × Relay)}
    (good : ∀ a after, x = .ok (a, after) → r.Follows after ∧ after.Tells s (outcome a)) :
    r.Sound s (answered (r.settle outcome x)) := by
  cases x with
  | error f => exact ⟨b.refl, fun o same => by contradiction⟩
  | ok result =>
    obtain ⟨a, after⟩ := result
    obtain ⟨follows, tells⟩ := good a after rfl
    refine ⟨follows, ?_⟩
    intro o same
    cases same
    exact tells

theorem Follows.answered {r r' : Relay} (f : r.Follows r') {α : Type} {s : Step} {outcome : α → Outcome}
    (x : Except Failure α) (tells : ∀ a, r'.Tells s (outcome a)) :
    r.Sound s (answered (x.map outcome, r')) := by
  refine ⟨f, ?_⟩
  intro o same
  cases x with
  | error e => contradiction
  | ok a =>
    cases same
    exact tells a

theorem Backed.step {r : Relay} (b : r.Backed) (works : r.channel.access = .normal) (now : Nat)
    {s : Step} (indirect : s.isDirect = false) : r.Sound s (r.step now s) := by
  cases s with
  | put raw =>
    rw [Relay.step, Relay.put]
    cases Document.submit raw with
    | error f => exact ⟨b.refl, fun o same => by contradiction⟩
    | ok d => exact (b.withStore (Store.contains_put r.store d).1).answered _ fun _ => trivial
  | get id => exact b.refl.answered _ fun _ => trivial
  | contains id => exact b.refl.answered _ fun _ => trivial
  | counts => exact ⟨b.refl, fun o same => by cases same; trivial⟩
  | registerKey keyId publicKey =>
    rw [Relay.step]
    apply b.settle
    intro u after registered
    exact ⟨b.registerKey registered, trivial⟩
  | createFilter topic keyId =>
    rw [Relay.step]
    apply b.settle
    intro f after created
    exact ⟨b.createFilter created, trivial⟩
  | publish payload publicKey topic work => contradiction
  | poll filter =>
    rw [Relay.step]
    apply b.settle
    intro messages after polled
    obtain ⟨follows, taken⟩ := b.poll polled
    exact ⟨follows, fun m hm => follows.stored _ (taken m hm)⟩
  | pending filter => exact ⟨b.refl, fun o same => by cases same; trivial⟩
  | ingest raw => exact (b.ingest now raw).answered _ fun _ => trivial
  | deliver delivery => exact ⟨b.receive now delivery, fun o same => by cases same; trivial⟩
  | advance filter =>
    rw [Relay.step]
    apply b.settle
    intro latest after advanced
    obtain ⟨follows, held⟩ := b.advance advanced
    refine ⟨follows, ?_⟩
    intro id some
    exact follows.backed.latest id (held.trans some)
  | current =>
    refine ⟨b.refl, ?_⟩
    intro o same
    cases same
    exact b.latest
  | request request =>
    rw [Relay.step, Relay.request]
    cases r.serviceRules with
    | error fault => exact ⟨b.refl, fun o same => by contradiction⟩
    | ok rules =>
      obtain ⟨follows, shows⟩ := b.respond works now rules request
      refine ⟨follows, ?_⟩
      intro o same
      cases same
      exact shows

theorem backed_of_opened {s : Setup} {now : Nat} {r : Relay} (opened : s.relay now = .ok r) :
    r.Backed ∧ r.channel.access = s.channel ∧ r.origins = s.origins := by
  unfold Setup.relay at opened
  simp only [bind_eq_ok_iff] at opened
  obtain ⟨topic, _, keyId, _, key, _, ⟨own, hub⟩, created, same⟩ := opened
  cases same
  have none : (Hub.empty.registerKey keyId key).Queued fun id => Objects.empty.contains id = true :=
    fun _ mem => absurd mem List.not_mem_nil
  refine ⟨⟨none.createFilter created, nofun, ?_⟩, rfl, rfl⟩
  intro works
  dsimp only at works ⊢
  rw [works]
  obtain ⟨_, _, _, _, found⟩ := Hub.createFilter_eq_ok created
  exact ⟨_, (found own).trans (if_pos rfl)⟩

def Runs (r : Relay) : Prop :=
  r.Backed ∧ r.channel.access = .normal

theorem Runs.step {r : Relay} (runs : r.Runs) (now : Nat) {s : Step} (indirect : s.isDirect = false) :
    (r.step now s).2.Runs := by
  obtain ⟨follows, _⟩ := runs.1.step runs.2 now indirect
  exact ⟨follows.backed, follows.access.trans runs.2⟩

theorem answered_fst (x : Except Failure Outcome × Relay) :
    (answered x).1 = x.1.mapError .failure :=
  rfl

theorem exists_answer {r : Relay} {rules : Http.Cors} (opens : r.serviceRules = .ok rules) (now : Nat)
    (s : Step) : ∃ answer : Except Failure Outcome, (r.step now s).1 = answer.mapError .failure := by
  cases s with
  | request request =>
    rw [Relay.step, Relay.request, opens]
    exact ⟨.ok _, rfl⟩
  | counts => exact ⟨.ok _, rfl⟩
  | pending filter => exact ⟨.ok _, rfl⟩
  | deliver delivery => exact ⟨.ok _, rfl⟩
  | current => exact ⟨.ok _, rfl⟩
  | _ =>
    rw [Relay.step]
    exact ⟨_, answered_fst _⟩

theorem Runs.exists_run {rules : Http.Cors} {steps : List (Nat × Step)} : ∀ {r : Relay}, r.Runs →
    r.serviceRules = .ok rules → (∀ t ∈ steps, t.2.isDirect = false) →
    ∃ answers final, r.run steps = .ok (answers, final) := by
  induction steps with
  | nil => exact fun _ _ _ => ⟨[], _, rfl⟩
  | cons t rest ih =>
    intro r runs opens indirect
    have first := indirect t (by simp)
    obtain ⟨follows, _⟩ := runs.1.step runs.2 t.1 first
    have reopens : (r.step t.1 t.2).2.serviceRules = .ok rules := by
      rw [serviceRules, follows.origins]
      exact opens
    obtain ⟨answer, replied⟩ := exists_answer opens t.1 t.2
    obtain ⟨later, final, ran⟩ := ih (runs.step t.1 first) reopens fun u hu => indirect u (by simp [hu])
    exact ⟨answer :: later, final, run_cons_eq_ok.2 ⟨answer, later, replied, ran, rfl⟩⟩

/-- Documents are stored before they are announced: in a run without direct publishes, whatever waits
in a queue, is held for the latest, or was ever told of in an answer is stored; so `/cat_last` never
misses what it looks for. -/
theorem announced_stored {s : Setup} {start : Nat} {r final : Relay} {steps : List (Nat × Step)}
    {answers : List (Except Failure Outcome)} (opened : s.relay start = .ok r)
    (works : s.channel = .normal) (indirect : ∀ t ∈ steps, t.2.isDirect = false)
    (ran : r.run steps = .ok (answers, final)) :
    final.channel.hub.Queued final.Stored ∧
      (∀ id, final.latest = some id → final.Stored id) ∧
      List.Forall₂ (fun t a => ∀ o, a = .ok o → final.Tells t.2 o) steps answers := by
  obtain ⟨backed, access, _⟩ := backed_of_opened opened
  have first : r.Runs := ⟨backed, access.trans works⟩
  have step : ∀ (r' : Relay) (now : Nat) (t : Step), r'.Runs → t.isDirect = false →
      (r'.step now t).2.Runs ∧ ∀ o, (r'.step now t).1 = .ok o → (r'.step now t).2.Tells t o :=
    fun r' now t runs indirect => ⟨runs.step now indirect, (runs.1.step runs.2 now indirect).2⟩
  have stays : ∀ (r' : Relay) (now : Nat) (t : Step), r'.Runs → t.isDirect = false →
      ∀ t' o, r'.Tells t' o → (r'.step now t).2.Tells t' o :=
    fun r' now t runs indirect t' o tells => tells.mono (runs.1.step runs.2 now indirect).1
  have last : final.Runs := run_keeps (fun r' now t runs h => (step r' now t runs h).1) first indirect ran
  exact ⟨last.1.queued, last.1.latest, run_answers step stays first indirect ran⟩

def plainSetup : Setup where
  topic := "0x12345678"
  keyId := "0a"
  publicKey := "0x020000000000000000000000000000000000000000000000000000000000000001"
  work := .standard
  store := .normal
  channel := .normal
  origins := []
  metered := false

def plainSteps : List (Nat × Step) :=
  [(1, .ingest (Text.encode "[]")), (2, .poll (Hub.handle 0)),
    (3, .ingest (Text.encode "[1]")), (4, .request ⟨.get, "/cat_last", []⟩)]

theorem announced_stored_plain : ∃ r answers final, plainSetup.relay 0 = .ok r ∧
    r.run plainSteps = .ok (answers, final) ∧ final.channel.hub.Queued final.Stored ∧
    (∀ id, final.latest = some id → final.Stored id) ∧
    List.Forall₂ (fun t a => ∀ o, a = .ok o → final.Tells t.2 o) plainSteps answers := by
  obtain ⟨r, opened⟩ : ∃ r, plainSetup.relay 0 = .ok r := ⟨_, rfl⟩
  obtain ⟨backed, access, origins⟩ := backed_of_opened opened
  have opens : r.serviceRules = .ok .anyOrigin := by
    rw [serviceRules, origins]
    rfl
  have indirect : ∀ t ∈ plainSteps, t.2.isDirect = false := by decide
  obtain ⟨answers, final, ran⟩ := Runs.exists_run ⟨backed, access⟩ opens indirect
  exact ⟨r, answers, final, opened, ran, announced_stored opened rfl indirect ran⟩

end Relay

end Herald
