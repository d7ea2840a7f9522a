import Herald.Proofs.Announced
import Herald.Proofs.Delivery

/-!
What a session asks of its hub. Every step is a few calls of the hub; those that empty the relay's
filter are drains, and some of these take the newest of their batch for the latest announcement.
-/
namespace Herald

open Http (Request Response Route)

/-- Whether a resource empties the relay's filter, and then whether it advances. -/
def Http.Route.drain? : Route → Option Bool
  | .newMessages => some false
  | .catLast => some true
  | _ => none

def Http.Request.drain? (q : Request) : Option Bool :=
  match q.method with
  | .get | .head => (Route.ofPath? q.path).bind Route.drain?
  | _ => none

/-- Whether a step empties the filter `own` of a relay, and then whether it advances. -/
def Step.drain? (own : Filter) : Step → Option Bool
  | .poll f => if f = own then some false else none
  | .advance f => if f = own then some true else none
  | .request q => q.drain?
  | _ => none

def Step.isCreation : Step → Bool
  | .createFilter _ _ => true
  | _ => false

namespace Relay

/-- How a producer's bytes are announced, if they are a document that can be stored. -/
def announcement? (r : Relay) (raw : List UInt8) : Option Announcement :=
  match Document.submit raw with
  | .error _ => none
  | .ok d => if r.store.access = .normal then some (r.target.announcement d.id) else none

/-- What a step asks of the hub, if the channel works. -/
def calls (r : Relay) (now : Nat) : Step → List Hub.Call
  | .registerKey keyId publicKey =>
    match KeyId.read keyId, PublicKey.read publicKey with
    | .ok id, .ok key => [.register id key]
    | _, _ => []
  | .createFilter topic keyId =>
    match Topic.read topic, KeyId.read keyId with
    | .ok topic, .ok id => [.create topic id]
    | _, _ => []
  | .publish payload publicKey topic work =>
    match ContentId.read payload, PublicKey.read publicKey, Topic.read topic with
    | .ok id, .ok recipient, .ok topic => [.publish now ⟨id, recipient, topic, work⟩]
    | _, _, _ => []
  | .ingest raw | .deliver (.complete raw) => (r.announcement? raw).toList.map (.publish now)
  | .poll f | .advance f => [.poll f]
  | .request q => q.drain?.toList.map fun _ => .poll r.filter
  | _ => []

end Relay

/-- One time that the relay's filter was emptied, and whether that advances the latest. -/
structure Drain where
  advances : Bool
  batch : List Received

/-- The announcement of a drain that counts for the latest. -/
def Drain.newest (d : Drain) : Option ContentId :=
  if d.advances then d.batch.getLast?.map (·.payload) else none

namespace Relay

def drain (r : Relay) (advances : Bool) : Drain :=
  ⟨advances, r.channel.hub.waiting r.filter⟩

def drain? (r : Relay) (s : Step) : Option Drain :=
  (s.drain? r.filter).map r.drain

theorem drain?_poll (r : Relay) (f : Filter) :
    r.drain? (.poll f) = if f = r.filter then some (r.drain false) else none := by
  unfold drain? Step.drain?
  dsimp only
  split <;> rfl

theorem drain?_advance (r : Relay) (f : Filter) :
    r.drain? (.advance f) = if f = r.filter then some (r.drain true) else none := by
  unfold drain? Step.drain?
  dsimp only
  split <;> rfl

def drains (r : Relay) : List (Nat × Step) → List Drain
  | [] => []
  | (now, s) :: rest => (r.drain? s).toList ++ (r.step now s).2.drains rest

theorem drains_append (r : Relay) (before behind : List (Nat × Step)) :
    r.drains (before ++ behind) = r.drains before ++ (r.after before).drains behind := by
  induction before generalizing r with
  | nil => rfl
  | cons t before ih =>
    simp only [List.cons_append, drains, after, List.append_assoc]
    rw [ih]

def batches (log : List Drain) : List Received :=
  log.flatMap Drain.batch

theorem batches_append (log more : List Drain) : batches (log ++ more) = batches log ++ batches more :=
  List.flatMap_append

/-- The announcement that drains leave for the latest: the last that counts. -/
def latestOf (log : List Drain) : Option ContentId :=
  (log.filterMap Drain.newest).getLast?

theorem latestOf_toList (d : Option Drain) : latestOf d.toList = d.bind Drain.newest := by
  cases d with
  | none => rfl
  | some d =>
    change (List.filterMap Drain.newest [d]).getLast? = d.newest
    rw [List.filterMap_cons]
    cases d.newest <;> rfl

theorem latestOf_append (log more : List Drain) :
    latestOf (log ++ more) = (latestOf more).or (latestOf log) := by
  unfold latestOf
  rw [List.filterMap_append, List.getLast?_append]

end Relay

theorem Channel.createFilter_normal {c : Channel} (works : c.access = .normal) (topic : Topic)
    (id : KeyId) :
    (∀ f c', c.createFilter topic id = .ok (f, c') →
      c' = { c with hub := c.hub.after [.create topic id] }) ∧
    ∀ e, c.createFilter topic id = .error e → c.hub.after [.create topic id] = c.hub := by
  unfold createFilter
  rw [works]
  dsimp only
  cases made : c.hub.createFilter topic id with
  | error e =>
    refine ⟨fun f c' same => by contradiction, fun _ _ => ?_⟩
    rw [Hub.after, Hub.call_create_error made]
    rfl
  | ok result =>
    refine ⟨?_, fun e same => by contradiction⟩
    intro f c' same
    cases same
    rw [Hub.after, Hub.call_create_ok made]
    rfl

theorem Channel.publish_normal {c : Channel} (works : c.access = .normal) (now : Nat)
    (a : Announcement) :
    (∀ c', c.publish now a = .ok c' → c' = { c with hub := c.hub.after [.publish now a] }) ∧
    ∀ e, c.publish now a = .error e → c.hub.after [.publish now a] = c.hub := by
  unfold publish
  rw [works]
  dsimp only
  cases made : c.hub.publish now a with
  | error e =>
    refine ⟨fun c' same => by contradiction, fun _ _ => ?_⟩
    rw [Hub.after, Hub.call_publish_error made]
    rfl
  | ok hub =>
    refine ⟨?_, fun e same => by contradiction⟩
    intro c' same
    cases same
    rw [Hub.after, Hub.call_publish_ok made]
    rfl

theorem Channel.poll_normal {c : Channel} (works : c.access = .normal) (f : Filter) :
    (∀ messages c', c.poll f = .ok (messages, c') →
      messages = c.hub.waiting f ∧ c' = { c with hub := c.hub.after [.poll f] }) ∧
    ∀ e, c.poll f = .error e → c.hub.waiting f = [] ∧ c.hub.after [.poll f] = c.hub := by
  unfold poll Hub.waiting
  rw [works]
  dsimp only
  cases here : c.hub.subscription? f with
  | none =>
    have refused : c.hub.poll f = .error (.channel s!"filter {f.text} not found") := by
      rw [Hub.poll, here]
    rw [refused]
    refine ⟨fun messages c' same => by contradiction, fun _ _ => ⟨rfl, ?_⟩⟩
    rw [Hub.after, Hub.call_poll_none here]
    rfl
  | some s =>
    rw [(Hub.poll_of_subscription? here).1]
    refine ⟨?_, fun e same => by contradiction⟩
    intro messages c' same
    cases same
    rw [Hub.after, Hub.call_poll_some here, Hub.waiting, here]
    exact ⟨rfl, rfl⟩

namespace Hub

theorem taken_poll (h : Hub) (f : Filter) : taken f (.poll f, (h.call (.poll f)).1) = h.waiting f := by
  unfold waiting
  cases here : h.subscription? f with
  | none =>
    rw [call_poll_none here]
    rfl
  | some s =>
    rw [call_poll_some here]
    exact if_pos rfl

theorem taken_other {f : Filter} {c : Call} (other : c ≠ .poll f) (reply : Reply) :
    taken f (c, reply) = [] := by
  unfold taken
  split
  · next g received same =>
    cases same
    exact if_neg fun same => other (congrArg _ same)
  · rfl

end Hub

theorem Store.put_cases (s : Store) (d : Document) : (s.put d).2.access = s.access ∧
    (s.access = .normal ∧ (s.put d).1 = .ok d.id ∨ s.access ≠ .normal ∧ ∃ e, (s.put d).1 = .error e) := by
  unfold put
  split
  · next works => exact ⟨rfl, .inl ⟨works, rfl⟩⟩
  · next down => exact ⟨rfl, .inr ⟨by rw [down]; nofun, _, rfl⟩⟩
  · next bytes foreign => exact ⟨rfl, .inr ⟨by rw [foreign]; nofun, _, rfl⟩⟩

namespace Relay

/-- How a relay goes on: its hub behind such calls, and such an announcement, if any, for the latest. -/
structure Goes (r : Relay) (asked : List Hub.Call) (newest : Option ContentId) (r' : Relay) : Prop where
  channel : r'.channel = { r.channel with hub := r.channel.hub.after asked }
  latest : r'.latest = newest.or r.latest
  target : r'.target = r.target
  filter : r'.filter = r.filter
  access : r'.store.access = r.store.access

variable {r r' : Relay} {asked : List Hub.Call} {newest : Option ContentId}

theorem Goes.refl (r : Relay) : r.Goes [] none r :=
  ⟨rfl, rfl, rfl, rfl, rfl⟩

theorem Goes.count (g : r.Goes asked newest r') (c : Counter) : r.Goes asked newest (r'.count c) :=
  ⟨g.channel, g.latest, g.target, g.filter, g.access⟩

theorem Goes.record (g : r.Goes asked newest r') (e : Http.Endpoint) :
    r.Goes asked newest (r'.record e) :=
  ⟨g.channel, g.latest, g.target, g.filter, g.access⟩

theorem Goes.of_record {e : Http.Endpoint} (g : (r.record e).Goes asked newest r') :
    r.Goes asked newest r' :=
  ⟨g.channel, g.latest, g.target, g.filter, g.access⟩

theorem Goes.works (g : r.Goes asked newest r') (works : r.channel.access = .normal) :
    r'.channel.access = .normal := by
  rw [g.channel]
  exact works

theorem goes_store (r : Relay) {store : Store} (access : store.access = r.store.access) :
    r.Goes [] none { r with store } :=
  ⟨rfl, rfl, rfl, rfl, access⟩

theorem goes_channel (r : Relay) {channel : Channel}
    (next : channel = { r.channel with hub := r.channel.hub.after asked }) :
    r.Goes asked none { r with channel } :=
  ⟨next, rfl, rfl, rfl, rfl⟩

theorem goes_unchanged (r : Relay) (same : r.channel.hub.after asked = r.channel.hub) :
    r.Goes asked none r := by
  refine ⟨?_, rfl, rfl, rfl, rfl⟩
  rw [same]

theorem goes_settle {α : Type} {outcome : α → Outcome} {x : Except Failure (α × Relay)}
    (done : ∀ a after, x = .ok (a, after) → r.Goes asked newest after)
    (failed : ∀ f, x = .error f → r.Goes asked newest r) :
    r.Goes asked newest (answered (r.settle outcome x)).2 := by
  cases x with
  | error f => exact failed f rfl
  | ok result => exact done result.1 result.2 rfl

theorem goes_poll (works : r.channel.access = .normal) (f : Filter) :
    (∀ messages after, r.poll f = .ok (messages, after) →
      messages = r.channel.hub.waiting f ∧ r.Goes [.poll f] none after) ∧
    ∀ e, r.poll f = .error e → r.channel.hub.waiting f = [] ∧ r.Goes [.poll f] none r := by
  obtain ⟨done, failed⟩ := Channel.poll_normal works f
  unfold poll
  cases polled : r.channel.poll f with
  | error e =>
    obtain ⟨empty, same⟩ := failed e polled
    exact ⟨fun messages after same => by contradiction, fun _ _ => ⟨empty, goes_unchanged r same⟩⟩
  | ok result =>
    obtain ⟨batch, next⟩ := done result.1 result.2 polled
    refine ⟨?_, fun e same => by contradiction⟩
    intro messages after same
    cases same
    exact ⟨batch, goes_channel r next⟩

theorem goes_advance (works : r.channel.access = .normal) (f : Filter) :
    (∀ latest after, r.advance f = .ok (latest, after) → after.latest = latest ∧
      r.Goes [.poll f] ((r.channel.hub.waiting f).getLast?.map (·.payload)) after) ∧
    ∀ e, r.advance f = .error e →
      r.Goes [.poll f] ((r.channel.hub.waiting f).getLast?.map (·.payload)) r := by
  obtain ⟨done, failed⟩ := goes_poll works f
  unfold advance
  cases polled : r.poll f with
  | error e =>
    obtain ⟨empty, goes⟩ := failed e polled
    refine ⟨fun latest after same => by contradiction, fun _ _ => ?_⟩
    rw [empty]
    exact goes
  | ok result =>
    obtain ⟨messages, behind⟩ := result
    obtain ⟨rfl, goes⟩ := done messages behind polled
    refine ⟨?_, fun e same => by contradiction⟩
    intro latest after same
    cases same
    refine ⟨rfl, goes.channel, ?_, goes.target, goes.filter, goes.access⟩
    dsimp only
    rw [goes.latest]
    rfl

theorem goes_relay (works : r.channel.access = .normal) (now : Nat) (raw : List UInt8) :
    r.Goes ((r.announcement? raw).toList.map (.publish now)) none (r.relay now raw).2 := by
  unfold relay announcement?
  cases Document.submit raw with
  | error f => exact .refl r
  | ok d =>
    dsimp only
    have outcome := Store.put_cases r.store d
    cases stored : r.store.put d with
    | mk result store =>
      rw [stored] at outcome
      obtain ⟨access, ⟨takes, same⟩ | ⟨refuses, e, same⟩⟩ := outcome
      · obtain ⟨done, failed⟩ := Channel.publish_normal works now (r.target.announcement d.id)
        dsimp only at same access
        subst same
        dsimp only
        rw [if_pos takes]
        cases announced : r.channel.publish now (r.target.announcement d.id) with
        | error e =>
          -- The document stays in the store, although it is not announced.
          refine ⟨?_, rfl, rfl, rfl, access⟩
          exact (goes_unchanged r (failed e announced)).channel
        | ok channel => exact ⟨done channel announced, rfl, rfl, rfl, access⟩
      · dsimp only at same
        subst same
        rw [if_neg refuses]
        exact goes_store r access

theorem goes_ingest (works : r.channel.access = .normal) (now : Nat) (raw : List UInt8) :
    r.Goes ((r.announcement? raw).toList.map (.publish now)) none (r.ingest now raw).2 := by
  have relayed := goes_relay works now raw
  unfold ingest
  cases result : r.relay now raw with
  | mk answer after =>
    rw [result] at relayed
    cases answer with
    | ok receipt => exact relayed.count _
    | error f => exact relayed.count _

theorem goes_serveNewMessages (works : r.channel.access = .normal) :
    r.Goes [.poll r.filter] none r.serveNewMessages.2 := by
  obtain ⟨done, failed⟩ := goes_poll works r.filter
  unfold serveNewMessages
  cases polled : r.poll r.filter with
  | error f => exact (failed f polled).2
  | ok result => exact (done result.1 result.2 polled).2

theorem goes_serveCatLast (works : r.channel.access = .normal) :
    r.Goes [.poll r.filter] ((r.channel.hub.waiting r.filter).getLast?.map (·.payload))
      r.serveCatLast.2 := by
  obtain ⟨done, failed⟩ := goes_advance works r.filter
  unfold serveCatLast
  cases advanced : r.advance r.filter with
  | error f => exact failed f advanced
  | ok result =>
    obtain ⟨latest, after⟩ := result
    obtain ⟨_, goes⟩ := done latest after advanced
    cases latest with
    | none => exact goes
    | some id => exact goes

theorem goes_serve (works : r.channel.access = .normal) (now : Nat) (route : Route) :
    r.Goes (route.drain?.toList.map fun _ => .poll r.filter)
      ((route.drain?.map r.drain).bind Drain.newest) (r.serve now route).2 := by
  have counted := (Goes.refl r).record route.endpoint
  cases route with
  | newMessages => exact (goes_serveNewMessages (r := r.record _) works).of_record
  | cat segment =>
    unfold serve
    dsimp only
    split
    · exact .refl r
    · exact counted
  | catLast => exact (goes_serveCatLast (r := r.record _) works).of_record
  | health => exact counted
  | metrics => exact counted

theorem goes_respond (works : r.channel.access = .normal) (now : Nat) (rules : Http.Cors)
    (q : Request) : r.Goes (q.drain?.toList.map fun _ => .poll r.filter)
      ((q.drain?.map r.drain).bind Drain.newest) (r.respond now rules q).2 := by
  unfold respond dispatch Http.Request.drain?
  cases q.method with
  | options => exact .refl r
  | get | head =>
    cases Route.ofPath? q.path with
    | none => exact .refl r
    | some route => exact goes_serve works now route
  | other name =>
    cases Route.ofPath? q.path with
    | none => exact .refl r
    | some route => exact .refl r

theorem request_answered {now : Nat} {q : Request} {answer : Except Failure Outcome}
    (replied : (r.step now (.request q)).1 = answer.mapError .failure) : ∃ rules,
      r.serviceRules = .ok rules ∧ answer = .ok (.response (r.respond now rules q).1) := by
  rw [step, request] at replied
  cases opens : r.serviceRules with
  | error fault =>
    rw [opens] at replied
    cases answer <;> injection replied
    contradiction
  | ok rules =>
    rw [opens] at replied
    refine ⟨rules, rfl, ?_⟩
    cases answer with
    | error f => contradiction
    | ok o => cases replied; rfl

theorem respond_get (r : Relay) (now : Nat) {q : Request} {route : Route} (rules : Http.Cors)
    (get : q.method = .get) (path : Route.ofPath? q.path = some route) : ∃ headers,
      r.respond now rules q = ({ (r.serve now route).1 with headers }, (r.serve now route).2) := by
  unfold respond
  simp only [get, dispatch, path]
  exact ⟨_, rfl⟩

theorem step_get {r : Relay} {now : Nat} {q : Request} {route : Route} (get : q.method = .get)
    (path : Route.ofPath? q.path = some route) {answer : Except Failure Outcome}
    (replied : (r.step now (.request q)).1 = answer.mapError .failure) : ∃ headers,
      answer = .ok (.response { (r.serve now route).1 with headers }) ∧
        (r.step now (.request q)).2 = (r.serve now route).2 := by
  obtain ⟨rules, opens, rfl⟩ := request_answered replied
  obtain ⟨headers, responds⟩ := respond_get r now rules get path
  refine ⟨headers, ?_, ?_⟩
  · rw [responds]
  · rw [step, request, opens]
    dsimp only
    rw [responds]

theorem goes_step (works : r.channel.access = .normal) (now : Nat) {s : Step}
    (own : ∀ f, s = .advance f → f = r.filter) {answer : Except Failure Outcome}
    (replied : (r.step now s).1 = answer.mapError .failure) :
    r.Goes (r.calls now s) ((r.drain? s).bind Drain.newest) (r.step now s).2 := by
  cases s with
  | put raw =>
    rw [step, put]
    cases Document.submit raw with
    | error f => exact .refl r
    | ok d => exact goes_store r (Store.put_cases r.store d).1
  | get id => exact .refl r
  | contains id => exact .refl r
  | counts => exact .refl r
  | registerKey keyId publicKey =>
    rw [step, registerKey, calls]
    cases KeyId.read keyId with
    | error f => exact .refl r
    | ok id =>
      cases PublicKey.read publicKey with
      | error f => exact .refl r
      | ok key => exact ⟨rfl, rfl, rfl, rfl, rfl⟩
  | createFilter topic keyId =>
    rw [step, createFilter, calls]
    cases Topic.read topic with
    | error f => exact .refl r
    | ok topic =>
      cases KeyId.read keyId with
      | error f => exact .refl r
      | ok id =>
        obtain ⟨done, failed⟩ := Channel.createFilter_normal works topic id
        dsimp only [bind, Except.bind]
        cases created : r.channel.createFilter topic id with
        | error e => exact goes_unchanged r (failed e created)
        | ok result => exact goes_channel r (done _ _ created)
  | publish payload publicKey topic work =>
    rw [step, publish, calls]
    cases ContentId.read payload with
    | error f => exact .refl r
    | ok id =>
      cases PublicKey.read publicKey with
      | error f => exact .refl r
      | ok recipient =>
        cases Topic.read topic with
        | error f => exact .refl r
        | ok topic =>
          obtain ⟨done, failed⟩ := Channel.publish_normal works now ⟨id, recipient, topic, work⟩
          dsimp only [bind, Except.bind]
          cases published : r.channel.publish now ⟨id, recipient, topic, work⟩ with
          | error e => exact goes_unchanged r (failed e published)
          | ok channel => exact goes_channel r (done channel published)
  | poll f =>
    obtain ⟨done, failed⟩ := goes_poll works f
    have unadvanced : (r.drain? (.poll f)).bind Drain.newest = none := by
      rw [drain?_poll]
      split <;> rfl
    rw [unadvanced, step]
    apply goes_settle
    · exact fun messages after polled => (done messages after polled).2
    · exact fun e refused => (failed e refused).2
  | pending f => exact .refl r
  | ingest raw => exact goes_ingest works now raw
  | deliver delivery =>
    cases delivery with
    | complete raw => exact goes_ingest works now raw
    | broken => exact .refl r
  | advance f =>
    obtain rfl := own f rfl
    obtain ⟨done, failed⟩ := goes_advance works r.filter
    rw [drain?_advance, if_pos rfl, step]
    apply goes_settle
    · exact fun latest after taken => (done latest after taken).2
    · exact failed
  | current => exact .refl r
  | request q =>
    obtain ⟨rules, opens, _⟩ := request_answered replied
    rw [step, request, opens]
    exact goes_respond works now rules q

theorem calls_cases (r : Relay) (now : Nat) (s : Step) :
    (r.calls now s = [] ∧ s.drain? r.filter = none) ∨
      (r.calls now s = [.poll r.filter] ∧ ∃ advances, s.drain? r.filter = some advances) ∨
      ∃ c, r.calls now s = [c] ∧ c ≠ .poll r.filter ∧ s.drain? r.filter = none ∧
        (c.isCreation = true → s.isCreation = true) := by
  have polls (f : Filter) (advances : Bool) :
      (if f = r.filter then some advances else none) = none ∧ Hub.Call.poll f ≠ .poll r.filter ∨
        (if f = r.filter then some advances else none) = some advances ∧ f = r.filter := by
    by_cases own : f = r.filter
    · exact .inr ⟨if_pos own, own⟩
    · exact .inl ⟨if_neg own, by simp [own]⟩
  have announced (a : Option Announcement) : a.toList.map (Hub.Call.publish now) = [] ∨
      ∃ c, a.toList.map (Hub.Call.publish now) = [c] ∧ c ≠ .poll r.filter ∧ c.isCreation = false := by
    cases a with
    | none => exact .inl rfl
    | some a => exact .inr ⟨.publish now a, rfl, nofun, rfl⟩
  cases s with
  | registerKey keyId publicKey =>
    unfold calls
    dsimp only
    split
    · exact .inr (.inr ⟨_, rfl, nofun, rfl, nofun⟩)
    · exact .inl ⟨rfl, rfl⟩
  | createFilter topic keyId =>
    unfold calls
    dsimp only
    split
    · exact .inr (.inr ⟨_, rfl, nofun, rfl, fun _ => rfl⟩)
    · exact .inl ⟨rfl, rfl⟩
  | publish payload publicKey topic work =>
    unfold calls
    dsimp only
    split
    · exact .inr (.inr ⟨_, rfl, nofun, rfl, nofun⟩)
    · exact .inl ⟨rfl, rfl⟩
  | poll f =>
    obtain ⟨none, other⟩ | ⟨some, rfl⟩ := polls f false
    · exact .inr (.inr ⟨_, rfl, other, none, nofun⟩)
    · exact .inr (.inl ⟨rfl, false, some⟩)
  | advance f =>
    obtain ⟨none, other⟩ | ⟨some, rfl⟩ := polls f true
    · exact .inr (.inr ⟨_, rfl, other, none, nofun⟩)
    · exact .inr (.inl ⟨rfl, true, some⟩)
  | ingest raw =>
    obtain none | ⟨c, one, other, kind⟩ := announced (r.announcement? raw)
    · exact .inl ⟨none, rfl⟩
    · exact .inr (.inr ⟨c, one, other, rfl, by simp [kind]⟩)
  | deliver delivery =>
    cases delivery with
    | broken => exact .inl ⟨rfl, rfl⟩
    | complete raw =>
      obtain none | ⟨c, one, other, kind⟩ := announced (r.announcement? raw)
      · exact .inl ⟨none, rfl⟩
      · exact .inr (.inr ⟨c, one, other, rfl, by simp [kind]⟩)
  | request q =>
    change (q.drain?.toList.map (fun _ => Hub.Call.poll r.filter) = [] ∧ q.drain? = none) ∨
      (q.drain?.toList.map (fun _ => Hub.Call.poll r.filter) = [.poll r.filter] ∧
        ∃ advances, q.drain? = some advances) ∨ _
    cases q.drain? with
    | none => exact .inl ⟨rfl, rfl⟩
    | some advances => exact .inr (.inl ⟨rfl, advances, rfl⟩)
  | _ => exact .inl ⟨rfl, rfl⟩

theorem polled_calls (r : Relay) (now : Nat) (s : Step) :
    Hub.polled r.filter (r.channel.hub.trace (r.calls now s)) = batches (r.drain? s).toList := by
  unfold drain?
  obtain ⟨none, undrained⟩ | ⟨one, advances, drained⟩ | ⟨c, one, other, undrained, _⟩ :=
    r.calls_cases now s
  · rw [none, undrained]
    rfl
  · rw [one, drained]
    exact congrArg (· ++ []) (Hub.taken_poll r.channel.hub r.filter)
  · rw [one, undrained]
    exact congrArg (· ++ []) (Hub.taken_other other _)

theorem creations_calls (r : Relay) (now : Nat) (s : Step) :
    (r.calls now s).countP Hub.Call.isCreation ≤ [s].countP Step.isCreation := by
  obtain ⟨none, _⟩ | ⟨one, _⟩ | ⟨c, one, _, _, creation⟩ := r.calls_cases now s
  · rw [none]
    exact Nat.zero_le _
  · rw [one]
    exact Nat.zero_le _
  · rw [one, List.countP_singleton, List.countP_singleton]
    by_cases made : c.isCreation = true
    · simp only [made, creation made, if_true, Nat.le_refl]
    · rw [if_neg made]
      exact Nat.zero_le _

def allCalls (r : Relay) (steps : List (Nat × Step)) : List Hub.Call :=
  steps.flatMap fun t => r.calls t.1 t.2

theorem creations_allCalls (r : Relay) (steps : List (Nat × Step)) :
    (r.allCalls steps).countP Hub.Call.isCreation ≤ steps.countP (·.2.isCreation) := by
  induction steps with
  | nil => exact Nat.le_refl 0
  | cons t rest ih =>
    have first := creations_calls r t.1 t.2
    rw [List.countP_singleton] at first
    rw [allCalls, List.flatMap_cons, List.countP_append, List.countP_cons, Nat.add_comm]
    exact Nat.add_le_add ih first

theorem Goes.calls (g : r.Goes asked newest r') (now : Nat) (s : Step) :
    r'.calls now s = r.calls now s := by
  unfold Relay.calls announcement?
  rw [g.target, g.filter, g.access]

theorem Goes.trans {r'' : Relay} {calls' : List Hub.Call} {newest' : Option ContentId}
    (g : r.Goes asked newest r') (g' : r'.Goes calls' newest' r'') :
    r.Goes (asked ++ calls') (newest'.or newest) r'' where
  channel := by rw [g'.channel, g.channel, Hub.after_append]
  latest := by rw [g'.latest, g.latest, Option.or_assoc]
  target := g'.target.trans g.target
  filter := g'.filter.trans g.filter
  access := g'.access.trans g.access

theorem goes_run {steps : List (Nat × Step)} : ∀ {r final : Relay}
    {answers : List (Except Failure Outcome)}, r.channel.access = .normal →
    (∀ t ∈ steps, ∀ f, t.2 = .advance f → f = r.filter) → r.run steps = .ok (answers, final) →
    r.Goes (r.allCalls steps) (latestOf (r.drains steps)) final ∧
      Hub.polled r.filter (r.channel.hub.trace (r.allCalls steps)) = batches (r.drains steps) := by
  induction steps with
  | nil =>
    intro r final answers _ _ ran
    cases ran
    exact ⟨.refl r, rfl⟩
  | cons t rest ih =>
    intro r final answers works own ran
    obtain ⟨answer, later, replied, ran, _⟩ := run_cons_eq_ok.1 ran
    have goes := goes_step works t.1 (own t (by simp)) replied
    have others : ∀ u ∈ rest, ∀ f, u.2 = .advance f → f = (r.step t.1 t.2).2.filter := by
      rw [goes.filter]
      exact fun u hu => own u (by simp [hu])
    obtain ⟨onward, taken⟩ := ih (goes.works works) others ran
    -- What the rest asks for depends on nothing that a step changes.
    have asked : (r.step t.1 t.2).2.allCalls rest = r.allCalls rest := by
      unfold allCalls
      congr 1
      funext u
      exact goes.calls u.1 u.2
    rw [asked, goes.filter, goes.channel] at taken
    rw [asked] at onward
    constructor
    · have whole := goes.trans onward
      rw [← latestOf_toList, ← latestOf_append] at whole
      exact whole
    · rw [drains, batches_append, ← taken, ← polled_calls r t.1 t.2, ← Hub.polled_append,
        ← Hub.trace_append]
      rfl

theorem ingest_of_submit {r : Relay} (works : r.channel.access = .normal)
    (takes : r.store.access = .normal) (valid : r.target.work.validate = .ok ()) {raw : List UInt8}
    {d : Document} (submitted : Document.submit raw = .ok d) (now : Nat) :
    (r.ingest now raw).1 = .ok ⟨d.id, d.id.payload⟩ := by
  have published : ∃ hub, r.channel.hub.publish now (r.target.announcement d.id) = .ok hub := by
    unfold Hub.publish
    rw [show (r.target.announcement d.id).work = r.target.work from rfl, valid]
    exact ⟨_, rfl⟩
  obtain ⟨hub, published⟩ := published
  unfold ingest relay Store.put Channel.publish
  rw [submitted, takes, works]
  dsimp only [Objects.put]
  rw [published]
  rfl

def documentThen (raw : List UInt8) (reads : List (Nat × Request)) : List (Nat × Step) :=
  (1, .ingest raw) :: reads.map fun t => (t.1, .request t.2)

theorem responses_of_requests {reads : List (Nat × Request)} : ∀ {r final : Relay}
    {answers : List (Except Failure Outcome)},
    r.run (reads.map fun t => (t.1, .request t.2)) = .ok (answers, final) →
    ∀ a ∈ answers, ∃ response, a = .ok (.response response) := by
  induction reads with
  | nil =>
    intro r final answers ran
    cases ran
    exact nofun
  | cons t rest ih =>
    intro r final answers ran
    obtain ⟨answer, later, replied, onward, rfl⟩ := run_cons_eq_ok.1 ran
    obtain ⟨rules, _, rfl⟩ := request_answered replied
    exact List.forall_mem_cons.2 ⟨⟨_, rfl⟩, ih onward⟩

theorem exists_run_documentThen {raw : List UInt8} {d : Document}
    (submitted : Document.submit raw = .ok d) (reads : List (Nat × Request)) :
    ∃ r later final, plainSetup.relay 0 = .ok r ∧
      r.run (documentThen raw reads) = .ok (.ok (.ingested ⟨d.id, d.id.payload⟩) :: later, final) ∧
      ∀ a ∈ later, ∃ response, a = .ok (.response response) := by
  obtain ⟨r, opened, takes, work⟩ : ∃ r, plainSetup.relay 0 = .ok r ∧ r.store.access = .normal ∧
      r.target.work = .standard := ⟨_, rfl, rfl, rfl⟩
  have valid : r.target.work.validate = .ok () := by
    rw [work]
    decide +kernel
  obtain ⟨backed, access, origins⟩ := backed_of_opened opened
  have opens : r.serviceRules = .ok .anyOrigin := by
    rw [serviceRules, origins]
    rfl
  have indirect : ∀ t ∈ documentThen raw reads, t.2.isDirect = false := by
    intro t ht
    obtain rfl | ht := List.mem_cons.1 ht
    · rfl
    · obtain ⟨u, _, rfl⟩ := List.mem_map.1 ht
      rfl
  obtain ⟨answers, final, ran⟩ := Runs.exists_run ⟨backed, access⟩ opens indirect
  obtain ⟨answer, later, replied, onward, rfl⟩ := run_cons_eq_ok.1 ran
  have told : (r.ingest 1 raw).1.map Outcome.ingested = answer := answer_injective replied
  rw [ingest_of_submit access takes valid submitted 1] at told
  cases told
  exact ⟨r, later, final, opened, ran, responses_of_requests onward⟩

end Relay

end Herald
