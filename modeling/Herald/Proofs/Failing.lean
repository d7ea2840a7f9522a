import Herald.Proofs.Ingests
import Herald.Proofs.Newest
import Herald.Proofs.Requests

/-!
What a step that fails leaves behind: the store, the channel and the latest announcement as they were.
There are two exceptions. An ingest whose announcement the channel does not take has stored its document;
and a request for the latest document that is not found has taken the announcement of it, and asks for
the same one again when nothing new was announced.
-/
namespace Herald

open Http (Endpoint Request Route)

theorem Store.kind_of_put {s : Store} {d : Document} {f : Failure} (refused : (s.put d).1 = .error f) :
    f.kind = .storeUnavailable := by
  unfold put at refused
  split at refused
  · contradiction
  · cases refused
    rfl
  · cases refused
    rfl

theorem Hub.waiting_drain (h : Hub) (f : Filter) : (h.drain f).waiting f = [] := by
  unfold waiting
  rw [subscription?_drain]
  cases here : h.subscription? f with
  | none => rfl
  | some s =>
    rw [Option.map_some, if_pos (filter_of_subscription? here)]

def isRefusal : Except Step.Fault Outcome → Bool
  | .error _ => true
  | .ok (.response response) => 400 ≤ response.status
  | .ok _ => false

/-- The filter from which a step takes the newest announcement for the latest. -/
def Step.advanced? (own : Filter) : Step → Option Filter
  | .advance f => some f
  | .request q => if q.endpoint? = some .catLast then some own else none
  | _ => none

namespace Relay

/-- A step that fails. A producer whose document is lost is not told. -/
def Fails (r : Relay) (now : Nat) (s : Step) : Prop :=
  isRefusal (r.step now s).1 = true ∨
    ∃ raw f, s = .deliver (.complete raw) ∧ (r.ingest now raw).1 = .error f

/-- The channel does not take the announcement of a document. -/
structure Strands (r : Relay) (now : Nat) (s : Step) (raw : List UInt8) : Prop where
  ingested : ingested? s = some raw
  failed : ∃ f, (r.ingest now raw).1 = .error f ∧ f.kind = .channelUnavailable

/-- The announcement that is taken for the latest next is of a document that is not there. -/
structure Lacks (r : Relay) (id : ContentId) : Prop where
  works : r.channel.access = .normal
  listening : r.channel.hub.Knows r.filter
  next : r.next = some id
  missing : ∃ f, r.store.get id = .error f

structure Misses (r : Relay) (s : Step) (id : ContentId) : Prop where
  asked : ∃ q, s = .request q ∧ q.endpoint? = some .catLast
  opens : ∃ rules, r.serviceRules = .ok rules
  lacks : r.Lacks id

/-- Whoever takes the newest announcement for the latest finds none. -/
def Calm (r : Relay) (steps : List (Nat × Step)) : Prop :=
  ∀ before now s behind, steps = before ++ (now, s) :: behind →
    ∀ f, s.advanced? (r.after before).filter = some f → (r.after before).channel.hub.waiting f = []

/-- What a step that fails leaves behind. -/
structure Aftermath (r : Relay) (now : Nat) (s : Step) (r' : Relay) : Prop where
  stranded : ∀ raw, r.Strands now s raw → ∃ d, Document.normalize raw = .ok d ∧
    r.store.Takes d r'.store ∧ r'.channel = r.channel ∧ r'.latest = r.latest
  missed : ∀ id, r.Misses s id → r'.store = r.store ∧
    r'.channel = { r.channel with hub := r.channel.hub.drain r.filter } ∧ r'.latest = some id ∧
    r'.channel.hub.waiting r.filter = []
  again : ∀ id, r.Misses s id → ∀ more time q answers final, q.endpoint? = some .catLast →
    r'.Calm (more ++ [(time, .request q)]) →
    r'.run (more ++ [(time, .request q)]) = .ok (answers, final) → ∃ response,
      answers.getLast? = some (.ok (.response response)) ∧
      response.status = (final.showDocument id).status ∧
      (q.method = .get → response.body = (final.showDocument id).body) ∧ final.latest = some id
  untouched : (∀ raw, ¬ r.Strands now s raw) → (∀ id, ¬ r.Misses s id) → r.Untouched r'

variable {r r' : Relay}

theorem Untouched.refl (r : Relay) : r.Untouched r :=
  ⟨rfl, rfl, rfl⟩

theorem untouched_settle {α : Type} {outcome : α → Outcome} {x : Except Failure (α × Relay)}
    (mild : ∀ a, isRefusal (.ok (outcome a)) = false)
    (refused : isRefusal (answered (r.settle outcome x)).1 = true) :
    r.Untouched (answered (r.settle outcome x)).2 := by
  cases x with
  | error f => exact .refl r
  | ok result =>
    have quiet := mild result.1
    change isRefusal (.ok (outcome result.1)) = true at refused
    rw [quiet] at refused
    contradiction

theorem stranded_ingest {now : Nat} {raw : List UInt8} {f : Failure}
    (failed : (r.ingest now raw).1 = .error f) (kind : f.kind = .channelUnavailable) :
    ∃ d, Document.normalize raw = .ok d ∧ r.store.Takes d (r.ingest now raw).2.store ∧
      (r.ingest now raw).2.channel = r.channel ∧ (r.ingest now raw).2.latest = r.latest := by
  obtain ⟨stage, ends⟩ := r.exists_ends now raw
  rw [failed] at ends
  cases stage with
  | unread =>
    obtain ⟨_, ⟨_, ⟨⟩, malformed⟩, _⟩ := ends
    rw [malformed] at kind
    contradiction
  | unstored =>
    obtain ⟨d, _, _, refused, ⟨⟩, _⟩ := ends
    rw [Store.kind_of_put refused] at kind
    contradiction
  | unannounced =>
    obtain ⟨d, _, normalized, _, _, _, _, takes, channel, latest⟩ := ends
    exact ⟨d, normalized, takes, channel, latest⟩
  | announced =>
    obtain ⟨_, _, _, ⟨⟩, _⟩ := ends

theorem untouched_ingest {now : Nat} {raw : List UInt8} {f : Failure}
    (failed : (r.ingest now raw).1 = .error f) (kind : f.kind ≠ .channelUnavailable) :
    r.Untouched (r.ingest now raw).2 := by
  obtain ⟨stage, ends⟩ := r.exists_ends now raw
  rw [failed] at ends
  cases stage with
  | unread => exact ends.2.2
  | unstored =>
    obtain ⟨_, _, _, _, _, untouched⟩ := ends
    exact untouched
  | unannounced =>
    obtain ⟨_, _, _, _, _, ⟨⟩, unavailable, _⟩ := ends
    exact absurd unavailable kind
  | announced =>
    obtain ⟨_, _, _, ⟨⟩, _⟩ := ends

theorem poll_eq_ok {f : Filter} {messages : List Received} (polled : r.poll f = .ok (messages, r')) :
    r.channel.access = .normal ∧ r.channel.hub.Knows f ∧ messages = r.channel.hub.waiting f ∧
      r' = { r with channel := { r.channel with hub := r.channel.hub.drain f } } := by
  obtain ⟨⟨taken, channel⟩, made, same⟩ := bind_eq_ok_iff.1 polled
  cases same
  unfold Channel.poll at made
  split at made
  · contradiction
  · next works =>
    cases here : r.channel.hub.subscription? f with
    | none =>
      rw [Hub.poll, here] at made
      contradiction
    | some s =>
      rw [(Hub.poll_of_subscription? here).1] at made
      cases made
      exact ⟨works, ⟨s, here⟩, rfl, rfl⟩

theorem advance_eq_ok {f : Filter} {latest : Option ContentId}
    (advanced : r.advance f = .ok (latest, r')) :
    r.channel.access = .normal ∧ r.channel.hub.Knows f ∧
      latest = ((r.channel.hub.waiting f).getLast?.map (·.payload)).or r.latest ∧
      r' = { r with channel := { r.channel with hub := r.channel.hub.drain f }, latest } := by
  obtain ⟨⟨messages, after⟩, polled, same⟩ := bind_eq_ok_iff.1 advanced
  cases same
  obtain ⟨works, known, rfl, rfl⟩ := poll_eq_ok polled
  exact ⟨works, known, rfl, rfl⟩

theorem advance_of_known {f : Filter} (works : r.channel.access = .normal)
    (known : r.channel.hub.Knows f) : ∃ latest after, r.advance f = .ok (latest, after) := by
  obtain ⟨after, polled⟩ := poll_of_known works known
  rw [advance, polled]
  exact ⟨_, _, rfl⟩

theorem Rechannels.latest (h : r.Rechannels r') : r'.latest = r.latest := by
  obtain ⟨channel, _, rfl⟩ := h
  rfl

theorem latest_advance {f : Filter} {latest : Option ContentId}
    (none : r.channel.hub.waiting f = []) (advanced : r.advance f = .ok (latest, r')) :
    r'.latest = r.latest := by
  obtain ⟨_, _, same, rfl⟩ := advance_eq_ok advanced
  rw [none] at same
  exact same

theorem latest_ingest (r : Relay) (now : Nat) (raw : List UInt8) :
    (r.ingest now raw).2.latest = r.latest := by
  obtain ⟨store, channel, c, _, _, same⟩ := r.exists_ingest now raw
  rw [same]
  rfl

theorem latest_serve (r : Relay) (now : Nat) {route : Route}
    (calm : route = .catLast → r.channel.hub.waiting r.filter = []) :
    (r.serve now route).2.latest = r.latest := by
  cases route with
  | newMessages =>
    change (r.record .newMessages).serveNewMessages.2.latest = (r.record .newMessages).latest
    unfold serveNewMessages
    cases polled : (r.record .newMessages).poll (r.record .newMessages).filter with
    | error f => rfl
    | ok result => exact (rechannels_poll polled).latest
  | cat segment =>
    unfold serve
    dsimp only
    split <;> rfl
  | catLast =>
    change (r.record .catLast).serveCatLast.2.latest = (r.record .catLast).latest
    unfold serveCatLast
    cases advanced : (r.record .catLast).advance (r.record .catLast).filter with
    | error f => rfl
    | ok result =>
      obtain ⟨latest, after⟩ := result
      have same := latest_advance (r := r.record .catLast) (calm rfl) advanced
      cases latest <;> exact same
  | health => rfl
  | metrics => rfl

theorem latest_step (r : Relay) (now : Nat) {s : Step}
    (calm : ∀ f, s.advanced? r.filter = some f → r.channel.hub.waiting f = []) :
    (r.step now s).2.latest = r.latest := by
  cases s with
  | put raw =>
    rw [step, put]
    cases Document.submit raw <;> rfl
  | ingest raw => exact r.latest_ingest now raw
  | deliver delivery =>
    cases delivery with
    | complete raw => exact r.latest_ingest now raw
    | broken => rfl
  | advance f =>
    rw [step]
    exact of_settle (P := (·.latest = r.latest)) rfl fun latest after done => latest_advance (calm f rfl) done
  | request q =>
    rw [step, request]
    cases r.serviceRules with
    | error fault => rfl
    | ok rules =>
      dsimp only
      obtain ⟨_, same⟩ | ⟨route, serves⟩ := r.respond_cases now rules q
      · rw [same]
      · rw [serves.after]
        apply latest_serve
        rintro rfl
        apply calm
        rw [Step.advanced?, serves.counted]
        rfl
  | _ => exact (r.rechannels_step now rfl).latest

theorem Calm.of_append {before behind : List (Nat × Step)} (calm : r.Calm (before ++ behind)) :
    r.Calm before := by
  rintro first now s rest rfl
  exact calm first now s (rest ++ behind) (by simp)

theorem latest_after {steps : List (Nat × Step)} (calm : r.Calm steps) :
    (r.after steps).latest = r.latest := by
  induction steps using List.reverseRecOn with
  | nil => rfl
  | append_singleton steps t ih =>
    rw [after_append, ← ih calm.of_append]
    exact latest_step _ t.1 (calm steps t.1 t.2 [] rfl)

theorem advance_own {latest : Option ContentId} (advanced : r.advance r.filter = .ok (latest, r')) :
    latest = r.next ∧
      r' = { r with channel := { r.channel with hub := r.channel.hub.drain r.filter }, latest } := by
  obtain ⟨_, _, same, after⟩ := advance_eq_ok advanced
  refine ⟨?_, after⟩
  rw [same, next, unread, List.getLast?_map]

theorem Lacks.record {id : ContentId} (lacks : r.Lacks id) (e : Endpoint) : (r.record e).Lacks id :=
  ⟨lacks.works, lacks.listening, lacks.next, lacks.missing⟩

theorem serveCatLast_lacking {id : ContentId} (lacks : r.Lacks id) :
    r.serveCatLast.2.store = r.store ∧
      r.serveCatLast.2.channel = { r.channel with hub := r.channel.hub.drain r.filter } ∧
      r.serveCatLast.2.latest = some id := by
  obtain ⟨latest, after, advanced⟩ := advance_of_known lacks.works lacks.listening
  obtain ⟨same, rfl⟩ := advance_own advanced
  rw [lacks.next] at same
  subst same
  unfold serveCatLast
  rw [advanced]
  exact ⟨rfl, rfl, rfl⟩

theorem serveCatLast_refused (refused : 400 ≤ r.serveCatLast.1.status) :
    r.serveCatLast.2 = r ∨ ∃ id, r.Lacks id := by
  unfold serveCatLast at refused ⊢
  cases advanced : r.advance r.filter with
  | error f => exact .inl rfl
  | ok result =>
    obtain ⟨latest, after⟩ := result
    obtain ⟨works, known, _, _⟩ := advance_eq_ok advanced
    obtain ⟨same, rfl⟩ := advance_own advanced
    rw [advanced] at refused
    cases latest with
    | none => exact absurd refused (by decide : ¬ 400 ≤ 200)
    | some id =>
      refine .inr ⟨id, works, known, same.symm, ?_⟩
      cases found : r.store.get id with
      | error f => exact ⟨f, rfl⟩
      | ok d =>
        dsimp only at refused
        rw [showDocument, found] at refused
        exact absurd refused (by decide : ¬ 400 ≤ 200)

theorem serve_refused {now : Nat} {route : Route} (refused : 400 ≤ (r.serve now route).1.status) :
    r.Untouched (r.serve now route).2 ∨ route = .catLast ∧ ∃ id, r.Lacks id := by
  cases route with
  | newMessages =>
    left
    change 400 ≤ (r.record .newMessages).serveNewMessages.1.status at refused
    change r.Untouched (r.record .newMessages).serveNewMessages.2
    unfold serveNewMessages at refused ⊢
    cases polled : (r.record .newMessages).poll (r.record .newMessages).filter with
    | error f => exact ⟨rfl, rfl, rfl⟩
    | ok result =>
      rw [polled] at refused
      exact absurd refused (by decide : ¬ 400 ≤ 200)
  | cat segment =>
    left
    unfold serve
    dsimp only
    split <;> exact ⟨rfl, rfl, rfl⟩
  | catLast =>
    obtain same | ⟨id, lacks⟩ := serveCatLast_refused (r := r.record .catLast) refused
    · left
      change r.Untouched (r.record .catLast).serveCatLast.2
      rw [same]
      exact ⟨rfl, rfl, rfl⟩
    · exact .inr ⟨rfl, id, lacks.works, lacks.listening, lacks.next, lacks.missing⟩
  | health => exact .inl ⟨rfl, rfl, rfl⟩
  | metrics => exact .inl ⟨rfl, rfl, rfl⟩

theorem route_of_endpoint {route : Route} (asked : route.endpoint = .catLast) : route = .catLast := by
  cases route <;> first | rfl | contradiction

theorem step_catLast {now : Nat} {q : Request} (asked : q.endpoint? = some .catLast)
    {answer : Except Failure Outcome}
    (replied : (r.step now (.request q)).1 = answer.mapError .failure) :
    ∃ response, answer = .ok (.response response) ∧
      response.status = (r.serve now .catLast).1.status ∧
      (q.method = .get → response.body = (r.serve now .catLast).1.body) ∧
      (r.step now (.request q)).2 = (r.serve now .catLast).2 := by
  obtain ⟨rules, opens, rfl⟩ := request_answered replied
  obtain ⟨uncounted, _⟩ | ⟨route, serves⟩ := r.respond_cases now rules q
  · rw [asked] at uncounted
    contradiction
  · have counted := serves.counted
    rw [asked, Option.some.injEq] at counted
    obtain rfl := route_of_endpoint counted.symm
    refine ⟨_, rfl, serves.status, serves.body, ?_⟩
    rw [step, request, opens]
    exact serves.after

theorem untouched_request {now : Nat} {q : Request}
    (refused : isRefusal (r.step now (.request q)).1 = true)
    (found : ∀ id, ¬ r.Misses (.request q) id) : r.Untouched (r.step now (.request q)).2 := by
  rw [step, request] at refused ⊢
  cases opens : r.serviceRules with
  | error fault => exact .refl r
  | ok rules =>
    rw [opens] at refused
    dsimp only at refused ⊢
    obtain ⟨_, same⟩ | ⟨route, serves⟩ := r.respond_cases now rules q
    · rw [same]
      exact .refl r
    · have status : 400 ≤ (r.serve now route).1.status := by
        rw [← serves.status]
        exact of_decide_eq_true refused
      rw [serves.after]
      obtain untouched | ⟨rfl, id, lacks⟩ := serve_refused status
      · exact untouched
      · exact absurd ⟨⟨q, rfl, serves.counted⟩, ⟨rules, opens⟩, lacks⟩ (found id)

theorem untouched_step {now : Nat} {s : Step} (refused : isRefusal (r.step now s).1 = true)
    (announced : ∀ raw, ¬ r.Strands now s raw) (found : ∀ id, ¬ r.Misses s id) :
    r.Untouched (r.step now s).2 := by
  cases s with
  | put raw =>
    rw [step, put] at refused ⊢
    cases submitted : Document.submit raw with
    | error f => exact .refl r
    | ok d =>
      rw [submitted] at refused
      cases put : (r.store.put d).1 with
      | error f => exact ⟨Store.put_refused put, rfl, rfl⟩
      | ok id =>
        change isRefusal (((r.store.put d).1.map Outcome.stored).mapError .failure) = true at refused
        rw [put] at refused
        contradiction
  | registerKey keyId publicKey => exact untouched_settle (fun _ => rfl) refused
  | createFilter topic keyId => exact untouched_settle (fun _ => rfl) refused
  | publish payload publicKey topic work => exact untouched_settle (fun _ => rfl) refused
  | poll f => exact untouched_settle (fun _ => rfl) refused
  | advance f => exact untouched_settle (fun _ => rfl) refused
  | ingest raw =>
    cases failed : (r.ingest now raw).1 with
    | error f =>
      apply untouched_ingest failed
      intro kind
      exact announced raw ⟨rfl, f, failed, kind⟩
    | ok receipt =>
      change isRefusal (((r.ingest now raw).1.map Outcome.ingested).mapError .failure) = true at refused
      rw [failed] at refused
      contradiction
  | deliver delivery => contradiction
  | request q => exact untouched_request refused found
  | _ => exact .refl r

theorem showLatest_of_latest {id : ContentId} (latest : r.latest = some id) :
    r.showLatest = r.showDocument id := by
  unfold showLatest
  rw [latest]

theorem again_of_lacks {now : Nat} {first : Request} {id : ContentId} (lacks : r.Lacks id)
    (missed : first.endpoint? = some .catLast) {answer : Except Failure Outcome}
    (replied : (r.step now (.request first)).1 = answer.mapError .failure)
    {more : List (Nat × Step)} {time : Nat} {q : Request} {final : Relay}
    {answers : List (Except Failure Outcome)} (asked : q.endpoint? = some .catLast)
    (calm : (r.step now (.request first)).2.Calm (more ++ [(time, .request q)]))
    (ran : (r.step now (.request first)).2.run (more ++ [(time, .request q)]) = .ok (answers, final)) :
    ∃ response, answers.getLast? = some (.ok (.response response)) ∧
      response.status = (final.showDocument id).status ∧
      (q.method = .get → response.body = (final.showDocument id).body) ∧ final.latest = some id := by
  obtain ⟨_, _, _, _, after⟩ := step_catLast missed replied
  have taken : (r.step now (.request first)).2.latest = some id := by
    rw [after]
    exact (serveCatLast_lacking (lacks.record .catLast)).2.2
  have latest : final.latest = some id := by
    rw [← (run_eq_ok_iff.1 ran).1, latest_after calm, taken]
  obtain ⟨_, answer', later, rfl, _, _, reached, replied', ended⟩ := run_around ran
  cases ended
  -- The channel still works behind all these steps, and the filter is still there.
  have onward := (proceeds_step replied).trans (proceeds_run reached)
  have works := onward.channel.access.trans lacks.works
  have known := onward.channel.knows _ lacks.listening
  rw [← onward.filter] at known
  obtain ⟨response, rfl, status, body, after'⟩ := step_catLast asked replied'
  have shown := serveCatLast_shows (r := Relay.record _ .catLast) works known
  rw [after'] at latest ⊢
  refine ⟨response, by simp, ?_, ?_, latest⟩
  · rw [status, ← showLatest_of_latest latest]
    exact congrArg _ shown
  · intro get
    rw [body get, ← showLatest_of_latest latest]
    exact congrArg _ shown

/-- A step that fails leaves the stored objects, the keys, the filters with their queues and numbers, and
the latest announcement as they were, with two exceptions. An ingest that the channel refuses leaves its
document in the store. A request for the latest document that is not there empties the relay's filter and
takes what was the newest there for the latest, so that the next such request asks for the same one. -/
theorem aftermath_of_fails {r : Relay} {now : Nat} {s : Step} (fails : r.Fails now s) :
    r.Aftermath now s (r.step now s).2 := by
  have ingests (raw : List UInt8) (ingested : ingested? s = some raw) :
      (r.step now s).2 = (r.ingest now raw).2 := by
    unfold ingested? at ingested
    split at ingested
    · cases ingested
      rfl
    · cases ingested
      rfl
    · contradiction
  refine ⟨?stranded, ?missed, ?again, ?untouched⟩
  case stranded =>
    rintro raw ⟨ingested, f, failed, kind⟩
    rw [ingests raw ingested]
    exact stranded_ingest failed kind
  case missed =>
    rintro id ⟨⟨q, rfl, asked⟩, ⟨rules, opens⟩, lacks⟩
    obtain ⟨answer, replied⟩ := exists_answer opens now (.request q)
    obtain ⟨_, _, _, _, after⟩ := step_catLast asked replied
    obtain ⟨store, channel, latest⟩ := serveCatLast_lacking (lacks.record .catLast)
    rw [after]
    refine ⟨store, channel, latest, ?_⟩
    rw [show (r.serve now .catLast).2.channel = _ from channel]
    exact Hub.waiting_drain r.channel.hub r.filter
  case again =>
    rintro id ⟨⟨first, rfl, missed⟩, ⟨rules, opens⟩, lacks⟩ more time q answers final asked calm ran
    obtain ⟨answer, replied⟩ := exists_answer opens now (.request first)
    exact again_of_lacks lacks missed replied asked calm ran
  case untouched =>
    intro announced found
    obtain refused | ⟨raw, f, rfl, failed⟩ := fails
    · exact untouched_step refused announced found
    · apply untouched_ingest failed
      intro kind
      exact announced raw ⟨rfl, f, failed, kind⟩

def announceNothing : Step :=
  .publish "ab" plainSetup.publicKey plainSetup.topic .standard

theorem aftermath_announceNothing : ∃ r id, plainSetup.relay 0 = .ok r ∧
    (r.after [(1, announceNothing)]).Misses (.request ⟨.get, "/cat_last", []⟩) id ∧
    (r.after [(1, announceNothing)]).Aftermath 2 (.request ⟨.get, "/cat_last", []⟩)
      (r.after [(1, announceNothing), (2, .request ⟨.get, "/cat_last", []⟩)]) := by
  obtain ⟨r, opened, refused, newest⟩ : ∃ r, plainSetup.relay 0 = .ok r ∧
      isRefusal ((r.after [(1, announceNothing)]).step 2 (.request ⟨.get, "/cat_last", []⟩)).1 = true ∧
      (r.after [(1, announceNothing)]).next.isSome = true := by
    refine ⟨_, rfl, ?_, ?_⟩
    · decide +kernel
    · decide +kernel
  obtain ⟨id, next⟩ := Option.isSome_iff_exists.1 newest
  have store : (r.after [(1, announceNothing)]).store = ⟨.normal, .empty⟩ :=
    (r.spares_step 1 rfl).store.trans (store_of_opened opened)
  obtain ⟨backed, access, origins⟩ := backed_of_opened opened
  have opens : r.serviceRules = .ok .anyOrigin := by
    rw [serviceRules, origins]
    rfl
  obtain ⟨answer, replied⟩ := exists_answer opens 1 announceNothing
  have onward : r.Proceeds [] (r.after [(1, announceNothing)]) := proceeds_step replied
  have known := onward.channel.knows _ (backed.listening access)
  rw [← onward.filter] at known
  have lacks : (r.after [(1, announceNothing)]).Lacks id := by
    refine ⟨onward.channel.access.trans access, known, next, .notFound id.text, ?_⟩
    rw [store]
    rfl
  refine ⟨r, id, opened, ⟨⟨_, rfl, by decide +kernel⟩, ⟨.anyOrigin, ?_⟩, lacks⟩, ?_⟩
  · rw [serviceRules, onward.origins]
    exact opens
  · exact aftermath_of_fails (.inl refused)

end Relay

end Herald
