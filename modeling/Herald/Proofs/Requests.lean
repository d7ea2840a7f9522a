import Herald.Proofs.Exposition
import Herald.Proofs.Lookup
import Mathlib.Tactic.SplitIfs

/-!
Requests over whole sessions. A request is counted exactly when it is to read and its path leads to a
resource, and then once, whatever it is answered; any other one leaves the relay as it is. So the number
that `/health` tells is that of the requests counted so far, which is also what the counters of the
endpoints add up to, and `/metrics` has a line for each label under which a request was counted. All of
these numbers have 64 bits. A request for a head does all that the full one does.
-/
namespace Herald

open Http (Endpoint Request Response Route)

def Http.Route.isLegible : Route → Bool
  | .cat segment => (segmentText? segment).isSome
  | _ => true

/-- The endpoint under which a request is counted, if it is. -/
def Http.Request.endpoint? (q : Request) : Option Endpoint :=
  match q.method with
  | .get | .head => ((Route.ofPath? q.path).filter Route.isLegible).map Route.endpoint
  | _ => none

def Step.endpoint? : Step → Option Endpoint
  | .request q => q.endpoint?
  | _ => none

def counted (steps : List (Nat × Step)) : List Endpoint :=
  steps.filterMap (·.2.endpoint?)

theorem counted_cons (t : Nat × Step) (rest : List (Nat × Step)) :
    counted (t :: rest) = t.2.endpoint?.toList ++ counted rest := by
  unfold counted
  cases asked : t.2.endpoint? with
  | none => exact List.filterMap_cons_none asked
  | some e => exact List.filterMap_cons_some asked

theorem counted_append (before behind : List (Nat × Step)) :
    counted (before ++ behind) = counted before ++ counted behind :=
  List.filterMap_append

/-- The paths of the resources, with the labels under which requests for them are counted. -/
inductive Http.Labelled : List Char → String → Prop
  | newMessages : Labelled "/get_new_messages".toList "get_new_messages"
  | catLast : Labelled "/cat_last".toList "cat_last"
  | health : Labelled "/health".toList "health"
  | metrics : Labelled "/metrics".toList "metrics"
  | cat {segment : List Char} : segment ≠ [] → '/' ∉ segment → (segmentText? segment).isSome = true →
      Labelled ("/cat/".toList ++ segment) "cat"

theorem Http.Labelled.exists_route {path : List Char} {label : String} (labelled : Labelled path label) :
    ∃ route, Route.ofPath? path = some route ∧ route.isLegible = true ∧ route.endpoint.label = label := by
  cases labelled with
  | newMessages => exact ⟨.newMessages, rfl, rfl, rfl⟩
  | catLast => exact ⟨.catLast, rfl, rfl, rfl⟩
  | health => exact ⟨.health, rfl, rfl, rfl⟩
  | metrics => exact ⟨.metrics, rfl, rfl, rfl⟩
  | @cat segment filled single text => exact ⟨.cat segment, ofPath?_cat filled single, text, rfl⟩

theorem Http.labelled_of_path {path : List Char} {route : Route} (found : Route.ofPath? path = some route)
    (legible : route.isLegible = true) : Labelled path route.endpoint.label := by
  unfold Route.ofPath? at found
  split_ifs at found with first second third fourth
  · cases found
    exact first ▸ .newMessages
  · cases found
    exact second ▸ .catLast
  · cases found
    exact third ▸ .health
  · cases found
    exact fourth ▸ .metrics
  · split at found
    · next segment =>
      split_ifs at found with unfit
      cases found
      simp only [Bool.or_eq_true, List.isEmpty_iff, List.contains_iff_mem, not_or] at unfit
      exact .cat unfit.1 unfit.2 legible
    · contradiction

theorem Http.Request.endpoint?_eq_some_iff {q : Request} {e : Endpoint} : q.endpoint? = some e ↔
    (q.method = .get ∨ q.method = .head) ∧ Labelled q.path e.label := by
  have counted : ((Route.ofPath? q.path).filter Route.isLegible).map Route.endpoint = some e ↔
      Labelled q.path e.label := by
    simp only [Option.map_eq_some_iff, Option.filter_eq_some_iff]
    constructor
    · rintro ⟨route, ⟨found, legible⟩, rfl⟩
      exact labelled_of_path found legible
    · intro labelled
      obtain ⟨route, found, legible, same⟩ := labelled.exists_route
      exact ⟨route, ⟨found, legible⟩, Endpoint.label_injective _ _ same⟩
  unfold endpoint?
  cases q.method <;> simp [counted]

theorem Http.Request.endpoint?_of_path {q : Request} {route : Route}
    (reads : q.method = .get ∨ q.method = .head) (found : Route.ofPath? q.path = some route) (legible : route.isLegible = true) :
    q.endpoint? = some route.endpoint :=
  endpoint?_eq_some_iff.2 ⟨reads, labelled_of_path found legible⟩

theorem counted_get (now : Nat) {q : Request} {route : Route} (get : q.method = .get)
    (found : Route.ofPath? q.path = some route) (legible : route.isLegible = true) :
    counted [(now, .request q)] = [route.endpoint] := by
  rw [counted_cons, Step.endpoint?, q.endpoint?_of_path (.inl get) found legible]
  rfl

theorem foldr_count (es : List Endpoint) :
    Endpoint.all.foldr (fun e total => es.count e + total) 0 = es.length := by
  induction es with
  | nil => rfl
  | cons e es ih =>
    simp only [Endpoint.all, List.foldr_cons, List.foldr_nil] at ih ⊢
    rw [List.length_cons, ← ih]
    cases e <;> simp <;> omega

theorem Meter.requestTotal_of_count {m : Meter} {es : List Endpoint}
    (counts : ∀ e, m.count (.requests e) = .ofNat (es.count e)) : m.requestTotal = .ofNat es.length := by
  rw [← foldr_count es]
  simp only [requestTotal, counts, Endpoint.all, List.foldr_cons, List.foldr_nil, UInt64.ofNat_add]
  rfl

theorem Http.Cors.ofOrigins_of_plain {origins : List String} (some : origins ≠ [])
    (plain : "*" ∉ origins) : ofOrigins origins = .ok (.listed (origins.filter isLegal)) := by
  have unlisted : (origins.filter isLegal).contains "*" = false := by
    rw [List.contains_eq_mem, decide_eq_false_iff_not]
    exact fun mem => plain (List.mem_of_mem_filter mem)
  unfold ofOrigins
  rw [List.isEmpty_eq_false_iff.2 some]
  dsimp only
  rw [unlisted]
  rfl

theorem Http.Cors.exists_ofOrigins_iff {origins : List String} :
    (∃ rules, ofOrigins origins = .ok rules) ↔ "*" ∉ origins := by
  constructor
  · rintro ⟨rules, made⟩ wildcard
    have legal : (origins.filter isLegal).contains "*" = true := by
      rw [List.contains_eq_mem, decide_eq_true_eq, List.mem_filter]
      exact ⟨wildcard, by decide⟩
    unfold ofOrigins at made
    rw [List.isEmpty_eq_false_iff.2 (List.ne_nil_of_mem wildcard)] at made
    dsimp only at made
    rw [legal] at made
    contradiction
  · intro plain
    by_cases none : origins = []
    · rw [none]
      exact ⟨.anyOrigin, rfl⟩
    · exact ⟨_, ofOrigins_of_plain none plain⟩

namespace Relay

/-- The relay goes on as it was set up, with requests counted under these endpoints. -/
structure Proceeds (r : Relay) (endpoints : List Endpoint) (r' : Relay) : Prop where
  filter : r'.filter = r.filter
  origins : r'.origins = r.origins
  metered : r'.metered = r.metered
  channel : r.channel.Continues r'.channel
  served : r'.served = r.served + .ofNat endpoints.length
  requests : ∀ e, r'.meter.find? (.requests e) =
    Meter.raised (r.meter.find? (.requests e)) (endpoints.count e)

variable {r r' : Relay} {es : List Endpoint}

theorem Proceeds.of_same (filter : r'.filter = r.filter) (origins : r'.origins = r.origins)
    (metered : r'.metered = r.metered) (channel : r.channel.Continues r'.channel)
    (served : r'.served = r.served)
    (requests : ∀ e, r'.meter.find? (.requests e) = r.meter.find? (.requests e)) : r.Proceeds [] r' :=
  ⟨filter, origins, metered, channel, served.trans (UInt64.add_zero _).symm, requests⟩

theorem Proceeds.refl (r : Relay) : r.Proceeds [] r :=
  .of_same rfl rfl rfl (.refl _) rfl fun _ => rfl

theorem Proceeds.trans {r'' : Relay} {es' : List Endpoint} (p : r.Proceeds es r')
    (p' : r'.Proceeds es' r'') : r.Proceeds (es ++ es') r'' where
  filter := p'.filter.trans p.filter
  origins := p'.origins.trans p.origins
  metered := p'.metered.trans p.metered
  channel := p.channel.trans p'.channel
  served := by rw [p'.served, p.served, List.length_append, UInt64.ofNat_add, UInt64.add_assoc]
  requests e := by rw [p'.requests, p.requests, List.count_append, Meter.raised_raised]

theorem Turns.proceeds (h : r.Turns r') : r.Proceeds [] r' := by
  obtain ⟨channel, latest, continues, rfl⟩ := h
  exact .of_same rfl rfl rfl continues rfl fun _ => rfl

theorem proceeds_record (r : Relay) (e : Endpoint) : r.Proceeds [e] (r.record e) := by
  refine ⟨rfl, rfl, rfl, .refl _, rfl, ?_⟩
  intro e'
  change (r.meter.increment (.requests e)).find? (.requests e') = _
  rw [Meter.find?_increment, List.count_singleton]
  by_cases same : e' = e
  · subst same
    simp [Meter.raised, Meter.count]
  · simp [Meter.raised, same, Ne.symm same]

theorem proceeds_ingest (r : Relay) (now : Nat) (raw : List UInt8) :
    r.Proceeds [] (r.ingest now raw).2 := by
  obtain ⟨store, channel, c, continues, ingest, same⟩ := r.exists_ingest now raw
  rw [same]
  refine .of_same rfl rfl rfl continues rfl ?_
  intro e
  have other : Counter.requests e ≠ c := by
    rintro rfl
    contradiction
  change (r.meter.increment c).find? (.requests e) = _
  rw [Meter.find?_increment, if_neg other]

theorem proceeds_serve (r : Relay) (now : Nat) {route : Route} (legible : route.isLegible = true) :
    r.Proceeds [route.endpoint] (r.serve now route).2 := by
  obtain turns | ⟨_, segment, rfl, illegible⟩ := r.serve_cases now route
  · exact (r.proceeds_record route.endpoint).trans turns.proceeds
  · rw [Route.isLegible, segmentText?, illegible] at legible
    contradiction

theorem serve_illegible (r : Relay) (now : Nat) {route : Route} (illegible : route.isLegible = false) :
    (r.serve now route).2 = r := by
  cases route with
  | cat segment =>
    have undecoded : segmentText? segment = none :=
      Option.isNone_iff_eq_none.1 (Option.isSome_eq_false_iff.1 illegible)
    unfold segmentText? at undecoded
    unfold serve
    dsimp only
    rw [undecoded]
  | _ => contradiction

theorem respond_head (r : Relay) (now : Nat) (rules : Http.Cors) {q : Request}
    (head : q.method = .head) : r.respond now rules q =
      ((r.respond now rules { q with method := .get }).1.withoutBody,
        (r.respond now rules { q with method := .get }).2) := by
  obtain ⟨method, target, headers⟩ := q
  cases head
  unfold respond dispatch
  have same : Request.path ⟨.get, target, headers⟩ = Request.path ⟨.head, target, headers⟩ := rfl
  rw [same]
  cases Route.ofPath? (Request.path ⟨.head, target, headers⟩) <;> rfl

/-- A request that is counted gets what its resource serves, for a head without the body. -/
structure Serves (r : Relay) (now : Nat) (rules : Http.Cors) (q : Request) (route : Route) : Prop where
  counted : q.endpoint? = some route.endpoint
  path : Route.ofPath? q.path = some route
  legible : route.isLegible = true
  status : (r.respond now rules q).1.status = (r.serve now route).1.status
  body : q.method = .get → (r.respond now rules q).1.body = (r.serve now route).1.body
  after : (r.respond now rules q).2 = (r.serve now route).2

theorem serves_of_path (r : Relay) (now : Nat) (rules : Http.Cors) {q : Request} {route : Route}
    (reads : q.method = .get ∨ q.method = .head) (path : Route.ofPath? q.path = some route)
    (legible : route.isLegible = true) : r.Serves now rules q route := by
  have counted := q.endpoint?_of_path reads path legible
  obtain get | head := reads
  · obtain ⟨headers, responds⟩ := respond_get r now rules get path
    refine ⟨counted, path, legible, ?_, fun _ => ?_, ?_⟩
    all_goals rw [responds]
  · obtain ⟨headers, responds⟩ := @respond_get r now { q with method := .get } route rules rfl path
    refine ⟨counted, path, legible, ?_, fun get => ?_, ?_⟩
    · rw [respond_head r now rules head, responds]
      rfl
    · rw [head] at get
      contradiction
    · rw [respond_head r now rules head, responds]

theorem respond_cases (r : Relay) (now : Nat) (rules : Http.Cors) (q : Request) :
    (q.endpoint? = none ∧ (r.respond now rules q).2 = r) ∨ ∃ route, r.Serves now rules q route := by
  by_cases reads : q.method = .get ∨ q.method = .head
  · cases path : Route.ofPath? q.path with
    | none =>
      left
      unfold respond dispatch Http.Request.endpoint?
      obtain get | head := reads
      · rw [get, path]
        exact ⟨rfl, rfl⟩
      · rw [head, path]
        exact ⟨rfl, rfl⟩
    | some route =>
      cases legible : route.isLegible with
      | true => exact .inr ⟨route, r.serves_of_path now rules reads path legible⟩
      | false =>
        left
        have idle := r.serve_illegible now legible
        unfold respond dispatch Http.Request.endpoint?
        obtain get | head := reads
        · simp only [get, path, Option.filter, legible]
          exact ⟨rfl, idle⟩
        · simp only [head, path, Option.filter, legible]
          exact ⟨rfl, idle⟩
  · left
    unfold respond dispatch Http.Request.endpoint?
    cases method : q.method with
    | get => exact absurd (.inl method) reads
    | head => exact absurd (.inr method) reads
    | options => exact ⟨rfl, rfl⟩
    | other name => cases Route.ofPath? q.path <;> exact ⟨rfl, rfl⟩

theorem proceeds_respond (r : Relay) (now : Nat) (rules : Http.Cors) (q : Request) :
    r.Proceeds q.endpoint?.toList (r.respond now rules q).2 := by
  obtain ⟨uncounted, same⟩ | ⟨route, serves⟩ := r.respond_cases now rules q
  · rw [uncounted, same]
    exact .refl r
  · rw [serves.counted, serves.after]
    exact r.proceeds_serve now serves.legible

theorem step_uncounted (r : Relay) (now : Nat) {q : Request} (uncounted : q.endpoint? = none) :
    (r.step now (.request q)).2 = r := by
  rw [step, request]
  cases r.serviceRules with
  | error fault => rfl
  | ok rules =>
    obtain ⟨_, same⟩ | ⟨route, serves⟩ := r.respond_cases now rules q
    · exact same
    · have counted := serves.counted
      rw [uncounted] at counted
      contradiction

def healthReport (r : Relay) (now total : Nat) : Json.Value :=
  .object [
    ("status", .string "ok"),
    ("uptime_secs", Json.ofNat (now - r.started)),
    ("req_total", Json.ofNat total),
    ("topic", r.target.topic.json),
    ("store_mode", .string r.store.access.label),
    ("channel_mode", .string r.channel.access.label)]

theorem serve_health (r : Relay) (now : Nat) :
    (r.serve now .health).1 = .json 200 (r.healthReport now (r.served + 1).toNat) :=
  rfl

theorem serve_metrics (r : Relay) (now : Nat) (metered : r.metered = true) :
    (r.serve now .metrics).1 =
      .text 200 "text/plain; version=0.0.4" (r.record .metrics).meter.exposition := by
  change serveMetrics (r.record .metrics) = _
  unfold serveMetrics
  rw [if_pos (show (r.record .metrics).metered = true from metered)]

theorem proceeds_step {r : Relay} {now : Nat} {s : Step} {answer : Except Failure Outcome}
    (replied : (r.step now s).1 = answer.mapError .failure) :
    r.Proceeds s.endpoint?.toList (r.step now s).2 := by
  cases s with
  | put raw =>
    rw [step, put]
    cases Document.submit raw with
    | error f => exact .refl r
    | ok d => exact .of_same rfl rfl rfl (.refl _) rfl fun _ => rfl
  | ingest raw => exact r.proceeds_ingest now raw
  | deliver delivery =>
    cases delivery with
    | complete raw => exact r.proceeds_ingest now raw
    | broken => exact .refl r
  | advance f =>
    rw [step]
    exact of_settle (P := r.Proceeds []) (.refl r) fun latest after done => (turns_advance done).proceeds
  | request q =>
    obtain ⟨rules, opens, _⟩ := request_answered replied
    rw [step, request, opens]
    exact r.proceeds_respond now rules q
  | _ => exact (r.rechannels_step now rfl).turns.proceeds

theorem proceeds_run {steps : List (Nat × Step)} : ∀ {r final : Relay}
    {answers : List (Except Failure Outcome)}, r.run steps = .ok (answers, final) →
    r.Proceeds (counted steps) final := by
  induction steps with
  | nil =>
    intro r final answers ran
    cases ran
    exact .refl r
  | cons t rest ih =>
    intro r final answers ran
    obtain ⟨answer, later, replied, onward, _⟩ := run_cons_eq_ok.1 ran
    rw [counted_cons]
    exact (proceeds_step replied).trans (ih onward)

theorem exists_run {rules : Http.Cors} (steps : List (Nat × Step)) : ∀ {r : Relay},
    r.serviceRules = .ok rules → ∃ answers final, r.run steps = .ok (answers, final) := by
  induction steps with
  | nil => exact fun _ => ⟨[], _, rfl⟩
  | cons t rest ih =>
    intro r opens
    obtain ⟨answer, replied⟩ := exists_answer opens t.1 t.2
    have reopens : (r.step t.1 t.2).2.serviceRules = .ok rules := by
      rw [serviceRules, (proceeds_step replied).origins]
      exact opens
    obtain ⟨later, final, ran⟩ := ih reopens
    exact ⟨answer :: later, final, run_cons_eq_ok.2 ⟨answer, later, replied, ran, rfl⟩⟩

theorem exists_rules {r : Relay} (plain : "*" ∉ r.origins) : ∃ rules, r.serviceRules = .ok rules :=
  Http.Cors.exists_ofOrigins_iff.2 plain

theorem uncounted_of_opened {s : Setup} {start : Nat} {r : Relay} (opened : s.relay start = .ok r) :
    r.served = 0 ∧ ∀ e, r.meter.find? (.requests e) = none := by
  unfold Setup.relay at opened
  simp only [bind_eq_ok_iff] at opened
  obtain ⟨_, _, _, _, _, _, _, _, same⟩ := opened
  cases same
  exact ⟨rfl, fun _ => rfl⟩

/-- The accounts of requests, wherever the session stands, in 64 bits. -/
structure Tally (r : Relay) (steps : List (Nat × Step)) (answers : List (Except Failure Outcome)) :
    Prop where
  requests : ∀ before, before <+: steps → ∀ e,
    ((r.after before).meter.count (.requests e)).toNat = (counted before).count e % UInt64.size
  served : ∀ before, before <+: steps →
    (r.after before).served.toNat = (counted before).length % UInt64.size ∧
      (r.after before).meter.requestTotal = (r.after before).served
  told : ∀ before now q behind, steps = before ++ (now, .request q) :: behind →
    q.method = .get → Route.ofPath? q.path = some .health → ∃ headers,
      answers[before.length]? = some (.ok (.response ⟨200, headers, ((r.after before).healthReport now
        ((counted (before ++ [(now, .request q)])).length % UInt64.size)).print⟩))
  /-- The exposition has a line for each label under which a request was counted. -/
  exposed : ∀ before now q behind, steps = before ++ (now, .request q) :: behind →
    q.method = .get → Route.ofPath? q.path = some .metrics → r.metered = true →
    ∃ headers, ∃ lines : List String,
      answers[before.length]? = some (.ok (.response ⟨200, headers,
        Text.encode (String.join (lines.map (· ++ "\n")))⟩)) ∧
      ∀ e n, Meter.requestLine e.label n ∈ lines ↔ e ∈ counted (before ++ [(now, .request q)]) ∧
        n = (counted (before ++ [(now, .request q)])).count e % UInt64.size
  passed : ∀ before now q behind, steps = before ++ (now, .request q) :: behind →
    q.endpoint? = none → r.after (before ++ [(now, .request q)]) = r.after before
  heads : ∀ before now q behind, steps = before ++ (now, .request q) :: behind →
    q.method = .head → ∃ full,
      answers[before.length]? = some (.ok (.response full.withoutBody)) ∧
      (r.after before).step now (.request { q with method := .get }) =
        (.ok (.response full), r.after (before ++ [(now, .request q)]))

structure Proceeds.FromNothing (es : List Endpoint) (r : Relay) : Prop where
  served : r.served = .ofNat es.length
  requests : ∀ e, r.meter.find? (.requests e) = Meter.raised none (es.count e)

theorem Proceeds.fromNothing (p : r.Proceeds es r') (unserved : r.served = 0)
    (uncounted : ∀ e, r.meter.find? (.requests e) = none) : FromNothing es r' where
  served := by rw [p.served, unserved, UInt64.zero_add]
  requests e := by rw [p.requests, uncounted]

theorem Proceeds.FromNothing.count (h : FromNothing es r) (e : Endpoint) :
    r.meter.count (.requests e) = .ofNat (es.count e) := by
  rw [Meter.count, h.requests, Meter.getD_raised, Option.getD_none, UInt64.zero_add]

theorem Proceeds.FromNothing.requestLine_mem_iff (h : FromNothing es r) (e : Endpoint) (n : Nat) :
    Meter.requestLine e.label n ∈ r.meter.shown ↔ e ∈ es ∧ n = es.count e % UInt64.size := by
  rw [Meter.requestLine_mem_shown_iff, h.requests, Meter.raised]
  by_cases none : es.count e = 0
  · simp [none, List.count_eq_zero.1 none]
  · have mem : e ∈ es := List.count_pos_iff.1 (Nat.pos_of_ne_zero none)
    simp [none, mem, UInt64.size]

theorem tally_of_run {r final : Relay} {steps : List (Nat × Step)}
    {answers : List (Except Failure Outcome)} (unserved : r.served = 0)
    (uncounted : ∀ e, r.meter.find? (.requests e) = none) (ran : r.run steps = .ok (answers, final)) :
    r.Tally steps answers := by
  have proceeds (before : List (Nat × Step)) (early : before <+: steps) :
      r.Proceeds (counted before) (r.after before) := by
    obtain ⟨behind, rfl⟩ := early
    obtain ⟨first, later, _, _, reached, _⟩ := run_append ran
    exact proceeds_run reached
  have accounts (before : List (Nat × Step)) (early : before <+: steps) :
      Proceeds.FromNothing (counted before) (r.after before) :=
    (proceeds before early).fromNothing unserved uncounted
  refine ⟨?requests, ?served, ?told, ?exposed, ?passed, ?heads⟩
  case requests =>
    intro before early e
    rw [(accounts before early).count, UInt64.toNat_ofNat']
  case served =>
    intro before early
    rw [(accounts before early).served, UInt64.toNat_ofNat']
    exact ⟨rfl, Meter.requestTotal_of_count (accounts before early).count⟩
  case told =>
    rintro before now q behind rfl get path
    obtain ⟨_, answer, _, _, _, there, _, replied, _⟩ := run_around ran
    obtain ⟨headers, rfl, _⟩ := step_get get path replied
    refine ⟨headers, ?_⟩
    have one : counted [(now, .request q)] = [.health] := counted_get now get path rfl
    have next : (r.after before).served + 1 =
        .ofNat (counted (before ++ [(now, .request q)])).length := by
      rw [(accounts before (List.prefix_append ..)).served, counted_append, one, List.length_append,
        UInt64.ofNat_add]
      rfl
    rw [there, serve_health, next, UInt64.toNat_ofNat']
    rfl
  case exposed =>
    rintro before now q behind rfl get path metered
    obtain ⟨_, answer, _, _, _, there, _, replied, _⟩ := run_around ran
    obtain ⟨headers, rfl, _⟩ := step_get get path replied
    have one : counted [(now, .request q)] = [.metrics] := counted_get now get path rfl
    have early := proceeds before (List.prefix_append ..)
    have next := (early.trans (proceeds_record _ .metrics)).fromNothing unserved uncounted
    rw [← one, ← counted_append] at next
    refine ⟨headers, _, ?_, next.requestLine_mem_iff⟩
    rw [there, serve_metrics _ now (early.metered.trans metered)]
    rfl
  case passed =>
    rintro before now q behind rfl uncounted
    rw [after_append]
    exact (r.after before).step_uncounted now uncounted
  case heads =>
    rintro before now q behind rfl head
    obtain ⟨_, answer, _, _, _, there, _, replied, _⟩ := run_around ran
    obtain ⟨rules, opens, rfl⟩ := request_answered replied
    rw [respond_head _ now rules head] at there
    refine ⟨_, there, ?_⟩
    rw [after_append, after, after, step, step, request, request, opens]
    dsimp only
    rw [respond_head _ now rules head]

/-- Requests of every kind, between other steps. A request is counted once, under the label of its path,
exactly when it is to read and its path leads to a resource, however it is then answered. `/health` tells
how many were counted, itself included, and so do the counters of the endpoints together, which `/metrics`
shows by their labels. What is not counted changes nothing at all, and a request for a head changes what
the full one would. -/
theorem requests_tallied {s : Setup} {start : Nat} {r : Relay} (opened : s.relay start = .ok r)
    (steps : List (Nat × Step)) :
    (∀ (q : Request) e, q.endpoint? = some e ↔
      (q.method = .get ∨ q.method = .head) ∧ Http.Labelled q.path e.label) ∧
    ("*" ∉ s.origins → ∃ answers final, r.run steps = .ok (answers, final)) ∧
      ∀ answers final, r.run steps = .ok (answers, final) → r.Tally steps answers := by
  refine ⟨fun q e => Http.Request.endpoint?_eq_some_iff, ?_, ?_⟩
  · intro plain
    rw [← (backed_of_opened opened).2.2] at plain
    obtain ⟨rules, opens⟩ := exists_rules plain
    exact exists_run steps opens
  · intro answers final ran
    obtain ⟨unserved, uncounted⟩ := uncounted_of_opened opened
    exact tally_of_run unserved uncounted ran

def browsing : List (Nat × Step) :=
  [(1, .request ⟨.get, "/cat_last", []⟩), (2, .ingest (Text.encode "[1]")),
    (3, .request ⟨.head, "/get_new_messages?all", []⟩), (4, .request ⟨.get, "/cat/%ff", []⟩),
    (5, .request ⟨.get, "/cat/ab", []⟩), (6, .request ⟨.options, "/health", []⟩),
    (7, .request ⟨.get, "/nowhere", []⟩), (8, .request ⟨.other "POST", "/health", []⟩),
    (9, .request ⟨.get, "/health", []⟩), (10, .request ⟨.get, "/metrics", []⟩)]

theorem requests_tallied_browsing : ∃ r answers final headers, ∃ lines : List String,
    ({ plainSetup with metered := true } : Setup).relay 0 = .ok r ∧
      r.run browsing = .ok (answers, final) ∧ final.served = 5 ∧ r.Tally browsing answers ∧
      answers[9]? = some (.ok (.response ⟨200, headers,
        Text.encode (String.join (lines.map (· ++ "\n")))⟩)) ∧
      "relay_http_requests_total\x7bendpoint=\"cat\"\x7d 1" ∈ lines := by
  obtain ⟨r, opened, metered⟩ : ∃ r, ({ plainSetup with metered := true } : Setup).relay 0 = .ok r ∧
      r.metered = true := ⟨_, rfl, rfl⟩
  obtain ⟨_, goes, tallied⟩ := requests_tallied opened browsing
  obtain ⟨answers, final, ran⟩ := goes (by decide)
  have tally := tallied answers final ran
  obtain ⟨served, _⟩ := tally.served browsing (List.prefix_refl _)
  rw [(run_eq_ok_iff.1 ran).1] at served
  obtain ⟨headers, lines, shown, told⟩ := tally.exposed (browsing.take 9) 10 ⟨.get, "/metrics", []⟩ [] rfl
    rfl (by decide +kernel) metered
  have five : final.served = 5 := UInt64.toNat_inj.1 (served.trans (by decide +kernel))
  have line : "relay_http_requests_total\x7bendpoint=\"cat\"\x7d 1" =
      Meter.requestLine Endpoint.cat.label 1 := by decide +kernel
  refine ⟨r, answers, final, headers, lines, opened, ran, five, tally, shown, ?_⟩
  rw [line]
  exact (told _ _).2 (by decide +kernel)

end Relay

end Herald
