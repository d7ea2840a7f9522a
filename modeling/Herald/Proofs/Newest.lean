import Herald.Proofs.Latest

/-!
Which document `/cat_last` shows, when documents come in and clients read. It is the one that was
announced last, unless `/get_new_messages` has listed it before any client asked for `/cat_last`:
then the announcement is gone from the filter, and the latest stays what it was.
-/
namespace Herald

open Http (Request Response Route)

def Step.isTraffic : Step → Bool
  | .ingest _ | .request _ => true
  | _ => false

def announced? : Except Failure Outcome → Option ContentId
  | .ok (.ingested receipt) => some receipt.id
  | _ => none

namespace Relay

/-- What waits for the relay itself, the oldest first. -/
def unread (r : Relay) : List ContentId :=
  (r.channel.hub.waiting r.filter).map (·.payload)

/-- The announcement that the next advance takes for the latest. -/
def next (r : Relay) : Option ContentId :=
  r.unread.getLast?.or r.latest

/-- What `/cat_last` answers by the latest announcement. -/
def showLatest (r : Relay) : Response :=
  match r.latest with
  | none => .json 200 (errorBody noMessages)
  | some id => r.showDocument id

/-- The relay listens for its own announcements: its filter is of the topic and of the key that they
are sent to. -/
structure Tuned (r : Relay) : Prop where
  works : r.channel.access = .normal
  listening : ∃ s, r.channel.hub.subscription? r.filter = some s ∧ s.topic = r.target.topic ∧
    r.channel.hub.owner? s.keyId = some r.target.recipient

theorem tuned_of_opened {s : Setup} {start : Nat} {r : Relay} (opened : s.relay start = .ok r)
    (works : s.channel = .normal) : r.Tuned ∧ r.unread = [] ∧ r.latest = none := by
  obtain ⟨keyId, _, channel, listening, unset⟩ := exists_start opened works
  have owner : r.channel.hub.owner? keyId = some r.target.recipient := by
    have few : (r.opening keyId).countP Hub.Call.isCreation < UInt64.size := by
      rw [creations_opening]
      decide
    rw [channel, (Hub.reflects _ few).owner]
    exact if_pos rfl
  refine ⟨⟨by rw [channel], _, listening, rfl, owner⟩, ?_, unset⟩
  rw [unread, Hub.waiting, listening]
  rfl

theorem ingest_cases (r : Relay) (now : Nat) (raw : List UInt8) :
    (∃ receipt, (r.ingest now raw).1 = .ok receipt ∧
      r.channel.publish now (r.target.announcement receipt.id) = .ok (r.ingest now raw).2.channel) ∨
    ∃ f, (r.ingest now raw).1 = .error f ∧ (r.ingest now raw).2.channel = r.channel := by
  unfold ingest relay
  cases Document.submit raw with
  | error f => exact .inr ⟨f, rfl, rfl⟩
  | ok d =>
    dsimp only
    cases stored : r.store.put d with
    | mk result store =>
      cases result with
      | error f => exact .inr ⟨f, rfl, rfl⟩
      | ok id =>
        dsimp only
        cases announced : r.channel.publish now (r.target.announcement id) with
        | error f => exact .inr ⟨f, rfl, rfl⟩
        | ok channel => exact .inl ⟨⟨id, id.payload⟩, rfl, announced⟩

theorem Tuned.publish {r : Relay} (t : r.Tuned) {now : Nat} {id : ContentId} {channel : Channel}
    (published : r.channel.publish now (r.target.announcement id) = .ok channel) :
    { r with channel }.Tuned ∧ { r with channel }.unread = r.unread ++ [id] := by
  obtain ⟨sub, here, topic, owner⟩ := t.listening
  unfold Channel.publish at published
  rw [t.works] at published
  obtain ⟨hub, made, same⟩ := bind_eq_ok_iff.1 published
  cases same
  obtain ⟨keys, _, _, found⟩ := Hub.publish_eq_ok made
  have reaches : r.channel.hub.reaches (r.target.announcement id) sub = true := by
    unfold Hub.reaches
    rw [topic, owner]
    simp [Target.announcement]
  have kept (k : KeyId) : hub.owner? k = r.channel.hub.owner? k := by
    rw [Hub.owner?, Hub.owner?, keys]
  have after := found r.filter
  rw [here, Option.map_some, if_pos reaches] at after
  refine ⟨⟨rfl, _, after, topic, (kept _).trans owner⟩, ?_⟩
  unfold unread Hub.waiting
  rw [here]
  dsimp only
  rw [after, List.map_append]
  rfl

theorem Tuned.drain {r : Relay} (t : r.Tuned) {r' : Relay} {newest : Option ContentId}
    (goes : r.Goes [.poll r.filter] newest r') : r'.Tuned ∧ r'.unread = [] := by
  obtain ⟨sub, here, topic, owner⟩ := t.listening
  have drained : r'.channel.hub = r.channel.hub.drain r.filter := by
    rw [goes.channel, Hub.after, Hub.call_poll_some here]
    rfl
  have named := Hub.filter_of_subscription? here
  have after : r'.channel.hub.subscription? r'.filter = some { sub with queue := [] } := by
    rw [drained, goes.filter, Hub.subscription?_drain, here, Option.map_some, if_pos named]
  refine ⟨⟨goes.works t.works, _, after, ?_, ?_⟩, ?_⟩
  · rw [goes.target]
    exact topic
  · rw [goes.target, drained]
    exact owner
  · rw [unread, Hub.waiting, after]
    rfl

theorem Tuned.same {r r' : Relay} (t : r.Tuned) (channel : r'.channel = r.channel)
    (filter : r'.filter = r.filter) (target : r'.target = r.target) :
    r'.Tuned ∧ r'.unread = r.unread := by
  refine ⟨⟨?_, ?_⟩, ?_⟩
  · rw [channel]
    exact t.works
  · rw [channel, filter, target]
    exact t.listening
  · rw [unread, channel, filter]
    rfl

theorem Tuned.ingest {r : Relay} (t : r.Tuned) (now : Nat) (raw : List UInt8) :
    (r.ingest now raw).2.Tuned ∧ (r.ingest now raw).2.unread =
      r.unread ++ (announced? ((r.ingest now raw).1.map .ingested)).toList := by
  have goes := goes_ingest t.works now raw
  obtain ⟨receipt, done, published⟩ | ⟨f, failed, channel⟩ := r.ingest_cases now raw
  · obtain ⟨tuned, unread⟩ := t.publish published
    obtain ⟨tuned, same⟩ : (r.ingest now raw).2.Tuned ∧ (r.ingest now raw).2.unread = _ :=
      tuned.same rfl goes.filter goes.target
    rw [done]
    exact ⟨tuned, same.trans unread⟩
  · rw [failed]
    obtain ⟨tuned, same⟩ := t.same channel goes.filter goes.target
    exact ⟨tuned, same.trans (List.append_nil _).symm⟩

theorem Tuned.step {r : Relay} (t : r.Tuned) (now : Nat) {s : Step} (traffic : s.isTraffic = true)
    {answer : Except Failure Outcome} (replied : (r.step now s).1 = answer.mapError .failure) :
    (r.step now s).2.Tuned ∧ (r.step now s).2.filter = r.filter ∧
      (r.step now s).2.unread =
        (match s.drain? r.filter with
          | some _ => []
          | none => r.unread ++ (announced? answer).toList) ∧
      (r.step now s).2.latest =
        (match s.drain? r.filter with
          | some true => r.next
          | _ => r.latest) := by
  cases s with
  | ingest raw =>
    have goes := goes_ingest t.works now raw
    obtain ⟨tuned, unread⟩ := t.ingest now raw
    have told : (r.ingest now raw).1.map Outcome.ingested = answer := answer_injective replied
    rw [told] at unread
    exact ⟨tuned, goes.filter, unread, goes.latest⟩
  | request q =>
    have goes := goes_step t.works now (fun f same => by contradiction) replied
    obtain ⟨rules, _, rfl⟩ := request_answered replied
    have latest := goes.latest
    rw [drain?] at latest
    have asked : r.calls now (.request q) = q.drain?.toList.map fun _ => .poll r.filter := rfl
    rw [asked] at goes
    change _ ∧ _ ∧ _ = (match q.drain? with
        | some _ => []
        | none => r.unread ++ []) ∧ _ = match q.drain? with
        | some true => r.next
        | _ => r.latest
    change (r.step now (.request q)).2.latest = ((q.drain?.map r.drain).bind Drain.newest).or r.latest
      at latest
    cases drained : q.drain? with
    | none =>
      rw [drained] at goes latest
      obtain ⟨tuned, same⟩ := t.same goes.channel goes.filter goes.target
      exact ⟨tuned, goes.filter, same.trans (List.append_nil _).symm, latest⟩
    | some advances =>
      rw [drained] at goes latest
      obtain ⟨tuned, empty⟩ := t.drain goes
      refine ⟨tuned, goes.filter, empty, ?_⟩
      cases advances with
      | false => exact latest
      | true =>
        rw [next, unread, List.getLast?_map]
        exact latest
  | _ => contradiction

/-- The first of these steps that empties the relay's filter only lists what it finds. -/
def listedFirst (r : Relay) (steps : List (Nat × Step)) : Bool :=
  (steps.filterMap (·.2.drain? r.filter)).head? = some false

/-- When nothing new is announced, what comes next stays what it is, unless it is listed before an
advance takes it. -/
theorem Tuned.run {steps : List (Nat × Step)} : ∀ {r final : Relay}
    {answers : List (Except Failure Outcome)}, r.Tuned → (∀ t ∈ steps, t.2.isTraffic = true) →
    r.run steps = .ok (answers, final) → final.Tuned ∧ final.filter = r.filter ∧
      ((∀ a ∈ answers, announced? a = none) →
        final.next = if r.listedFirst steps then r.latest else r.next) := by
  induction steps with
  | nil =>
    intro r final answers tuned _ ran
    cases ran
    exact ⟨tuned, rfl, fun _ => rfl⟩
  | cons t rest ih =>
    intro r final answers tuned traffic ran
    obtain ⟨answer, later, replied, onward, rfl⟩ := run_cons_eq_ok.1 ran
    obtain ⟨stepped, filter, unread, latest⟩ := tuned.step t.1 (traffic t (by simp)) replied
    obtain ⟨ended, same, next⟩ := ih stepped (fun u hu => traffic u (by simp [hu])) onward
    refine ⟨ended, same.trans filter, fun quiet => ?_⟩
    rw [next fun a ha => quiet a (by simp [ha]), listedFirst, listedFirst, filter, List.filterMap_cons]
    rw [quiet answer (by simp)] at unread
    cases drained : t.2.drain? r.filter with
    | none =>
      rw [drained] at unread latest
      dsimp only at unread latest ⊢
      rw [Option.toList_none, List.append_nil] at unread
      rw [Relay.next, unread, latest]
      rfl
    | some advances =>
      -- The first drain decides: it leaves nothing unread, so what comes next is the latest from there on.
      rw [drained] at unread latest
      dsimp only at unread latest ⊢
      have taken : (r.step t.1 t.2).2.next = (r.step t.1 t.2).2.latest := by
        rw [Relay.next, unread]
        rfl
      rw [taken, ite_self, latest]
      cases advances <;> rfl

theorem Tuned.next_of_run {r final : Relay} {before between : List (Nat × Step)} {time : Nat}
    {raw : List UInt8} {receipt : Receipt} {answers : List (Except Failure Outcome)} (tuned : r.Tuned)
    (traffic : ∀ t ∈ before ++ (time, .ingest raw) :: between, t.2.isTraffic = true)
    (ran : r.run (before ++ (time, .ingest raw) :: between) = .ok (answers, final))
    (announced : answers[before.length]? = some (.ok (.ingested receipt)))
    (rest : ∀ a ∈ answers.drop (before.length + 1), announced? a = none) :
    final.next = if r.listedFirst between then (r.after before).latest else some receipt.id := by
  obtain ⟨first, answer, later, rfl, place, told, reached, replied, ended⟩ := run_around ran
  cases Option.some.inj (told.symm.trans announced)
  obtain ⟨ready, filter, _⟩ := tuned.run (fun t ht => traffic t (by simp [ht])) reached
  obtain ⟨stepped, same, unread, latest⟩ := ready.step time rfl replied
  obtain ⟨_, _, quiet⟩ := stepped.run (fun t ht => traffic t (by simp [ht])) ended
  have newest : ((r.after before).step time (.ingest raw)).2.next = some receipt.id := by
    rw [Relay.next, unread]
    simp [Step.drain?, announced?]
  have unannounced : ∀ a ∈ later, announced? a = none := by
    intro a ha
    apply rest
    rw [← place, List.drop_append]
    simp [ha]
  rw [quiet unannounced, newest, latest, listedFirst, same, filter]
  rfl

theorem serveCatLast_shows {r : Relay} (works : r.channel.access = .normal)
    (known : r.channel.hub.Knows r.filter) : r.serveCatLast.1 = r.serveCatLast.2.showLatest := by
  obtain ⟨after, polled⟩ := poll_of_known works known
  obtain ⟨latest, r', advanced, held⟩ : ∃ latest r', r.advance r.filter = .ok (latest, r') ∧
      r'.latest = latest := by
    rw [advance, polled]
    exact ⟨_, _, rfl, rfl⟩
  unfold serveCatLast
  rw [advanced, showLatest]
  cases latest with
  | none =>
    dsimp only
    rw [held]
  | some id =>
    dsimp only
    rw [held]

theorem Tuned.catLast {r : Relay} (t : r.Tuned) (now : Nat) {q : Request} (get : q.method = .get)
    (path : Route.ofPath? q.path = some .catLast) {answer : Except Failure Outcome}
    (replied : (r.step now (.request q)).1 = answer.mapError .failure) :
    (r.step now (.request q)).2.latest = r.next ∧ ∃ response, answer = .ok (.response response) ∧
      response.status = (r.step now (.request q)).2.showLatest.status ∧
      response.body = (r.step now (.request q)).2.showLatest.body := by
  have drained : q.drain? = some true := by
    rw [Http.Request.drain?, get, path]
    rfl
  obtain ⟨_, _, _, latest⟩ := t.step now rfl replied
  rw [Step.drain?, drained] at latest
  obtain ⟨sub, here, _⟩ := t.listening
  have shown : (r.serve now .catLast).1 = (r.serve now .catLast).2.showLatest :=
    serveCatLast_shows (r := r.record .catLast) t.works ⟨sub, here⟩
  obtain ⟨headers, rfl, behind⟩ := step_get get path replied
  refine ⟨latest, _, rfl, ?_⟩
  rw [behind, shown]
  exact ⟨rfl, rfl⟩

theorem Tuned.run_catLast {r final : Relay} {steps : List (Nat × Step)} {now : Nat} {q : Request}
    {answers : List (Except Failure Outcome)} (tuned : r.Tuned)
    (traffic : ∀ t ∈ steps, t.2.isTraffic = true) (get : q.method = .get)
    (path : Route.ofPath? q.path = some .catLast)
    (ran : r.run (steps ++ [(now, .request q)]) = .ok (answers, final)) :
    ∃ told response, answers = told ++ [.ok (.response response)] ∧ told.length = steps.length ∧
      r.run steps = .ok (told, r.after steps) ∧ final.latest = (r.after steps).next ∧
      response.status = final.showLatest.status ∧ response.body = final.showLatest.body := by
  obtain ⟨told, answer, none, rfl, length, _, reached, replied, ended⟩ := run_around ran
  cases ended
  obtain ⟨ready, _, _⟩ := tuned.run traffic reached
  obtain ⟨latest, response, rfl, status, body⟩ := ready.catLast now get path replied
  exact ⟨told, response, rfl, length, reached, latest, status, body⟩

/-- What `/cat_last` shows when documents come in and clients ask: the document announced last, unless
`/get_new_messages` was the first to empty the filter after it came in; then it shows what was the
latest before. As long as nothing is announced it shows that there were no messages. -/
theorem catLast_newest {s : Setup} {start : Nat} {r final : Relay} {steps : List (Nat × Step)}
    {now : Nat} {q : Request} {answers : List (Except Failure Outcome)}
    (opened : s.relay start = .ok r) (works : s.channel = .normal)
    (traffic : ∀ t ∈ steps, t.2.isTraffic = true) (get : q.method = .get)
    (path : Route.ofPath? q.path = some .catLast)
    (ran : r.run (steps ++ [(now, .request q)]) = .ok (answers, final)) :
    (∃ response, answers.getLast? = some (.ok (.response response)) ∧
      response.status = final.showLatest.status ∧ response.body = final.showLatest.body) ∧
    ((∀ a ∈ answers, announced? a = none) → final.latest = none) ∧
    ∀ before time raw between receipt, steps = before ++ (time, .ingest raw) :: between →
      answers[before.length]? = some (.ok (.ingested receipt)) →
      (∀ a ∈ answers.drop (before.length + 1), announced? a = none) →
      final.latest = if r.listedFirst between then (r.after before).latest else some receipt.id := by
  obtain ⟨tuned, unread, unset⟩ := tuned_of_opened opened works
  obtain ⟨told, response, rfl, length, reached, latest, status, body⟩ :=
    tuned.run_catLast traffic get path ran
  refine ⟨⟨response, ?_, status, body⟩, ?_, ?_⟩
  · rw [List.getLast?_append]
    rfl
  · intro unannounced
    have nothing : r.next = none := by
      rw [next, unread, unset]
      rfl
    obtain ⟨_, _, quiet⟩ := tuned.run traffic reached
    rw [latest, quiet fun a ha => unannounced a (by simp [ha]), nothing, unset, ite_self]
  · rintro before time raw between receipt rfl announced rest
    have early : before.length < told.length := by
      rw [length, List.length_append, List.length_cons]
      omega
    rw [List.getElem?_append_left early] at announced
    rw [latest, tuned.next_of_run traffic reached announced]
    intro a ha
    apply rest
    rw [List.drop_append_of_le_length early]
    exact List.mem_append_left _ ha

theorem traffic_documentThen (raw : List UInt8) (reads : List (Nat × Request)) :
    ∀ t ∈ documentThen raw reads, t.2.isTraffic = true := by
  intro t ht
  obtain rfl | ht := List.mem_cons.1 ht
  · rfl
  · obtain ⟨u, _, rfl⟩ := List.mem_map.1 ht
    rfl

def single : Document :=
  .ofValue (.array [.number (.int 1)])

theorem submit_single : Document.submit (Text.encode "[1]") = .ok single := by
  decide +kernel

def readBefore (target : String) : List (Nat × Step) :=
  documentThen (Text.encode "[1]") [(2, ⟨.get, target, []⟩)] ++ [(3, .request ⟨.get, "/cat_last", []⟩)]

theorem exists_run_readBefore (target : String) : ∃ r later final, plainSetup.relay 0 = .ok r ∧
    r.run (readBefore target) = .ok (.ok (.ingested ⟨single.id, single.id.payload⟩) :: later, final) ∧
    ∀ a ∈ later, announced? a = none := by
  obtain ⟨r, later, final, opened, ran, quiet⟩ := exists_run_documentThen submit_single
    [(2, ⟨.get, target, []⟩), (3, ⟨.get, "/cat_last", []⟩)]
  refine ⟨r, later, final, opened, ran, ?_⟩
  intro a mem
  obtain ⟨response, rfl⟩ := quiet a mem
  rfl

theorem catLast_newest_single : ∃ r later final, plainSetup.relay 0 = .ok r ∧
    r.run (readBefore "/health") =
      .ok (.ok (.ingested ⟨single.id, single.id.payload⟩) :: later, final) ∧
    final.latest = some single.id := by
  obtain ⟨r, later, final, opened, ran, quiet⟩ := exists_run_readBefore "/health"
  have traffic := traffic_documentThen (Text.encode "[1]") [(2, ⟨.get, "/health", []⟩)]
  obtain ⟨_, _, newest⟩ := catLast_newest opened rfl traffic rfl (by decide) ran
  have latest := newest [] 1 _ [(2, .request ⟨.get, "/health", []⟩)] _ rfl rfl quiet
  exact ⟨r, later, final, opened, ran, latest⟩

/-- Whoever asks for the new messages keeps all others from the document that came last. -/
theorem catLast_misses_listed : ∃ r later final response, plainSetup.relay 0 = .ok r ∧
    r.run (readBefore "/get_new_messages") =
      .ok (.ok (.ingested ⟨single.id, single.id.payload⟩) :: later, final) ∧
    later.getLast? = some (.ok (.response response)) ∧
    response.body = (errorBody noMessages).print ∧ final.latest ≠ some single.id := by
  obtain ⟨r, later, final, opened, ran, quiet⟩ := exists_run_readBefore "/get_new_messages"
  obtain ⟨tuned, _, unset⟩ := tuned_of_opened opened rfl
  have traffic := traffic_documentThen (Text.encode "[1]") [(2, ⟨.get, "/get_new_messages", []⟩)]
  obtain ⟨told, response, same, length, reached, latest, _, body⟩ :=
    tuned.run_catLast traffic rfl (by decide) ran
  cases told with
  | nil => contradiction
  | cons first told =>
    rw [List.cons_append, List.cons.injEq] at same
    obtain ⟨rfl, rfl⟩ := same
    have passed : (r.after (documentThen (Text.encode "[1]")
        [(2, ⟨.get, "/get_new_messages", []⟩)])).next = none := by
      have next := @Tuned.next_of_run r _ [] _ 1 _ _ _ tuned traffic reached rfl fun a mem =>
        quiet a (List.mem_append_left _ mem)
      exact next.trans unset
    rw [passed] at latest
    rw [showLatest, latest] at body
    refine ⟨r, _, final, response, opened, ran, ?_, body, ?_⟩
    · rw [List.getLast?_append]
      rfl
    · rw [latest]
      nofun

end Relay

end Herald
