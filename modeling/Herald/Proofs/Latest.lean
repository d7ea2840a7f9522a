import Herald.Proofs.Drains
import Mathlib.Data.List.DropRight
import Mathlib.Data.List.Infix

/-!
The latest announcement over whole sessions. Whoever empties the relay's filter, the batches are the
deliveries of the filter, in order and each once; and the latest announcement is always the last of a
part of them that only grows, so it never goes back.
-/
namespace Herald.Relay

open Http (Route)

/-- The announcements up to the one that stands for the latest. -/
def standing (log : List Drain) : List Received :=
  batches (log.rdropWhile (·.newest.isNone))

theorem getLast?_batch {d : Drain} {id : ContentId} (newest : d.newest = some id) :
    ∃ m, d.batch.getLast? = some m ∧ m.payload = id := by
  unfold Drain.newest at newest
  split at newest
  · exact Option.map_eq_some_iff.1 newest
  · contradiction

theorem getLast?_standing (log : List Drain) :
    (standing log).getLast?.map (·.payload) = latestOf log := by
  induction log using List.reverseRecOn with
  | nil => rfl
  | append_singleton log d ih =>
    have last := latestOf_append log (some d).toList
    rw [latestOf_toList, Option.bind_some, Option.toList_some] at last
    rw [last]
    unfold standing
    cases newest : d.newest with
    | none =>
      rw [List.rdropWhile_concat_pos _ _ _ (by simp [newest])]
      exact ih
    | some id =>
      obtain ⟨m, final, payload⟩ := getLast?_batch newest
      rw [List.rdropWhile_concat_neg _ _ _ (by simp [newest]), batches_append, List.getLast?_append,
        show batches [d] = d.batch from List.append_nil _, final, ← payload]
      rfl

theorem batches_mono {log log' : List Drain} (grown : log <+: log') : batches log <+: batches log' :=
  List.IsPrefix.flatMap grown Drain.batch

theorem drains_mono {r : Relay} {before steps : List (Nat × Step)} (part : before <+: steps) :
    r.drains before <+: r.drains steps := by
  obtain ⟨behind, rfl⟩ := part
  rw [drains_append]
  exact List.prefix_append _ _

theorem standing_mono {log log' : List Drain} (grown : log <+: log') :
    standing log <+: standing log' := by
  obtain ⟨more, rfl⟩ := grown
  induction more using List.reverseRecOn with
  | nil => rw [List.append_nil]
  | append_singleton more d ih =>
    rw [← List.append_assoc]
    unfold standing at ih ⊢
    rw [List.rdropWhile_concat]
    split
    · exact ih
    · -- A drain that counts stands itself, and so does all that came before it.
      apply batches_mono
      have first := List.rdropWhile_prefix (fun d : Drain => d.newest.isNone) log
      exact first.trans ((List.prefix_append log more).trans (List.prefix_append _ [d]))

theorem standing_part (log : List Drain) : standing log <+: batches log :=
  batches_mono (List.rdropWhile_prefix _ log)

def opening (r : Relay) (keyId : KeyId) : List Hub.Call :=
  [.register keyId r.target.recipient, .create r.target.topic keyId]

theorem creations_opening (r : Relay) (keyId : KeyId) :
    (r.opening keyId).countP Hub.Call.isCreation = 1 :=
  rfl

/-- What the relay's filter is owed by the steps of a session: the announcements that reach it. -/
def owed (r : Relay) (keyId : KeyId) (steps : List (Nat × Step)) : List Received :=
  Hub.deliveries r.target.topic keyId (r.opening keyId) (r.allCalls steps)

theorem exists_start {s : Setup} {start : Nat} {r : Relay} (opened : s.relay start = .ok r)
    (works : s.channel = .normal) : ∃ keyId, KeyId.read s.keyId = .ok keyId ∧
      r.channel = ⟨.normal, Hub.empty.after (r.opening keyId)⟩ ∧
      r.channel.hub.subscription? r.filter = some ⟨r.filter, r.target.topic, keyId, []⟩ ∧
      r.latest = none := by
  unfold Setup.relay at opened
  simp only [bind_eq_ok_iff] at opened
  obtain ⟨topic, _, keyId, read, key, _, ⟨own, hub⟩, created, same⟩ := opened
  cases same
  obtain ⟨_, _, _, _, found⟩ := Hub.createFilter_eq_ok created
  refine ⟨keyId, read, ?_, ?_, rfl⟩
  · rw [works]
    dsimp only [opening]
    rw [Hub.after, Hub.after, Hub.call, Hub.call_create_ok created]
    rfl
  · rw [works]
    exact (found own).trans (if_pos rfl)

/-- What a client that drains the relay's filter is told of the batch: a poll hands it out, and
`/get_new_messages` lists its payloads. -/
def Lists (batch : List Received) : Step → Except Failure Outcome → Prop
  | .poll _, answer => answer = .ok (.messages batch)
  | .request q, answer => q.method = .get → Route.ofPath? q.path = some .newMessages →
      ∃ response, answer = .ok (.response response) ∧ response.status = 200 ∧
        response.body = (payloadList (batch.map (·.payload))).print
  | _, _ => True

theorem poll_of_known {r : Relay} (works : r.channel.access = .normal) {f : Filter}
    (known : r.channel.hub.Knows f) : ∃ after, r.poll f = .ok (r.channel.hub.waiting f, after) := by
  obtain ⟨messages, channel, polled⟩ := Channel.exists_poll works known
  have batch := (goes_poll works f).1 messages { r with channel } (by rw [poll, polled]; rfl)
  rw [← batch.1, poll, polled]
  exact ⟨_, rfl⟩

theorem serveNewMessages_lists {r : Relay} (works : r.channel.access = .normal)
    (known : r.channel.hub.Knows r.filter) : r.serveNewMessages.1 =
      .json 200 (payloadList ((r.channel.hub.waiting r.filter).map (·.payload))) := by
  obtain ⟨after, polled⟩ := poll_of_known works known
  rw [serveNewMessages, polled, payloadList, List.map_map]
  rfl

theorem lists_drain {r : Relay} (works : r.channel.access = .normal)
    (known : r.channel.hub.Knows r.filter) (now : Nat) {s : Step} {d : Drain}
    (drained : r.drain? s = some d) {answer : Except Failure Outcome}
    (replied : (r.step now s).1 = answer.mapError .failure) : Lists d.batch s answer := by
  cases s with
  | poll f =>
    rw [drain?_poll] at drained
    split at drained
    · next own =>
      cases drained
      obtain ⟨after, polled⟩ := poll_of_known works known
      rw [step, own, polled] at replied
      cases answer with
      | ok o => cases replied; rfl
      | error f => contradiction
    · contradiction
  | request q =>
    intro get path
    have full : q.drain? = some false := by
      rw [Http.Request.drain?, get, path]
      rfl
    have batch : r.drain false = d := by
      rw [drain?, Step.drain?, full] at drained
      exact Option.some.inj drained
    subst batch
    obtain ⟨headers, rfl, _⟩ := step_get get path replied
    have shown : (r.serve now .newMessages).1 = _ :=
      serveNewMessages_lists (r := r.record .newMessages) works known
    refine ⟨_, rfl, ?_⟩
    rw [shown]
    exact ⟨rfl, rfl⟩
  | _ => trivial

theorem owed_of_run {r final : Relay} {steps : List (Nat × Step)}
    {answers : List (Except Failure Outcome)} {keyId : KeyId}
    (channel : r.channel = ⟨.normal, Hub.empty.after (r.opening keyId)⟩)
    (listening : r.channel.hub.subscription? r.filter = some ⟨r.filter, r.target.topic, keyId, []⟩)
    (own : ∀ t ∈ steps, ∀ f, t.2 = .advance f → f = r.filter)
    (few : steps.countP (·.2.isCreation) + 1 < UInt64.size)
    (ran : r.run steps = .ok (answers, final)) : final.channel.hub.Knows r.filter ∧
      batches (r.drains steps) ++ final.channel.hub.waiting r.filter = r.owed keyId steps := by
  have works : r.channel.access = .normal := by rw [channel]
  obtain ⟨goes, taken⟩ := goes_run works own ran
  have creations :
      (r.opening keyId ++ r.allCalls steps).countP Hub.Call.isCreation < UInt64.size := by
    have bound := r.creations_allCalls steps
    rw [List.countP_append, creations_opening]
    omega
  rw [channel] at listening taken
  obtain ⟨sub, here, paid⟩ := Hub.deliveries_run _ _ creations listening
  have hub : final.channel.hub = Hub.empty.after (r.opening keyId ++ r.allCalls steps) := by
    rw [goes.channel, channel, Hub.after_append]
  rw [hub, Hub.Knows, Hub.waiting, here]
  refine ⟨⟨sub, rfl⟩, ?_⟩
  rw [← taken]
  exact paid

/-- How a session deals with the announcements for the relay's filter. -/
structure Accounts (r : Relay) (keyId : KeyId) (steps : List (Nat × Step))
    (answers : List (Except Failure Outcome)) (final : Relay) : Prop where
  paid : batches (r.drains steps) ++ final.channel.hub.waiting r.filter = r.owed keyId steps
  latest : ∀ before, before <+: steps → (r.after before).latest = latestOf (r.drains before)
  stands : ∀ before, before <+: steps → standing (r.drains before) <+: r.owed keyId steps ∧
    (r.after before).latest = (standing (r.drains before)).getLast?.map (·.payload)
  forward : ∀ earlier before, earlier <+: before →
    standing (r.drains earlier) <+: standing (r.drains before)
  listed : ∀ before now s behind d, steps = before ++ (now, s) :: behind →
    (r.after before).drain? s = some d →
    ∃ answer, answers[before.length]? = some answer ∧ Lists d.batch s answer

/-- Over a working channel, however clients empty the relay's filter: the batches are the deliveries
of the filter, in order and each once, and the latest announcement is the newest of the last batch
that counts, so it only goes forward. -/
theorem accounts_of_run {s : Setup} {start : Nat} {r final : Relay} {steps : List (Nat × Step)}
    {answers : List (Except Failure Outcome)} (opened : s.relay start = .ok r)
    (works : s.channel = .normal) (own : ∀ t ∈ steps, ∀ f, t.2 = .advance f → f = r.filter)
    (few : steps.countP (·.2.isCreation) + 1 < UInt64.size)
    (ran : r.run steps = .ok (answers, final)) :
    ∃ keyId, KeyId.read s.keyId = .ok keyId ∧ r.Accounts keyId steps answers final := by
  obtain ⟨keyId, read, channel, listening, unset⟩ := exists_start opened works
  have normal : r.channel.access = .normal := by rw [channel]
  obtain ⟨_, paid⟩ := owed_of_run channel listening own few ran
  have latest : ∀ before, before <+: steps →
      (r.after before).latest = latestOf (r.drains before) := by
    rintro before ⟨behind, rfl⟩
    obtain ⟨_, _, _, _, reached, _⟩ := run_append ran
    obtain ⟨goes, _⟩ := goes_run normal (fun t ht => own t (by simp [ht])) reached
    rw [goes.latest, unset, Option.or_none]
  refine ⟨keyId, read, paid, latest, ?_, ?_, ?_⟩
  · intro before part
    rw [getLast?_standing]
    refine ⟨?_, latest before part⟩
    have grown : r.drains before <+: r.drains steps := drains_mono part
    exact (standing_part _).trans ((batches_mono grown).trans ⟨_, paid⟩)
  · exact fun earlier before part => standing_mono (drains_mono part)
  · -- The steps before a drain are a session as well, so the filter is there when it is drained.
    rintro before now t behind d rfl drained
    obtain ⟨_, answer, _, _, _, told, reached, replied, _⟩ := run_around ran
    have ownBefore : ∀ u ∈ before, ∀ f, u.2 = .advance f → f = r.filter :=
      fun u hu => own u (by simp [hu])
    have fewBefore : before.countP (·.2.isCreation) + 1 < UInt64.size := by
      rw [List.countP_append] at few
      omega
    obtain ⟨goes, _⟩ := goes_run normal ownBefore reached
    obtain ⟨known, _⟩ := owed_of_run channel listening ownBefore fewBefore reached
    refine ⟨answer, told, lists_drain (goes.works normal) ?_ now drained replied⟩
    rw [goes.filter]
    exact known

def sharedReads : List (Nat × Step) :=
  [(1, .ingest (Text.encode "[1]")), (2, .request ⟨.get, "/get_new_messages", []⟩),
    (3, .ingest (Text.encode "[2]")), (4, .ingest (Text.encode "[3]")),
    (5, .request ⟨.head, "/cat_last", []⟩), (6, .poll (Hub.handle 0))]

theorem accounts_shared : ∃ r answers final keyId, plainSetup.relay 0 = .ok r ∧
    r.run sharedReads = .ok (answers, final) ∧ r.Accounts keyId sharedReads answers final := by
  obtain ⟨r, opened⟩ : ∃ r, plainSetup.relay 0 = .ok r := ⟨_, rfl⟩
  obtain ⟨backed, access, origins⟩ := backed_of_opened opened
  have opens : r.serviceRules = .ok .anyOrigin := by
    rw [serviceRules, origins]
    rfl
  have indirect : ∀ t ∈ sharedReads, t.2.isDirect = false := by decide
  obtain ⟨answers, final, ran⟩ := Runs.exists_run ⟨backed, access⟩ opens indirect
  have own : ∀ t ∈ sharedReads, ∀ f, t.2 = .advance f → f = r.filter := by
    simp [sharedReads]
  obtain ⟨keyId, _, accounts⟩ := accounts_of_run opened rfl own (by decide) ran
  exact ⟨r, answers, final, keyId, opened, ran, accounts⟩

end Herald.Relay
