import Herald.Proofs.Hub
import Mathlib.Data.List.Induction
import Mathlib.Data.List.Nodup

/-!
Delivery within one process. The calls of a hub are a history, and what a filter is owed is read off
the history alone: the publishes behind its creation that were accepted, were of its topic and were
addressed to the key that its identity owned at that moment. Every poll hands out a part of this, and
the queue holds the rest, in order and each message once.
-/
namespace Herald

inductive Hub.Call where
  | register (id : KeyId) (key : PublicKey)
  | create (topic : Topic) (id : KeyId)
  | publish (now : Nat) (a : Announcement)
  | poll (f : Filter)

inductive Hub.Reply where
  | done
  | created (f : Filter)
  | messages (received : List Received)
  | refused (failure : Failure)

namespace Hub

/-- The reply to a call, and the hub behind it. A call that is refused changes nothing. -/
def call (h : Hub) : Call → Reply × Hub
  | .register id key => (.done, h.registerKey id key)
  | .create topic id =>
    match h.createFilter topic id with
    | .ok (f, h') => (.created f, h')
    | .error failure => (.refused failure, h)
  | .publish now a =>
    match h.publish now a with
    | .ok h' => (.done, h')
    | .error failure => (.refused failure, h)
  | .poll f =>
    match h.poll f with
    | .ok (received, h') => (.messages received, h')
    | .error failure => (.refused failure, h)

def after (h : Hub) : List Call → Hub
  | [] => h
  | c :: calls => (h.call c).2.after calls

def trace (h : Hub) : List Call → List (Call × Reply)
  | [] => []
  | c :: calls => (c, (h.call c).1) :: (h.call c).2.trace calls

/-- The last registration of an identity. -/
def registered? (id : KeyId) (past : List Call) : Option PublicKey :=
  past.foldl (fun owner c =>
    match c with
    | .register k key => if k = id then some key else owner
    | _ => owner) none

def Call.isCreation : Call → Bool
  | .create _ _ => true
  | _ => false

def Call.isPublish : Call → Bool
  | .publish _ _ => true
  | _ => false

def Call.isAccepted : Call → Bool
  | .publish _ a => a.work.validate.isOk
  | _ => false

def eightBytes (n : Nat) : List UInt8 :=
  (List.range 8).map fun i => UInt8.ofNat (n / Nat.pow 256 i)

/-- What the publish of `a` at the time `now` delivers when `n` others were accepted before it. -/
def message (a : Announcement) (n now : Nat) : Received where
  payload := a.payload
  topic := a.topic
  timestamp := some now
  hash := some ("0x" ++ Text.Hex.encode
    (Digest.ofBytes (a.topic.bytes ++ Text.encode a.payload.text ++ eightBytes n)))

/-- What one call behind `past` owes to a filter of `topic` and `id`. -/
def owed (topic : Topic) (id : KeyId) (past : List Call) : Call → List Received
  | .publish now a =>
    if a.work.validate.isOk ∧ a.topic = topic ∧ registered? id past = some a.recipient then
      [message a (past.countP Call.isAccepted) now]
    else []
  | _ => []

/-- What the calls of `future` behind `past` owe to a filter of `topic` and `id`. -/
def deliveries (topic : Topic) (id : KeyId) (past : List Call) : List Call → List Received
  | [] => []
  | c :: future => owed topic id past c ++ deliveries topic id (past ++ [c]) future

def taken (f : Filter) : Call × Reply → List Received
  | (.poll g, .messages received) => if g = f then received else []
  | _ => []

def polled (f : Filter) (calls : List (Call × Reply)) : List Received :=
  calls.flatMap (taken f)

def createdBy? : Call × Reply → Option Filter
  | (_, .created f) => some f
  | _ => none

def handles (calls : List (Call × Reply)) : List Filter :=
  calls.filterMap createdBy?

def waiting (h : Hub) (f : Filter) : List Received :=
  match h.subscription? f with
  | some s => s.queue
  | none => []

section Replies

variable {h h' : Hub}

theorem call_create_ok {topic : Topic} {id : KeyId} {f : Filter}
    (created : h.createFilter topic id = .ok (f, h')) :
    h.call (.create topic id) = (.created f, h') := by
  simp only [call, created]

theorem call_create_error {topic : Topic} {id : KeyId} {failure : Failure}
    (refused : h.createFilter topic id = .error failure) :
    h.call (.create topic id) = (.refused failure, h) := by
  simp only [call, refused]

theorem call_publish_ok {now : Nat} {a : Announcement} (accepted : h.publish now a = .ok h') :
    h.call (.publish now a) = (.done, h') := by
  simp only [call, accepted]

theorem call_publish_error {now : Nat} {a : Announcement} {failure : Failure}
    (refused : h.publish now a = .error failure) :
    h.call (.publish now a) = (.refused failure, h) := by
  simp only [call, refused]

theorem call_poll_some {f : Filter} {s : Subscription} (here : h.subscription? f = some s) :
    h.call (.poll f) = (.messages s.queue, h.drain f) := by
  simp only [call, poll, here]

theorem call_poll_none {f : Filter} (unknown : h.subscription? f = none) :
    h.call (.poll f) = (.refused (.channel s!"filter {f.text} not found"), h) := by
  simp only [call, poll, unknown]

end Replies

theorem taken_refused (f : Filter) (c : Call) (failure : Failure) :
    taken f (c, .refused failure) = [] := by
  cases c <;> rfl

theorem littleEndian_ofNat (n : Nat) : littleEndian (UInt64.ofNat n) = eightBytes n := by
  unfold littleEndian eightBytes
  apply List.map_congr_left
  intro i hi
  rw [List.mem_range] at hi
  have divides : Nat.pow 256 i * 2 ^ 8 ∣ 2 ^ 64 := by
    rw [show Nat.pow 256 i = 2 ^ (8 * i) from (Nat.pow_mul 2 8 i).symm, ← Nat.pow_add]
    exact Nat.pow_dvd_pow 2 (by omega)
  apply UInt8.toNat_inj.1
  rw [UInt8.toNat_ofNat', UInt8.toNat_ofNat', UInt64.toNat_ofNat', ← Nat.mod_mul_right_div_self,
    ← Nat.mod_mul_right_div_self, Nat.mod_mod_of_dvd _ divides]

theorem receipt_eq_message (a : Announcement) (n now : Nat) :
    receipt a (UInt64.ofNat n) now = message a n now := by
  unfold receipt message envelopeHash
  rw [littleEndian_ofNat]
  rfl

theorem after_append (h : Hub) (past future : List Call) :
    h.after (past ++ future) = (h.after past).after future := by
  induction past generalizing h with
  | nil => rfl
  | cons c past ih => exact ih _

theorem trace_append (h : Hub) (past future : List Call) :
    h.trace (past ++ future) = h.trace past ++ (h.after past).trace future := by
  induction past generalizing h with
  | nil => rfl
  | cons c past ih =>
    simp only [List.cons_append, trace, after]
    rw [ih]

theorem polled_append (f : Filter) (t u : List (Call × Reply)) :
    polled f (t ++ u) = polled f t ++ polled f u :=
  List.flatMap_append

theorem handles_append (t u : List (Call × Reply)) : handles (t ++ u) = handles t ++ handles u :=
  List.filterMap_append

theorem registered?_append (id : KeyId) (past : List Call) (c : Call) :
    registered? id (past ++ [c]) =
      match c with
      | .register k key => if k = id then some key else registered? id past
      | _ => registered? id past := by
  unfold registered?
  rw [List.foldl_append]
  rfl

/-- Fewer creations and publishes than the counters can number. -/
structure Few (calls : List Call) : Prop where
  creations : calls.countP Call.isCreation < UInt64.size
  publishes : calls.countP Call.isPublish < UInt64.size

theorem creations_of_append {past future : List Call}
    (few : (past ++ future).countP Call.isCreation < UInt64.size) :
    past.countP Call.isCreation < UInt64.size := by
  rw [List.countP_append] at few
  omega

theorem accepted_le (calls : List Call) :
    calls.countP Call.isAccepted ≤ calls.countP Call.isPublish := by
  apply List.countP_mono_left
  intro c _ accepted
  cases c with
  | publish => rfl
  | _ => contradiction

/-- How the hub behind a history reflects the history, as long as its filters can be numbered. -/
structure Reflects (past : List Call) (h : Hub) : Prop where
  owner : ∀ id, h.owner? id = registered? id past
  counted : h.published = UInt64.ofNat (past.countP Call.isAccepted)
  numbered : h.nextFilter.toNat ≤ past.countP Call.isCreation
  handles : handles (empty.trace past) =
    (List.range h.nextFilter.toNat).map fun n => handle (UInt64.ofNat n)
  fresh : ∀ n, h.nextFilter ≤ n →
    h.subscription? (handle n) = none ∧ polled (handle n) (empty.trace past) = []

theorem reflects_nil : Reflects [] empty where
  owner _ := rfl
  counted := rfl
  numbered := Nat.le_refl 0
  handles := rfl
  fresh _ _ := ⟨rfl, rfl⟩

theorem toNat_succ {n : UInt64} (small : n.toNat + 1 < UInt64.size) : (n + 1).toNat = n.toNat + 1 := by
  rw [UInt64.toNat_add, UInt64.toNat_one, Nat.mod_eq_of_lt small]

theorem trace_snoc (past : List Call) (c : Call) : empty.trace (past ++ [c]) =
    empty.trace past ++ [(c, ((empty.after past).call c).1)] :=
  trace_append empty past [c]

theorem Reflects.of_quiet {past : List Call} {h h' : Hub} {c : Call} (t : Reflects past h)
    (reached : empty.after past = h) (same : h'.nextFilter = h.nextFilter)
    (unnamed : createdBy? (c, (h.call c).1) = none)
    (unpolled : ∀ n, h.nextFilter ≤ n → taken (handle n) (c, (h.call c).1) = [])
    (hidden : ∀ f, h.subscription? f = none → h'.subscription? f = none)
    (owner : ∀ id, h'.owner? id = registered? id (past ++ [c]))
    (counted : h'.published = UInt64.ofNat ((past ++ [c]).countP Call.isAccepted)) :
    Reflects (past ++ [c]) h' where
  owner := owner
  counted := counted
  numbered := by
    rw [same, List.countP_append]
    have numbered := t.numbered
    omega
  handles := by
    rw [trace_snoc, handles_append, reached, t.handles, same]
    simp [Hub.handles, unnamed]
  fresh := by
    intro n later
    rw [same] at later
    obtain ⟨unknown, none⟩ := t.fresh n later
    refine ⟨hidden _ unknown, ?_⟩
    rw [trace_snoc, polled_append, reached, none]
    simp [polled, unpolled n later]

theorem Reflects.of_refused {past : List Call} {h : Hub} {c : Call} {failure : Failure}
    (t : Reflects past h) (reached : empty.after past = h)
    (refused : h.call c = (.refused failure, h))
    (owner : ∀ id, h.owner? id = registered? id (past ++ [c]))
    (counted : h.published = UInt64.ofNat ((past ++ [c]).countP Call.isAccepted)) :
    Reflects (past ++ [c]) (h.call c).2 := by
  rw [refused]
  apply t.of_quiet reached rfl _ _ (fun _ unknown => unknown) owner counted
  · rw [refused]
    rfl
  · intro n _
    rw [refused]
    exact taken_refused _ _ _

theorem Reflects.register {past : List Call} {h : Hub} (t : Reflects past h)
    (reached : empty.after past = h) (id : KeyId) (key : PublicKey) :
    Reflects (past ++ [.register id key]) (h.registerKey id key) := by
  have same : (h.registerKey id key).nextFilter = h.nextFilter := rfl
  apply t.of_quiet reached same rfl (fun _ _ => rfl) (fun _ unknown => unknown)
  · intro k
    rw [owner?_registerKey, registered?_append, t.owner]
  · rw [List.countP_append]
    exact t.counted

theorem Reflects.create {past : List Call} {h : Hub} (t : Reflects past h)
    (reached : empty.after past = h) {topic : Topic} {id : KeyId}
    (few : (past ++ [Call.create topic id]).countP Call.isCreation < UInt64.size) :
    Reflects (past ++ [.create topic id]) (h.call (.create topic id)).2 := by
  have owner (k : KeyId) : h.owner? k = registered? k (past ++ [.create topic id]) := by
    rw [registered?_append]
    exact t.owner k
  have counted : h.published = UInt64.ofNat ((past ++ [Call.create topic id]).countP Call.isAccepted) := by
    rw [List.countP_append]
    exact t.counted
  cases result : h.createFilter topic id with
  | error failure => exact t.of_refused reached (call_create_error result) owner counted
  | ok made =>
    obtain ⟨f, h'⟩ := made
    have called := call_create_ok result
    obtain ⟨rfl, keys, published, next, found⟩ := createFilter_eq_ok result
    have created : (past ++ [Call.create topic id]).countP Call.isCreation =
        past.countP Call.isCreation + 1 := List.countP_append
    have numbered := t.numbered
    have succ : h'.nextFilter.toNat = h.nextFilter.toNat + 1 := by
      rw [next, toNat_succ]
      omega
    rw [called]
    dsimp only
    constructor
    case owner =>
      intro k
      rw [← owner k, owner?, owner?, keys]
    case counted => rw [published, counted]
    case numbered => omega
    case handles =>
      rw [trace_snoc, handles_append, reached, t.handles, called, succ, List.range_succ,
        List.map_append]
      simp [Hub.handles, createdBy?]
    case fresh =>
      intro n later
      rw [UInt64.le_iff_toNat_le, succ] at later
      have older : h.nextFilter ≤ n := UInt64.le_iff_toNat_le.2 (by omega)
      obtain ⟨unknown, none⟩ := t.fresh n older
      have other : handle n ≠ handle h.nextFilter := by
        intro same
        rw [handle_injective same] at later
        omega
      rw [found, if_neg other, trace_snoc, polled_append, reached, none, called]
      exact ⟨unknown, rfl⟩

theorem Reflects.publish {past : List Call} {h : Hub} (t : Reflects past h)
    (reached : empty.after past = h) (now : Nat) (a : Announcement) :
    Reflects (past ++ [.publish now a]) (h.call (.publish now a)).2 := by
  have owner (k : KeyId) : h.owner? k = registered? k (past ++ [.publish now a]) := by
    rw [registered?_append]
    exact t.owner k
  cases result : h.publish now a with
  | error failure =>
    have rejected := not_isOk_of_publish result
    apply t.of_refused reached (call_publish_error result) owner
    rw [List.countP_append, t.counted]
    simp [Call.isAccepted, rejected]
  | ok h' =>
    have called := call_publish_ok result
    have accepted := isOk_of_publish result
    obtain ⟨keys, next, published, found⟩ := publish_eq_ok result
    have all : (past ++ [Call.publish now a]).countP Call.isAccepted =
        past.countP Call.isAccepted + 1 := by
      rw [List.countP_append]
      simp [Call.isAccepted, accepted]
    rw [called]
    apply t.of_quiet reached next
    · rw [called]
      rfl
    · intro n _
      rw [called]
      rfl
    · intro f unknown
      rw [found, unknown]
      rfl
    · intro k
      rw [← owner k, owner?, owner?, keys]
    · rw [published, t.counted, all, UInt64.ofNat_add]
      rfl

theorem Reflects.poll {past : List Call} {h : Hub} (t : Reflects past h)
    (reached : empty.after past = h) (f : Filter) :
    Reflects (past ++ [.poll f]) (h.call (.poll f)).2 := by
  have owner (k : KeyId) : h.owner? k = registered? k (past ++ [.poll f]) := by
    rw [registered?_append]
    exact t.owner k
  have counted : h.published = UInt64.ofNat ((past ++ [Call.poll f]).countP Call.isAccepted) := by
    rw [List.countP_append]
    exact t.counted
  cases here : h.subscription? f with
  | none => exact t.of_refused reached (call_poll_none here) owner counted
  | some s =>
    have drained := call_poll_some here
    have same : (h.drain f).nextFilter = h.nextFilter := rfl
    rw [drained]
    apply t.of_quiet reached same
    · rw [drained]
      rfl
    · intro n later
      have other : f ≠ handle n := by
        rintro rfl
        rw [(t.fresh n later).1] at here
        contradiction
      rw [drained]
      simp [taken, other]
    · intro g unknown
      rw [subscription?_drain, unknown]
      rfl
    · exact owner
    · exact counted

theorem Reflects.call {past : List Call} {h : Hub} (t : Reflects past h)
    (reached : empty.after past = h) {c : Call}
    (few : (past ++ [c]).countP Call.isCreation < UInt64.size) :
    Reflects (past ++ [c]) (h.call c).2 := by
  cases c with
  | register id key => exact t.register reached id key
  | create topic id => exact t.create reached few
  | publish now a => exact t.publish reached now a
  | poll f => exact t.poll reached f

theorem reflects (past : List Call) (few : past.countP Call.isCreation < UInt64.size) :
    Reflects past (empty.after past) := by
  induction past using List.reverseRecOn with
  | nil => exact reflects_nil
  | append_singleton past c ih =>
    rw [after_append]
    exact (ih (creations_of_append few)).call rfl few

/-- When publishes can be numbered too, the counter of publishes is their number. -/
structure Tracks (past : List Call) (h : Hub) : Prop extends Reflects past h where
  published : h.published.toNat = past.countP Call.isAccepted

theorem tracks (past : List Call) (few : Few past) : Tracks past (empty.after past) := by
  have reflected := reflects past few.creations
  refine ⟨reflected, ?_⟩
  have bound := accepted_le past
  have publishes := few.publishes
  rw [reflected.counted, UInt64.toNat_ofNat_of_lt' (by omega)]

/-- One call pays what the history owes for it: what is taken out of the queue of a filter and what
is left there are what was there and what the call adds. -/
def Pays (past : List Call) (h : Hub) (f : Filter) (s : Subscription) (c : Call) : Prop :=
  ∃ s', (h.call c).2.subscription? f = some s' ∧ s'.topic = s.topic ∧ s'.keyId = s.keyId ∧
    taken f (c, (h.call c).1) ++ s'.queue = s.queue ++ owed s.topic s.keyId past c

section Pays

variable {past : List Call} {h : Hub} {f : Filter} {s : Subscription}

theorem pays_nothing {c : Call} (kept : (h.call c).2.subscription? f = some s)
    (untaken : taken f (c, (h.call c).1) = []) (free : owed s.topic s.keyId past c = []) :
    Pays past h f s c := by
  refine ⟨s, kept, rfl, rfl, ?_⟩
  rw [untaken, free, List.append_nil]
  rfl

theorem pays_refused {c : Call} {failure : Failure} (here : h.subscription? f = some s)
    (refused : h.call c = (.refused failure, h)) (free : owed s.topic s.keyId past c = []) :
    Pays past h f s c := by
  apply pays_nothing _ _ free
  · rw [refused]
    exact here
  · rw [refused]
    exact taken_refused _ _ _

theorem Reflects.pays_create (t : Reflects past h) (here : h.subscription? f = some s) (topic : Topic)
    (id : KeyId) : Pays past h f s (.create topic id) := by
  cases result : h.createFilter topic id with
  | error failure => exact pays_refused here (call_create_error result) rfl
  | ok made =>
    obtain ⟨g, h'⟩ := made
    obtain ⟨rfl, _, _, _, found⟩ := createFilter_eq_ok result
    have other : f ≠ handle h.nextFilter := by
      rintro rfl
      have unknown := (t.fresh h.nextFilter (UInt64.le_refl _)).1
      rw [here] at unknown
      contradiction
    apply pays_nothing _ rfl rfl
    rw [call_create_ok result, found, if_neg other]
    exact here

theorem Reflects.reaches_iff (t : Reflects past h) (a : Announcement) (s : Subscription) :
    h.reaches a s = true ↔ a.topic = s.topic ∧ registered? s.keyId past = some a.recipient := by
  unfold reaches
  rw [t.owner, Bool.and_eq_true, decide_eq_true_eq, decide_eq_true_eq, eq_comm (a := s.topic)]

theorem Reflects.pays_publish (t : Reflects past h) (here : h.subscription? f = some s) (now : Nat)
    (a : Announcement) : Pays past h f s (.publish now a) := by
  cases result : h.publish now a with
  | error failure =>
    apply pays_refused here (call_publish_error result)
    simp [owed, not_isOk_of_publish result]
  | ok h' =>
    have accepted := isOk_of_publish result
    obtain ⟨_, _, _, found⟩ := publish_eq_ok result
    unfold Pays
    rw [call_publish_ok result, found, here]
    refine ⟨_, rfl, ?_⟩
    simp only [owed, accepted, true_and]
    by_cases reaches : h.reaches a s = true
    · rw [if_pos reaches, if_pos ((t.reaches_iff a s).1 reaches), t.counted, receipt_eq_message]
      exact ⟨rfl, rfl, rfl⟩
    · rw [if_neg reaches, if_neg (mt (t.reaches_iff a s).2 reaches)]
      exact ⟨rfl, rfl, (List.append_nil _).symm⟩

theorem pays_poll (here : h.subscription? f = some s) (g : Filter) : Pays past h f s (.poll g) := by
  have named := filter_of_subscription? here
  by_cases same : g = f
  · subst same
    unfold Pays
    rw [call_poll_some here, subscription?_drain, here]
    refine ⟨_, rfl, ?_⟩
    simp only [named, taken, if_true]
    exact ⟨trivial, trivial, rfl⟩
  · cases there : h.subscription? g with
    | none => exact pays_refused here (call_poll_none there) rfl
    | some s₀ =>
      have kept : s.filter ≠ g := by
        rw [named]
        exact Ne.symm same
      apply pays_nothing _ _ rfl
      · rw [call_poll_some there, subscription?_drain, here, Option.map_some, if_neg kept]
      · rw [call_poll_some there, taken, if_neg same]

theorem Reflects.pays (t : Reflects past h) (here : h.subscription? f = some s) (c : Call) :
    Pays past h f s c := by
  cases c with
  | register id key => exact pays_nothing here rfl rfl
  | create topic id => exact t.pays_create here topic id
  | publish now a => exact t.pays_publish here now a
  | poll g => exact pays_poll here g

end Pays

theorem deliveries_run (future : List Call) : ∀ (past : List Call) {f : Filter} {s : Subscription},
    (past ++ future).countP Call.isCreation < UInt64.size →
    (empty.after past).subscription? f = some s →
    ∃ s', (empty.after (past ++ future)).subscription? f = some s' ∧
      polled f ((empty.after past).trace future) ++ s'.queue =
        s.queue ++ deliveries s.topic s.keyId past future := by
  induction future with
  | nil =>
    intro past f s _ here
    rw [List.append_nil]
    exact ⟨s, here, (List.append_nil _).symm⟩
  | cons c future ih =>
    intro past f s few here
    rw [List.append_cons] at few ⊢
    obtain ⟨s₁, here₁, topic, id, paid⟩ := 
      (reflects past (creations_of_append (creations_of_append few))).pays here c
    have behind : ((empty.after past).call c).2 = empty.after (past ++ [c]) := by
      rw [after_append]
      rfl
    rw [behind] at here₁
    obtain ⟨s₂, here₂, rest⟩ := ih (past ++ [c]) few here₁
    refine ⟨s₂, here₂, ?_⟩
    rw [topic, id] at rest
    calc polled f ((empty.after past).trace (c :: future)) ++ s₂.queue
        = taken f (c, ((empty.after past).call c).1) ++
            (polled f ((empty.after (past ++ [c])).trace future) ++ s₂.queue) := by
          rw [trace, behind, ← List.append_assoc]
          rfl
      _ = (taken f (c, ((empty.after past).call c).1) ++ s₁.queue) ++
            deliveries s.topic s.keyId (past ++ [c]) future := by
          rw [rest, List.append_assoc]
      _ = s.queue ++ deliveries s.topic s.keyId past (c :: future) := by
          rw [paid, deliveries, List.append_assoc]

theorem handles_nodup {calls : List Call} (few : Few calls) :
    (handles (empty.trace calls)).Nodup := by
  have t := tracks calls few
  rw [t.handles]
  apply List.Nodup.map_on _ List.nodup_range
  intro m hm n hn same
  rw [List.mem_range] at hm hn
  have bound := (empty.after calls).nextFilter.toNat_lt
  have numbers := congrArg UInt64.toNat (handle_injective same)
  simp only [UInt64.toNat_ofNat'] at numbers
  omega

theorem exists_subscription {before after : List Call} {topic : Topic} {id : KeyId} {f : Filter}
    (few : Few (before ++ .create topic id :: after))
    (created : ((empty.after before).call (.create topic id)).1 = .created f) :
    ∃ s, (empty.after (before ++ .create topic id :: after)).subscription? f = some s ∧
      polled f (empty.trace (before ++ .create topic id :: after)) ++ s.queue =
        deliveries topic id (before ++ [.create topic id]) after := by
  have few := few.creations
  rw [List.append_cons] at few ⊢
  have t := reflects before (creations_of_append (creations_of_append few))
  cases result : (empty.after before).createFilter topic id with
  | error failure =>
    rw [call_create_error result] at created
    contradiction
  | ok made =>
    obtain ⟨g, h'⟩ := made
    have called := call_create_ok result
    have behind : empty.after (before ++ [.create topic id]) = h' := by
      rw [after_append, Hub.after, called]
      rfl
    rw [called] at created
    cases created
    obtain ⟨rfl, _, _, _, found⟩ := createFilter_eq_ok result
    have here : h'.subscription? (handle (empty.after before).nextFilter) =
        some ⟨handle (empty.after before).nextFilter, topic, id, []⟩ := by
      rw [found, if_pos rfl]
    rw [← behind] at here
    obtain ⟨s, there, paid⟩ := deliveries_run after _ few here
    have unpolled := (t.fresh _ (UInt64.le_refl _)).2
    have first : polled (handle (empty.after before).nextFilter)
        (empty.trace (before ++ [.create topic id])) = [] := by
      rw [trace_snoc, polled_append, unpolled]
      rfl
    refine ⟨s, there, ?_⟩
    rw [trace_append, polled_append, first]
    exact paid

theorem eq_create_of_created {h : Hub} {c : Call} {f : Filter} (created : (h.call c).1 = .created f) :
    ∃ topic id, c = .create topic id := by
  cases c with
  | create topic id => exact ⟨topic, id, rfl⟩
  | register id key => contradiction
  | publish now a =>
    unfold call at created
    dsimp only at created
    split at created <;> contradiction
  | poll g =>
    unfold call at created
    dsimp only at created
    split at created <;> contradiction

theorem exists_creation {h : Hub} {calls : List Call} {f : Filter} (mem : f ∈ handles (h.trace calls)) :
    ∃ before topic id after, calls = before ++ .create topic id :: after ∧
      ((h.after before).call (.create topic id)).1 = .created f := by
  induction calls generalizing h with
  | nil => simp [trace, handles] at mem
  | cons c calls ih =>
    have split : handles (h.trace (c :: calls)) =
        handles [(c, (h.call c).1)] ++ handles ((h.call c).2.trace calls) :=
      handles_append [_] _
    rw [split, List.mem_append] at mem
    cases mem with
    | inl first =>
      cases reply : (h.call c).1 with
      | created g =>
        simp only [handles, reply, createdBy?, List.filterMap_cons, List.filterMap_nil,
          List.mem_singleton] at first
        subst first
        obtain ⟨topic, id, rfl⟩ := eq_create_of_created reply
        exact ⟨[], topic, id, calls, rfl, reply⟩
      | _ => simp [handles, reply, createdBy?] at first
    | inr later =>
      obtain ⟨before, topic, id, after, rfl, created⟩ := ih later
      exact ⟨c :: before, topic, id, after, rfl, created⟩

theorem poll_of_subscription? {h : Hub} {f : Filter} {s : Subscription}
    (here : h.subscription? f = some s) :
    h.poll f = .ok (h.waiting f, h.drain f) ∧ (h.waiting f).length = h.pending f := by
  unfold poll waiting pending
  rw [here]
  exact ⟨rfl, rfl⟩

/-- For all calls of a hub: from every filter comes, in order and once each, what the accepted
publishes since its creation owe to its topic and identity; no handle is returned twice; a poll hands
out as much as is pending; and the counter of publishes is right. -/
theorem delivery_exact {calls : List Call} (few : Few calls) :
    (∀ before topic id f after, calls = before ++ .create topic id :: after →
      ((empty.after before).call (.create topic id)).1 = .created f →
      polled f (empty.trace calls) ++ (empty.after calls).waiting f =
        deliveries topic id (before ++ [.create topic id]) after) ∧
    (handles (empty.trace calls)).Nodup ∧
    (∀ f ∈ handles (empty.trace calls), ∃ h',
      (empty.after calls).poll f = .ok ((empty.after calls).waiting f, h') ∧
      ((empty.after calls).waiting f).length = (empty.after calls).pending f) ∧
    (empty.after calls).published.toNat = calls.countP Call.isAccepted := by
  refine ⟨?_, handles_nodup few, ?_, (tracks calls few).published⟩
  · rintro before topic id f after rfl created
    obtain ⟨s, here, paid⟩ := exists_subscription few created
    rw [waiting, here]
    exact paid
  · intro f mem
    obtain ⟨before, topic, id, after, rfl, created⟩ := exists_creation mem
    obtain ⟨s, here, _⟩ := exists_subscription few created
    exact ⟨_, poll_of_subscription? here⟩

def exchange : List Call :=
  let id : KeyId := ⟨"0a", by decide, by decide⟩
  let key : PublicKey := ⟨List.replicate 33 2, by decide⟩
  let topic : Topic := ⟨[0x12, 0x34, 0x56, 0x78], rfl⟩
  let payload : ContentId := ⟨"a1", by decide, by decide, by decide⟩
  [.register id key, .create topic id, .publish 7 ⟨payload, key, topic, .standard⟩, .poll (handle 0)]

theorem delivery_exchange :
    Few exchange ∧ handles (empty.trace exchange) = [handle 0] ∧
      polled (handle 0) (empty.trace exchange) ++ (empty.after exchange).waiting (handle 0) =
        deliveries ⟨[0x12, 0x34, 0x56, 0x78], rfl⟩ ⟨"0a", by decide, by decide⟩ (exchange.take 2)
          (exchange.drop 2) := by
  have few : Few exchange := ⟨by decide, by decide⟩
  exact ⟨few, rfl, (delivery_exact few).1 (exchange.take 1) _ _ (handle 0) (exchange.drop 2) rfl rfl⟩

end Hub

end Herald
