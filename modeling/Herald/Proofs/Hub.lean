import Herald.Channel.Hub
import Herald.Meter

/-!
What each operation of a hub does, seen through look-ups: who owns a key, what is subscribed under a
handle, and which payloads wait in queues.
-/
namespace Herald.Hub

theorem owner?_registerKey (h : Hub) (id k : KeyId) (key : PublicKey) :
    (h.registerKey id key).owner? k = if id = k then some key else h.owner? k := by
  unfold owner? registerKey
  by_cases same : id = k
  · subst same
    simp
  · have other : (k == id) = false := beq_false_of_ne (Ne.symm same)
    rw [List.lookup_cons, other, if_neg same]
    exact Meter.lookup_filter_ne (Ne.symm same) h.keys

theorem find?_filter_ne (subscriptions : List Subscription) (f g : Filter) :
    (subscriptions.filter (·.filter ≠ f)).find? (·.filter = g) =
      if g = f then none else subscriptions.find? (·.filter = g) := by
  rw [List.find?_filter]
  by_cases same : g = f
  · rw [if_pos same, List.find?_eq_none]
    intro s _
    simp [same]
  · rw [if_neg same]
    congr 1
    funext s
    by_cases here : s.filter = g
    · simp [here, same]
    · simp [here]

theorem createFilter_eq_ok {h h' : Hub} {topic : Topic} {id : KeyId} {f : Filter}
    (created : h.createFilter topic id = .ok (f, h')) :
    f = handle h.nextFilter ∧ h'.keys = h.keys ∧ h'.published = h.published ∧
      h'.nextFilter = h.nextFilter + 1 ∧
      ∀ g, h'.subscription? g = if g = f then some ⟨f, topic, id, []⟩ else h.subscription? g := by
  unfold createFilter at created
  split at created
  · contradiction
  cases created
  refine ⟨rfl, rfl, rfl, rfl, ?_⟩
  intro g
  unfold subscription?
  rw [List.find?_append, find?_filter_ne]
  by_cases same : g = handle h.nextFilter
  · rw [if_pos same, if_pos same]
    simp [same]
  · rw [if_neg same, if_neg same]
    simp [Ne.symm same]

theorem publish_eq_ok {h h' : Hub} {now : Nat} {a : Announcement}
    (accepted : h.publish now a = .ok h') :
    h'.keys = h.keys ∧ h'.nextFilter = h.nextFilter ∧ h'.published = h.published + 1 ∧
      ∀ f, h'.subscription? f = (h.subscription? f).map fun s =>
        if h.reaches a s then { s with queue := s.queue ++ [receipt a h.published now] } else s := by
  unfold publish at accepted
  split at accepted
  · contradiction
  cases accepted
  refine ⟨rfl, rfl, rfl, ?_⟩
  intro f
  unfold subscription?
  rw [List.find?_map]
  congr 2
  funext s
  simp only [Function.comp_apply]
  split <;> rfl

theorem subscription?_drain (h : Hub) (f g : Filter) :
    (h.drain f).subscription? g = (h.subscription? g).map fun s =>
      if s.filter = f then { s with queue := [] } else s := by
  unfold subscription? drain
  rw [List.find?_map]
  congr 2
  funext s
  simp only [Function.comp_apply]
  split <;> rfl

theorem isOk_of_publish {h h' : Hub} {now : Nat} {a : Announcement}
    (accepted : h.publish now a = .ok h') : a.work.validate.isOk = true := by
  unfold publish at accepted
  split at accepted
  · contradiction
  · next valid =>
    rw [valid]
    rfl

theorem not_isOk_of_publish {h : Hub} {now : Nat} {a : Announcement} {failure : Failure}
    (rejected : h.publish now a = .error failure) : a.work.validate.isOk = false := by
  unfold publish at rejected
  split at rejected
  · next invalid =>
    rw [invalid]
    rfl
  · contradiction

theorem eq_of_repr {m n : Nat} (same : m.repr = n.repr) : m = n := by
  have digits : Nat.toDigits 10 m = Nat.toDigits 10 n := by
    rw [← Nat.toList_repr, ← Nat.toList_repr, same]
  have numbers := congrArg (Nat.ofDigitChars 10 · 0) digits
  simpa only [Nat.ofDigitChars_ten_toDigits] using numbers

theorem handle_injective {m n : UInt64} (same : handle m = handle n) : m = n := by
  have text : "memory-filter-" ++ m.toNat.repr = "memory-filter-" ++ n.toNat.repr :=
    congrArg Filter.text same
  rw [String.append_right_inj] at text
  exact UInt64.toNat_inj.1 (eq_of_repr text)

theorem filter_of_subscription? {h : Hub} {f : Filter} {s : Subscription}
    (here : h.subscription? f = some s) : s.filter = f := by
  have found := List.find?_some here
  simpa using found

def Knows (h : Hub) (f : Filter) : Prop :=
  ∃ s, h.subscription? f = some s

theorem Knows.createFilter {h h' : Hub} {f g : Filter} {topic : Topic} {id : KeyId} (known : h.Knows f)
    (created : h.createFilter topic id = .ok (g, h')) : h'.Knows f := by
  obtain ⟨_, _, _, _, found⟩ := createFilter_eq_ok created
  unfold Knows
  rw [found]
  split
  · exact ⟨_, rfl⟩
  · exact known

theorem Knows.publish {h h' : Hub} {f : Filter} {now : Nat} {a : Announcement} (known : h.Knows f)
    (accepted : h.publish now a = .ok h') : h'.Knows f := by
  obtain ⟨s, here⟩ := known
  obtain ⟨_, _, _, found⟩ := publish_eq_ok accepted
  unfold Knows
  rw [found, here]
  exact ⟨_, rfl⟩

theorem Knows.poll {h h' : Hub} {f g : Filter} {messages : List Received} (known : h.Knows f)
    (polled : h.poll g = .ok (messages, h')) : h'.Knows f := by
  obtain ⟨s, here⟩ := known
  unfold Hub.poll at polled
  split at polled
  · contradiction
  · cases polled
    unfold Knows
    rw [subscription?_drain, here]
    exact ⟨_, rfl⟩

/-- Every message that waits anywhere is of such a payload. -/
def Queued (P : ContentId → Prop) (h : Hub) : Prop :=
  ∀ s ∈ h.subscriptions, ∀ m ∈ s.queue, P m.payload

variable {P Q : ContentId → Prop} {h h' : Hub}

theorem Queued.mono (queued : h.Queued P) (sub : ∀ id, P id → Q id) : h.Queued Q :=
  fun s hs m hm => sub _ (queued s hs m hm)

theorem Queued.createFilter (queued : h.Queued P) {topic : Topic} {id : KeyId} {f : Filter}
    (created : h.createFilter topic id = .ok (f, h')) : h'.Queued P := by
  unfold Hub.createFilter at created
  split at created
  · contradiction
  cases created
  intro s hs m hm
  rw [List.mem_append] at hs
  cases hs with
  | inl old => exact queued s ((List.mem_filter.1 old).1) m hm
  | inr new =>
    rw [List.mem_singleton] at new
    subst new
    contradiction

theorem Queued.publish (queued : h.Queued P) {now : Nat} {a : Announcement} (payload : P a.payload)
    (accepted : h.publish now a = .ok h') : h'.Queued P := by
  unfold Hub.publish at accepted
  split at accepted
  · contradiction
  cases accepted
  intro s hs m hm
  obtain ⟨s₀, hs₀, rfl⟩ := List.mem_map.1 hs
  have before := queued s₀ hs₀
  split at hm
  · rw [List.mem_append] at hm
    cases hm with
    | inl old => exact before m old
    | inr new =>
      rw [List.mem_singleton] at new
      subst new
      exact payload
  · exact before m hm

theorem Queued.poll (queued : h.Queued P) {f : Filter} {messages : List Received}
    (polled : h.poll f = .ok (messages, h')) : h'.Queued P ∧ ∀ m ∈ messages, P m.payload := by
  unfold Hub.poll at polled
  split at polled
  · contradiction
  · next s here =>
    cases polled
    refine ⟨?_, queued s (List.mem_of_find?_eq_some here)⟩
    intro s' hs' m hm
    obtain ⟨s₀, hs₀, rfl⟩ := List.mem_map.1 hs'
    split at hm
    · contradiction
    · exact queued s₀ hs₀ m hm

end Herald.Hub
