import Herald.Proofs.Json.Injective
import Herald.Store.Objects
import Mathlib.Data.Finset.Card
import Mathlib.Data.Finset.Dedup

/-!
The laws of a store of objects. What is in it stays in it, under the digest of its own bytes; what is
asked for is the first document that was put under its identifier. As far as digests and numerals tell
documents apart, it holds each document once.
-/
namespace Herald

open Json (Number Value)

theorem Document.value_injective : Function.Injective Document.value := by
  rintro ⟨v, _⟩ ⟨w, _⟩ same
  cases same
  rfl

namespace Objects

theorem contains_iff {o : Objects} {id : ContentId} :
    o.contains id = true ↔ id ∈ o.entries.map Prod.fst := by
  simp only [contains, get?, List.lookup_isSome_iff, beq_iff_eq, List.mem_map]
  exact exists_congr fun e => and_congr_right' eq_comm

theorem put_cases (o : Objects) (d : Document) :
    (d.id ∈ o.entries.map Prod.fst ∧ (o.put d).2 = o) ∨
      (d.id ∉ o.entries.map Prod.fst ∧ (o.put d).2.entries = (d.id, d.bytes) :: o.entries) := by
  rw [← contains_iff]
  unfold put
  by_cases there : o.contains d.id = true
  · simp [there]
  · simp [there]

/-- Every object lies under the digest of its bytes, and there is one for each identifier. -/
structure Keyed (o : Objects) : Prop where
  own : ∀ e ∈ o.entries, e.1 = .ofData e.2
  once : (o.entries.map Prod.fst).Nodup

theorem keyed_empty : empty.Keyed :=
  ⟨nofun, .nil⟩

theorem Keyed.put {o : Objects} (keyed : o.Keyed) (d : Document) : (o.put d).2.Keyed := by
  obtain ⟨_, same⟩ | ⟨absent, more⟩ := o.put_cases d
  · rw [same]
    exact keyed
  · constructor
    · rw [more]
      exact List.forall_mem_cons.2 ⟨rfl, keyed.own⟩
    · rw [more]
      exact List.nodup_cons.2 ⟨absent, keyed.once⟩

theorem suffix_put (o : Objects) (d : Document) : o.entries <:+ (o.put d).2.entries := by
  obtain ⟨_, same⟩ | ⟨_, more⟩ := o.put_cases d
  · rw [same]
  · rw [more]
    exact List.suffix_cons _ _

inductive Call where
  | put (d : Document)
  | get (id : ContentId)

inductive Reply where
  | stored (id : ContentId)
  | found (result : Except Failure Document)

def call (o : Objects) : Call → Reply × Objects
  | .put d => (.stored (o.put d).1, (o.put d).2)
  | .get id => (.found (o.get id), o)

def after (o : Objects) : List Call → Objects
  | [] => o
  | c :: rest => (o.call c).2.after rest

def replies (o : Objects) : List Call → List Reply
  | [] => []
  | c :: rest => (o.call c).1 :: (o.call c).2.replies rest

def Call.document? : Call → Option Document
  | .put d => some d
  | .get _ => none

def puts (calls : List Call) : List Document :=
  calls.filterMap Call.document?

theorem after_append (o : Objects) (before behind : List Call) :
    o.after (before ++ behind) = (o.after before).after behind := by
  induction before generalizing o with
  | nil => rfl
  | cons c before ih => exact ih _

theorem replies_append (o : Objects) (before behind : List Call) :
    o.replies (before ++ behind) = o.replies before ++ (o.after before).replies behind := by
  induction before generalizing o with
  | nil => rfl
  | cons c before ih => exact congrArg _ (ih _)

theorem length_replies (o : Objects) (calls : List Call) : (o.replies calls).length = calls.length := by
  induction calls generalizing o with
  | nil => rfl
  | cons c rest ih => exact congrArg (· + 1) (ih _)

theorem getElem?_replies (o : Objects) (before : List Call) (c : Call) (behind : List Call) :
    (o.replies (before ++ c :: behind))[before.length]? = some ((o.after before).call c).1 := by
  rw [replies_append, ← o.length_replies before, List.getElem?_append_right (Nat.le_refl _), Nat.sub_self]
  rfl

theorem suffix_after (o : Objects) (calls : List Call) : o.entries <:+ (o.after calls).entries := by
  induction calls generalizing o with
  | nil => exact List.suffix_refl _
  | cons c rest ih =>
    cases c with
    | put d => exact (o.suffix_put d).trans (ih _)
    | get id => exact ih o

theorem Keyed.after {o : Objects} (keyed : o.Keyed) (calls : List Call) : (o.after calls).Keyed := by
  induction calls generalizing o with
  | nil => exact keyed
  | cons c rest ih =>
    cases c with
    | put d => exact ih (keyed.put d)
    | get id => exact ih keyed

theorem get?_after (o : Objects) (calls : List Call) (id : ContentId) :
    (o.after calls).get? id = (o.get? id).or (((puts calls).find? (·.id = id)).map (·.bytes)) := by
  induction calls generalizing o with
  | nil => exact Option.or_none.symm
  | cons c rest ih =>
    cases c with
    | get id' => exact ih o
    | put d =>
      refine (ih _).trans ?_
      change ((o.put d).2.get? id).or _ = (o.get? id).or (((d :: puts rest).find? (·.id = id)).map _)
      rw [get?_put, Option.or_assoc, List.find?_cons]
      by_cases same : d.id = id
      · simp [same]
      · simp [same, Ne.symm same]

theorem stored_mem_replies {o : Objects} {calls : List Call} {id : ContentId} :
    .stored id ∈ o.replies calls ↔ ∃ d ∈ puts calls, d.id = id := by
  induction calls generalizing o with
  | nil => simp [replies, puts]
  | cons c rest ih =>
    cases c with
    | get id' => simpa [replies, call, puts, Call.document?] using ih (o := o)
    | put d =>
      change _ ∈ .stored d.id :: (o.put d).2.replies rest ↔ ∃ d' ∈ d :: puts rest, d'.id = id
      rw [List.mem_cons, ih, List.exists_mem_cons_iff]
      simp [eq_comm]

theorem exists_first {o : Objects} {calls : List Call} {id : ContentId} {d : Document}
    (first : (puts calls).find? (·.id = id) = some d) :
    ∃ before behind, calls = before ++ .put d :: behind ∧ d.id = id ∧ .stored id ∉ o.replies before := by
  obtain ⟨same, ds, ds', split, others⟩ := List.find?_eq_some_iff_append.1 first
  obtain ⟨before, rest, rfl, left, right⟩ := List.filterMap_eq_append_iff.1 split
  obtain ⟨gets, c, behind, rfl, none, put, _⟩ := List.filterMap_eq_cons_iff.1 right
  cases c with
  | get id' => contradiction
  | put d' =>
    cases put
    refine ⟨before ++ gets, behind, (List.append_assoc _ _ _).symm, by simpa using same, ?_⟩
    rw [stored_mem_replies, puts, List.filterMap_append, left, List.filterMap_eq_nil_iff.2 none,
      List.append_nil]
    rintro ⟨d', mem, taken⟩
    simpa [taken] using others d' mem

/-- Documents of finite numbers, where each number has a numeral of its own and each text a digest of
its own. -/
structure Discerned (ds : List Document) : Prop where
  finite : ∀ d ∈ ds, ∀ n ∈ d.value.numbers, n.isFinite = true
  numbers : ∀ d ∈ ds, ∀ d' ∈ ds, ∀ m ∈ d.value.numbers, ∀ n ∈ d'.value.numbers,
    m.print = n.print → m = n
  digests : ∀ d ∈ ds, ∀ d' ∈ ds, d.id = d'.id → d.bytes = d'.bytes

theorem Discerned.id_eq_iff {ds : List Document} (discerned : Discerned ds) {d d' : Document}
    (mem : d ∈ ds) (mem' : d' ∈ ds) : d.id = d'.id ↔ d.value = d'.value := by
  have numeral : ∀ d ∈ ds, ∀ n ∈ d.value.numbers, n.print ≠ [0x6E, 0x75, 0x6C, 0x6C] := by
    intro d mem n holds
    exact Json.print_ne_null (discerned.finite d mem n holds)
  constructor
  · intro same
    refine Json.eq_of_print_eq ⟨numeral d mem, numeral d' mem', ?_⟩ (discerned.digests d mem d' mem' same)
    exact discerned.numbers d mem d' mem'
  · intro same
    rw [Document.id, Document.id, Document.bytes, Document.bytes, same]

theorem mem_keys_after {calls : List Call} {id : ContentId} :
    id ∈ (empty.after calls).entries.map Prod.fst ↔ ∃ d ∈ puts calls, d.id = id := by
  rw [← contains_iff, contains, get?_after, get?_empty, Option.none_or, Option.isSome_map,
    List.find?_isSome]
  simp

theorem size_after (calls : List Call) :
    (empty.after calls).size = ((puts calls).map (·.id)).toFinset.card := by
  have once := (keyed_empty.after calls).once
  have same : ((empty.after calls).entries.map Prod.fst).toFinset =
      ((puts calls).map (·.id)).toFinset := by
    ext id
    rw [List.mem_toFinset, mem_keys_after, List.mem_toFinset, List.mem_map]
  rw [← same, List.toFinset_card_of_nodup once, List.length_map]
  rfl

theorem Discerned.card {ds : List Document} (discerned : Discerned ds) :
    (ds.map (·.id)).toFinset.card = (ds.map (·.value)).toFinset.card := by
  have image {β : Type} [DecidableEq β] (f : Document → β) :
      (ds.map f).toFinset = ds.toFinset.image f := by
    ext b
    simp
  rw [image, image, Finset.card_image_of_injective _ Document.value_injective]
  apply Finset.card_image_of_injOn
  intro d mem d' mem' same
  rw [Finset.mem_coe, List.mem_toFinset] at mem mem'
  exact Document.value_injective ((discerned.id_eq_iff mem mem').1 same)

/-- What a store does with puts and gets, whatever the documents are. -/
structure Lawful (calls : List Call) : Prop where
  keyed : ∀ before, before <+: calls → (empty.after before).Keyed
  kept : ∀ before, before <+: calls → (empty.after before).entries <:+ (empty.after calls).entries
  stored : ∀ before d behind, calls = before ++ .put d :: behind →
    (empty.replies calls)[before.length]? = some (.stored (.ofData d.bytes))
  again : ∀ before d behind, calls = before ++ .put d :: behind → .put d ∈ before →
    empty.after (before ++ [.put d]) = empty.after before
  found : ∀ before id behind, calls = before ++ .get id :: behind → ∃ result,
    (empty.replies calls)[before.length]? = some (.found result) ∧
    ((∃ f, result = .error f ∧ f.kind = .notFound) ↔ .stored id ∉ empty.replies before) ∧
    (.stored id ∈ empty.replies before → ∃ earlier d later, before = earlier ++ .put d :: later ∧
      d.id = id ∧ .stored id ∉ empty.replies earlier ∧ result = Document.load d.bytes)

structure Counted (calls : List Call) : Prop where
  size : ∀ before, before <+: calls →
    (empty.after before).size = ((puts before).map (·.value)).toFinset.card
  same : ∀ (i j : Nat) (d d' : Document), calls[i]? = some (.put d) → calls[j]? = some (.put d') →
    ((empty.replies calls)[i]? = (empty.replies calls)[j]? ↔ d.value = d'.value)

theorem kind_of_load {bytes : List UInt8} {f : Failure} (failed : Document.load bytes = .error f) :
    f.kind = .malformedDocument := by
  unfold Document.load at failed
  cases read : Document.ofBytes bytes with
  | ok d =>
    rw [read] at failed
    contradiction
  | error fault =>
    rw [read] at failed
    cases failed
    rfl

theorem put_again {calls : List Call} {d : Document} (known : .put d ∈ calls) :
    (empty.after calls).put d = (d.id, empty.after calls) := by
  have there : (empty.after calls).contains d.id = true := by
    rw [contains_iff, mem_keys_after]
    exact ⟨d, List.mem_filterMap.2 ⟨.put d, known, rfl⟩, rfl⟩
  rw [put, if_pos there]

theorem found_after (before : List Call) (id : ContentId) :
    ((∃ f, (empty.after before).get id = .error f ∧ f.kind = .notFound) ↔
      .stored id ∉ empty.replies before) ∧
    (.stored id ∈ empty.replies before → ∃ earlier d later, before = earlier ++ .put d :: later ∧
      d.id = id ∧ .stored id ∉ empty.replies earlier ∧
      (empty.after before).get id = Document.load d.bytes) := by
  have there := get?_after empty before id
  rw [get?_empty, Option.none_or] at there
  have known : .stored id ∈ empty.replies before ↔ ∃ d ∈ puts before, d.id = id := stored_mem_replies
  unfold get
  rw [there]
  cases first : (puts before).find? (·.id = id) with
  | none =>
    have unknown : .stored id ∉ empty.replies before := by
      rw [known]
      simpa using first
    exact ⟨⟨fun _ => unknown, fun _ => ⟨_, rfl, rfl⟩⟩, fun stored => absurd stored unknown⟩
  | some d =>
    obtain ⟨earlier, later, split, same, new⟩ := exists_first (o := empty) first
    have stored : .stored id ∈ empty.replies before :=
      known.2 ⟨d, List.mem_of_find?_eq_some first, same⟩
    refine ⟨⟨?_, fun unknown => absurd stored unknown⟩, fun _ => ⟨earlier, d, later, split, same, new, rfl⟩⟩
    rintro ⟨f, failed, kind⟩
    rw [kind_of_load failed] at kind
    contradiction

theorem lawful (calls : List Call) : Lawful calls where
  keyed before _ := keyed_empty.after before
  kept := by
    rintro before ⟨behind, rfl⟩
    rw [after_append]
    exact suffix_after _ behind
  stored := by
    rintro before d behind rfl
    exact empty.getElem?_replies before (.put d) behind
  again := by
    rintro before d behind rfl known
    rw [after_append, after, call, put_again known]
    rfl
  found := by
    rintro before id behind rfl
    exact ⟨_, empty.getElem?_replies before (.get id) behind, found_after before id⟩

theorem stored_of_put {calls : List Call} {i : Nat} {d : Document} (put : calls[i]? = some (.put d)) :
    d ∈ puts calls ∧ (empty.replies calls)[i]? = some (.stored d.id) := by
  refine ⟨List.mem_filterMap.2 ⟨_, List.mem_of_getElem? put, rfl⟩, ?_⟩
  obtain ⟨short, here⟩ := List.getElem?_eq_some_iff.1 put
  have split : calls = calls.take i ++ .put d :: calls.drop (i + 1) := by
    rw [← here, List.getElem_cons_drop, List.take_append_drop]
  have told := empty.getElem?_replies (calls.take i) (.put d) (calls.drop (i + 1))
  rw [← split, List.length_take, Nat.min_eq_left (Nat.le_of_lt short)] at told
  exact told

theorem counted {calls : List Call} (discerned : Discerned (puts calls)) : Counted calls where
  size := by
    rintro before ⟨behind, rfl⟩
    have fewer : Discerned (puts before) := by
      have sub : ∀ d ∈ puts before, d ∈ puts (before ++ behind) := by
        intro d mem
        rw [puts, List.filterMap_append]
        exact List.mem_append_left _ mem
      exact ⟨fun d mem => discerned.finite d (sub d mem),
        fun d mem d' mem' => discerned.numbers d (sub d mem) d' (sub d' mem'),
        fun d mem d' mem' => discerned.digests d (sub d mem) d' (sub d' mem')⟩
    rw [size_after, fewer.card]
  same := by
    intro i j d d' put put'
    obtain ⟨mem, told⟩ := stored_of_put put
    obtain ⟨mem', told'⟩ := stored_of_put put'
    rw [told, told', ← discerned.id_eq_iff mem mem']
    simp

/-- A store keeps what is put into it, under the digest of its text, and gives back the first document
of each identifier; and if it can tell its documents apart, it holds each of them once. -/
theorem laws_of_calls (calls : List Call) :
    Lawful calls ∧ (Discerned (puts calls) → Counted calls) :=
  ⟨lawful calls, counted⟩

def whole : Document :=
  .ofValue (.array [.number (.int 1)])

def half : Document :=
  .ofValue (.object [("a", .number (.float 0.5))])

def fewCalls : List Call :=
  [.put whole, .get half.id, .put half, .put whole, .get whole.id]

theorem laws_of_fewCalls : Lawful fewCalls ∧ Discerned (puts fewCalls) ∧ Counted fewCalls := by
  have discerned : Discerned (puts fewCalls) := by
    constructor
    · decide +kernel
    · decide +kernel
    · decide +kernel
  exact ⟨(laws_of_calls fewCalls).1, discerned, (laws_of_calls fewCalls).2 discerned⟩

end Objects

end Herald
