import Herald.Json.Record
import Herald.Proofs.Json.Skip
import Mathlib.Data.List.Forall2
import Mathlib.Data.List.Nodup

/-!
What the readers of known kinds make of values. A reader takes a value for something if it reads every
text of the value as that, wherever the text stands. A record is taken from an object whose members
stand in any order and among others: each field is filled once, with what its reader takes the member
of its name for.
-/
namespace Herald.Json

/-- `read` takes the value `v` for `a`, whatever text spells it. -/
def Reads {α : Type} (read : Reader α) (v : Value) (a : α) : Prop :=
  ∀ t u, Denotes [] t v u → continuesNumeral u = false → ∀ s, Blanks s t → read s = .ok (a, u)

variable {α : Type}

theorem whole_of_reads {read : Reader α} {v : Value} {a : α} (reads : Reads read v a) {t : List UInt8}
    (spells : Spells [] t v) : whole read t = .ok a := by
  obtain ⟨t₁, u, lead, denotes, behind⟩ := spells
  have ends : skipSpace u = [] := skipSpace_of_blanks behind
  have here := reads t₁ u denotes (continuesNumeral_of_blanks behind rfl) t lead
  simp [whole, here, ends, bind, Except.bind]

theorem reads_value {v : Value} {depth : Nat} (shallow : v.depth ≤ depth) :
    Reads (value depth) v v :=
  fun _ _ denotes behind _ lead => value_complete denotes depth shallow behind _ lead

theorem text_eq_ok_iff {s u : List UInt8} {text : String} :
    Json.text s = .ok (text, u) ↔ ∃ t, Blanks s t ∧ Denotes [] t (.string text) u := by
  constructor
  · intro read
    have lead := blanks_skipSpace s
    unfold Json.text at read
    split at read
    · contradiction
    · next b rest here =>
      split_ifs at read with quote
      obtain ⟨bytes, spelled, decoded⟩ := string_eq_ok_iff.1 read
      rw [here, quote] at lead
      exact ⟨_, lead, .string spelled decoded⟩
  · rintro ⟨t, lead, denotes⟩
    cases denotes with
    | string spelled decoded =>
      unfold Json.text
      rw [skipSpace_eq lead (by decide)]
      exact string_eq_ok_iff.2 ⟨_, spelled, decoded⟩

theorem reads_text (text : String) : Reads Json.text (.string text) text :=
  fun t _ denotes _ _ lead => text_eq_ok_iff.2 ⟨t, lead, denotes⟩

theorem named_eq_ok_iff {ε : Type} {read : String → Except ε α} {message : ε → String}
    {s u : List UInt8} {a : α} :
    named read message s = .ok (a, u) ↔ ∃ text, Json.text s = .ok (text, u) ∧ read text = .ok a := by
  simp only [named, bind_eq_ok_iff, Prod.exists]
  constructor
  · rintro ⟨text, rest, first, h⟩
    split at h
    · next b second =>
      cases h
      exact ⟨text, first, second⟩
    · contradiction
  · rintro ⟨text, first, second⟩
    exact ⟨text, u, first, by rw [second]⟩

theorem reads_numberOf {wanted : String} {convert : Number → Except Cause α} {n : Number} {a : α}
    (converted : convert n = .ok a) : Reads (numberOf wanted convert) (.number n) a := by
  intro t u denotes behind s lead
  cases denotes with
  | @number x _ _ number =>
    have read := numeral_complete number behind
    unfold numberOf
    obtain ⟨negative, text⟩ | ⟨d, rest, digit, positive, text, magnitude⟩ := text_append x u
    · rw [text] at lead
      rw [negative] at read
      rw [skipSpace_eq lead (by decide)]
      simp [read, converted, bind, Except.bind]
    · rw [text] at lead
      rw [positive, magnitude] at read
      rw [skipSpace_eq lead (isSpace_of_isDigit digit)]
      have minus : d ≠ 0x2D := by
        rintro rfl
        contradiction
      simp [minus, digit, read, converted, bind, Except.bind]

theorem reads_natBelow {wanted : String} {limit n : Nat} (small : n < limit) :
    Reads (natBelow wanted limit) (.number (.int n)) n := by
  intro t u denotes behind s lead
  have within : (0 : Int) ≤ n ∧ (n : Int) ≤ limit - 1 := by omega
  have read : intBetween wanted 0 (limit - 1) s = .ok ((n : Int), u) :=
    reads_numberOf (if_pos within) t u denotes behind s lead
  simp [natBelow, read, bind, Except.bind, pure, Except.pure]

theorem denotes_ne_null {b : UInt8} {t u : List UInt8} {v : Value} (h : Denotes [] (b :: t) v u)
    (other : v ≠ .null) : b ≠ 0x6E := by
  generalize text : b :: t = input at h
  cases h with
  | null => contradiction
  | word mem => simp at mem
  | @number x =>
    rintro rfl
    exact text_ne rfl text
  | _ =>
    cases text
    decide

theorem reads_optional_null (read : Reader α) : Reads (optional read) .null none := by
  intro t u denotes _ s lead
  cases denotes with
  | null =>
    unfold optional
    rw [skipSpace_eq lead (by decide)]
    rfl
  | word mem => simp at mem

theorem reads_optional {read : Reader α} {v : Value} {a : α} (other : v ≠ .null)
    (reads : Reads read v a) : Reads (optional read) v (some a) := by
  intro t u denotes behind s lead
  obtain ⟨b, rest, rfl, solid, _⟩ := denotes_head denotes
  have here := reads _ u denotes behind _ .nil
  unfold optional
  rw [skipSpace_eq lead solid]
  simp [denotes_ne_null denotes other, here, bind, Except.bind, pure, Except.pure]

theorem listItems_complete {item : Reader α} {vs : List Value} {as : List α}
    (each : List.Forall₂ (Reads item) vs as) : ∀ {t u : List UInt8}, DenotesItems [] t vs u →
    ∀ fuel, t.length < fuel → ∀ first s, ItemLead first s t →
    listItems item first fuel s = .ok (as, 0x5D :: u) := by
  induction each with
  | nil =>
    intro t u items
    cases items
  | @cons v a vs as head tail ih =>
    intro t u items fuel enough first s lead
    have longer := (respected_length []).denotesItems items
    rw [List.length_cons] at longer
    obtain ⟨t₁, t₂, _, blanks, denotes, behind⟩ := of_denotesItems items
    have shorter := (respected_length []).blanks blanks
    have shorter' := (respected_length []).denotes denotes
    obtain ⟨fuel, rfl⟩ : ∃ k, fuel = k + 1 := ⟨fuel - 1, by omega⟩
    obtain ⟨same, close⟩ | ⟨t₃, _, same, comma, more⟩ := behind
    · cases same
      cases tail
      obtain ⟨fuel, rfl⟩ : ∃ k, fuel = k + 1 := ⟨fuel - 1, by omega⟩
      have read := head t₁ t₂ denotes (continuesNumeral_of_blanks close rfl) t₁ .nil
      simp [listItems, itemTurn_complete lead blanks denotes, read, itemTurn_close false close, bind,
        Except.bind, pure, Except.pure]
    · cases same
      have read := head t₁ t₂ denotes (continuesNumeral_of_blanks comma rfl) t₁ .nil
      have rest := (respected_length []).blanks comma
      rw [List.length_cons] at rest
      have others := ih more fuel (by omega) false t₂ comma
      simp [listItems, itemTurn_complete lead blanks denotes, read, others, bind, Except.bind, pure,
        Except.pure]

theorem reads_listOf {item : Reader α} {vs : List Value} {as : List α}
    (each : List.Forall₂ (Reads item) vs as) : Reads (listOf item) (.array vs) as := by
  intro t u denotes _ s lead
  have bracket : ∃ t', t = 0x5B :: t' ∧
      listItems item true (t'.length + 1) t' = .ok (as, 0x5D :: u) := by
    cases denotes with
    | emptyList close =>
      cases each
      exact ⟨_, rfl, by simp [listItems, itemTurn_close true close, bind, Except.bind, pure, Except.pure]⟩
    | list items => exact ⟨_, rfl, listItems_complete each items _ (Nat.lt_succ_self _) true _ rfl⟩
  obtain ⟨t', rfl, read⟩ := bracket
  have close : listEnd (0x5D :: u) = .ok u := rfl
  unfold listOf
  rw [skipSpace_eq lead (by decide)]
  simp [read, closed, close, bind, Except.bind, pure, Except.pure]

def valuesOf (name : String) : List (String × Value) → List Value
  | [] => []
  | (n, v) :: ms => if n = name then v :: valuesOf name ms else valuesOf name ms

theorem valuesOf_cons_self (name : String) (v : Value) (ms : List (String × Value)) :
    valuesOf name ((name, v) :: ms) = v :: valuesOf name ms :=
  if_pos rfl

theorem valuesOf_cons_of_ne {n name : String} (other : n ≠ name) (v : Value)
    (ms : List (String × Value)) : valuesOf name ((n, v) :: ms) = valuesOf name ms :=
  if_neg other

theorem valuesOf_eq_map_filter (name : String) (ms : List (String × Value)) :
    valuesOf name ms = (ms.filter (·.1 = name)).map Prod.snd := by
  induction ms with
  | nil => rfl
  | cons m ms ih =>
    obtain ⟨n, v⟩ := m
    by_cases same : n = name
    · subst same
      simp [valuesOf_cons_self, ih]
    · simp [valuesOf_cons_of_ne, same, ih]

theorem mem_valuesOf {name : String} {v : Value} {ms : List (String × Value)} :
    v ∈ valuesOf name ms ↔ (name, v) ∈ ms := by
  simp [valuesOf_eq_map_filter]

theorem valuesOf_eq_nil_iff {name : String} {ms : List (String × Value)} :
    valuesOf name ms = [] ↔ name ∉ ms.map Prod.fst := by
  simp only [valuesOf_eq_map_filter, List.map_eq_nil_iff, List.filter_eq_nil_iff, decide_eq_true_eq,
    List.mem_map, not_exists, not_and]

/-- What the members of one name say: one has a value, or `null` or no member at all leaves it out. -/
def Says (form : α → Value) (vs : List Value) : Option α → Prop
  | some b => vs = [form b]
  | none => vs = [] ∨ vs = [.null]

namespace Shape

variable {δ : Type} {s : Shape δ α}

/-- What one member makes of a draft: it is unknown and passed over, or it fills an empty field. -/
def Meets (s : Shape δ α) (d : δ) (name : String) (v : Value) (d' : δ) : Prop :=
  (s.fields.find? (·.name = name) = none ∧ d' = d) ∨
    ∃ field, s.fields.find? (·.name = name) = some field ∧ field.filled d = false ∧
      Reads (field.fill d) v d'

/-- What the members of an object make of a draft, none of them refused. -/
inductive Fills (s : Shape δ α) : δ → List (String × Value) → δ → Prop
  | nil {d : δ} : Fills s d [] d
  | cons {d d₁ d' : δ} {name : String} {v : Value} {ms : List (String × Value)} :
      s.Meets d name v d₁ → Fills s d₁ ms d' → Fills s d ((name, v) :: ms) d'

theorem ofMembers_member {first : Bool} {fuel : Nat} {d d' : δ} {t' t t₀ t₁ t₂ : List UInt8}
    {name : String} {v : Value} (lead : ItemLead first t' t) (named : NameText t name t₀)
    (blanks : Blanks t₀ t₁) (denotes : Denotes [] t₁ v t₂) (behind : continuesNumeral t₂ = false)
    (meets : s.Meets d name v d') : s.ofMembers first (fuel + 1) d t' = s.ofMembers false fuel d' t₂ := by
  obtain ⟨before, spelled, decoded, separated⟩ := named
  have read := string_eq_ok_iff.2 ⟨_, spelled, decoded⟩
  have name? : ∀ t, memberName (0x22 :: t) = string t := fun _ => rfl
  rw [ofMembers, memberTurn_complete lead before]
  obtain ⟨absent, rfl⟩ | ⟨field, found, empty, fills⟩ := meets
  · have passed := skip_complete blanks denotes behind
    simp [bind, Except.bind, name?, read, absent, colon_complete separated, passed]
  · have filled := fills t₁ t₂ denotes behind t₀ blanks
    simp [bind, Except.bind, name?, read, found, empty, colon_complete separated, filled]

theorem ofMembers_close (s : Shape δ α) (first : Bool) (fuel : Nat) (d : δ) {t u : List UInt8}
    (close : Blanks t (0x7D :: u)) : s.ofMembers first (fuel + 1) d t = s.finish d (0x7D :: u) := by
  rw [ofMembers, memberTurn_close first close]
  rfl

theorem ofMembers_complete {d d' : δ} {ms : List (String × Value)} (fills : s.Fills d ms d') :
    ∀ {t u : List UInt8}, DenotesMembers [] t ms u → ∀ fuel, t.length < fuel → ∀ first t',
    ItemLead first t' t → s.ofMembers first fuel d t' = s.finish d' (0x7D :: u) := by
  induction fills with
  | nil =>
    intro t u members
    cases members
  | cons meets rest ih =>
    intro t u members fuel enough first t' lead
    have longer := (respected_length []).denotesMembers members
    rw [List.length_cons] at longer
    obtain ⟨t₀, t₁, t₂, _, _, named, blanks, denotes, behind⟩ := of_denotesMembers members
    have h₀ := (respected_length []).name named
    have h₁ := (respected_length []).blanks blanks
    have h₂ := (respected_length []).denotes denotes
    obtain ⟨fuel, rfl⟩ : ∃ k, fuel = k + 1 := ⟨fuel - 1, by omega⟩
    obtain ⟨same, close⟩ | ⟨t₃, _, same, comma, more⟩ := behind
    · cases same
      cases rest
      obtain ⟨fuel, rfl⟩ : ∃ k, fuel = k + 1 := ⟨fuel - 1, by omega⟩
      rw [ofMembers_member lead named blanks denotes (continuesNumeral_of_blanks close rfl) meets,
        ofMembers_close s false fuel _ close]
    · cases same
      have h₃ := (respected_length []).blanks comma
      rw [List.length_cons] at h₃
      rw [ofMembers_member lead named blanks denotes (continuesNumeral_of_blanks comma rfl) meets]
      exact ih more fuel (by omega) false t₂ comma

theorem reads_object {d : δ} {a : α} {ms : List (String × Value)} (fills : s.Fills s.draft ms d)
    (built : s.build d = .ok a) : Reads s.read (.object ms) a := by
  intro t u denotes _ t' lead
  have brace : ∃ rest, t = 0x7B :: rest ∧
      s.ofMembers true (rest.length + 1) s.draft rest = s.finish d (0x7D :: u) := by
    cases denotes with
    | emptyObject close =>
      cases fills
      exact ⟨_, rfl, ofMembers_close s true _ _ close⟩
    | object members => exact ⟨_, rfl, ofMembers_complete fills members _ (Nat.lt_succ_self _) true _ rfl⟩
  obtain ⟨rest, rfl, read⟩ := brace
  have close : objectEnd (0x7D :: u) = .ok u := rfl
  unfold Shape.read
  rw [skipSpace_eq lead (by decide)]
  simp [read, finish, built, closed, close, bind, Except.bind, pure, Except.pure]

end Shape

structure Slot (δ : Type) where
  {α : Type}
  name : String
  get : δ → Option α
  set : δ → α → δ
  read : Reader α
  mayLack : Bool

namespace Slot

variable {δ : Type}

def field (p : Slot δ) : Field δ :=
  .of p.name p.get p.set p.read p.mayLack

/-- The slots of a draft: each of another name, none disturbing another, and nothing beside them. -/
structure Lawful (slots : List (Slot δ)) : Prop where
  nodup : (slots.map Slot.name).Nodup
  get_set : ∀ p ∈ slots, ∀ d a, p.get (p.set d a) = some a
  get_other : ∀ p ∈ slots, ∀ q ∈ slots, p.name ≠ q.name → ∀ d a, q.get (p.set d a) = q.get d
  ext : ∀ d d', (∀ p ∈ slots, p.get d = p.get d') → d = d'

theorem Lawful.eq_of_name {slots : List (Slot δ)} (lawful : Lawful slots) {p q : Slot δ}
    (hp : p ∈ slots) (hq : q ∈ slots) (same : p.name = q.name) : p = q :=
  List.inj_on_of_nodup_map lawful.nodup hp hq same

/-- The slot holds what it held, as there is no member of its name, or it held nothing and holds what
its reader takes the only member of its name for. -/
def Takes (p : Slot δ) (d : δ) (ms : List (String × Value)) (d' : δ) : Prop :=
  (valuesOf p.name ms = [] ∧ p.get d' = p.get d) ∨
    ∃ v a, valuesOf p.name ms = [v] ∧ p.get d = none ∧ Reads p.read v a ∧ p.get d' = some a

theorem reads_fill {p : Slot δ} {v : Value} {a : p.α} (reads : Reads p.read v a) (d : δ) :
    Reads (p.field.fill d) v (p.set d a) := by
  intro t u denotes behind s lead
  have read := reads t u denotes behind s lead
  simp [field, Field.of, read, bind, Except.bind, pure, Except.pure]

theorem find?_field (slots : List (Slot δ)) (name : String) :
    (slots.map field).find? (·.name = name) = (slots.find? (·.name = name)).map field := by
  rw [List.find?_map]
  rfl

theorem Lawful.fills {s : Shape δ α} {slots : List (Slot δ)} (lawful : Lawful slots)
    (fields : s.fields = slots.map field) {ms : List (String × Value)} :
    ∀ {d d' : δ}, (∀ p ∈ slots, p.Takes d ms d') → s.Fills d ms d' := by
  induction ms with
  | nil =>
    intro d d' takes
    have same : d' = d := lawful.ext d' d fun p mem => by
      obtain ⟨_, kept⟩ | ⟨v, a, some, _⟩ := takes p mem
      · exact kept
      · contradiction
    rw [same]
    exact .nil
  | cons m ms ih =>
    intro d d' takes
    obtain ⟨name, v⟩ := m
    have find := find?_field slots name
    rw [← fields] at find
    cases found : slots.find? (·.name = name) with
    | none =>
      rw [found] at find
      refine .cons (.inl ⟨find, rfl⟩) (ih fun p mem => ?_)
      have other : name ≠ p.name := fun same =>
        absurd (List.find?_eq_none.1 found p mem) (by simp [same])
      have here := takes p mem
      rwa [Takes, valuesOf_cons_of_ne other] at here
    | some p =>
      rw [found] at find
      have mem := List.mem_of_find?_eq_some found
      have same : p.name = name := by simpa using List.find?_some found
      subst same
      have here := takes p mem
      rw [Takes, valuesOf_cons_self] at here
      obtain ⟨_, _⟩ | ⟨w, a, single, empty, reads, holds⟩ := here
      · contradiction
      · obtain ⟨rfl, last⟩ := List.cons.inj single
        have fresh : p.field.filled d = false := by simp [field, Field.of, empty]
        refine .cons (.inr ⟨p.field, find, fresh, reads_fill reads d⟩) (ih fun q other => ?_)
        by_cases name : p.name = q.name
        · cases lawful.eq_of_name mem other name
          exact .inl ⟨last, by rw [holds, lawful.get_set p mem]⟩
        · have there := takes q other
          rw [Takes, valuesOf_cons_of_ne name] at there
          rwa [Takes, lawful.get_other p mem q other name]

theorem exists_takes_optional {β : Type} (name : String) (get : δ → Option (Option β))
    (set : δ → Option β → δ) (read : Reader β) (mayLack : Bool) {form : β → Value} {o : Option β}
    {d : δ} {ms : List (String × Value)} (told : Says form (valuesOf name ms) o)
    (solid : ∀ b, form b ≠ .null) (reads : ∀ b ∈ o, Reads read (form b) b) (empty : get d = none) :
    ∃ held : Option (Option β), held.getD none = o ∧
      ∀ d', get d' = held → Takes ⟨name, get, set, optional read, mayLack⟩ d ms d' := by
  cases o with
  | some b =>
    refine ⟨some (some b), rfl, fun d' holds => .inr ⟨form b, some b, told, empty, ?_, holds⟩⟩
    exact reads_optional (solid b) (reads b rfl)
  | none =>
    obtain absent | null := told
    · exact ⟨none, rfl, fun d' holds => .inl ⟨absent, holds.trans empty.symm⟩⟩
    · refine ⟨some none, rfl, fun d' holds => .inr ⟨.null, none, null, empty, ?_, holds⟩⟩
      exact reads_optional_null read

end Slot

end Herald.Json
