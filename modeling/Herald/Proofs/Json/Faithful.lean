import Herald.Proofs.Json.Record

/-!
Readers see values and not texts. What a faithful reader takes one text of a value for, it takes every
text of it for, and it leaves just what follows; so whether a whole text is read, and as what, is told
by the value that it spells. Every reader of a known kind is faithful whose parts are.
-/
namespace Herald.Json

variable {α : Type}

/-- Where `read` makes anything of a text of a value, it makes that of the value. -/
def Faithful (read : Reader α) : Prop :=
  ∀ t v u, Denotes [] t v u → continuesNumeral u = false → ∀ s, Blanks s t →
    ∀ a u', read s = .ok (a, u') → u' = u ∧ Reads read v a

def Written (v : Value) : Prop :=
  ∃ t u, Denotes [] t v u ∧ continuesNumeral u = false

theorem Written.reads_unique {v : Value} (written : Written v) {read : Reader α} {a b : α}
    (first : Reads read v a) (second : Reads read v b) : a = b := by
  obtain ⟨t, u, denotes, behind⟩ := written
  have one := first t u denotes behind t .nil
  rw [second t u denotes behind t .nil] at one
  cases one
  rfl

theorem Faithful.whole_iff {read : Reader α} (faithful : Faithful read) {t : List UInt8} {v : Value}
    (spells : Spells [] t v) {a : α} : whole read t = .ok a ↔ Reads read v a := by
  refine ⟨fun h => ?_, fun reads => whole_of_reads reads spells⟩
  obtain ⟨t₁, u, lead, denotes, behind⟩ := spells
  simp only [whole, bind_eq_ok_iff, Prod.exists] at h
  obtain ⟨b, rest, here, h⟩ := h
  obtain ⟨rfl, reads⟩ := faithful t₁ v u denotes (continuesNumeral_of_blanks behind rfl) t lead b rest here
  rw [skipSpace_of_blanks behind] at h
  cases h
  exact reads

theorem Written.of_spells {t : List UInt8} {v : Value} (spells : Spells [] t v) : Written v := by
  obtain ⟨t₁, u, _, denotes, behind⟩ := spells
  exact ⟨t₁, u, denotes, continuesNumeral_of_blanks behind rfl⟩

theorem written_of_members {ms : List (String × Value)} : ∀ {t u : List UInt8},
    DenotesMembers [] t ms u → ∀ m ∈ ms, Written m.2 := by
  induction ms with
  | nil => nofun
  | cons m ms ih =>
    intro t u members n mem
    obtain ⟨t₀, t₁, t₂, name, v, _, _, denotes, behind⟩ := of_denotesMembers members
    obtain ⟨same, close⟩ | ⟨t₃, rest, same, comma, more⟩ := behind
    · cases same
      cases List.mem_singleton.1 mem
      exact ⟨t₁, t₂, denotes, continuesNumeral_of_blanks close rfl⟩
    · cases same
      obtain rfl | mem := List.mem_cons.1 mem
      · exact ⟨t₁, t₂, denotes, continuesNumeral_of_blanks comma rfl⟩
      · exact ih more n mem

theorem written_of_items {vs : List Value} : ∀ {t u : List UInt8},
    DenotesItems [] t vs u → ∀ v ∈ vs, Written v := by
  induction vs with
  | nil => nofun
  | cons v vs ih =>
    intro t u items w mem
    obtain ⟨t₁, t₂, _, _, denotes, behind⟩ := of_denotesItems items
    obtain ⟨same, close⟩ | ⟨t₃, rest, same, comma, more⟩ := behind
    · cases same
      cases List.mem_singleton.1 mem
      exact ⟨t₁, t₂, denotes, continuesNumeral_of_blanks close rfl⟩
    · cases same
      obtain rfl | mem := List.mem_cons.1 mem
      · exact ⟨t₁, t₂, denotes, continuesNumeral_of_blanks comma rfl⟩
      · exact ih more w mem

theorem Written.item {vs : List Value} (written : Written (.array vs)) : ∀ v ∈ vs, Written v := by
  obtain ⟨t, u, denotes, _⟩ := written
  cases denotes with
  | emptyList => nofun
  | list items => exact written_of_items items

theorem Written.member {ms : List (String × Value)} (written : Written (.object ms)) :
    ∀ m ∈ ms, Written m.2 := by
  obtain ⟨t, u, denotes, _⟩ := written
  cases denotes with
  | emptyObject => nofun
  | object members => exact written_of_members members

theorem written_of_alone {ms : List (String × Value)} (written : ∀ m ∈ ms, Written m.2) {name : String}
    {v : Value} (alone : valuesOf name ms = [v]) : Written v :=
  written (name, v) (mem_valuesOf.1 (alone ▸ .head _))

theorem Written.valuesOf {name : String} {v : Value} {ms : List (String × Value)}
    (written : Written (.object ms)) (alone : Json.valuesOf name ms = [v]) : Written v :=
  written_of_alone written.member alone

def Extends (read more : Reader α) : Prop :=
  ∀ s r, read s = .ok r → more s = .ok r

theorem items_extends {item item' : Reader Value} (ext : Extends item item') (first : Bool) (fuel : Nat) :
    Extends (items item first fuel) (items item' first fuel) := by
  induction fuel generalizing first with
  | zero => nofun
  | succ fuel ih =>
    intro s r h
    simp only [items, bind_eq_ok_iff, Prod.exists] at h ⊢
    obtain ⟨more, t, turn, h⟩ := h
    refine ⟨more, t, turn, ?_⟩
    split at h
    · simp only [bind_eq_ok_iff, Prod.exists] at h
      obtain ⟨v, t', here, vs, t'', others, h⟩ := h
      simp [*, bind, Except.bind, ext _ _ here, ih false _ _ others]
    · simp [*]

theorem members_extends {item item' : Reader Value} (ext : Extends item item') (first : Bool) (fuel : Nat) :
    Extends (members item first fuel) (members item' first fuel) := by
  induction fuel generalizing first with
  | zero => nofun
  | succ fuel ih =>
    intro s r h
    simp only [members, bind_eq_ok_iff, Prod.exists] at h ⊢
    obtain ⟨more, t, turn, h⟩ := h
    refine ⟨more, t, turn, ?_⟩
    split at h
    · simp only [bind_eq_ok_iff, Prod.exists] at h
      obtain ⟨name, t₁, named, t₂, separated, v, t₃, here, ms, t₄, others, h⟩ := h
      simp [*, bind, Except.bind, ext _ _ here, ih false _ _ others]
    · simp [*]

theorem list_extends {item item' : Reader Value} (ext : Extends item item') :
    Extends (list item) (list item') := by
  intro s r h
  simp only [list, bind_eq_ok_iff, Prod.exists] at h ⊢
  obtain ⟨vs, t, read, h⟩ := h
  exact ⟨vs, t, items_extends ext true _ s _ read, h⟩

theorem object_extends {item item' : Reader Value} (ext : Extends item item') :
    Extends (object item) (object item') := by
  intro s r h
  simp only [object, bind_eq_ok_iff, Prod.exists] at h ⊢
  obtain ⟨ms, t, read, h⟩ := h
  exact ⟨ms, t, members_extends ext true _ s _ read, h⟩

theorem ok_of_ite {ε β : Type} {c : Prop} [Decidable c] {x y x' y' : Except ε β} {b : β}
    (h : (if c then x else y) = .ok b) (first : x = .ok b → x' = .ok b)
    (second : y = .ok b → y' = .ok b) : (if c then x' else y') = .ok b := by
  split at h
  · next holds =>
    rw [if_pos holds]
    exact first h
  · next fails =>
    rw [if_neg fails]
    exact second h

theorem node_extends {part? : Option (Reader Value)} {part : Reader Value}
    (ext : ∀ less ∈ part?, Extends less part) : Extends (node part?) (node (some part)) := by
  intro s r h
  unfold node at h ⊢
  split at h
  · contradiction
  · -- Words, numbers and strings are read alike; only brackets have parts.
    refine ok_of_ite h id fun h => ok_of_ite h id fun h => ok_of_ite h id fun h => ?_
    refine ok_of_ite h id fun h => ok_of_ite h id fun h => ok_of_ite h id fun h => ?_
    refine ok_of_ite h ?_ fun h => ok_of_ite h ?_ id
    · cases part? with
      | none => nofun
      | some less => exact list_extends (ext less rfl) _ _
    · cases part? with
      | none => nofun
      | some less => exact object_extends (ext less rfl) _ _

theorem value_extends_succ (depth : Nat) : Extends (value depth) (value (depth + 1)) := by
  induction depth with
  | zero => exact node_extends nofun
  | succ depth ih => exact node_extends (by simpa using ih)

theorem value_extends {depth more : Nat} (le : depth ≤ more) : Extends (value depth) (value more) := by
  induction le with
  | refl => exact fun _ _ h => h
  | @step more _ ih => exact fun s r h => value_extends_succ more s r (ih s r h)

theorem value_eq_ok {depth : Nat} {t u s u' : List UInt8} {v w : Value} (denotes : Denotes [] t v u)
    (behind : continuesNumeral u = false) (lead : Blanks s t) (h : value depth s = .ok (w, u')) :
    u' = u ∧ w = v ∧ v.depth ≤ depth := by
  obtain ⟨_, _, _, shallow⟩ := value_sound depth s w u' h
  have read := value_complete denotes (max depth v.depth) (Nat.le_max_right _ _) behind s lead
  rw [value_extends (Nat.le_max_left depth v.depth) s _ h] at read
  cases read
  exact ⟨rfl, rfl, shallow⟩

theorem faithful_value (depth : Nat) : Faithful (value depth) := by
  intro t v u denotes behind s lead w u' h
  obtain ⟨rest, same, shallow⟩ := value_eq_ok denotes behind lead h
  rw [same]
  exact ⟨rest, reads_value shallow⟩

theorem reads_value_iff {depth : Nat} {v w : Value} (written : Written v) :
    Reads (value depth) v w ↔ w = v ∧ v.depth ≤ depth := by
  refine ⟨fun reads => ?_, ?_⟩
  · obtain ⟨t, u, denotes, behind⟩ := written
    exact (value_eq_ok denotes behind .nil (reads t u denotes behind t .nil)).2
  · rintro ⟨rfl, shallow⟩
    exact reads_value shallow

theorem text_eq_ok {t u s u' : List UInt8} {v : Value} {text : String} (denotes : Denotes [] t v u)
    (lead : Blanks s t) (h : Json.text s = .ok (text, u')) : u' = u ∧ v = .string text := by
  obtain ⟨b, rest, rfl, solid, _⟩ := denotes_head denotes
  unfold Json.text at h
  rw [skipSpace_eq lead solid] at h
  simp only at h
  split at h
  · next quote =>
    rw [quote] at denotes
    obtain ⟨bytes, spelled, decoded⟩ := string_eq_ok_iff.1 h
    generalize e : 0x22 :: rest = input at denotes
    cases denotes with
    | word mem => simp at mem
    | number => exact absurd e (text_ne rfl)
    | string spelled' decoded' =>
      cases e
      obtain ⟨rfl, rfl⟩ := spelled.unique spelled'
      rw [decoded] at decoded'
      cases decoded'
      exact ⟨rfl, rfl⟩
    | _ => cases e
  · contradiction

theorem faithful_text : Faithful Json.text := by
  intro t v u denotes _ s lead text u' h
  obtain ⟨rfl, rfl⟩ := text_eq_ok denotes lead h
  exact ⟨rfl, reads_text text⟩

theorem reads_text_iff {v : Value} {text : String} (written : Written v) :
    Reads Json.text v text ↔ v = .string text := by
  refine ⟨fun reads => ?_, fun same => same ▸ reads_text text⟩
  obtain ⟨t, u, denotes, behind⟩ := written
  exact (text_eq_ok denotes .nil (reads t u denotes behind t .nil)).2

theorem numberOf_eq_ok {wanted : String} {convert : Number → Except Cause α} {s u : List UInt8} {a : α}
    (h : numberOf wanted convert s = .ok (a, u)) :
    ∃ n, numberOf wanted .ok s = .ok (n, u) ∧ convert n = .ok a := by
  unfold numberOf at h ⊢
  split at h
  · contradiction
  · next b rest e =>
    simp only at h ⊢
    split_ifs at h ⊢ with minus digit
    all_goals
      try contradiction
      simp only [bind_eq_ok_iff, Prod.exists] at h
      obtain ⟨n, rest', read, h⟩ := h
      split at h
      · next converted =>
        cases h
        exact ⟨n, by simp [read, bind, Except.bind], converted⟩
      · contradiction

theorem numberOf_sound {wanted : String} {convert : Number → Except Cause α} {t u s u' : List UInt8}
    {v : Value} {a : α} (denotes : Denotes [] t v u) (behind : continuesNumeral u = false)
    (lead : Blanks s t) (h : numberOf wanted convert s = .ok (a, u')) :
    u' = u ∧ ∃ n, v = .number n ∧ convert n = .ok a := by
  obtain ⟨n, read, converted⟩ := numberOf_eq_ok h
  obtain ⟨b, rest, rfl, solid, _⟩ := denotes_head denotes
  have numeral : isNumeralByte b = true := by
    unfold numberOf at h
    rw [skipSpace_eq lead solid] at h
    simp only at h
    split_ifs at h with minus digit
    · rw [minus]
      rfl
    · exact isNumeralByte_of_isDigit digit
  obtain ⟨x, m, text, number, rfl⟩ := of_denotes_numeral denotes numeral
  have same : Reads (numberOf wanted .ok) (.number m) m := reads_numberOf rfl
  rw [same _ u denotes behind s lead] at read
  cases read
  exact ⟨rfl, n, rfl, converted⟩

theorem faithful_numberOf (wanted : String) (convert : Number → Except Cause α) :
    Faithful (numberOf wanted convert) := by
  intro t v u denotes behind s lead a u' h
  obtain ⟨rest, n, rfl, converted⟩ := numberOf_sound denotes behind lead h
  exact ⟨rest, reads_numberOf converted⟩

theorem reads_numberOf_iff {wanted : String} {convert : Number → Except Cause α} {v : Value} {a : α}
    (written : Written v) :
    Reads (numberOf wanted convert) v a ↔ ∃ n, v = .number n ∧ convert n = .ok a := by
  constructor
  · intro reads
    obtain ⟨t, u, denotes, behind⟩ := written
    exact (numberOf_sound denotes behind .nil (reads t u denotes behind t .nil)).2
  · rintro ⟨n, rfl, converted⟩
    exact reads_numberOf converted

theorem faithful_intBetween (wanted : String) (low high : Int) : Faithful (intBetween wanted low high) :=
  faithful_numberOf wanted _

theorem faithful_optional {read : Reader α} (faithful : Faithful read) : Faithful (optional read) := by
  intro t v u denotes behind s lead o u' h
  by_cases null : v = .null
  · subst null
    have reads := reads_optional_null read
    rw [reads t u denotes behind s lead] at h
    cases h
    exact ⟨rfl, reads⟩
  · obtain ⟨b, rest, rfl, solid, _⟩ := denotes_head denotes
    unfold optional at h
    rw [skipSpace_eq lead solid] at h
    simp only [denotes_ne_null denotes null, if_false, bind_eq_ok_iff, Prod.exists] at h
    obtain ⟨a, rest', here, h⟩ := h
    cases h
    obtain ⟨rfl, reads⟩ := faithful _ v u denotes behind _ .nil a _ here
    exact ⟨rfl, reads_optional null reads⟩

theorem reads_of_optional {read : Reader α} (faithful : Faithful read) {v : Value} {a : α}
    (written : Written v) (reads : Reads (optional read) v (some a)) : v ≠ .null ∧ Reads read v a := by
  have null : v ≠ .null := by
    rintro rfl
    cases written.reads_unique reads (reads_optional_null read)
  refine ⟨null, ?_⟩
  obtain ⟨t, u, denotes, behind⟩ := written
  obtain ⟨b, rest, rfl, solid, _⟩ := denotes_head denotes
  have h := reads _ u denotes behind _ .nil
  unfold optional at h
  rw [skipSpace_eq .nil solid] at h
  simp only [denotes_ne_null denotes null, if_false, bind_eq_ok_iff, Prod.exists] at h
  obtain ⟨a', rest', here, h⟩ := h
  cases h
  exact (faithful _ v u denotes behind _ .nil a _ here).2

theorem null_of_optional {read : Reader α} {v : Value} (written : Written v)
    (reads : Reads (optional read) v none) : v = .null := by
  by_contra solid
  obtain ⟨t, u, denotes, behind⟩ := written
  obtain ⟨b, rest, rfl, space, _⟩ := denotes_head denotes
  have h := reads _ u denotes behind _ .nil
  unfold optional at h
  rw [skipSpace_eq .nil space] at h
  simp only [denotes_ne_null denotes solid, if_false, bind_eq_ok_iff, Prod.exists] at h
  obtain ⟨_, _, _, h⟩ := h
  cases h

end Herald.Json
