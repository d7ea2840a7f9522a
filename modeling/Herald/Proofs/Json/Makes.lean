import Herald.Proofs.Json.Faithful

/-!
What records are made of. Reading a record succeeds on an object just when its members fill the draft, and
on a list just when its items do, one field after the other; so records are read faithfully if their
fields are, and each field is what its reader takes the one member of its name for.
-/
namespace Herald.Json

variable {α : Type}

namespace Shape

variable {δ : Type} {s : Shape δ α}

theorem finish_eq_ok_iff {d : δ} {t u : List UInt8} {a : α} :
    s.finish d t = .ok (a, u) ↔ s.build d = .ok a ∧ u = t := by
  unfold finish
  split
  · next built =>
    rw [built]
    simp [eq_comm]
  · next built =>
    rw [built]
    simp

theorem closed_eq_ok_iff {close : List UInt8 → Except Fault (List UInt8)}
    {settle : List UInt8 → List UInt8} {x : Except Fault (α × List UInt8)} {a : α} {u : List UInt8} :
    closed close settle x = .ok (a, u) ↔ ∃ t, x = .ok (a, t) ∧ close t = .ok u := by
  cases x with
  | error fault => simp [closed]
  | ok r =>
    obtain ⟨b, t⟩ := r
    simp only [closed, bind_eq_ok_iff]
    constructor
    · rintro ⟨u', close, same⟩
      cases same
      exact ⟨t, rfl, close⟩
    · rintro ⟨t', same, close⟩
      cases same
      exact ⟨u, close, rfl⟩

theorem ofMembers_known {first : Bool} {fuel : Nat} {d : δ} {t' t t₀ : List UInt8} {name : String}
    {field : Field δ} (lead : ItemLead first t' t) (named : NameText t name t₀)
    (found : s.fields.find? (·.name = name) = some field) {r : α × List UInt8}
    (h : s.ofMembers first (fuel + 1) d t' = .ok r) :
    field.filled d = false ∧ ∃ d₁ t₂, field.fill d t₀ = .ok (d₁, t₂) := by
  obtain ⟨before, spelled, decoded, separated⟩ := named
  have read := string_eq_ok_iff.2 ⟨_, spelled, decoded⟩
  have name? : ∀ t, memberName (0x22 :: t) = string t := fun _ => rfl
  rw [ofMembers, memberTurn_complete lead before] at h
  simp only [bind, Except.bind, if_true, name?, read, found, colon_complete separated] at h
  split at h
  · contradiction
  · next empty =>
    refine ⟨by simpa using empty, ?_⟩
    cases filled : field.fill d t₀ with
    | error fault =>
      rw [filled] at h
      contradiction
    | ok d₁ => exact ⟨d₁.1, d₁.2, rfl⟩

theorem ofMembers_sound (faithful : ∀ field ∈ s.fields, ∀ d, Faithful (field.fill d))
    {ms : List (String × Value)} : ∀ {d : δ} {t u : List UInt8}, DenotesMembers [] t ms u →
    ∀ fuel first t', ItemLead first t' t → ∀ a u', s.ofMembers first fuel d t' = .ok (a, u') →
    u' = 0x7D :: u ∧ ∃ d', s.Fills d ms d' ∧ s.build d' = .ok a := by
  induction ms with
  | nil =>
    intro d t u members
    cases members
  | cons m ms ih =>
    intro d t u members fuel first t' lead a u' h
    obtain ⟨t₀, t₁, t₂, name, v, named, blanks, denotes, behind⟩ := of_denotesMembers members
    have stops : continuesNumeral t₂ = false := by
      obtain ⟨_, close⟩ | ⟨t₃, _, _, comma, _⟩ := behind
      · exact continuesNumeral_of_blanks close rfl
      · exact continuesNumeral_of_blanks comma rfl
    cases fuel with
    | zero => contradiction
    | succ fuel =>
      have meets : ∃ d₁, s.Meets d name v d₁ := by
        cases found : s.fields.find? (·.name = name) with
        | none => exact ⟨d, .inl ⟨found, rfl⟩⟩
        | some field =>
          obtain ⟨empty, d₁, t₂', filled⟩ := ofMembers_known lead named found h
          have mem := List.mem_of_find?_eq_some found
          obtain ⟨_, reads⟩ := faithful field mem d t₁ v t₂ denotes stops t₀ blanks d₁ t₂' filled
          exact ⟨d₁, .inr ⟨field, found, empty, reads⟩⟩
      obtain ⟨d₁, meets⟩ := meets
      rw [ofMembers_member lead named blanks denotes stops meets] at h
      obtain ⟨same, close⟩ | ⟨t₃, rest, same, comma, more⟩ := behind
      · cases same
        cases fuel with
        | zero => contradiction
        | succ fuel =>
          rw [ofMembers_close s false fuel d₁ close, finish_eq_ok_iff] at h
          exact ⟨h.2, d₁, .cons meets .nil, h.1⟩
      · cases same
        obtain ⟨rfl, d', fills, built⟩ := ih more fuel false t₂ comma a u' h
        exact ⟨rfl, d', .cons meets fills, built⟩

/-- What the items of a list make of a draft: one field each, in order, and those at the end that may
be absent need not be there. -/
inductive FillsInOrder : List (Field δ) → δ → List Value → δ → Prop
  | done {fields : List (Field δ)} {d : δ} : (∀ field ∈ fields, field.mayLack = true) →
      FillsInOrder fields d [] d
  | cons {field : Field δ} {fields : List (Field δ)} {d d₁ d' : δ} {v : Value} {vs : List Value} :
      Reads (field.fill d) v d₁ → FillsInOrder fields d₁ vs d' →
      FillsInOrder (field :: fields) d (v :: vs) d'

theorem fillsInOrder_nil {fields : List (Field δ)} {d d' : δ} (fills : FillsInOrder fields d [] d') :
    (∀ field ∈ fields, field.mayLack = true) ∧ d' = d := by
  cases fills with
  | done mayLack => exact ⟨mayLack, rfl⟩

theorem listEnd_of_blanks {t u : List UInt8} (close : Blanks t (0x5D :: u)) : listEnd t = .ok u := by
  unfold listEnd
  rw [skipSpace_eq close (by decide)]
  rfl

theorem listEnd_item {first : Bool} {t' t t₁ t₂ : List UInt8} {v : Value} (lead : ItemLead first t' t)
    (blanks : Blanks t t₁) (denotes : Denotes [] t₁ v t₂) (u : List UInt8) : listEnd t' ≠ .ok u := by
  obtain ⟨b, rest, rfl, solid, bracket⟩ := denotes_head denotes
  unfold listEnd
  cases first with
  | true =>
    obtain rfl : t' = t := lead
    rw [skipSpace_eq blanks solid]
    simp only [bracket, if_false]
    split_ifs
    · split
      · split_ifs <;> exact nofun
      · exact nofun
    · exact nofun
  | false =>
    rw [skipSpace_eq lead (by decide)]
    simp [skipSpace_eq blanks solid, bracket]

theorem ofItems_close {fields : List (Field δ)} (mayLack : ∀ field ∈ fields, field.mayLack = true) :
    ∀ (index : Nat) (d : δ) {t u : List UInt8}, Blanks t (0x5D :: u) →
    ∃ r, Blanks r (0x5D :: u) ∧ s.ofItems index fields d t = s.finish d r := by
  induction fields with
  | nil => exact fun index d t u close => ⟨t, close, rfl⟩
  | cons field fields ih =>
    intro index d t u close
    obtain ⟨r, close', rest⟩ := ih (fun f mem => mayLack f (.tail _ mem)) index d .nil
    refine ⟨r, close', ?_⟩
    simp [ofItems, itemTurn_close _ close, mayLack field (.head _), rest, bind, Except.bind]

theorem ofItems_close_sound {fields : List (Field δ)} : ∀ {index : Nat} {d : δ} {t u r u' : List UInt8}
    {a : α}, Blanks t (0x5D :: u) → s.ofItems index fields d t = .ok (a, r) → listEnd r = .ok u' →
    u' = u ∧ (∀ field ∈ fields, field.mayLack = true) ∧ s.build d = .ok a := by
  induction fields with
  | nil =>
    intro index d t u r u' a close h ends
    obtain ⟨built, rfl⟩ := finish_eq_ok_iff.1 h
    rw [listEnd_of_blanks close] at ends
    cases ends
    exact ⟨rfl, nofun, built⟩
  | cons field fields ih =>
    intro index d t u r u' a close h ends
    simp only [ofItems, itemTurn_close _ close, bind, Except.bind, Bool.false_eq_true, if_false] at h
    split at h
    · next lacks =>
      obtain ⟨rfl, mayLack, built⟩ := ih .nil h ends
      exact ⟨rfl, List.forall_mem_cons.2 ⟨lacks, mayLack⟩, built⟩
    · contradiction

theorem ofItems_complete {fields : List (Field δ)} {vs : List Value} {d d' : δ}
    (fills : FillsInOrder fields d vs d') : ∀ (index : Nat) {t u t' : List UInt8},
    DenotesItems [] t vs u → ItemLead (index = 0) t' t →
    ∃ r, Blanks r (0x5D :: u) ∧ s.ofItems index fields d t' = s.finish d' r := by
  induction fills with
  | done =>
    intro index t u t' items
    cases items
  | @cons field fields d d₁ d' v vs reads rest ih =>
    intro index t u t' items lead
    obtain ⟨t₁, t₂, _, blanks, denotes, behind⟩ := of_denotesItems items
    obtain ⟨same, close⟩ | ⟨t₃, _, same, comma, more⟩ := behind
    · cases same
      have filled := reads t₁ t₂ denotes (continuesNumeral_of_blanks close rfl) t₁ .nil
      obtain ⟨mayLack, rfl⟩ := fillsInOrder_nil rest
      obtain ⟨r, close', ended⟩ := ofItems_close (s := s) mayLack (index + 1) d' close
      refine ⟨r, close', ?_⟩
      simp [ofItems, itemTurn_complete lead blanks denotes, filled, ended, bind, Except.bind]
    · cases same
      have filled := reads t₁ t₂ denotes (continuesNumeral_of_blanks comma rfl) t₁ .nil
      obtain ⟨r, close, ended⟩ := ih (index + 1) more comma
      refine ⟨r, close, ?_⟩
      simp [ofItems, itemTurn_complete lead blanks denotes, filled, ended, bind, Except.bind]

theorem ofItems_sound {fields : List (Field δ)} (faithful : ∀ field ∈ fields, ∀ d, Faithful (field.fill d)) :
    ∀ (index : Nat) {d : δ} {vs : List Value} {t t' u r u' : List UInt8} {a : α},
    DenotesItems [] t vs u → ItemLead (index = 0) t' t → s.ofItems index fields d t' = .ok (a, r) →
    listEnd r = .ok u' → u' = u ∧ ∃ d', FillsInOrder fields d vs d' ∧ s.build d' = .ok a := by
  induction fields with
  | nil =>
    intro index d vs t t' u r u' a items lead h ends
    obtain ⟨built, rfl⟩ := finish_eq_ok_iff.1 h
    obtain ⟨t₁, t₂, _, blanks, denotes, _⟩ := of_denotesItems items
    exact absurd ends (listEnd_item lead blanks denotes u')
  | cons field fields ih =>
    intro index d vs t t' u r u' a items lead h ends
    obtain ⟨t₁, t₂, v, blanks, denotes, behind⟩ := of_denotesItems items
    simp only [ofItems, itemTurn_complete lead blanks denotes, bind_eq_ok_iff, Prod.exists] at h
    obtain ⟨_, _, turn, h⟩ := h
    cases turn
    simp only [if_true, bind_eq_ok_iff, Prod.exists] at h
    obtain ⟨d₁, t₂', filled, h⟩ := h
    have first := faithful field (.head _) d t₁ v t₂ denotes
    have others := fun f mem => faithful f (.tail field mem)
    obtain ⟨same, close⟩ | ⟨t₃, rest, same, comma, more⟩ := behind
    · cases same
      obtain ⟨rfl, reads⟩ := first (continuesNumeral_of_blanks close rfl) t₁ .nil d₁ t₂' filled
      obtain ⟨rfl, mayLack, built⟩ := ofItems_close_sound close h ends
      exact ⟨rfl, d₁, .cons reads (.done mayLack), built⟩
    · cases same
      obtain ⟨rfl, reads⟩ := first (continuesNumeral_of_blanks comma rfl) t₁ .nil d₁ t₂' filled
      obtain ⟨rfl, d', fills, built⟩ := ih others (index + 1) more comma h ends
      exact ⟨rfl, d', .cons reads fills, built⟩

/-- What a record is made of: an object whose members fill its draft, or a list whose items do. -/
inductive Makes (s : Shape δ α) : Value → α → Prop
  | object {ms : List (String × Value)} {d : δ} {a : α} : s.Fills s.draft ms d → s.build d = .ok a →
      Makes s (.object ms) a
  | list {vs : List Value} {d : δ} {a : α} : FillsInOrder s.fields s.draft vs d → s.build d = .ok a →
      Makes s (.array vs) a

theorem reads_of_makes {v : Value} {a : α} (makes : s.Makes v a) : Reads s.read v a := by
  cases makes with
  | object fills built => exact reads_object fills built
  | @list vs d _ fills built =>
    intro t u denotes _ t' lead
    have bracket : ∃ rest r, t = 0x5B :: rest ∧ Blanks r (0x5D :: u) ∧
        s.ofItems 0 s.fields s.draft rest = s.finish d r := by
      cases denotes with
      | emptyList close =>
        obtain ⟨mayLack, rfl⟩ := fillsInOrder_nil fills
        obtain ⟨r, close, ended⟩ := ofItems_close (s := s) mayLack 0 s.draft close
        exact ⟨_, r, rfl, close, ended⟩
      | list items =>
        obtain ⟨r, close, ended⟩ := ofItems_complete (s := s) fills 0 items rfl
        exact ⟨_, r, rfl, close, ended⟩
    obtain ⟨rest, r, rfl, close, ended⟩ := bracket
    unfold Shape.read
    rw [skipSpace_eq lead (by decide)]
    simp [ended, finish, built, closed, listEnd_of_blanks close, bind, Except.bind, pure, Except.pure]

theorem makes_of_read (faithful : ∀ field ∈ s.fields, ∀ d, Faithful (field.fill d)) {t t' u u' : List UInt8}
    {v : Value} {a : α} (denotes : Denotes [] t v u) (lead : Blanks t' t)
    (h : s.read t' = .ok (a, u')) : u' = u ∧ s.Makes v a := by
  obtain ⟨b, rest, rfl, solid, _⟩ := denotes_head denotes
  unfold Shape.read at h
  rw [skipSpace_eq lead solid] at h
  simp only at h
  split_ifs at h with brace bracket
  · rw [brace] at denotes
    obtain ⟨r, filled, ends⟩ := closed_eq_ok_iff.1 h
    obtain ⟨close, rfl⟩ | ⟨ms, members, rfl⟩ := of_denotes_brace denotes
    · rw [ofMembers_close s true _ _ close, finish_eq_ok_iff] at filled
      obtain ⟨built, rfl⟩ := filled
      cases ends
      exact ⟨rfl, .object .nil built⟩
    · obtain ⟨rfl, d, fills, built⟩ := ofMembers_sound faithful members _ true _ rfl a r filled
      cases ends
      exact ⟨rfl, .object fills built⟩
  · rw [bracket] at denotes
    obtain ⟨r, filled, ends⟩ := closed_eq_ok_iff.1 h
    obtain ⟨close, rfl⟩ | ⟨vs, items, rfl⟩ := of_denotes_bracket denotes
    · obtain ⟨rfl, mayLack, built⟩ := ofItems_close_sound close filled ends
      exact ⟨rfl, .list (.done mayLack) built⟩
    · obtain ⟨rfl, d, fills, built⟩ := ofItems_sound faithful 0 items rfl filled ends
      exact ⟨rfl, .list fills built⟩

theorem faithful_read (faithful : ∀ field ∈ s.fields, ∀ d, Faithful (field.fill d)) : Faithful s.read := by
  intro t v u denotes _ t' lead a u' h
  obtain ⟨rest, makes⟩ := makes_of_read faithful denotes lead h
  exact ⟨rest, reads_of_makes makes⟩

theorem makes_of_reads (faithful : ∀ field ∈ s.fields, ∀ d, Faithful (field.fill d)) {v : Value} {a : α}
    (written : Written v) (reads : Reads s.read v a) : s.Makes v a := by
  obtain ⟨t, u, denotes, behind⟩ := written
  exact (makes_of_read faithful denotes .nil (reads t u denotes behind t .nil)).2

end Shape

namespace Slot

variable {δ : Type}

theorem faithful_fill {p : Slot δ} (faithful : Faithful p.read) (d : δ) : Faithful (p.field.fill d) := by
  intro t v u denotes behind s lead d' u' h
  simp only [field, Field.of, bind_eq_ok_iff, Prod.exists] at h
  obtain ⟨a, rest, here, h⟩ := h
  cases h
  obtain ⟨rfl, reads⟩ := faithful t v u denotes behind s lead a _ here
  exact ⟨rfl, reads_fill reads d⟩

theorem faithful_fields {s : Shape δ α} {slots : List (Slot δ)} (fields : s.fields = slots.map field)
    (faithful : ∀ p ∈ slots, Faithful p.read) : ∀ f ∈ s.fields, ∀ d, Faithful (f.fill d) := by
  intro f mem d
  rw [fields] at mem
  obtain ⟨p, known, rfl⟩ := List.mem_map.1 mem
  exact faithful_fill (faithful p known) d

theorem exists_reads_of_fill {p : Slot δ} (faithful : Faithful p.read) {v : Value} (written : Written v)
    {d d' : δ} (fills : Reads (p.field.fill d) v d') : ∃ a, Reads p.read v a ∧ d' = p.set d a := by
  obtain ⟨t, u, denotes, behind⟩ := written
  have h := fills t u denotes behind t .nil
  simp only [field, Field.of, bind_eq_ok_iff, Prod.exists] at h
  obtain ⟨a, rest, here, h⟩ := h
  cases h
  exact ⟨a, (faithful t v u denotes behind t .nil a u here).2, rfl⟩

theorem Lawful.takes {s : Shape δ α} {slots : List (Slot δ)} (lawful : Lawful slots)
    (fields : s.fields = slots.map field) (faithful : ∀ p ∈ slots, Faithful p.read)
    {ms : List (String × Value)} {d d' : δ} (fills : s.Fills d ms d') :
    (∀ m ∈ ms, Written m.2) → ∀ p ∈ slots, p.Takes d ms d' := by
  induction fills with
  | nil => exact fun _ p _ => .inl ⟨rfl, rfl⟩
  | @cons d d₁ d' name v ms meets rest ih =>
    intro written p mem
    have later := ih (fun m mem => written m (.tail _ mem)) p mem
    have find := find?_field slots name
    rw [← fields] at find
    obtain ⟨absent, rfl⟩ | ⟨f, found, empty, fills⟩ := meets
    · rw [absent] at find
      have other : name ≠ p.name := by
        rintro rfl
        have unknown : slots.find? (·.name = p.name) = none := by simpa using find.symm
        exact absurd (List.find?_eq_none.1 unknown p mem) (by simp)
      rwa [Takes, valuesOf_cons_of_ne other]
    · rw [found] at find
      obtain ⟨q, known, rfl⟩ := Option.map_eq_some_iff.1 find.symm
      have other := List.mem_of_find?_eq_some known
      have called : q.name = name := by simpa using List.find?_some known
      subst called
      have fresh : q.get d = none := by simpa [field, Field.of] using empty
      obtain ⟨a, reads, rfl⟩ := exists_reads_of_fill (faithful q other) (written (q.name, v) (.head _)) fills
      by_cases same : q.name = p.name
      · cases lawful.eq_of_name other mem same
        rw [Takes, lawful.get_set p mem] at later
        obtain ⟨none, kept⟩ | ⟨_, _, _, some, _⟩ := later
        · exact .inr ⟨v, a, by rw [valuesOf_cons_self, none], fresh, reads, kept⟩
        · contradiction
      · rw [Takes, lawful.get_other q other p mem same] at later
        rwa [Takes, valuesOf_cons_of_ne same]

end Slot

end Herald.Json
