import Herald.Proofs.Json.Makes
import Herald.Proofs.Json.Numbers

/-!
Records by their members. A list that holds the fields of a record in order stands for the object that has
its items under their names; and a record is read from an object exactly if each of its fields is read from
the only member of its name, or there is none and the record can do without it.
-/
namespace Herald.Json

variable {α : Type}

theorem faithful_named {ε : Type} (read : String → Except ε α) (message : ε → String) :
    Faithful (named read message) := by
  intro t v u denotes behind s lead a u' h
  obtain ⟨text, first, second⟩ := named_eq_ok_iff.1 h
  obtain ⟨rfl, rfl⟩ := text_eq_ok denotes lead first
  exact ⟨rfl, fun t u denotes behind s lead =>
    named_eq_ok_iff.2 ⟨text, reads_text text t u denotes behind s lead, second⟩⟩

theorem reads_named_iff {ε : Type} {read : String → Except ε α} {message : ε → String} {v : Value} {a : α}
    (written : Written v) : Reads (named read message) v a ↔ ∃ s, v = .string s ∧ read s = .ok a := by
  constructor
  · intro reads
    obtain ⟨t, u, denotes, behind⟩ := written
    obtain ⟨s, first, second⟩ := named_eq_ok_iff.1 (reads t u denotes behind t .nil)
    exact ⟨s, (text_eq_ok denotes .nil first).2, second⟩
  · rintro ⟨s, rfl, named⟩ t u denotes behind t' lead
    exact named_eq_ok_iff.2 ⟨s, reads_text s t u denotes behind t' lead, named⟩

theorem natBelow_eq_ok_iff {wanted : String} {limit n : Nat} {s u : List UInt8} :
    natBelow wanted limit s = .ok (n, u) ↔ intBetween wanted 0 (limit - 1) s = .ok ((n : Int), u) := by
  simp only [natBelow, bind_eq_ok_iff, Prod.exists]
  constructor
  · rintro ⟨m, rest, read, same⟩
    cases same
    obtain ⟨k, _, converted⟩ := numberOf_eq_ok read
    cases k with
    | float x => cases converted
    | int k =>
      simp only at converted
      split_ifs at converted with within
      cases converted
      rw [read, Int.toNat_of_nonneg within.1]
  · intro read
    exact ⟨n, u, read, rfl⟩

theorem faithful_natBelow (wanted : String) (limit : Nat) : Faithful (natBelow wanted limit) := by
  intro t v u denotes behind s lead n u' h
  obtain ⟨rest, reads⟩ := faithful_intBetween wanted 0 (limit - 1) t v u denotes behind s lead _ u'
    (natBelow_eq_ok_iff.1 h)
  exact ⟨rest, fun t u denotes behind s lead =>
    natBelow_eq_ok_iff.2 (reads t u denotes behind s lead)⟩

theorem reads_natBelow_iff {wanted : String} {limit n : Nat} {v : Value} (written : Written v) :
    Reads (natBelow wanted limit) v n ↔ v = .number (.int n) ∧ n < limit := by
  constructor
  · intro reads
    have whole : Reads (intBetween wanted 0 (limit - 1)) v (n : Int) :=
      fun t u denotes behind s lead => natBelow_eq_ok_iff.1 (reads t u denotes behind s lead)
    obtain ⟨m, rfl, converted⟩ := (reads_numberOf_iff written).1 whole
    cases m with
    | float x => cases converted
    | int m =>
      simp only at converted
      split_ifs at converted with within
      cases converted
      exact ⟨rfl, by omega⟩
  · rintro ⟨rfl, small⟩
    exact reads_natBelow small

theorem reads_float_iff {v : Value} {x : Float} (written : Written v) :
    Reads float v x ↔ ∃ n : Number, v = .number n ∧ n.toFloat = x := by
  simp only [float, reads_numberOf_iff written, Except.ok.injEq]

theorem reads_optional_iff {read : Reader α} (faithful : Faithful read) {v : Value} {o : Option α}
    (written : Written v) : Reads (optional read) v o ↔
      (v = .null ∧ o = none) ∨ ∃ a, o = some a ∧ v ≠ .null ∧ Reads read v a := by
  constructor
  · intro reads
    cases o with
    | none => exact .inl ⟨null_of_optional written reads, rfl⟩
    | some a => exact .inr ⟨a, rfl, reads_of_optional faithful written reads⟩
  · rintro (⟨rfl, rfl⟩ | ⟨a, rfl, solid, reads⟩)
    · exact reads_optional_null read
    · exact reads_optional solid reads

/-- The members of a record: those of an object, or the items of a list that is not too long, under the
names of the fields. -/
inductive Enumerates (names : List String) : Value → List (String × Value) → Prop
  | object {ms : List (String × Value)} : Enumerates names (.object ms) ms
  | list {vs : List Value} : vs.length ≤ names.length → Enumerates names (.array vs) (names.zip vs)

theorem Enumerates.written {names : List String} {v : Value} {ms : List (String × Value)}
    (enumerates : Enumerates names v ms) (written : Written v) : ∀ m ∈ ms, Written m.2 := by
  cases enumerates with
  | object => exact written.member
  | list => exact fun m mem => written.item m.2 (List.of_mem_zip mem).2

namespace Slot

variable {δ : Type} {s : Shape δ α} {slots : List (Slot δ)}

theorem Lawful.find? (lawful : Lawful slots) (fields : s.fields = slots.map field) {p : Slot δ}
    (mem : p ∈ slots) : s.fields.find? (·.name = p.name) = some p.field := by
  rw [fields, find?_field]
  cases found : slots.find? (·.name = p.name) with
  | none => exact absurd (List.find?_eq_none.1 found p mem) (by simp)
  | some q =>
    have same : q.name = p.name := by simpa using List.find?_some found
    rw [lawful.eq_of_name (List.mem_of_find?_eq_some found) mem same]
    rfl

theorem Lawful.fillsInOrder_iff (lawful : Lawful slots) (fields : s.fields = slots.map field)
    (faithful : ∀ p ∈ slots, Faithful p.read) {vs : List Value} : ∀ {later : List (Slot δ)} {d e : δ},
    (∀ v ∈ vs, Written v) → (∀ p ∈ later, p ∈ slots) → (later.map Slot.name).Nodup →
    (∀ p ∈ later, p.get d = none) →
    (Shape.FillsInOrder (later.map field) d vs e ↔ vs.length ≤ later.length ∧
      (∀ p ∈ later.drop vs.length, p.mayLack = true) ∧ s.Fills d ((later.map Slot.name).zip vs) e) := by
  -- Each item goes to the first of the fields that are left, which are empty and of other names.
  induction vs with
  | nil =>
    intro later d e _ _ _ _
    rw [List.zip_nil_right, List.length_nil, List.drop_zero]
    constructor
    · intro fills
      obtain ⟨mayLack, rfl⟩ := Shape.fillsInOrder_nil fills
      exact ⟨Nat.zero_le _, fun p mem => mayLack _ (List.mem_map_of_mem mem), .nil⟩
    · rintro ⟨_, mayLack, fills⟩
      cases fills
      refine .done fun f mem => ?_
      obtain ⟨p, here, rfl⟩ := List.mem_map.1 mem
      exact mayLack p here
  | cons v vs ih =>
    intro later d e written known nodup empty
    cases later with
    | nil =>
      refine ⟨fun fills => ?_, fun h => absurd h.1 (by simp)⟩
      cases fills
    | cons p later =>
      have mem := known p (.head _)
      have find := lawful.find? fields mem
      obtain ⟨fresh, nodup⟩ := List.nodup_cons.1 nodup
      have others : ∀ a, ∀ q ∈ later, q.get (p.set d a) = none := fun a q here => by
        have other : p.name ≠ q.name := fun same => fresh (same ▸ List.mem_map_of_mem here)
        rw [lawful.get_other p mem q (known q (.tail _ here)) other]
        exact empty q (.tail _ here)
      have next (a : p.α) := ih (d := p.set d a) (e := e) (fun w here => written w (.tail _ here))
        (fun q here => known q (.tail _ here)) nodup (others a)
      have set {d₁ : δ} (reads : Reads (p.field.fill d) v d₁) : ∃ a, d₁ = p.set d a := by
        obtain ⟨a, _, same⟩ := exists_reads_of_fill (faithful p mem) (written v (.head _)) reads
        exact ⟨a, same⟩
      have vacant : p.field.filled d = false := by simp [field, Field.of, empty p (.head _)]
      rw [List.map_cons, List.map_cons, List.zip_cons_cons, List.length_cons, List.length_cons,
        List.drop_succ_cons, Nat.add_le_add_iff_right]
      constructor
      · intro fills
        cases fills with
        | cons reads rest =>
          obtain ⟨a, rfl⟩ := set reads
          obtain ⟨short, mayLack, fills⟩ := (next a).1 rest
          exact ⟨short, mayLack, .cons (.inr ⟨p.field, find, vacant, reads⟩) fills⟩
      · rintro ⟨short, mayLack, fills⟩
        cases fills with
        | cons meets rest =>
          obtain ⟨absent, _⟩ | ⟨f, found, _, reads⟩ := meets
          · rw [find] at absent
            contradiction
          · rw [find] at found
            cases found
            obtain ⟨a, rfl⟩ := set reads
            exact .cons reads ((next a).2 ⟨short, mayLack, rest⟩)

theorem takes_iff {p : Slot δ} {d d' : δ} {ms : List (String × Value)} {a : p.α} (empty : p.get d = none)
    (holds : p.get d' = some a) : p.Takes d ms d' ↔ ∃ v, valuesOf p.name ms = [v] ∧ Reads p.read v a := by
  constructor
  · rintro (⟨_, kept⟩ | ⟨v, b, alone, _, reads, held⟩)
    · rw [kept, empty] at holds
      contradiction
    · rw [held] at holds
      cases holds
      exact ⟨v, alone, reads⟩
  · rintro ⟨v, alone, reads⟩
    exact .inr ⟨v, a, alone, empty, reads, holds⟩

theorem takes_named_iff {β ε : Type} {name : String} {get : δ → Option β} {set : δ → β → δ}
    {read : String → Except ε β} {message : ε → String} {mayLack : Bool} {d d' : δ}
    {ms : List (String × Value)} {b : β} (empty : get d = none) (holds : get d' = some b)
    (written : ∀ m ∈ ms, Written m.2) : Takes ⟨name, get, set, named read message, mayLack⟩ d ms d' ↔
      ∃ s, valuesOf name ms = [.string s] ∧ read s = .ok b := by
  rw [takes_iff empty holds]
  constructor
  · rintro ⟨v, alone, reads⟩
    obtain ⟨s, rfl, named⟩ := (reads_named_iff (written_of_alone written alone)).1 reads
    exact ⟨s, alone, named⟩
  · rintro ⟨s, alone, named⟩
    exact ⟨_, alone, (reads_named_iff (written_of_alone written alone)).2 ⟨s, rfl, named⟩⟩

theorem told_of_takes {β : Type} (form : β → Value) {name : String} {get : δ → Option (Option β)}
    {set : δ → Option β → δ} {read : Reader β} {mayLack : Bool} {d d' : δ} {ms : List (String × Value)}
    (takes : Takes ⟨name, get, set, optional read, mayLack⟩ d ms d') (empty : get d = none)
    (written : ∀ m ∈ ms, Written m.2) (faithful : Faithful read)
    (form_of_reads : ∀ v b, Written v → Reads read v b → v = form b) :
    Says form (valuesOf name ms) ((get d').getD none) ∧
      ∀ b ∈ (get d').getD none, Reads read (form b) b := by
  obtain ⟨absent, kept⟩ | ⟨v, o, alone, _, reads, held⟩ := takes
  · rw [show get d' = none from kept.trans empty]
    exact ⟨.inl absent, nofun⟩
  · have there : Written v := written_of_alone written alone
    rw [show get d' = some o from held, Option.getD_some]
    obtain ⟨rfl, rfl⟩ | ⟨b, rfl, _, reads⟩ := (reads_optional_iff faithful there).1 reads
    · exact ⟨.inr alone, nofun⟩
    · obtain rfl := form_of_reads v b there reads
      exact ⟨alone, fun c same => by cases same; exact reads⟩

end Slot

namespace Shape

variable {δ : Type} {s : Shape δ α} {slots : List (Slot δ)}

/-- The fields of a record are these slots, all of them empty at first; and no record is built without the
slots that it cannot lack. -/
structure HasSlots (s : Shape δ α) (slots : List (Slot δ)) : Prop where
  lawful : Slot.Lawful slots
  fields : s.fields = slots.map Slot.field
  faithful : ∀ p ∈ slots, Faithful p.read
  empty : ∀ p ∈ slots, p.get s.draft = none
  needed : ∀ d a, s.build d = .ok a → ∀ p ∈ slots, p.mayLack = false → p.get d ≠ none

def Builds (s : Shape δ α) (slots : List (Slot δ)) (ms : List (String × Value)) (a : α) : Prop :=
  ∃ d, (∀ p ∈ slots, p.Takes s.draft ms d) ∧ s.build d = .ok a

theorem HasSlots.faithful_read (has : s.HasSlots slots) : Faithful s.read :=
  Shape.faithful_read (Slot.faithful_fields has.fields has.faithful)

theorem HasSlots.reads_iff_builds (has : s.HasSlots slots) {v : Value} (written : Written v) {a : α} :
    Reads s.read v a ↔ ∃ ms, Enumerates (slots.map Slot.name) v ms ∧ s.Builds slots ms a := by
  obtain ⟨lawful, fields, faithful, empty, needed⟩ := has
  have inOrder {vs : List Value} {d : δ} (items : ∀ v ∈ vs, Written v) :=
    lawful.fillsInOrder_iff fields faithful (d := s.draft) (e := d) items (fun _ mem => mem) lawful.nodup
      empty
  constructor
  · intro reads
    cases makes_of_reads (Slot.faithful_fields fields faithful) written reads with
    | @object ms d _ fills built =>
      exact ⟨ms, .object, d, lawful.takes fields faithful fills written.member, built⟩
    | @list vs d _ fills built =>
      rw [fields] at fills
      obtain ⟨short, _, fills⟩ := (inOrder written.item).1 fills
      have enumerates : Enumerates (slots.map Slot.name) (.array vs) ((slots.map Slot.name).zip vs) :=
        .list (by rwa [List.length_map])
      exact ⟨_, enumerates, d, lawful.takes fields faithful fills (enumerates.written written), built⟩
  · rintro ⟨ms, enumerates, d, takes, built⟩
    cases enumerates with
    | object => exact reads_of_makes (.object (lawful.fills fields takes) built)
    | @list vs short =>
      rw [List.length_map] at short
      refine reads_of_makes (.list ?_ built)
      rw [fields, inOrder written.item]
      refine ⟨short, fun p mem => ?_, lawful.fills fields takes⟩
      -- A field for which there is no item is found nowhere.
      cases mayLack : p.mayLack with
      | true => rfl
      | false =>
        have known := List.mem_of_mem_drop mem
        have front : ((slots.map Slot.name).zip vs).map Prod.fst = (slots.map Slot.name).take vs.length := by
          rw [List.zip_eq_zip_take_min, List.length_map, Nat.min_eq_right short, List.take_length,
            List.map_fst_zip (List.length_take_le _ _)]
        have back := List.mem_map_of_mem (f := Slot.name) mem
        rw [List.map_drop] at back
        have absent : valuesOf p.name ((slots.map Slot.name).zip vs) = [] := by
          rw [valuesOf_eq_nil_iff, front]
          exact fun here => List.disjoint_take_drop lawful.nodup (Nat.le_refl _) here back
        obtain ⟨_, kept⟩ | ⟨_, _, alone, _⟩ := takes p known
        · exact absurd (kept.trans (empty p known)) (needed d a built p known mayLack)
        · rw [absent] at alone
          contradiction

theorem HasSlots.reads_iff (has : s.HasSlots slots) {within : α → List (String × Value) → Prop}
    (builds : ∀ ms, (∀ m ∈ ms, Written m.2) → ∀ a, s.Builds slots ms a ↔ within a ms) {v : Value}
    (written : Written v) {a : α} :
    Reads s.read v a ↔ ∃ ms, Enumerates (slots.map Slot.name) v ms ∧ within a ms := by
  rw [has.reads_iff_builds written]
  exact exists_congr fun ms => and_congr_right fun enumerates => builds ms (enumerates.written written) a

end Shape

def Absent (vs : List Value) : Prop :=
  vs = [] ∨ vs = [.null]

/-- The same for a record with fields of these names: members of other names do not matter, nor the order
of the members, nor in which way something is absent that may be. -/
def SameMembers (names optional : List String) (ms ns : List (String × Value)) : Prop :=
  ∀ name ∈ names, (valuesOf name ms).Perm (valuesOf name ns) ∨
    (name ∈ optional ∧ Absent (valuesOf name ms) ∧ Absent (valuesOf name ns))

theorem SameMembers.of_perm {names optional : List String} {ms ns : List (String × Value)}
    (perm : ms.Perm ns) : SameMembers names optional ms ns := fun name _ => by
  simp only [valuesOf_eq_map_filter]
  exact .inl ((perm.filter _).map _)

theorem SameMembers.of_unknown {names optional : List String} {extra : List (String × Value)}
    (unknown : ∀ m ∈ extra, m.1 ∉ names) (ms : List (String × Value)) :
    SameMembers names optional ms (ms ++ extra) := fun name mem => by
  have absent : valuesOf name extra = [] := valuesOf_eq_nil_iff.2 fun here => by
    obtain ⟨m, other, rfl⟩ := List.mem_map.1 here
    exact unknown m other mem
  rw [valuesOf_eq_map_filter] at absent
  simp [valuesOf_eq_map_filter, absent]

theorem SameMembers.of_null {names optional : List String} {name : String} (may : name ∈ optional)
    {ms : List (String × Value)} (absent : valuesOf name ms = []) :
    SameMembers names optional ms ((name, .null) :: ms) := fun other _ => by
  by_cases same : name = other
  · subst same
    rw [valuesOf_cons_self, absent]
    exact .inr ⟨may, .inl rfl, .inr rfl⟩
  · rw [valuesOf_cons_of_ne same]
    exact .inl (.refl _)

theorem SameMembers.symm {names optional : List String} {ms ns : List (String × Value)}
    (same : SameMembers names optional ms ns) : SameMembers names optional ns ms := fun name mem =>
  (same name mem).imp List.Perm.symm fun ⟨may, left, right⟩ => ⟨may, right, left⟩

theorem Absent.of_perm {vs ws : List Value} (perm : vs.Perm ws) (absent : Absent ws) : Absent vs := by
  obtain rfl | rfl := absent
  · exact .inl (List.perm_nil.1 perm)
  · exact .inr (List.perm_singleton.1 perm)

theorem SameMembers.trans {names optional : List String} {ms ns ls : List (String × Value)}
    (first : SameMembers names optional ms ns) (second : SameMembers names optional ns ls) :
    SameMembers names optional ms ls := fun name mem => by
  obtain perm | ⟨may, left, right⟩ := first name mem <;>
    obtain perm' | ⟨may', left', right'⟩ := second name mem
  · exact .inl (perm.trans perm')
  · exact .inr ⟨may', left'.of_perm perm, right'⟩
  · exact .inr ⟨may, left, right.of_perm perm'.symm⟩
  · exact .inr ⟨may, left, right'⟩

theorem SameMembers.alone {names optional : List String} {ms ns : List (String × Value)}
    (same : SameMembers names optional ms ns) {name : String} (mem : name ∈ names)
    (needed : name ∉ optional) {v : Value} (alone : valuesOf name ms = [v]) : valuesOf name ns = [v] := by
  obtain perm | ⟨may, _⟩ := same name mem
  · rw [alone] at perm
    exact (List.singleton_perm.1 perm).symm
  · exact absurd may needed

theorem SameMembers.told {names optional : List String} {ms ns : List (String × Value)}
    (same : SameMembers names optional ms ns) {name : String} (mem : name ∈ names) {form : α → Value}
    (solid : ∀ b, form b ≠ .null) {o : Option α} (told : Says form (valuesOf name ms) o) :
    Says form (valuesOf name ns) o := by
  obtain perm | ⟨_, left, right⟩ := same name mem
  · cases o with
    | some b =>
      rw [show valuesOf name ms = [form b] from told] at perm
      exact (List.singleton_perm.1 perm).symm
    | none =>
      obtain none | null := told
      · rw [none] at perm
        exact .inl (List.nil_perm.1 perm)
      · rw [null] at perm
        exact .inr (List.singleton_perm.1 perm).symm
  · cases o with
    | none => exact right
    | some b =>
      have told : valuesOf name ms = [form b] := told
      obtain none | null := left
      · rw [none] at told
        contradiction
      · rw [null] at told
        exact absurd (List.cons.inj told).1.symm (solid b)

/-- How records are read from whole texts: by their members, in whatever order and beside whatever others
they stand, or by the items of a list; and never from a text in which the string of a field is none that
the field `accepts`. -/
structure ReadsRecords {α : Type} (read : Reader α) (names optional : List String)
    (accepts : List (String × (String → Prop))) (within : α → List (String × Value) → Prop) : Prop where
  read_iff : ∀ t v a, Spells [] t v →
    (whole read t = .ok a ↔ ∃ ms, Enumerates names v ms ∧ within a ms)
  same : ∀ t u ms ns a, Spells [] t (.object ms) → Spells [] u (.object ns) →
    SameMembers names optional ms ns → (whole read t = .ok a ↔ whole read u = .ok a)
  list : ∀ t u vs a, Spells [] t (.array vs) → Spells [] u (.object (names.zip vs)) →
    vs.length = names.length → (whole read t = .ok a ↔ whole read u = .ok a)
  refuses : ∀ t v ms name valid s, Spells [] t v → Enumerates names v ms → (name, valid) ∈ accepts →
    (name, .string s) ∈ ms → ¬ valid s → ∀ a, whole read t ≠ .ok a

theorem Enumerates.object_iff {names : List String} {ms ns : List (String × Value)} :
    Enumerates names (.object ms) ns ↔ ns = ms := by
  constructor
  · intro enumerates
    cases enumerates
    rfl
  · rintro rfl
    exact .object

theorem Enumerates.unique {names : List String} {v : Value} {ms ns : List (String × Value)}
    (first : Enumerates names v ms) (second : Enumerates names v ns) : ms = ns := by
  cases first with
  | object => exact (object_iff.1 second).symm
  | list =>
    cases second
    rfl

variable {δ : Type} {s : Shape δ α} {slots : List (Slot δ)} {optional : List String}
  {accepts : List (String × (String → Prop))} {within : α → List (String × Value) → Prop}

theorem ReadsRecords.of_builds (has : s.HasSlots slots)
    (builds : ∀ ms, (∀ m ∈ ms, Written m.2) → ∀ a, s.Builds slots ms a ↔ within a ms)
    (congr : ∀ a ms ns, SameMembers (slots.map Slot.name) optional ms ns → within a ms → within a ns)
    (valid : ∀ a ms, within a ms → ∀ check ∈ accepts, ∃ s, valuesOf check.1 ms = [.string s] ∧ check.2 s) :
    ReadsRecords s.read (slots.map Slot.name) optional accepts within := by
  have read_iff (t : List UInt8) (v : Value) (a : α) (spells : Spells [] t v) :
      whole s.read t = .ok a ↔ ∃ ms, Enumerates (slots.map Slot.name) v ms ∧ within a ms := by
    rw [has.faithful_read.whole_iff spells, has.reads_iff builds (.of_spells spells)]
  refine ⟨read_iff, fun t u ms ns a first second same => ?_, fun t u vs a first second full => ?_,
    fun t v ms name ok s spells enumerates check mem bad a read => ?_⟩
  · rw [read_iff t _ a first, read_iff u _ a second]
    simp only [Enumerates.object_iff, exists_eq_left]
    exact ⟨congr a ms ns same, congr a ns ms same.symm⟩
  · rw [read_iff t _ a first, read_iff u _ a second]
    simp only [Enumerates.object_iff, exists_eq_left]
    constructor
    · rintro ⟨ms, enumerates, here⟩
      cases enumerates
      exact here
    · exact fun here => ⟨_, .list (Nat.le_of_eq full), here⟩
  · obtain ⟨ns, other, here⟩ := (read_iff t v a spells).1 read
    obtain rfl := enumerates.unique other
    obtain ⟨s', alone, good⟩ := valid a ms here _ check
    have known := mem_valuesOf.2 mem
    rw [alone, List.mem_singleton] at known
    cases known
    exact bad good

end Herald.Json
