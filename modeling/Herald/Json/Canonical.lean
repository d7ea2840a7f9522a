import Herald.Json.Value

/-!
Values in canonical form. `Ordered` says of a value, without a look at how it came about, that the
members of every object stand in the order of their names and no name stands twice. What
`canonical` returns is ordered, and an ordered value is its own canonical form.
-/
namespace Herald.Json.Value

mutual

def Ordered : Value → Prop
  | .array items => OrderedItems items
  | .object members => (members.map Prod.fst).Pairwise (· < ·) ∧ OrderedMembers members
  | _ => True

def OrderedItems : List Value → Prop
  | [] => True
  | v :: rest => v.Ordered ∧ OrderedItems rest

def OrderedMembers : List (String × Value) → Prop
  | [] => True
  | (_, v) :: rest => v.Ordered ∧ OrderedMembers rest

end

theorem orderedItems_iff {vs : List Value} : OrderedItems vs ↔ ∀ v ∈ vs, v.Ordered := by
  induction vs with
  | nil => simp [OrderedItems]
  | cons v rest ih => simp only [OrderedItems, ih, List.forall_mem_cons]

theorem orderedMembers_iff {ms : List (String × Value)} :
    OrderedMembers ms ↔ ∀ m ∈ ms, m.2.Ordered := by
  induction ms with
  | nil => simp [OrderedMembers]
  | cons m rest ih => simp only [OrderedMembers, ih, List.forall_mem_cons]

theorem lt_of_not_lt {a b : String} (h : ¬a < b) (ne : a ≠ b) : b < a :=
  Std.lt_of_le_of_ne (Std.not_lt.1 h) (Ne.symm ne)

theorem mem_insertMember {m : String × Value} {name : String} {v : Value}
    {ms : List (String × Value)} (h : m ∈ insertMember name v ms) : m = (name, v) ∨ m ∈ ms := by
  induction ms with
  | nil => exact .inl (List.mem_singleton.1 h)
  | cons first rest ih =>
    obtain ⟨k, w⟩ := first
    unfold insertMember at h
    split at h
    · exact List.mem_cons.1 h
    split at h
    · exact (List.mem_cons.1 h).imp_right (List.mem_cons_of_mem _)
    · obtain rfl | h := List.mem_cons.1 h
      · exact .inr (by simp)
      · exact (ih h).imp_right (List.mem_cons_of_mem _)

theorem mem_names_insertMember {name k : String} {v : Value} {ms : List (String × Value)}
    (h : k ∈ (insertMember name v ms).map Prod.fst) : k = name ∨ k ∈ ms.map Prod.fst := by
  obtain ⟨m, mem, rfl⟩ := List.mem_map.1 h
  obtain rfl | old := mem_insertMember mem
  · exact .inl rfl
  · exact .inr (List.mem_map_of_mem old)

theorem mem_sortMembers {m : String × Value} {ms : List (String × Value)} (h : m ∈ sortMembers ms) :
    m ∈ ms := by
  have go : ∀ (ms sorted : List (String × Value)),
      m ∈ ms.foldl (fun sorted m => insertMember m.1 m.2 sorted) sorted → m ∈ sorted ∨ m ∈ ms := by
    intro ms
    induction ms with
    | nil => exact fun _ h => .inl h
    | cons first rest ih =>
      intro sorted h
      obtain h | h := ih _ h
      · exact (mem_insertMember h).symm.imp_right (by rintro rfl; simp)
      · exact .inr (List.mem_cons_of_mem _ h)
  exact (go ms [] h).resolve_left List.not_mem_nil

theorem pairwise_insertMember (name : String) (v : Value) {ms : List (String × Value)}
    (h : (ms.map Prod.fst).Pairwise (· < ·)) :
    ((insertMember name v ms).map Prod.fst).Pairwise (· < ·) := by
  induction ms with
  | nil => simp [insertMember]
  | cons m rest ih =>
    obtain ⟨l, w⟩ := m
    simp only [List.map_cons, List.pairwise_cons] at h
    unfold insertMember
    split
    · next lt =>
      simp only [List.map_cons, List.pairwise_cons, List.mem_cons]
      refine ⟨?_, h⟩
      rintro k (rfl | hk)
      · exact lt
      · exact String.lt_trans lt (h.1 k hk)
    split
    · next e => subst e; simpa using h
    · next nlt ne =>
      simp only [List.map_cons, List.pairwise_cons]
      refine ⟨fun k hk => ?_, ih h.2⟩
      obtain rfl | hk := mem_names_insertMember hk
      · exact lt_of_not_lt nlt ne
      · exact h.1 k hk

theorem pairwise_sortMembers (ms : List (String × Value)) :
    ((sortMembers ms).map Prod.fst).Pairwise (· < ·) := by
  have go : ∀ (ms sorted : List (String × Value)), (sorted.map Prod.fst).Pairwise (· < ·) →
      ((ms.foldl (fun sorted m => insertMember m.1 m.2 sorted) sorted).map Prod.fst).Pairwise
        (· < ·) := by
    intro ms
    induction ms with
    | nil => exact fun _ h => h
    | cons m rest ih => exact fun sorted h => ih _ (pairwise_insertMember m.1 m.2 h)
  exact go ms [] List.Pairwise.nil

theorem ordered_sortMembers {ms : List (String × Value)} (h : OrderedMembers ms) :
    ((sortMembers ms).map Prod.fst).Pairwise (· < ·) ∧ OrderedMembers (sortMembers ms) := by
  refine ⟨pairwise_sortMembers ms, orderedMembers_iff.2 ?_⟩
  exact fun m sorted => orderedMembers_iff.1 h m (mem_sortMembers sorted)

theorem canonicalItems_eq_map (vs : List Value) : canonicalItems vs = vs.map canonical := by
  induction vs with
  | nil => rfl
  | cons v vs ih => rw [canonicalItems, ih, List.map_cons]

theorem canonicalMembers_eq_map (ms : List (String × Value)) :
    canonicalMembers ms = ms.map fun m => (m.1, m.2.canonical) := by
  induction ms with
  | nil => rfl
  | cons m ms ih => rw [canonicalMembers, ih, List.map_cons]

theorem names_canonicalMembers (ms : List (String × Value)) :
    (canonicalMembers ms).map Prod.fst = ms.map Prod.fst := by
  rw [canonicalMembers_eq_map, List.map_map]
  rfl

mutual

theorem ordered_canonical : (v : Value) → v.canonical.Ordered
  | .null | .bool _ | .number _ | .string _ => trivial
  | .array items => ordered_canonicalItems items
  | .object members => ordered_sortMembers (ordered_canonicalMembers members)

theorem ordered_canonicalItems : (vs : List Value) → OrderedItems (canonicalItems vs)
  | [] => trivial
  | v :: rest => ⟨ordered_canonical v, ordered_canonicalItems rest⟩

theorem ordered_canonicalMembers : (ms : List (String × Value)) → OrderedMembers (canonicalMembers ms)
  | [] => trivial
  | (_, v) :: rest => ⟨ordered_canonical v, ordered_canonicalMembers rest⟩

end

theorem insertMember_of_forall_lt {name : String} {v : Value} {ms : List (String × Value)}
    (h : ∀ k ∈ ms.map Prod.fst, k < name) : insertMember name v ms = ms ++ [(name, v)] := by
  induction ms with
  | nil => rfl
  | cons m rest ih =>
    obtain ⟨l, w⟩ := m
    have lt : l < name := h l (by simp)
    have ne : name ≠ l := fun e => String.lt_irrefl l (e ▸ lt)
    simp [insertMember, String.lt_asymm lt, ne, ih fun k hk => h k (by simp [List.mem_map.1 hk])]

theorem sortMembers_of_pairwise {ms : List (String × Value)}
    (h : (ms.map Prod.fst).Pairwise (· < ·)) : sortMembers ms = ms := by
  have go : ∀ (ms sorted : List (String × Value)),
      ((sorted ++ ms).map Prod.fst).Pairwise (· < ·) →
      ms.foldl (fun sorted m => insertMember m.1 m.2 sorted) sorted = sorted ++ ms := by
    intro ms
    induction ms with
    | nil => simp
    | cons m rest ih =>
      intro sorted hs
      have below : ∀ k ∈ sorted.map Prod.fst, k < m.1 := by
        intro k hk
        rw [List.map_append, List.pairwise_append] at hs
        exact hs.2.2 k hk m.1 (by simp)
      rw [List.foldl_cons, insertMember_of_forall_lt below, ih _ (by simpa using hs)]
      simp
  exact go ms [] h

mutual

theorem canonical_of_ordered : (v : Value) → v.Ordered → v.canonical = v
  | .null, _ | .bool _, _ | .number _, _ | .string _, _ => rfl
  | .array items, h => by rw [canonical, canonicalItems_of_ordered items h]
  | .object members, h => by
    rw [canonical, canonicalMembers_of_ordered members h.2, sortMembers_of_pairwise h.1]

theorem canonicalItems_of_ordered : (vs : List Value) → OrderedItems vs → canonicalItems vs = vs
  | [], _ => rfl
  | v :: rest, h => by
    rw [canonicalItems, canonical_of_ordered v h.1, canonicalItems_of_ordered rest h.2]

theorem canonicalMembers_of_ordered :
    (ms : List (String × Value)) → OrderedMembers ms → canonicalMembers ms = ms
  | [], _ => rfl
  | (_, v) :: rest, h => by
    rw [canonicalMembers, canonical_of_ordered v h.1, canonicalMembers_of_ordered rest h.2]

end

end Herald.Json.Value
