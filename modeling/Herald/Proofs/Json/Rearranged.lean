import Herald.Proofs.Json.Reread
import Mathlib.Data.List.Nodup
import Mathlib.Data.List.Perm.Basic

/-!
Values up to the order of members. Where the members of each object have names of their own, two values
have one canonical form exactly when they differ in nothing but the order of members: rows in the order
of their names are equal if they hold the same members, and sorting only moves members then.
-/
namespace Herald.Json.Value

inductive Within (u : Value) : Value → Prop
  | here : Within u u
  | item {v : Value} {vs : List Value} : v ∈ vs → Within u v → Within u (.array vs)
  | member {m : String × Value} {ms : List (String × Value)} : m ∈ ms → Within u m.2 →
      Within u (.object ms)

theorem Ordered.within {v : Value} (ordered : v.Ordered) {ms : List (String × Value)}
    (within : Within (.object ms) v) : (ms.map Prod.fst).Pairwise (· < ·) := by
  induction within with
  | here => exact ordered.1
  | item mem _ ih => exact ih (orderedItems_iff.1 ordered _ mem)
  | member mem _ ih => exact ih (orderedMembers_iff.1 ordered.2 _ mem)

theorem distinctItems_iff {vs : List Value} : DistinctItems vs ↔ ∀ v ∈ vs, v.Distinct := by
  induction vs with
  | nil => simp [DistinctItems]
  | cons v rest ih => simp only [DistinctItems, ih, List.forall_mem_cons]

theorem distinctMembers_iff {ms : List (String × Value)} :
    DistinctMembers ms ↔ ∀ m ∈ ms, m.2.Distinct := by
  induction ms with
  | nil => simp [DistinctMembers]
  | cons m rest ih => simp only [DistinctMembers, ih, List.forall_mem_cons]

theorem distinct_array_iff {vs : List Value} : Distinct (.array vs) ↔ ∀ v ∈ vs, v.Distinct := by
  rw [Distinct, distinctItems_iff]

theorem distinct_object_iff {ms : List (String × Value)} :
    Distinct (.object ms) ↔ (ms.map Prod.fst).Nodup ∧ ∀ m ∈ ms, m.2.Distinct := by
  rw [Distinct, distinctMembers_iff]

theorem insertMember_perm {name : String} (v : Value) {ms : List (String × Value)}
    (new : name ∉ ms.map Prod.fst) : (insertMember name v ms).Perm ((name, v) :: ms) := by
  induction ms with
  | nil => exact .refl _
  | cons m ms ih =>
    obtain ⟨k, w⟩ := m
    rw [List.map_cons, List.mem_cons, not_or] at new
    unfold insertMember
    split_ifs with before same
    · exact .refl _
    · exact absurd same new.1
    · exact ((ih new.2).cons (k, w)).trans (.swap _ _ _)

theorem sortMembers_perm {ms : List (String × Value)} (names : (ms.map Prod.fst).Nodup) :
    (sortMembers ms).Perm ms := by
  have go (ms sorted : List (String × Value)) (names : ((sorted ++ ms).map Prod.fst).Nodup) :
      (ms.foldl (fun sorted m => insertMember m.1 m.2 sorted) sorted).Perm (sorted ++ ms) := by
    induction ms generalizing sorted with
    | nil =>
      rw [List.append_nil]
      exact .refl _
    | cons m ms ih =>
      have new : m.1 ∉ sorted.map Prod.fst := by
        have apart := names
        rw [List.map_append, List.map_cons, List.nodup_middle, List.nodup_cons, List.mem_append] at apart
        exact fun old => apart.1 (.inl old)
      have moved : (insertMember m.1 m.2 sorted ++ ms).Perm (sorted ++ m :: ms) :=
        ((insertMember_perm m.2 new).append_right ms).trans List.perm_middle.symm
      exact (ih _ ((moved.map Prod.fst).nodup_iff.2 names)).trans moved
  exact go ms [] names

theorem sortMembers_eq_of_perm {ms ns : List (String × Value)} (names : (ms.map Prod.fst).Nodup)
    (same : ms.Perm ns) : sortMembers ms = sortMembers ns := by
  have inOrder (ms : List (String × Value)) : (sortMembers ms).Pairwise (·.1 < ·.1) :=
    List.pairwise_map.1 (pairwise_sortMembers ms)
  have names' := ((same.map Prod.fst).nodup_iff).1 names
  refine List.Perm.eq_of_pairwise (fun m n _ _ before behind => ?_) (inOrder ms) (inOrder ns)
    (((sortMembers_perm names).trans same).trans (sortMembers_perm names').symm)
  exact absurd behind (String.lt_asymm before)

/-- Differs only in the order of members, in any number of objects at any depth. -/
inductive Rearranged : Value → Value → Prop
  | refl (v : Value) : Rearranged v v
  | symm {v w : Value} : Rearranged v w → Rearranged w v
  | trans {u v w : Value} : Rearranged u v → Rearranged v w → Rearranged u w
  | members {ms ns : List (String × Value)} : ms.Perm ns → Rearranged (.object ms) (.object ns)
  | item {v w : Value} (before behind : List Value) : Rearranged v w →
      Rearranged (.array (before ++ v :: behind)) (.array (before ++ w :: behind))
  | member {v w : Value} (name : String) (before behind : List (String × Value)) : Rearranged v w →
      Rearranged (.object (before ++ (name, v) :: behind)) (.object (before ++ (name, w) :: behind))

theorem Rearranged.distinct_iff {v w : Value} (same : Rearranged v w) : v.Distinct ↔ w.Distinct := by
  induction same with
  | refl => rfl
  | symm _ ih => exact ih.symm
  | trans _ _ ih ih' => exact ih.trans ih'
  | members perm =>
    rw [distinct_object_iff, distinct_object_iff, (perm.map Prod.fst).nodup_iff]
    simp only [perm.mem_iff]
  | item before behind _ ih =>
    simp only [distinct_array_iff, List.forall_mem_append, List.forall_mem_cons, ih]
  | member name before behind _ ih =>
    simp only [distinct_object_iff, List.map_append, List.map_cons, List.forall_mem_append,
      List.forall_mem_cons, ih]

theorem Rearranged.canonical_eq {v w : Value} (same : Rearranged v w) (distinct : v.Distinct) :
    v.canonical = w.canonical := by
  induction same with
  | refl => rfl
  | symm same ih => exact (ih (same.distinct_iff.2 distinct)).symm
  | trans first _ ih ih' => exact (ih distinct).trans (ih' (first.distinct_iff.1 distinct))
  | @members ms ns perm =>
    have names : ((canonicalMembers ms).map Prod.fst).Nodup := by
      rw [names_canonicalMembers]
      exact (distinct_object_iff.1 distinct).1
    rw [canonical, canonical, sortMembers_eq_of_perm names]
    rw [canonicalMembers_eq_map, canonicalMembers_eq_map]
    exact perm.map _
  | item before behind _ ih =>
    have inner := ih (distinct_array_iff.1 distinct _ (by simp))
    simp only [canonical, canonicalItems_eq_map, List.map_append, List.map_cons, inner]
  | member name before behind _ ih =>
    have inner := ih ((distinct_object_iff.1 distinct).2 (name, _) (by simp))
    simp only [canonical, canonicalMembers_eq_map, List.map_append, List.map_cons, inner]

mutual

theorem rearranged_canonical : (v : Value) → v.Distinct → Rearranged v v.canonical
  | .null, _ | .bool _, _ | .number _, _ | .string _, _ => .refl _
  | .array vs, distinct => rearranged_canonicalItems [] vs (distinct_array_iff.1 distinct)
  | .object ms, distinct => by
    obtain ⟨names, inner⟩ := distinct_object_iff.1 distinct
    rw [← names_canonicalMembers] at names
    exact (rearranged_canonicalMembers [] ms inner).trans (.members (sortMembers_perm names).symm)

theorem rearranged_canonicalItems (done : List Value) : (vs : List Value) →
    (∀ v ∈ vs, v.Distinct) → Rearranged (.array (done ++ vs)) (.array (done ++ canonicalItems vs))
  | [], _ => .refl _
  | v :: vs, distinct => by
    have first := rearranged_canonical v (distinct v (.head _))
    have others := rearranged_canonicalItems (done ++ [v.canonical]) vs fun w mem => distinct w (.tail _ mem)
    rw [List.append_assoc, List.append_assoc] at others
    exact (first.item done vs).trans others

theorem rearranged_canonicalMembers (done : List (String × Value)) : (ms : List (String × Value)) →
    (∀ m ∈ ms, m.2.Distinct) →
      Rearranged (.object (done ++ ms)) (.object (done ++ canonicalMembers ms))
  | [], _ => .refl _
  | (name, v) :: ms, distinct => by
    have first := rearranged_canonical v (distinct (name, v) (.head _))
    have others := rearranged_canonicalMembers (done ++ [(name, v.canonical)]) ms
      fun m mem => distinct m (.tail _ mem)
    rw [List.append_assoc, List.append_assoc] at others
    exact (first.member name done ms).trans others

end

theorem canonical_eq_iff {v w : Value} (distinct : v.Distinct) (distinct' : w.Distinct) :
    v.canonical = w.canonical ↔ Rearranged v w := by
  refine ⟨fun same => ?_, fun same => same.canonical_eq distinct⟩
  have last := (rearranged_canonical w distinct').symm
  rw [← same] at last
  exact (rearranged_canonical v distinct).trans last

end Herald.Json.Value
