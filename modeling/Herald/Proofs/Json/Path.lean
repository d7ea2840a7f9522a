import Herald.Json.Canonical
import Herald.Proofs.Json.Record

/-!
Paths through values. A step of a path goes to an item by its place or to a member by its name, and of
the members of one name to the last. The canonical form of a value has the same paths, and at the end
of each what is in canonical form there; so it has the same leaves.
-/
namespace Herald.Json

namespace Value

inductive Step where
  | item (place : Nat)
  | member (name : String)
deriving DecidableEq

def step? : Value → Step → Option Value
  | .array vs, .item place => vs[place]?
  | .object ms, .member name => (valuesOf name ms).getLast?
  | _, _ => none

def at? (v : Value) : List Step → Option Value
  | [] => some v
  | s :: path => (v.step? s).bind (·.at? path)

/-- A value that no step leads out of. -/
def leaf? : Value → Option Value
  | .array (_ :: _) | .object (_ :: _) => none
  | v => some v

def leafAt? (v : Value) (path : List Step) : Option Value :=
  (v.at? path).bind leaf?

theorem valuesOf_canonicalMembers (name : String) (ms : List (String × Value)) :
    valuesOf name (canonicalMembers ms) = (valuesOf name ms).map canonical := by
  induction ms with
  | nil => rfl
  | cons m ms ih =>
    obtain ⟨n, v⟩ := m
    rw [canonicalMembers, valuesOf, valuesOf, ih, apply_ite (List.map canonical), List.map_cons]

theorem valuesOf_insertMember_of_ne {name other : String} (ne : other ≠ name) (v : Value)
    (ms : List (String × Value)) : valuesOf name (insertMember other v ms) = valuesOf name ms := by
  induction ms with
  | nil => exact valuesOf_cons_of_ne ne v []
  | cons m ms ih =>
    obtain ⟨k, w⟩ := m
    unfold insertMember
    split_ifs with before same
    · exact valuesOf_cons_of_ne ne v _
    · rw [valuesOf_cons_of_ne ne, valuesOf_cons_of_ne (same ▸ ne)]
    · rw [valuesOf, valuesOf, ih]

theorem valuesOf_insertMember_self (name : String) (v : Value) {ms : List (String × Value)}
    (sorted : (ms.map Prod.fst).Pairwise (· < ·)) : valuesOf name (insertMember name v ms) = [v] := by
  induction ms with
  | nil => exact valuesOf_cons_self name v []
  | cons m ms ih =>
    obtain ⟨k, w⟩ := m
    rw [List.map_cons, List.pairwise_cons] at sorted
    unfold insertMember
    split_ifs with before same
    · rw [valuesOf_cons_self, valuesOf_eq_nil_iff.2]
      rw [List.map_cons, List.mem_cons, not_or]
      exact ⟨String.ne_of_lt before, fun later => String.lt_asymm before (sorted.1 _ later)⟩
    · subst same
      rw [valuesOf_cons_self, valuesOf_eq_nil_iff.2]
      exact fun later => String.lt_irrefl name (sorted.1 _ later)
    · rw [valuesOf_cons_of_ne (Ne.symm same), ih sorted.2]

theorem valuesOf_sortMembers (name : String) (ms : List (String × Value)) :
    valuesOf name (sortMembers ms) = (valuesOf name ms).getLast?.toList := by
  have go (ms sorted : List (String × Value)) (inOrder : (sorted.map Prod.fst).Pairwise (· < ·)) :
      valuesOf name (ms.foldl (fun sorted m => insertMember m.1 m.2 sorted) sorted) =
        ((valuesOf name ms).getLast?.map ([·])).getD (valuesOf name sorted) := by
    induction ms generalizing sorted with
    | nil => rfl
    | cons m ms ih =>
      obtain ⟨n, v⟩ := m
      rw [List.foldl_cons, ih _ (pairwise_insertMember n v inOrder)]
      by_cases same : n = name
      · subst same
        rw [valuesOf_cons_self, valuesOf_insertMember_self n v inOrder, List.getLast?_cons]
        cases (valuesOf n ms).getLast? with
        | none => rfl
        | some _ => rfl
      · rw [valuesOf_cons_of_ne same, valuesOf_insertMember_of_ne same]
  rw [sortMembers, go ms [] .nil]
  cases (valuesOf name ms).getLast? with
  | none => rfl
  | some _ => rfl

theorem step?_canonical (v : Value) (s : Step) : v.canonical.step? s = (v.step? s).map canonical := by
  cases v with
  | array vs =>
    cases s with
    | item place => rw [canonical, step?, step?, canonicalItems_eq_map, List.getElem?_map]
    | member => rfl
  | object ms =>
    cases s with
    | item => rfl
    | member name =>
      rw [canonical, step?, step?, valuesOf_sortMembers, valuesOf_canonicalMembers, List.getLast?_map]
      cases (valuesOf name ms).getLast? with
      | none => rfl
      | some _ => rfl
  | _ => rfl

theorem at?_canonical (path : List Step) (v : Value) :
    v.canonical.at? path = (v.at? path).map canonical := by
  induction path generalizing v with
  | nil => rfl
  | cons s path ih =>
    rw [at?, at?, step?_canonical]
    cases v.step? s with
    | none => rfl
    | some w => exact ih w

theorem leaf?_canonical (v : Value) : v.canonical.leaf? = v.leaf? := by
  cases v with
  | array vs => cases vs <;> rfl
  | object ms =>
    cases ms with
    | nil => rfl
    | cons m ms =>
      -- the canonical form still has a member of the first name
      have kept := step?_canonical (.object (m :: ms)) (.member m.1)
      rw [step?, valuesOf_cons_self, List.getLast?_cons, Option.map_some, canonical] at kept
      rw [canonical]
      cases sorted : sortMembers (canonicalMembers (m :: ms)) with
      | nil =>
        rw [sorted] at kept
        contradiction
      | cons => rfl
  | _ => rfl

theorem leafAt?_canonical (v : Value) (path : List Step) : v.canonical.leafAt? path = v.leafAt? path := by
  rw [leafAt?, leafAt?, at?_canonical]
  cases v.at? path with
  | none => rfl
  | some w => exact w.leaf?_canonical

end Value

end Herald.Json
