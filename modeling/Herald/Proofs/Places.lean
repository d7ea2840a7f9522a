import Herald.Config.Layers
import Herald.Proofs.Text.Lowercase
import Herald.Proofs.Text.Pieces
import Mathlib.Data.List.Nodup
import Mathlib.Data.List.TakeWhile

/-!
What a layer of configuration puts where. A value stands at the top or in a table at the top, and there
are three ways to write it there: under its name, under its path, or in its table. A layer that gives no
place two values has put each of them into its place, in whatever order and in whatever way it did so.
-/
namespace Herald.Config

/-- A place for a value: at the top, or in a table at the top. -/
inductive Place where
  | top (name : String)
  | inside (table name : String)
deriving DecidableEq

/-- What stands there. A table has no place of its own at the top, and what is no table no places in it. -/
def Place.find? (tables : List String) : Place → Value → Option Value
  | .top name, root => if name ∈ tables then none else root.child? name
  | .inside table name, root =>
    if table ∈ tables then (root.child? table).bind (·.child? name) else none

def IsName (name : String) : Prop :=
  name ≠ "" ∧ name.toList.all isNameChar = true

instance (name : String) : Decidable (IsName name) :=
  inferInstanceAs (Decidable (_ ∧ _))

theorem IsName.of_mem {name : String} (known : IsName name) {c : Char} (mem : c ∈ name.toList) :
    isNameChar c = true :=
  List.all_eq_true.1 known.2 c mem

theorem basic_of_isNameChar {c : Char} (known : isNameChar c = true) : c.toNat < 0x80 := by
  have letter : c.isAlphanum = true → c.toNat < 0x80 := by
    delta Char.isAlphanum Char.isAlpha Char.isUpper Char.isLower Char.isDigit
    simp only [Bool.or_eq_true, Bool.and_eq_true, decide_eq_true_eq, ge_iff_le, UInt32.le_iff_toNat_le]
    rintro ((⟨_, high⟩ | ⟨_, high⟩) | ⟨_, high⟩) <;> exact Nat.lt_of_le_of_lt high (by decide)
  simp only [isNameChar, Bool.or_eq_true, decide_eq_true_eq] at known
  obtain ((alphanum | rfl) | rfl) | rfl := known
  · exact letter alphanum
  all_goals decide

theorem isNameChar_toLower {c : Char} : isNameChar c.toLower = isNameChar c := by
  by_cases basic : c.toNat < 0x80
  · exact Text.forall_ascii basic (by decide +kernel)
  · rw [Text.toLower_of_not_basic basic]

theorem part?_of_isNameChar {cs : List Char} (nonempty : cs ≠ []) (names : ∀ c ∈ cs, isNameChar c = true) :
    part? cs = some [.entry (Text.lower (String.ofList cs))] := by
  have front : cs.takeWhile isNameChar = cs := List.takeWhile_eq_self_iff.2 names
  have back : cs.dropWhile isNameChar = [] := List.dropWhile_eq_nil_iff.2 names
  simp [part?, List.span_eq_takeWhile_dropWhile, front, back, nonempty, Text.pieces]

theorem part?_eq_some {cs : List Char} (noBracket : ']' ∉ cs) {steps : List PathStep}
    (read : part? cs = some steps) : steps = [.entry (Text.lower (String.ofList cs))] := by
  have solid : ∀ c ∈ cs.dropWhile isNameChar, decide (c = ']') = false := fun c mem =>
    decide_eq_false fun same => noBracket (same ▸ (List.dropWhile_sublist _).subset mem)
  simp only [part?, List.span_eq_takeWhile_dropWhile, Text.pieces_of_solid solid, List.reverse_singleton] at read
  split at read
  · contradiction
  · split at read
    · next none =>
      obtain ⟨back, rfl⟩ := List.cons.inj none
      have front : cs.takeWhile isNameChar = cs := by
        have both := List.takeWhile_append_dropWhile (p := isNameChar) (l := cs)
        rwa [back, List.append_nil] at both
      rw [front] at read
      cases read
      rfl
    · contradiction

theorem pathOf_name {name : String} (noPoint : '.' ∉ name.toList) (noBracket : ']' ∉ name.toList) :
    pathOf name = [.entry (Text.lower name)] := by
  have whole : Text.pieces (· = '.') name.toList = [name.toList] :=
    Text.pieces_of_solid fun c mem => decide_eq_false fun same => noPoint (same ▸ mem)
  unfold pathOf
  rw [whole]
  cases read : part? name.toList with
  | none => simp [read]
  | some steps =>
    have same := part?_eq_some noBracket read
    rw [String.ofList_toList] at same
    simp [read, same]

theorem not_mem_of_lower {name n : String} (known : IsName n) (same : Text.lower name = n) {d : Char}
    (basic : d.toNat < 0x80) (fixed : Text.lowerChar d = d) (noName : isNameChar d = false) :
    d ∉ name.toList := by
  intro mem
  -- Lower-casing would have kept the sign, and in `n` there is none.
  have kept := Text.mem_lower basic fixed mem
  rw [same] at kept
  rw [known.of_mem kept] at noName
  contradiction

theorem pathOf_lower {name n : String} (known : IsName n) (same : Text.lower name = n) :
    pathOf name = [.entry n] := by
  have noPoint : '.' ∉ name.toList := not_mem_of_lower known same (by decide) (by decide +kernel) (by decide)
  have noBracket : ']' ∉ name.toList := not_mem_of_lower known same (by decide) (by decide +kernel) (by decide)
  rw [pathOf_name noPoint noBracket, same]

theorem lower_of_map_toLower {cs : List Char} {n : String} (known : IsName n)
    (same : cs.map Char.toLower = n.toList) : cs ≠ [] ∧ (∀ c ∈ cs, isNameChar c = true) ∧
      Text.lower (String.ofList cs) = n := by
  have names : ∀ c ∈ cs, isNameChar c = true := fun c mem => by
    rw [← isNameChar_toLower]
    exact known.of_mem (same ▸ List.mem_map_of_mem mem)
  refine ⟨?_, names, ?_⟩
  · rintro rfl
    exact known.1 (String.toList_eq_nil_iff.1 same.symm)
  · rw [Text.lower_of_basic (by simpa using fun c mem => basic_of_isNameChar (names c mem)), Text.lowerAscii,
      String.toList_ofList, same, String.ofList_toList]

theorem eq_point_of_toLower {c : Char} (same : c.toLower = '.') : c = '.' := by
  by_cases basic : c.toNat < 0x80
  · have only : c.toLower = '.' → c = '.' := Text.forall_ascii basic (by decide +kernel)
    exact only same
  · rwa [Text.toLower_of_not_basic basic] at same

theorem pathOf_path {name t n : String} (table : IsName t) (known : IsName n)
    (same : Text.lowerAscii name = t ++ "." ++ n) : pathOf name = [.entry t, .entry n] := by
  have chars : name.toList.map Char.toLower = t.toList ++ '.' :: n.toList := by
    rw [← String.toList_inj, Text.lowerAscii, String.toList_ofList] at same
    simpa using same
  obtain ⟨front, rest, cut, first, rest'⟩ := List.map_eq_append_iff.1 chars
  obtain ⟨c, back, rfl, point, second⟩ := List.map_eq_cons_iff.1 rest'
  obtain rfl := eq_point_of_toLower point
  obtain ⟨full, names, low⟩ := lower_of_map_toLower table first
  obtain ⟨full', names', low'⟩ := lower_of_map_toLower known second
  have noPoint {cs : List Char} (names : ∀ c ∈ cs, isNameChar c = true) :
      ∀ c ∈ cs, decide (c = '.') = false := fun c mem => decide_eq_false fun same => by
    have dot := names c mem
    rw [same] at dot
    contradiction
  have pieces : Text.pieces (· = '.') name.toList = [front, back] := by
    rw [cut, Text.pieces_append (noPoint names) (by decide), Text.pieces_of_solid (noPoint names')]
  unfold pathOf
  rw [pieces]
  simp [part?_of_isNameChar full names, part?_of_isNameChar full' names', low, low']

/-- What was put somewhere still stands there; only what a table holds may be spelled otherwise. -/
def Kept (v w : Value) : Prop :=
  w = v ∨ ∃ es fs, v = .table es ∧ w = .table fs

/-- The values are added at their places, and nothing happens anywhere else. -/
def Adds {κ : Type} (find : κ → Option Value) (ws : List (κ × Value)) (find' : κ → Option Value) : Prop :=
  ∀ p, (∀ v, (p, v) ∈ ws → ∃ w, find' p = some w ∧ Kept v w) ∧ ((∀ v, (p, v) ∉ ws) → find' p = find p)

theorem Adds.nil {κ : Type} (find : κ → Option Value) : Adds find [] find :=
  fun _ => ⟨nofun, fun _ => rfl⟩

section

variable {κ : Type} {find find' find'' : κ → Option Value} {ws us : List (κ × Value)}

theorem Adds.elsewhere (adds : Adds find ws find') {p : κ} (other : p ∉ ws.map Prod.fst) :
    find' p = find p :=
  (adds p).2 fun _ mem => other (List.mem_map_of_mem mem)

theorem Adds.of_some (adds : Adds (fun _ => none) ws find') {p : κ} {w : Value} (there : find' p = some w) :
    ∃ v, (p, v) ∈ ws ∧ Kept v w := by
  obtain ⟨v, mem⟩ : ∃ v, (p, v) ∈ ws := by
    by_contra none
    rw [(adds p).2 fun v mem => none ⟨v, mem⟩] at there
    contradiction
  obtain ⟨_, same, kept⟩ := (adds p).1 v mem
  rw [same] at there
  cases there
  exact ⟨v, mem, kept⟩

theorem Adds.append (first : Adds find ws find') (second : Adds find' us find'')
    (apart : (ws.map Prod.fst).Disjoint (us.map Prod.fst)) : Adds find (ws ++ us) find'' := by
  intro p
  refine ⟨fun v mem => ?_, fun absent => ?_⟩
  · obtain here | there := List.mem_append.1 mem
    · rw [second.elsewhere (apart (List.mem_map_of_mem here))]
      exact (first p).1 v here
    · exact (second p).1 v there
  · have front : ∀ v, (p, v) ∉ ws := fun v mem => absent v (List.mem_append_left _ mem)
    have back : ∀ v, (p, v) ∉ us := fun v mem => absent v (List.mem_append_right _ mem)
    rw [(second p).2 back, (first p).2 front]

end

namespace Value

theorem merge_table (es fs : List (String × Value)) : ∃ gs, merge es (.table fs) = .table gs := by
  induction es generalizing fs with
  | nil => exact ⟨fs, by rw [merge]⟩
  | cons e es ih =>
    obtain ⟨name, v⟩ := e
    rw [merge]
    cases v <;> exact ih _

theorem exists_lay (name : String) (v : Value) {root : Value} (fresh : root.child? name = none) :
    ∃ w, Kept v w ∧ lay name v root = root.withEntry name w := by
  cases v with
  | table es =>
    obtain ⟨gs, same⟩ := merge_table es []
    refine ⟨.table gs, .inr ⟨es, gs, rfl, rfl⟩, ?_⟩
    rw [lay, fresh, Option.getD_none, same]
  | _ => exact ⟨_, .inl rfl, rfl⟩

theorem adds_lay (name : String) (v : Value) {root : Value} (fresh : root.child? name = none) :
    Adds (root.child? ·) [(name, v)] ((lay name v root).child? ·) := by
  obtain ⟨w, kept, same⟩ := exists_lay name v fresh
  intro p
  simp only [same, child?_withEntry, List.mem_singleton, Prod.mk.injEq]
  refine ⟨?_, fun absent => ?_⟩
  · rintro v' ⟨rfl, rfl⟩
    exact ⟨w, if_pos rfl, kept⟩
  · exact if_neg fun here => absent v ⟨here, rfl⟩

def lowered (es : List (String × Value)) : List (String × Value) :=
  es.map fun e => (Text.lower e.1, e.2)

theorem adds_merge {es : List (String × Value)} : ∀ {root : Value}, ((lowered es).map Prod.fst).Nodup →
    (∀ n ∈ (lowered es).map Prod.fst, root.child? n = none) →
    Adds (root.child? ·) (lowered es) ((merge es root).child? ·) := by
  induction es with
  | nil =>
    intro root _ _
    rw [merge]
    exact .nil _
  | cons e es ih =>
    intro root nodup fresh
    obtain ⟨name, v⟩ := e
    obtain ⟨new, nodup⟩ := List.nodup_cons.1 nodup
    have first := adds_lay (Text.lower name) v (fresh _ (.head _))
    have apart : [Text.lower name].Disjoint ((lowered es).map Prod.fst) :=
      List.singleton_disjoint.2 new
    rw [merge]
    refine first.append (ih nodup fun n mem => ?_) apart
    exact (first.elsewhere fun here => apart here mem).trans (fresh n (.tail _ mem))

end Value

/-- The values that an entry at the top of a layer puts at places, in whichever way it is written. Paths are
written in ASCII. -/
inductive Writes (tables : List String) : String × Value → List (Place × Value) → Prop
  | top {name n : String} {v : Value} : IsName n → n ∉ tables → Text.lower name = n →
      Writes tables (name, v) [(.top n, v)]
  | path {name t n : String} {v : Value} : IsName t → IsName n → t ∈ tables →
      Text.lowerAscii name = t ++ "." ++ n → Writes tables (name, v) [(.inside t n, v)]
  | table {name t : String} {es : List (String × Value)} : IsName t → t ∈ tables → Text.lower name = t →
      Writes tables (name, .table es) ((Value.lowered es).map fun e => (.inside t e.1, e.2))

inductive WritesAll (tables : List String) : List (String × Value) → List (Place × Value) → Prop
  | nil : WritesAll tables [] []
  | cons {e : String × Value} {layer : List (String × Value)} {ws us : List (Place × Value)} :
      Writes tables e ws → WritesAll tables layer us → WritesAll tables (e :: layer) (ws ++ us)

variable {tables : List String}

theorem adds_top {n : String} (other : n ∉ tables) {root new v : Value}
    (adds : Adds (root.child? ·) [(n, v)] (new.child? ·)) :
    Adds (Place.find? tables · root) [(.top n, v)] (Place.find? tables · new) := by
  intro p
  cases p with
  | top m =>
    by_cases known : m ∈ tables
    · have ne : m ≠ n := fun same => other (same ▸ known)
      simp [Place.find?, known, ne]
    · simpa [Place.find?, known] using adds m
  | inside t m =>
    refine ⟨by simp, fun _ => ?_⟩
    by_cases known : t ∈ tables
    · have ne : t ∉ [n] := fun here => other (List.mem_singleton.1 here ▸ known)
      simp only [Place.find?, adds.elsewhere ne]
    · simp only [Place.find?, if_neg known]

theorem adds_inside {t : String} (mem : t ∈ tables) {root new : Value} {es : List (String × Value)}
    (adds : Adds (fun n => (root.child? t).bind (·.child? n)) es (new.child? ·)) :
    Adds (Place.find? tables · root) (es.map fun e => (.inside t e.1, e.2))
      (Place.find? tables · (root.withEntry t new)) := by
  intro p
  cases p with
  | top n =>
    refine ⟨by simp, fun _ => ?_⟩
    by_cases known : n ∈ tables
    · simp only [Place.find?, if_pos known]
    · have other : n ≠ t := fun same => known (same ▸ mem)
      simp only [Place.find?, Value.child?_withEntry, if_neg other]
  | inside t' n =>
    by_cases same : t' = t
    · subst same
      have written (v : Value) : (Place.inside t' n, v) ∈ es.map (fun e => (Place.inside t' e.1, e.2)) ↔
          (n, v) ∈ es := by simp
      simp only [Place.find?, if_pos mem, Value.child?_withEntry, if_true, Option.bind_some, written]
      exact adds n
    · refine ⟨by simp [Ne.symm same], fun _ => ?_⟩
      simp only [Place.find?, Value.child?_withEntry, if_neg same]

theorem child?_getD (found : Option Value) (blank : Value) (none : ∀ n, blank.child? n = none) :
    ((found.getD blank).child? ·) = fun n => found.bind (·.child? n) := by
  funext n
  cases found with
  | none => exact none n
  | some v => rfl

theorem adds_layAt {e : String × Value} {ws : List (Place × Value)} {root : Value}
    (writes : Writes tables e ws) (nodup : (ws.map Prod.fst).Nodup)
    (fresh : ∀ p ∈ ws.map Prod.fst, p.find? tables root = none) : ∃ root',
      Value.layAt (pathOf e.1) e.2 root = .ok root' ∧
        Adds (Place.find? tables · root) ws (Place.find? tables · root') := by
  cases writes with
  | @top name n v known other same =>
    have free : root.child? n = none := by simpa [Place.find?, other] using fresh _ (.head _)
    exact ⟨_, by rw [pathOf_lower known same]; rfl, adds_top other (Value.adds_lay n v free)⟩
  | @path name t n v table known mem same =>
    have free : (root.child? t).bind (·.child? n) = none := by
      simpa [Place.find?, mem] using fresh _ (.head _)
    -- The table need not be there yet; in what is put into its place nothing is found either.
    have old := child?_getD (root.child? t) .null fun _ => rfl
    have adds : Adds (fun m => (root.child? t).bind (·.child? m)) [(n, v)]
        ((Value.lay n v ((root.child? t).getD .null)).child? ·) := by
      rw [← old]
      exact Value.adds_lay n v ((congrFun old n).trans free)
    exact ⟨_, by rw [pathOf_path table known same]; rfl, adds_inside mem adds⟩
  | @table name t es known mem same =>
    have old := child?_getD (root.child? t) (.table []) fun _ => rfl
    have places : ((Value.lowered es).map fun e => (Place.inside t e.1, e.2)).map Prod.fst =
        ((Value.lowered es).map Prod.fst).map (Place.inside t) := by
      simp only [List.map_map, Function.comp_def]
    rw [places] at nodup fresh
    have adds : Adds (fun n => (root.child? t).bind (·.child? n)) (Value.lowered es)
        ((Value.merge es ((root.child? t).getD (.table []))).child? ·) := by
      rw [← old]
      refine Value.adds_merge nodup.of_map fun n here => (congrFun old n).trans ?_
      simpa [Place.find?, mem] using fresh _ (List.mem_map_of_mem here)
    refine ⟨_, by rw [pathOf_lower known same]; rfl, ?_⟩
    rw [Value.lay]
    exact adds_inside mem adds

theorem adds_layOver {layer : List (String × Value)} {ws : List (Place × Value)}
    (writes : WritesAll tables layer ws) : ∀ {root : Value}, (ws.map Prod.fst).Nodup →
      (∀ p ∈ ws.map Prod.fst, p.find? tables root = none) → ∃ root', layOver root layer = .ok root' ∧
        Adds (Place.find? tables · root) ws (Place.find? tables · root') := by
  induction writes with
  | nil => exact fun {root} _ _ => ⟨root, rfl, .nil _⟩
  | @cons e layer ws us here _ ih =>
    intro root nodup fresh
    rw [List.map_append] at nodup fresh
    obtain ⟨front, back, apart⟩ := List.nodup_append'.1 nodup
    obtain ⟨middle, laid, first⟩ := adds_layAt here front fun p mem => fresh p (List.mem_append_left _ mem)
    obtain ⟨root', more, second⟩ := ih back fun p mem =>
      (first.elsewhere fun here => apart here mem).trans (fresh p (List.mem_append_right _ mem))
    refine ⟨root', ?_, first.append second apart⟩
    rw [layOver, List.foldlM_cons, laid]
    exact more

/-- A single layer fills the places that it gives values, and no others. -/
theorem adds_ofLayers {layer : List (String × Value)} {ws : List (Place × Value)}
    (writes : WritesAll tables layer ws) (nodup : (ws.map Prod.fst).Nodup) :
    ∃ root, ofLayers [layer] = .ok root ∧ Adds (fun _ => none) ws (Place.find? tables · root) := by
  have free : (Place.find? tables · (.table [])) = fun _ => none := by
    funext p
    cases p with
    | top n => exact ite_self _
    | inside t n => exact ite_self _
  obtain ⟨root, laid, adds⟩ := adds_layOver writes nodup fun p _ => congrFun free p
  rw [free] at adds
  refine ⟨root, ?_, adds⟩
  rw [ofLayers, List.foldlM_cons, laid]
  rfl

end Herald.Config
