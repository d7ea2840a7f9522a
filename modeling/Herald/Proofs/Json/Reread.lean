import Herald.Proofs.Json.Printed

/-!
Printed values read again. Only numbers may come back as other numbers: what a printed value is read
as has its shape, its strings and its names, and the reading ends where the print does. So a value
comes back as it was exactly when each of its numbers does.
-/
namespace Herald.Json

open Text (encode)

mutual

/-- The value with each number read again from its text. -/
inductive Rereads : Value → Value → Prop
  | null : Rereads .null .null
  | bool (b : Bool) : Rereads (.bool b) (.bool b)
  | number {n : Number} {w : Value} : parse n.print = .ok w → Rereads (.number n) w
  | string (s : String) : Rereads (.string s) (.string s)
  | array {vs ws : List Value} : RereadsItems vs ws → Rereads (.array vs) (.array ws)
  | object {ms ns : List (String × Value)} : RereadsMembers ms ns → Rereads (.object ms) (.object ns)

inductive RereadsItems : List Value → List Value → Prop
  | nil : RereadsItems [] []
  | cons {v w : Value} {vs ws : List Value} : Rereads v w → RereadsItems vs ws →
      RereadsItems (v :: vs) (w :: ws)

inductive RereadsMembers : List (String × Value) → List (String × Value) → Prop
  | nil : RereadsMembers [] []
  | cons {name : String} {v w : Value} {ms ns : List (String × Value)} : Rereads v w →
      RereadsMembers ms ns → RereadsMembers ((name, v) :: ms) ((name, w) :: ns)

end

theorem continuesNumeral_of_stops {u : List UInt8} (stops : Stops u) : continuesNumeral u = false := by
  cases u with
  | nil => rfl
  | cons b rest =>
    have other := stops b rest rfl
    simp only [isNumeralByte, Bool.or_eq_false_iff] at other
    simp [continuesNumeral, other]

theorem Denotes.unique {t u u' : List UInt8} {v w : Value} (h : Denotes [] t v u)
    (h' : Denotes [] t w u') (stops : Stops u) (stops' : Stops u') : v = w ∧ u = u' := by
  have read := value_complete h (max v.depth w.depth) (Nat.le_max_left _ _)
    (continuesNumeral_of_stops stops) t .nil
  have read' := value_complete h' (max v.depth w.depth) (Nat.le_max_right _ _)
    (continuesNumeral_of_stops stops') t .nil
  rw [read] at read'
  simpa using read'

theorem parse_of_denotes {t : List UInt8} {v : Value} (h : Denotes [] t v []) (flat : v.depth = 0) :
    parse t = .ok v :=
  parse_eq_ok_iff.2 ⟨⟨t, [], .nil, h, .nil⟩, by rw [flat]; exact Nat.zero_le _⟩

theorem parse_of_number_print {n : Number} {u u' : List UInt8} {w : Value} (stops : Stops u)
    (stops' : Stops u') (h : Denotes [] (n.print ++ u) w u') :
    parse n.print = .ok w ∧ u' = u ∧ w.depth = 0 := by
  obtain null | ⟨ne, numeral⟩ := number_print n
  · rw [null] at h ⊢
    obtain ⟨rfl, rfl⟩ := h.unique .null stops' stops
    exact ⟨parse_of_denotes .null rfl, rfl, rfl⟩
  · cases print : n.print with
    | nil => exact absurd print ne
    | cons b rest =>
      rw [print] at h numeral
      obtain ⟨x, m, e, number, rfl⟩ := of_denotes_numeral h (numeral b (by simp))
      have same := numeral_unique numeral (isNumeralByte_of_mem_text x) stops stops' e
      subst same
      have text : b :: rest = x.text := List.append_cancel_right e
      have alone : Denotes [] (x.text ++ []) (.number m) [] := .number number
      rw [List.append_nil, ← text] at alone
      exact ⟨parse_of_denotes alone rfl, rfl, rfl⟩

theorem denotes_of_spells_print {v w : Value} (spells : Spells [] v.print w) :
    ∃ u, Denotes [] (v.print ++ []) w u ∧ Stops u := by
  obtain ⟨t₁, t₂, before, value, behind⟩ := spells
  rw [← List.append_nil v.print] at before
  cases blanks_print before
  exact ⟨t₂, value, stops_of_blanks behind stops_nil⟩

theorem denotes_of_parse_print {v w : Value} (read : parse v.print = .ok w) :
    ∃ u, Denotes [] (v.print ++ []) w u ∧ Stops u :=
  denotes_of_spells_print (parse_eq_ok_iff.1 read).1

theorem denotes_number_print {n : Number} {w : Value} (read : parse n.print = .ok w)
    (u : List UInt8) : Denotes [] (n.print ++ u) w u := by
  have print : (Value.number n).print = n.print := by rw [Value.print]
  obtain ⟨t, denotes, stops⟩ := denotes_of_parse_print (print ▸ read)
  rw [print] at denotes
  obtain ⟨_, rfl, _⟩ := parse_of_number_print stops_nil stops denotes
  obtain null | ⟨ne, numeral⟩ := number_print n
  · rw [null] at denotes ⊢
    obtain ⟨rfl, _⟩ := denotes.unique .null stops_nil stops_nil
    exact .null
  · cases e : n.print with
    | nil => exact absurd e ne
    | cons b rest =>
      rw [e, List.append_nil] at denotes
      rw [e] at numeral
      obtain ⟨x, m, text, number, rfl⟩ := of_denotes_numeral denotes (numeral b (by simp))
      rw [text, List.append_nil]
      exact .number number

mutual

theorem rereads_of_print : (v : Value) → ∀ {u w u'}, Stops u → Stops u' →
    Denotes [] (v.print ++ u) w u' → Rereads v w ∧ u' = u
  | .null, u, w, u', stops, stops', h => by
    obtain ⟨rfl, rfl⟩ := h.unique .null stops' stops
    exact ⟨.null, rfl⟩
  | .bool true, u, w, u', stops, stops', h => by
    obtain ⟨rfl, rfl⟩ := h.unique .true stops' stops
    exact ⟨.bool true, rfl⟩
  | .bool false, u, w, u', stops, stops', h => by
    obtain ⟨rfl, rfl⟩ := h.unique .false stops' stops
    exact ⟨.bool false, rfl⟩
  | .number n, u, w, u', stops, stops', h => by
    rw [Value.print] at h
    obtain ⟨read, e, _⟩ := parse_of_number_print stops stops' h
    exact ⟨.number read, e⟩
  | .string s, u, w, u', stops, stops', h => by
    rw [Value.print, printString_append] at h
    have whole : Denotes [] _ (.string s) u :=
      .string (stringText_escaped (encode s) u) (Text.decode?_encode s)
    obtain ⟨rfl, rfl⟩ := h.unique whole stops' stops
    exact ⟨.string s, rfl⟩
  | .array vs, u, w, u', _, _, h => by
    rw [print_array_append] at h
    obtain ⟨close, rfl⟩ | ⟨ws, items, rfl⟩ := of_denotes_bracket h
    · -- Only blanks stand between the brackets, and no print starts with one.
      cases vs with
      | nil =>
        cases blanks_eq close rfl
        exact ⟨.array .nil, rfl⟩
      | cons v vs =>
        rw [Value.printItems, commaSeparated_cons] at close
        obtain ⟨b, rest, e, _, other⟩ := print_head v (afterComma 0x5D (Value.printItems vs) u)
        rw [← blanks_print close] at e
        cases e
        contradiction
    · obtain ⟨reads, e⟩ := rereadsItems_of_print vs items
      exact ⟨.array reads, e⟩
  | .object ms, u, w, u', _, _, h => by
    rw [print_object_append] at h
    obtain ⟨close, rfl⟩ | ⟨ns, members, rfl⟩ := of_denotes_brace h
    · cases ms with
      | nil =>
        cases blanks_eq close rfl
        exact ⟨.object .nil, rfl⟩
      | cons m ms =>
        rw [Value.printMembers, commaSeparated_cons, List.append_assoc, printString_append] at close
        cases blanks_eq close rfl
    · obtain ⟨reads, e⟩ := rereadsMembers_of_print ms members
      exact ⟨.object reads, e⟩

theorem rereadsItems_of_print : (vs : List Value) → ∀ {u ws u'},
    DenotesItems [] (commaSeparated (Value.printItems vs) ++ 0x5D :: u) ws u' →
    RereadsItems vs ws ∧ u' = u
  | [], u, ws, u', h => by
    obtain ⟨t₁, t₂, w, lead, value, _⟩ := of_denotesItems h
    cases blanks_eq lead rfl
    obtain ⟨b, rest, e, _, other⟩ := denotes_head value
    cases e
    contradiction
  | v :: vs, u, ws, u', h => by
    rw [Value.printItems, commaSeparated_cons] at h
    obtain ⟨t₁, t₂, w, lead, value, ⟨rfl, close⟩ | ⟨t₃, more, rfl, comma, items⟩⟩ := of_denotesItems h
    · cases blanks_print lead
      obtain ⟨first, rfl⟩ := rereads_of_print v (stops_afterComma rfl _ u)
        (stops_of_blanks close (stops_cons rfl u')) value
      obtain ⟨last, e⟩ := of_blanks_close close rfl (by decide)
      cases vs with
      | nil => exact ⟨.cons first .nil, e⟩
      | cons v' vs => simp [Value.printItems] at last
    · cases blanks_print lead
      obtain ⟨first, rfl⟩ := rereads_of_print v (stops_afterComma rfl _ u)
        (stops_of_blanks comma (stops_cons rfl t₃)) value
      cases of_blanks_comma comma rfl (by decide)
      obtain ⟨others, e⟩ := rereadsItems_of_print vs items
      exact ⟨.cons first others, e⟩

theorem rereadsMembers_of_print : (ms : List (String × Value)) → ∀ {u ns u'},
    DenotesMembers [] (commaSeparated (Value.printMembers ms) ++ 0x7D :: u) ns u' →
    RereadsMembers ms ns ∧ u' = u
  | [], u, ns, u', h => by
    obtain ⟨_, _, _, name, v, ⟨before, _, _, _⟩, _⟩ := of_denotesMembers h
    cases blanks_eq before rfl
  | (name, v) :: ms, u, ns, u', h => by
    rw [Value.printMembers, commaSeparated_cons, List.append_assoc, List.cons_append] at h
    obtain ⟨t₀, t₁, t₂, n, w, named, lead, value,
      ⟨rfl, close⟩ | ⟨t₃, more, rfl, comma, members⟩⟩ := of_denotesMembers h
    · obtain ⟨rfl, rfl⟩ := of_nameText_print named
      cases blanks_print lead
      obtain ⟨first, rfl⟩ := rereads_of_print v (stops_afterComma rfl _ u)
        (stops_of_blanks close (stops_cons rfl u')) value
      obtain ⟨last, e⟩ := of_blanks_close close rfl (by decide)
      cases ms with
      | nil => exact ⟨.cons first .nil, e⟩
      | cons m ms => simp [Value.printMembers] at last
    · obtain ⟨rfl, rfl⟩ := of_nameText_print named
      cases blanks_print lead
      obtain ⟨first, rfl⟩ := rereads_of_print v (stops_afterComma rfl _ u)
        (stops_of_blanks comma (stops_cons rfl t₃)) value
      cases of_blanks_comma comma rfl (by decide)
      obtain ⟨others, e⟩ := rereadsMembers_of_print ms members
      exact ⟨.cons first others, e⟩

end

theorem nameText_print (name : String) (u : List UInt8) :
    NameText (printString name ++ 0x3A :: u) name u := by
  rw [printString_append]
  exact .mk .nil (stringText_escaped (encode name) _) (Text.decode?_encode name) .nil

mutual

theorem denotes_print : {v w : Value} → Rereads v w → ∀ u, Denotes [] (v.print ++ u) w u
  | _, _, .null, u => .null
  | _, _, .bool true, u => .true
  | _, _, .bool false, u => .false
  | _, _, .number read, u => by
    rw [Value.print]
    exact denotes_number_print read u
  | _, _, .string s, u => by
    rw [Value.print, printString_append]
    exact .string (stringText_escaped (encode s) u) (Text.decode?_encode s)
  | _, _, .array items, u => by
    rw [print_array_append]
    exact denotes_items_print items u
  | _, _, .object members, u => by
    rw [print_object_append]
    exact denotes_members_print members u

theorem denotes_items_print : {vs ws : List Value} → RereadsItems vs ws → ∀ u,
    Denotes [] (0x5B :: (commaSeparated (Value.printItems vs) ++ 0x5D :: u)) (.array ws) u
  | _, _, .nil, u => .emptyList .nil
  | _, _, .cons first others, u => by
    rw [Value.printItems, commaSeparated_cons]
    exact .list (denotesItems_behind others u (denotes_print first _))

-- The grammar has no empty rest of a list: the induction is on the items behind a value.
theorem denotesItems_behind : {vs ws : List Value} → RereadsItems vs ws → ∀ u {t w},
    Denotes [] t w (afterComma 0x5D (Value.printItems vs) u) → DenotesItems [] t (w :: ws) u
  | _, _, .nil, u, t, w, h => .last .nil h .nil
  | _, _, .cons first others, u, t, w, h => by
    refine .next .nil h .nil ?_
    rw [Value.printItems, commaSeparated_cons]
    exact denotesItems_behind others u (denotes_print first _)

theorem denotes_members_print : {ms ns : List (String × Value)} → RereadsMembers ms ns → ∀ u,
    Denotes [] (0x7B :: (commaSeparated (Value.printMembers ms) ++ 0x7D :: u)) (.object ns) u
  | _, _, .nil, u => .emptyObject .nil
  | _, _, @RereadsMembers.cons name _ _ _ _ first others, u => by
    rw [Value.printMembers, commaSeparated_cons, List.append_assoc]
    exact .object (denotesMembers_behind others u (nameText_print name _) (denotes_print first _))

theorem denotesMembers_behind : {ms ns : List (String × Value)} → RereadsMembers ms ns →
    ∀ u {t t' name w}, NameText t name t' →
    Denotes [] t' w (afterComma 0x7D (Value.printMembers ms) u) →
    DenotesMembers [] t ((name, w) :: ns) u
  | _, _, .nil, u, t, t', name, w, named, h => .last named .nil h .nil
  | _, _, @RereadsMembers.cons next _ _ _ _ first others, u, t, t', name, w, named, h => by
    refine .next named .nil h .nil ?_
    rw [Value.printMembers, commaSeparated_cons, List.append_assoc]
    exact denotesMembers_behind others u (nameText_print next _) (denotes_print first _)

end

theorem rereads_of_spells {v w : Value} (spells : Spells [] v.print w) : Rereads v w := by
  obtain ⟨u, denotes, stops⟩ := denotes_of_spells_print spells
  exact (rereads_of_print v stops_nil stops denotes).1

theorem rereads_of_parse {v w : Value} (read : parse v.print = .ok w) : Rereads v w :=
  rereads_of_spells (parse_eq_ok_iff.1 read).1

mutual

theorem Rereads.depth : {v w : Value} → Rereads v w → w.depth = v.depth
  | _, _, .null | _, _, .bool _ | _, _, .string _ => rfl
  | .number n, w, .number read => by
    have print : (Value.number n).print = n.print := by rw [Value.print]
    obtain ⟨u, denotes, stops⟩ := denotes_of_parse_print (print ▸ read)
    rw [print] at denotes
    exact (parse_of_number_print stops_nil stops denotes).2.2
  | _, _, .array items => congrArg (· + 1) items.depth
  | _, _, .object members => congrArg (· + 1) members.depth

theorem RereadsItems.depth : {vs ws : List Value} → RereadsItems vs ws →
    Value.depthItems ws = Value.depthItems vs
  | _, _, .nil => rfl
  | _, _, .cons first others => by rw [Value.depthItems, Value.depthItems, first.depth, others.depth]

theorem RereadsMembers.depth : {ms ns : List (String × Value)} → RereadsMembers ms ns →
    Value.depthMembers ns = Value.depthMembers ms
  | _, _, .nil => rfl
  | _, _, .cons first others => by
    rw [Value.depthMembers, Value.depthMembers, first.depth, others.depth]

end

theorem RereadsMembers.names : {ms ns : List (String × Value)} → RereadsMembers ms ns →
    ns.map Prod.fst = ms.map Prod.fst
  | _, _, .nil => rfl
  | _, _, .cons _ others => by rw [List.map_cons, List.map_cons, others.names]

theorem ordered_of_flat {v : Value} (flat : v.depth = 0) : v.Ordered := by
  cases v with
  | array vs => contradiction
  | object ms => contradiction
  | _ => trivial

mutual

theorem Rereads.ordered : {v w : Value} → Rereads v w → v.Ordered → w.Ordered
  | _, _, .null, h | _, _, .bool _, h | _, _, .string _, h => h
  | _, _, .number read, _ => ordered_of_flat (Rereads.number read).depth
  | _, _, .array items, h => items.ordered h
  | _, _, .object members, h => by
    refine ⟨?_, members.ordered h.2⟩
    rw [members.names]
    exact h.1

theorem RereadsItems.ordered : {vs ws : List Value} → RereadsItems vs ws →
    Value.OrderedItems vs → Value.OrderedItems ws
  | _, _, .nil, h => h
  | _, _, .cons first others, h => ⟨first.ordered h.1, others.ordered h.2⟩

theorem RereadsMembers.ordered : {ms ns : List (String × Value)} → RereadsMembers ms ns →
    Value.OrderedMembers ms → Value.OrderedMembers ns
  | _, _, .nil, h => h
  | _, _, .cons first others, h => ⟨first.ordered h.1, others.ordered h.2⟩

end

/-- Within the nesting limit a printed value is read, and as nothing else. -/
theorem parse_print_iff {v w : Value} (shallow : v.depth ≤ maxDepth) :
    parse v.print = .ok w ↔ Rereads v w := by
  refine ⟨rereads_of_parse, ?_⟩
  intro reads
  have denotes := denotes_print reads []
  rw [List.append_nil] at denotes
  refine parse_eq_ok_iff.2 ⟨⟨v.print, [], .nil, denotes, .nil⟩, ?_⟩
  rw [reads.depth]
  exact shallow

namespace Value

mutual

def Distinct : Value → Prop
  | .array vs => DistinctItems vs
  | .object ms => (ms.map Prod.fst).Nodup ∧ DistinctMembers ms
  | _ => True

def DistinctItems : List Value → Prop
  | [] => True
  | v :: rest => v.Distinct ∧ DistinctItems rest

def DistinctMembers : List (String × Value) → Prop
  | [] => True
  | (_, v) :: rest => v.Distinct ∧ DistinctMembers rest

end

end Value

mutual

theorem distinct_of_ordered : (v : Value) → v.Ordered → v.Distinct
  | .null, _ | .bool _, _ | .number _, _ | .string _, _ => trivial
  | .array vs, h => distinctItems_of_ordered vs h
  | .object ms, h => by
    refine ⟨h.1.imp ?_, distinctMembers_of_ordered ms h.2⟩
    rintro a b lt rfl
    exact String.lt_irrefl a lt

theorem distinctItems_of_ordered : (vs : List Value) → Value.OrderedItems vs →
    Value.DistinctItems vs
  | [], _ => trivial
  | v :: rest, h => ⟨distinct_of_ordered v h.1, distinctItems_of_ordered rest h.2⟩

theorem distinctMembers_of_ordered : (ms : List (String × Value)) → Value.OrderedMembers ms →
    Value.DistinctMembers ms
  | [], _ => trivial
  | (_, v) :: rest, h => ⟨distinct_of_ordered v h.1, distinctMembers_of_ordered rest h.2⟩

end

end Herald.Json
