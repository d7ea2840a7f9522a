import Herald.Proofs.Json.Numbers

/-!
Prints tell values apart. Texts that start with prints start with the same print, if only the numbers
in them can be told apart; so two values with one text are one value.
-/
namespace Herald.Json

open Text (encode)

structure Apart (ms ns : List Number) : Prop where
  left : ∀ m ∈ ms, m.print ≠ [0x6E, 0x75, 0x6C, 0x6C]
  right : ∀ n ∈ ns, n.print ≠ [0x6E, 0x75, 0x6C, 0x6C]
  same : ∀ m ∈ ms, ∀ n ∈ ns, m.print = n.print → m = n

theorem Apart.mono {ms ns ms' ns' : List Number} (h : Apart ms ns) (hm : ms' ⊆ ms) (hn : ns' ⊆ ns) :
    Apart ms' ns' where
  left m mem := h.left m (hm mem)
  right n mem := h.right n (hn mem)
  same m mem n mem' := h.same m (hm mem) n (hn mem')

theorem asciiBytes_ne_null {cs : List Char} (h : ∀ c ∈ cs, isNumeralChar c = true) :
    asciiBytes cs ≠ [0x6E, 0x75, 0x6C, 0x6C] := by
  intro e
  have first := isNumeralByte_of_mem_asciiBytes h 0x6E (by simp [e])
  contradiction

def Number.isFinite : Number → Bool
  | .int _ => true
  | .float x => x.isFinite

theorem print_ne_null {n : Number} (finite : n.isFinite = true) :
    n.print ≠ [0x6E, 0x75, 0x6C, 0x6C] := by
  cases n with
  | int n =>
    rw [Number.print]
    apply asciiBytes_ne_null
    intro c mem
    split at mem
    · obtain rfl | mem := List.mem_cons.1 mem
      · rfl
      · exact isNumeralChar_of_mem_toDigits c mem
    · exact isNumeralChar_of_mem_toDigits c mem
  | float x =>
    change x.isFinite = true at finite
    rw [Number.print, if_pos finite]
    exact asciiBytes_ne_null isNumeralChar_of_mem_compactChars

theorem printString_injective {s s' : String} {t t' : List UInt8}
    (e : printString s ++ t = printString s' ++ t') : s = s' ∧ t = t' := by
  rw [printString_append, printString_append] at e
  have text := stringText_escaped (encode s') t'
  rw [← (List.cons.inj e).2] at text
  obtain ⟨same, rest⟩ := of_printString text (Text.decode?_encode s')
  exact ⟨same.symm, rest.symm⟩

theorem number_print_injective {m n : Number} {t t' : List UInt8} (apart : Apart [m] [n])
    (stops : Stops t) (stops' : Stops t') (e : m.print ++ t = n.print ++ t') : m = n ∧ t = t' := by
  have numeral := (number_print m).resolve_left (apart.left m (by simp))
  have numeral' := (number_print n).resolve_left (apart.right n (by simp))
  have rest := numeral_unique numeral.2 numeral'.2 stops stops' e
  subst rest
  refine ⟨apart.same m (by simp) n (by simp) ?_, rfl⟩
  exact List.append_cancel_right e

theorem afterComma_injective {b : UInt8} {texts texts' : List (List UInt8)} {u u' : List UInt8}
    (other : b ≠ 0x2C) (e : afterComma b texts u = afterComma b texts' u') :
    (texts = [] ∧ texts' = [] ∧ u = u') ∨ (texts ≠ [] ∧ texts' ≠ [] ∧
      commaSeparated texts ++ b :: u = commaSeparated texts' ++ b :: u') := by
  unfold afterComma at e
  split at e
  · next empty =>
    split at e
    · next empty' => exact .inl ⟨empty, empty', (List.cons.inj e).2⟩
    · exact absurd (List.cons.inj e).1 other
  · next some =>
    split at e
    · exact absurd (List.cons.inj e).1.symm other
    · next some' => exact .inr ⟨some, some', (List.cons.inj e).2⟩

def Value.mark? : Value → Option UInt8
  | .null => some 0x6E
  | .bool true => some 0x74
  | .bool false => some 0x66
  | .number _ => none
  | .string _ => some 0x22
  | .array _ => some 0x5B
  | .object _ => some 0x7B

theorem print_mark {v : Value} (numerals : ∀ n ∈ v.numbers, n.print ≠ [0x6E, 0x75, 0x6C, 0x6C])
    (u : List UInt8) :
    ∃ b rest, v.print ++ u = b :: rest ∧ v.mark? = if isNumeralByte b then none else some b := by
  cases v with
  | null => exact ⟨_, _, rfl, rfl⟩
  | bool b => cases b <;> exact ⟨_, _, rfl, rfl⟩
  | number n =>
    obtain ⟨ne, numeral⟩ := (number_print n).resolve_left (numerals n (by simp [Value.numbers]))
    rw [Value.print]
    cases print : n.print with
    | nil => exact absurd print ne
    | cons b rest =>
      refine ⟨b, rest ++ u, rfl, ?_⟩
      rw [if_pos (numeral b (by simp [print]))]
      rfl
  | string s =>
    rw [Value.print, printString_append]
    exact ⟨_, _, rfl, rfl⟩
  | array vs => exact ⟨_, _, rfl, rfl⟩
  | object ms => exact ⟨_, _, rfl, rfl⟩

theorem mark_eq {v w : Value} {u u' : List UInt8} (apart : Apart v.numbers w.numbers)
    (e : v.print ++ u = w.print ++ u') : v.mark? = w.mark? := by
  obtain ⟨b, rest, text, mark⟩ := print_mark apart.left u
  obtain ⟨b', rest', text', mark'⟩ := print_mark apart.right u'
  rw [text, text'] at e
  rw [mark, mark', (List.cons.inj e).1]

mutual

theorem print_injective : (v w : Value) → ∀ {u u'}, Apart v.numbers w.numbers → Stops u → Stops u' →
    v.print ++ u = w.print ++ u' → v = w ∧ u = u'
  | .null, w, u, u', apart, stops, stops', e => by
    have mark := mark_eq apart e
    cases w with
    | null => exact ⟨rfl, List.append_cancel_left e⟩
    | bool b => cases b <;> simp [Value.mark?] at mark
    | _ => simp [Value.mark?] at mark
  | .bool b, w, u, u', apart, stops, stops', e => by
    have mark := mark_eq apart e
    cases w with
    | bool b' =>
      cases b <;> cases b'
      · exact ⟨rfl, List.append_cancel_left e⟩
      · simp [Value.mark?] at mark
      · simp [Value.mark?] at mark
      · exact ⟨rfl, List.append_cancel_left e⟩
    | _ => cases b <;> simp [Value.mark?] at mark
  | .number n, w, u, u', apart, stops, stops', e => by
    have mark := mark_eq apart e
    cases w with
    | number n' =>
      rw [Value.print, Value.print] at e
      obtain ⟨rfl, rest⟩ := number_print_injective apart stops stops' e
      exact ⟨rfl, rest⟩
    | bool b => cases b <;> simp [Value.mark?] at mark
    | _ => simp [Value.mark?] at mark
  | .string s, w, u, u', apart, stops, stops', e => by
    have mark := mark_eq apart e
    cases w with
    | string s' =>
      rw [Value.print, Value.print] at e
      obtain ⟨rfl, rest⟩ := printString_injective e
      exact ⟨rfl, rest⟩
    | bool b => cases b <;> simp [Value.mark?] at mark
    | _ => simp [Value.mark?] at mark
  | .array vs, w, u, u', apart, stops, stops', e => by
    have mark := mark_eq apart e
    cases w with
    | array ws =>
      rw [print_array_append, print_array_append] at e
      obtain ⟨rfl, rest⟩ := printItems_injective vs ws apart (List.cons.inj e).2
      exact ⟨rfl, rest⟩
    | bool b => cases b <;> simp [Value.mark?] at mark
    | _ => simp [Value.mark?] at mark
  | .object ms, w, u, u', apart, stops, stops', e => by
    have mark := mark_eq apart e
    cases w with
    | object ns =>
      rw [print_object_append, print_object_append] at e
      obtain ⟨rfl, rest⟩ := printMembers_injective ms ns apart (List.cons.inj e).2
      exact ⟨rfl, rest⟩
    | bool b => cases b <;> simp [Value.mark?] at mark
    | _ => simp [Value.mark?] at mark

theorem printItems_injective : (vs ws : List Value) → ∀ {u u'},
    Apart (Value.numbersItems vs) (Value.numbersItems ws) →
    commaSeparated (Value.printItems vs) ++ 0x5D :: u =
      commaSeparated (Value.printItems ws) ++ 0x5D :: u' → vs = ws ∧ u = u'
  | [], [], u, u', _, e => ⟨rfl, (List.cons.inj e).2⟩
  | [], w :: ws, u, u', _, e => by
    rw [Value.printItems, Value.printItems, commaSeparated_cons] at e
    obtain ⟨b, rest, text, _, other⟩ := print_head w (afterComma 0x5D (Value.printItems ws) u')
    rw [text] at e
    exact absurd (List.cons.inj e).1.symm other
  | v :: vs, [], u, u', _, e => by
    rw [Value.printItems, Value.printItems, commaSeparated_cons] at e
    obtain ⟨b, rest, text, _, other⟩ := print_head v (afterComma 0x5D (Value.printItems vs) u)
    rw [text] at e
    exact absurd (List.cons.inj e).1 other
  | v :: vs, w :: ws, u, u', apart, e => by
    rw [Value.printItems, Value.printItems, commaSeparated_cons, commaSeparated_cons] at e
    obtain ⟨rfl, rest⟩ := print_injective v w
      (apart.mono (List.subset_append_left _ _) (List.subset_append_left _ _))
      (stops_afterComma rfl _ u) (stops_afterComma rfl _ u') e
    obtain ⟨none, none', same⟩ | ⟨_, _, more⟩ := afterComma_injective (by decide) rest
    · cases vs with
      | nil =>
        cases ws with
        | nil => exact ⟨rfl, same⟩
        | cons w ws => contradiction
      | cons v vs => contradiction
    · obtain ⟨rfl, same⟩ := printItems_injective vs ws
        (apart.mono (List.subset_append_right _ _) (List.subset_append_right _ _)) more
      exact ⟨rfl, same⟩

theorem printMembers_injective : (ms ns : List (String × Value)) → ∀ {u u'},
    Apart (Value.numbersMembers ms) (Value.numbersMembers ns) →
    commaSeparated (Value.printMembers ms) ++ 0x7D :: u =
      commaSeparated (Value.printMembers ns) ++ 0x7D :: u' → ms = ns ∧ u = u'
  | [], [], u, u', _, e => ⟨rfl, (List.cons.inj e).2⟩
  | [], (name, w) :: ns, u, u', _, e => by
    rw [Value.printMembers, Value.printMembers, commaSeparated_cons, List.append_assoc,
      printString_append] at e
    exact absurd (List.cons.inj e).1 (by decide)
  | (name, v) :: ms, [], u, u', _, e => by
    rw [Value.printMembers, Value.printMembers, commaSeparated_cons, List.append_assoc,
      printString_append] at e
    exact absurd (List.cons.inj e).1 (by decide)
  | (name, v) :: ms, (name', w) :: ns, u, u', apart, e => by
    rw [Value.printMembers, Value.printMembers, commaSeparated_cons, commaSeparated_cons,
      List.append_assoc, List.append_assoc] at e
    obtain ⟨rfl, value⟩ := printString_injective e
    obtain ⟨rfl, rest⟩ := print_injective v w
      (apart.mono (List.subset_append_left _ _) (List.subset_append_left _ _))
      (stops_afterComma rfl _ u) (stops_afterComma rfl _ u') (List.cons.inj value).2
    obtain ⟨none, none', same⟩ | ⟨_, _, more⟩ := afterComma_injective (by decide) rest
    · cases ms with
      | nil =>
        cases ns with
        | nil => exact ⟨rfl, same⟩
        | cons n ns => contradiction
      | cons m ms => contradiction
    · obtain ⟨rfl, same⟩ := printMembers_injective ms ns
        (apart.mono (List.subset_append_right _ _) (List.subset_append_right _ _)) more
      exact ⟨rfl, same⟩

end

theorem eq_of_print_eq {v w : Value} (apart : Apart v.numbers w.numbers) (e : v.print = w.print) :
    v = w :=
  (print_injective v w apart stops_nil stops_nil (by rw [e])).1

end Herald.Json
