import Herald.Json.Canonical
import Herald.Json.Printer
import Herald.Proofs.Json.ReadValue

/-!
Printed values in the grammar. A printed string denotes the string it is printed from, a printed
number is a row of bytes of numerals, and the first byte of a print decides what it may denote.
-/
namespace Herald.Json

open Text (encode)

theorem unit?_control : ∀ n < 0x20, unit? 0x30 0x30 (hexDigit (n / 16)) (hexDigit (n % 16)) = some n := by
  decide

theorem stringText_escapeByte {t s u : List UInt8} (b : UInt8) (h : StringText t s u) :
    StringText (escapeByte b ++ t) (b :: s) u := by
  unfold escapeByte
  split
  · next e => subst e; exact .short rfl h
  split
  · next e => subst e; exact .short rfl h
  split
  · next e => subst e; exact .short rfl h
  split
  · next e => subst e; exact .short rfl h
  split
  · next e => subst e; exact .short rfl h
  split
  · next e => subst e; exact .short rfl h
  split
  · next e => subst e; exact .short rfl h
  split
  · next control =>
    have small : b.toNat < 0x20 := UInt8.lt_iff_toNat_lt.1 control
    have low : isLowSurrogate b.toNat = false := by
      simp only [isLowSurrogate, Bool.and_eq_false_iff, decide_eq_false_iff_not]
      omega
    have high : isHighSurrogate b.toNat = false := by
      simp only [isHighSurrogate, Bool.and_eq_false_iff, decide_eq_false_iff_not]
      omega
    have one : codePoint b.toNat = [b] :=
      Text.utf8EncodeChar_ascii (UInt8.lt_iff_toNat_lt.2 (Nat.lt_trans small (by decide)))
    have read := StringText.unit (unit?_control b.toNat small) low high h
    rwa [one] at read
  · next quote backslash _ _ _ _ _ printable =>
    exact .plain (UInt8.not_lt.1 printable) quote backslash h

theorem stringText_escaped (bytes u : List UInt8) :
    StringText (bytes.flatMap escapeByte ++ 0x22 :: u) bytes u := by
  induction bytes with
  | nil => exact .close
  | cons b bytes ih =>
    rw [List.flatMap_cons, List.append_assoc]
    exact stringText_escapeByte b ih

theorem printString_append (s : String) (u : List UInt8) :
    printString s ++ u = 0x22 :: ((encode s).flatMap escapeByte ++ 0x22 :: u) := by
  simp [printString]

theorem StringText.unique {t s s' u u' : List UInt8} (h : StringText t s u)
    (h' : StringText t s' u') : s = s' ∧ u = u' := by
  have same := (stringBytes_complete h).symm.trans (stringBytes_complete h')
  simpa using same

theorem of_printString {s s' : String} {bytes u u' : List UInt8}
    (h : StringText ((encode s).flatMap escapeByte ++ 0x22 :: u) bytes u')
    (decoded : Text.decode? bytes = some s') : s' = s ∧ u' = u := by
  obtain ⟨rfl, rfl⟩ := h.unique (stringText_escaped (encode s) u)
  rw [Text.decode?_encode] at decoded
  exact ⟨(Option.some.inj decoded).symm, rfl⟩

def isNumeralChar (c : Char) : Bool :=
  c.isDigit || c = '+' || c = '-' || c = '.' || c = 'e'

theorem isNumeralChar_of_mem_toDigits {n : Nat} : ∀ c ∈ Nat.toDigits 10 n, isNumeralChar c = true := by
  intro c hc
  simp [isNumeralChar, Nat.isDigit_of_mem_toDigits (by decide) (by decide) hc]

theorem isNumeralChar_of_mem_positional {d : Number.Decimal} {tail : List Char}
    (h : ∀ c ∈ tail, isNumeralChar c = true) : ∀ c ∈ d.positional tail, isNumeralChar c = true := by
  have digits : ∀ c ∈ d.digits, isNumeralChar c = true := isNumeralChar_of_mem_toDigits
  intro c hc
  unfold Number.Decimal.positional at hc
  split at hc
  · simp only [List.mem_append, List.mem_replicate] at hc
    obtain (hc | ⟨_, rfl⟩) | hc := hc
    · exact digits c hc
    · rfl
    · exact h c hc
  split at hc
  · simp only [List.mem_append, List.mem_cons] at hc
    obtain hc | rfl | hc := hc
    · exact digits c (List.mem_of_mem_take hc)
    · rfl
    · exact digits c (List.mem_of_mem_drop hc)
  · simp only [List.mem_append, List.mem_cons, List.not_mem_nil, or_false, List.mem_replicate] at hc
    obtain ((rfl | rfl) | ⟨_, rfl⟩) | hc := hc
    · rfl
    · rfl
    · rfl
    · exact digits c hc

theorem isNumeralChar_of_mem_scientific {d : Number.Decimal} :
    ∀ c ∈ d.scientific, isNumeralChar c = true := by
  have digits : ∀ c ∈ d.digits, isNumeralChar c = true := isNumeralChar_of_mem_toDigits
  have exponent : ∀ c ∈ 'e' :: Number.Decimal.signed (d.point - 1), isNumeralChar c = true := by
    intro c hc
    simp only [Number.Decimal.signed, List.mem_cons] at hc
    obtain rfl | rfl | hc := hc
    · rfl
    · split <;> rfl
    · exact isNumeralChar_of_mem_toDigits c hc
  intro c hc
  unfold Number.Decimal.scientific at hc
  split at hc
  · next first second rest eq =>
    simp only [List.cons_append, List.mem_cons, List.mem_append] at hc
    rw [eq] at digits
    obtain rfl | rfl | rfl | hc | hc := hc
    · exact digits c (by simp)
    · rfl
    · exact digits c (by simp)
    · exact digits c (by simp [hc])
    · exact exponent c (List.mem_cons.2 hc)
  · obtain hc | hc := List.mem_append.1 hc
    · exact digits c hc
    · exact exponent c hc

theorem isNumeralChar_of_mem_compactChars {x : Float} :
    ∀ c ∈ Number.compactChars x, isNumeralChar c = true := by
  intro c hc
  unfold Number.compactChars Number.withSign at hc
  have magnitude : ∀ cs : List Char, (c ∈ if Number.isNegative x then '-' :: cs else cs) →
      c = '-' ∨ c ∈ cs := by
    intro cs mem
    split at mem
    · exact List.mem_cons.1 mem
    · exact .inr mem
  obtain rfl | hc := magnitude _ hc
  · rfl
  split at hc
  · exact isNumeralChar_of_mem_positional (List.all_eq_true.1 rfl) c hc
  · exact isNumeralChar_of_mem_scientific c hc

theorem digits_ne_nil (d : Number.Decimal) : d.digits ≠ [] :=
  Nat.toDigits_ne_nil

theorem positional_ne_nil (d : Number.Decimal) (tail : List Char) : d.positional tail ≠ [] := by
  unfold Number.Decimal.positional
  split
  · simp [digits_ne_nil]
  · split <;> simp

theorem compactChars_ne_nil (x : Float) : Number.compactChars x ≠ [] := by
  unfold Number.compactChars Number.withSign
  split
  · simp
  dsimp only
  split
  · exact positional_ne_nil _ _
  · unfold Number.Decimal.scientific
    split <;> simp [digits_ne_nil]

theorem bounds_of_isDigit {c : Char} (h : c.isDigit = true) : 0x30 ≤ c.toNat ∧ c.toNat ≤ 0x39 := by
  simp only [Char.isDigit, Bool.and_eq_true, decide_eq_true_eq, ge_iff_le, UInt32.le_iff_toNat_le] at h
  exact h

theorem isDigit_ascii {c : Char} (h : c.isDigit = true) : isDigit (UInt8.ofNat c.toNat) = true := by
  have bounds := bounds_of_isDigit h
  have low : (0x30 : UInt8).toNat = 0x30 := rfl
  have high : (0x39 : UInt8).toNat = 0x39 := rfl
  simp only [isDigit, Bool.and_eq_true, decide_eq_true_eq, UInt8.le_iff_toNat_le, UInt8.toNat_ofNat']
  omega

theorem isNumeralByte_of_isNumeralChar {c : Char} (h : isNumeralChar c = true) :
    isNumeralByte (UInt8.ofNat c.toNat) = true := by
  simp only [isNumeralChar, Bool.or_eq_true, decide_eq_true_eq] at h
  obtain (((h | rfl) | rfl) | rfl) | rfl := h
  · exact isNumeralByte_of_isDigit (isDigit_ascii h)
  all_goals rfl

theorem isNumeralByte_of_mem_asciiBytes {cs : List Char} (h : ∀ c ∈ cs, isNumeralChar c = true) :
    ∀ b ∈ asciiBytes cs, isNumeralByte b = true := by
  intro b hb
  obtain ⟨c, hc, rfl⟩ := List.mem_map.1 hb
  exact isNumeralByte_of_isNumeralChar (h c hc)

theorem number_print (n : Number) : n.print = [0x6E, 0x75, 0x6C, 0x6C] ∨
    n.print ≠ [] ∧ ∀ b ∈ n.print, isNumeralByte b = true := by
  have ascii {cs : List Char} (ne : cs ≠ []) (h : ∀ c ∈ cs, isNumeralChar c = true) :
      asciiBytes cs ≠ [] ∧ ∀ b ∈ asciiBytes cs, isNumeralByte b = true :=
    ⟨by simpa [asciiBytes] using ne, isNumeralByte_of_mem_asciiBytes h⟩
  cases n with
  | int n =>
    right
    rw [Number.print]
    split
    · refine ascii (by simp) fun c hc => ?_
      obtain rfl | hc := List.mem_cons.1 hc
      · rfl
      · exact isNumeralChar_of_mem_toDigits c hc
    · exact ascii Nat.toDigits_ne_nil isNumeralChar_of_mem_toDigits
  | float x =>
    rw [Number.print]
    split
    · exact .inr (ascii (compactChars_ne_nil x) isNumeralChar_of_mem_compactChars)
    · exact .inl rfl

def Stops (t : List UInt8) : Prop :=
  ∀ b rest, t = b :: rest → isNumeralByte b = false

theorem stops_nil : Stops [] := by
  intro b rest h
  contradiction

theorem stops_cons {b : UInt8} (h : isNumeralByte b = false) (t : List UInt8) : Stops (b :: t) := by
  intro c rest e
  cases e
  exact h

theorem isNumeralByte_of_isSpace {b : UInt8} (h : isSpace b = true) : isNumeralByte b = false := by
  simp only [isSpace, Bool.or_eq_true, decide_eq_true_eq] at h
  obtain ((rfl | rfl) | rfl) | rfl := h <;> rfl

theorem stops_of_blanks {t u : List UInt8} (h : Blanks t u) (stops : Stops u) : Stops t := by
  cases h with
  | nil => exact stops
  | cons space _ => exact stops_cons (isNumeralByte_of_isSpace space) _

theorem numeral_unique {l m t u : List UInt8} (hl : ∀ b ∈ l, isNumeralByte b = true)
    (hm : ∀ b ∈ m, isNumeralByte b = true) (ht : Stops t) (hu : Stops u) (e : l ++ t = m ++ u) :
    t = u := by
  have rest {l t : List UInt8} (hl : ∀ b ∈ l, isNumeralByte b = true) (ht : Stops t) :
      (l ++ t).dropWhile isNumeralByte = t := by
    rw [List.dropWhile_append_of_pos hl]
    cases t with
    | nil => rfl
    | cons b t => rw [List.dropWhile_cons, ht b t rfl, if_neg Bool.false_ne_true]
  rw [← rest hl ht, e, rest hm hu]

theorem text_head (x : Numeral) : ∃ b rest, x.text = b :: rest ∧ isNumeralByte b = true := by
  cases text : x.text with
  | nil =>
    obtain ⟨_, h⟩ | ⟨_, _, _, _, h, _⟩ := text_append x []
    · rw [text] at h
      contradiction
    · rw [text] at h
      contradiction
  | cons b rest => exact ⟨b, rest, rfl, isNumeralByte_of_mem_text x b (by simp [text])⟩

theorem text_ne {x : Numeral} {b : UInt8} {t u : List UInt8} (other : isNumeralByte b = false) :
    b :: t ≠ x.text ++ u := by
  intro e
  obtain ⟨c, rest, text, numeral⟩ := text_head x
  rw [text] at e
  cases e
  rw [numeral] at other
  contradiction

theorem of_denotes_bracket {t u : List UInt8} {v : Value} (h : Denotes [] (0x5B :: t) v u) :
    (Blanks t (0x5D :: u) ∧ v = .array []) ∨ ∃ vs, DenotesItems [] t vs u ∧ v = .array vs := by
  generalize e : 0x5B :: t = input at h
  cases h with
  | word mem => simp at mem
  | number => exact absurd e (text_ne rfl)
  | emptyList close =>
    cases e
    exact .inl ⟨close, rfl⟩
  | list items =>
    cases e
    exact .inr ⟨_, items, rfl⟩
  | _ => simp at e

theorem of_denotes_brace {t u : List UInt8} {v : Value} (h : Denotes [] (0x7B :: t) v u) :
    (Blanks t (0x7D :: u) ∧ v = .object []) ∨ ∃ ms, DenotesMembers [] t ms u ∧ v = .object ms := by
  generalize e : 0x7B :: t = input at h
  cases h with
  | word mem => simp at mem
  | number => exact absurd e (text_ne rfl)
  | emptyObject close =>
    cases e
    exact .inl ⟨close, rfl⟩
  | object members =>
    cases e
    exact .inr ⟨_, members, rfl⟩
  | _ => simp at e

theorem of_denotes_numeral {b : UInt8} {t u : List UInt8} {v : Value} (h : Denotes [] (b :: t) v u)
    (numeral : isNumeralByte b = true) :
    ∃ (x : Numeral) (n : Number), b :: t = x.text ++ u ∧ x.number? = some n ∧ v = .number n := by
  generalize e : b :: t = input at h
  cases h with
  | word mem => simp at mem
  | number number => exact ⟨_, _, rfl, number, rfl⟩
  | _ =>
    cases e
    contradiction

theorem blanks_eq {t u : List UInt8} {b : UInt8} (h : Blanks (b :: t) u) (solid : isSpace b = false) :
    u = b :: t := by
  cases h with
  | nil => rfl
  | cons space _ =>
    rw [space] at solid
    contradiction

theorem of_nameText_print {name n : String} {u u' : List UInt8}
    (h : NameText (printString name ++ 0x3A :: u) n u') : n = name ∧ u' = u := by
  rw [printString_append] at h
  obtain ⟨before, text, decoded, colon⟩ := h
  cases blanks_eq before (by decide)
  obtain ⟨rfl, rfl⟩ := of_printString text decoded
  cases blanks_eq colon (by decide)
  exact ⟨rfl, rfl⟩

theorem isSpace_of_isNumeralByte {b : UInt8} (h : isNumeralByte b = true) : isSpace b = false := by
  cases space : isSpace b with
  | false => rfl
  | true =>
    rw [isNumeralByte_of_isSpace space] at h
    contradiction

theorem print_head (v : Value) (u : List UInt8) :
    ∃ b rest, v.print ++ u = b :: rest ∧ isSpace b = false ∧ b ≠ 0x5D := by
  cases v with
  | null => exact ⟨_, _, rfl, rfl, by decide⟩
  | bool b => cases b <;> exact ⟨_, _, rfl, rfl, by decide⟩
  | number n =>
    rw [Value.print]
    obtain h | ⟨ne, h⟩ := number_print n
    · rw [h]
      exact ⟨_, _, rfl, rfl, by decide⟩
    · cases print : n.print with
      | nil => exact absurd print ne
      | cons b rest =>
        have numeral := h b (by simp [print])
        refine ⟨b, rest ++ u, rfl, isSpace_of_isNumeralByte numeral, ?_⟩
        rintro rfl
        contradiction
  | string s =>
    rw [Value.print, printString_append]
    exact ⟨_, _, rfl, rfl, by decide⟩
  | array vs => exact ⟨_, _, rfl, rfl, by decide⟩
  | object ms => exact ⟨_, _, rfl, rfl, by decide⟩

theorem blanks_print {v : Value} {u t : List UInt8} (h : Blanks (v.print ++ u) t) :
    t = v.print ++ u := by
  obtain ⟨b, rest, e, solid, _⟩ := print_head v u
  rw [e] at h ⊢
  exact blanks_eq h solid

theorem print_array_append (vs : List Value) (u : List UInt8) :
    (Value.array vs).print ++ u = 0x5B :: (commaSeparated (Value.printItems vs) ++ 0x5D :: u) := by
  simp [Value.print]

theorem print_object_append (ms : List (String × Value)) (u : List UInt8) :
    (Value.object ms).print ++ u = 0x7B :: (commaSeparated (Value.printMembers ms) ++ 0x7D :: u) := by
  simp [Value.print]

def afterComma (b : UInt8) (texts : List (List UInt8)) (u : List UInt8) : List UInt8 :=
  if texts = [] then b :: u else 0x2C :: (commaSeparated texts ++ b :: u)

theorem commaSeparated_cons (t : List UInt8) (ts : List (List UInt8)) (b : UInt8) (u : List UInt8) :
    commaSeparated (t :: ts) ++ b :: u = t ++ afterComma b ts u := by
  cases ts with
  | nil => rfl
  | cons t' ts => simp [commaSeparated, afterComma]

theorem stops_afterComma {b : UInt8} (h : isNumeralByte b = false) (texts : List (List UInt8))
    (u : List UInt8) : Stops (afterComma b texts u) := by
  unfold afterComma
  split
  · exact stops_cons h u
  · exact stops_cons rfl _

theorem of_blanks_close {b : UInt8} {texts : List (List UInt8)} {u u' : List UInt8}
    (h : Blanks (afterComma b texts u) (b :: u')) (solid : isSpace b = false) (other : b ≠ 0x2C) :
    texts = [] ∧ u' = u := by
  unfold afterComma at h
  split at h
  · next empty =>
    cases blanks_eq h solid
    exact ⟨empty, rfl⟩
  · cases blanks_eq h rfl
    contradiction

theorem of_blanks_comma {b : UInt8} {texts : List (List UInt8)} {u t : List UInt8}
    (h : Blanks (afterComma b texts u) (0x2C :: t)) (solid : isSpace b = false) (other : b ≠ 0x2C) :
    t = commaSeparated texts ++ b :: u := by
  unfold afterComma at h
  split at h
  · cases blanks_eq h solid
    contradiction
  · cases blanks_eq h rfl
    rfl

theorem of_denotesItems {words : List (List UInt8)} {t u : List UInt8} {vs : List Value}
    (h : DenotesItems words t vs u) : ∃ t₁ t₂ v, Blanks t t₁ ∧ Denotes words t₁ v t₂ ∧
      ((vs = [v] ∧ Blanks t₂ (0x5D :: u)) ∨
        ∃ t₃ rest, vs = v :: rest ∧ Blanks t₂ (0x2C :: t₃) ∧ DenotesItems words t₃ rest u) := by
  cases h with
  | last lead value close => exact ⟨_, _, _, lead, value, .inl ⟨rfl, close⟩⟩
  | next lead value comma items =>
    exact ⟨_, _, _, lead, value, .inr ⟨_, _, rfl, comma, items⟩⟩

theorem of_denotesMembers {words : List (List UInt8)} {t u : List UInt8}
    {ms : List (String × Value)} (h : DenotesMembers words t ms u) :
    ∃ t₀ t₁ t₂ name v, NameText t name t₀ ∧ Blanks t₀ t₁ ∧ Denotes words t₁ v t₂ ∧
      ((ms = [(name, v)] ∧ Blanks t₂ (0x7D :: u)) ∨ ∃ t₃ rest, ms = (name, v) :: rest ∧
        Blanks t₂ (0x2C :: t₃) ∧ DenotesMembers words t₃ rest u) := by
  cases h with
  | last name lead value close => exact ⟨_, _, _, _, _, name, lead, value, .inl ⟨rfl, close⟩⟩
  | next name lead value comma members =>
    exact ⟨_, _, _, _, _, name, lead, value, .inr ⟨_, _, rfl, comma, members⟩⟩

end Herald.Json
