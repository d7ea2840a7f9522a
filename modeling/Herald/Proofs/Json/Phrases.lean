import Herald.Proofs.Json.ReadNumeral
import Herald.Proofs.Text.Utf8

/-!
What holds of every phrase of the grammar. A relation between a text and what is left of it is kept
by every phrase as soon as the smallest pieces keep it; so no phrase gives back more than it was
given, and a text of the grammar is UTF-8 although its strings are spelled byte by byte. More words
allow more texts.
-/
namespace Herald.Json

def isNumeralByte (b : UInt8) : Bool :=
  isDigit b || b = 0x2B || b = 0x2D || b = 0x2E || b = 0x45 || b = 0x65

theorem isNumeralByte_of_isDigit {b : UInt8} (h : isDigit b = true) : isNumeralByte b = true := by
  simp [isNumeralByte, h]

theorem isNumeralByte_of_mem_exponentText {o : Option Exponent} :
    ∀ b ∈ exponentText o, isNumeralByte b = true := by
  intro b hb
  cases o with
  | none => simp [exponentText] at hb
  | some e =>
    simp only [exponentText, Exponent.text, List.mem_cons, List.mem_append] at hb
    obtain rfl | hb | hb := hb
    · cases e.capital <;> rfl
    · cases sign : e.sign with
      | none => simp [sign, Sign.text] at hb
      | plus => simp only [sign, Sign.text, List.mem_singleton] at hb; rw [hb]; rfl
      | minus => simp only [sign, Sign.text, List.mem_singleton] at hb; rw [hb]; rfl
    · exact isNumeralByte_of_isDigit (e.isDigit_of_mem b hb)

theorem isNumeralByte_of_mem_magnitude (x : Numeral) :
    ∀ b ∈ x.magnitude, isNumeralByte b = true := by
  intro b hb
  simp only [Numeral.magnitude, List.mem_append] at hb
  obtain hb | hb | hb := hb
  · exact isNumeralByte_of_isDigit (x.isDigit_of_mem_whole b hb)
  · unfold fractionText at hb
    split at hb
    · simp at hb
    · obtain rfl | hb := List.mem_cons.1 hb
      · rfl
      · exact isNumeralByte_of_isDigit (x.isDigit_of_mem_fraction b hb)
  · exact isNumeralByte_of_mem_exponentText b hb

theorem isNumeralByte_of_mem_text (x : Numeral) : ∀ b ∈ x.text, isNumeralByte b = true := by
  intro b hb
  unfold Numeral.text at hb
  split at hb
  · obtain rfl | hb := List.mem_cons.1 hb
    · rfl
    · exact isNumeralByte_of_mem_magnitude x b hb
  · exact isNumeralByte_of_mem_magnitude x b hb

theorem lt_of_isNumeralByte {b : UInt8} (h : isNumeralByte b = true) : b < 0x80 := by
  simp only [isNumeralByte, Bool.or_eq_true, decide_eq_true_eq] at h
  obtain ((((h | rfl) | rfl) | rfl) | rfl) | rfl := h
  · have := (isDigit_bounds h).2
    rw [UInt8.lt_iff_toNat_lt]
    exact Nat.lt_of_le_of_lt this (by decide)
  all_goals decide

theorem lt_of_isSpace {b : UInt8} (h : isSpace b = true) : b < 0x80 := by
  simp only [isSpace, Bool.or_eq_true, decide_eq_true_eq] at h
  obtain ((rfl | rfl) | rfl) | rfl := h <;> decide

/-- Kept by the smallest pieces of texts: ASCII bytes outside strings, strings, and words. -/
structure Respected (words : List (List UInt8)) (R : List UInt8 → List UInt8 → Prop) : Prop where
  refl (t : List UInt8) : R t t
  trans {t u w : List UInt8} : R t u → R u w → R t w
  ascii {b : UInt8} {t : List UInt8} : b < 0x80 → R (b :: t) t
  string {t bytes u : List UInt8} {s : String} : StringText t bytes u →
    Text.decode? bytes = some s → R t u
  word {w t : List UInt8} : w ∈ words → R (w ++ t) t

namespace Respected

variable {words : List (List UInt8)} {R : List UInt8 → List UInt8 → Prop} (r : Respected words R)
include r

theorem append {l : List UInt8} (h : ∀ b ∈ l, b < 0x80) (t : List UInt8) : R (l ++ t) t := by
  induction l with
  | nil => exact r.refl t
  | cons b l ih => exact r.trans (r.ascii (h b (by simp))) (ih fun c hc => h c (by simp [hc]))

theorem blanks {t u : List UInt8} (h : Blanks t u) : R t u := by
  induction h with
  | nil => exact r.refl _
  | cons space _ ih => exact r.trans (r.ascii (lt_of_isSpace space)) ih

theorem name {t u : List UInt8} {s : String} (h : NameText t s u) : R t u := by
  obtain ⟨before, text, decoded, colon⟩ := h
  have opened := r.trans (r.blanks before) (r.ascii (by decide))
  have closed := r.trans (r.blanks colon) (r.ascii (by decide))
  exact r.trans opened (r.trans (r.string text decoded) closed)

mutual

theorem denotes : {t : List UInt8} → {v : Value} → {u : List UInt8} → Denotes words t v u → R t u
  | _, _, _, .null => r.append (l := [0x6E, 0x75, 0x6C, 0x6C]) (by simp) _
  | _, _, _, .word mem => r.word mem
  | _, _, _, .true => r.append (l := [0x74, 0x72, 0x75, 0x65]) (by simp) _
  | _, _, _, .false => r.append (l := [0x66, 0x61, 0x6C, 0x73, 0x65]) (by simp) _
  | _, _, _, .number _ =>
    r.append (fun b hb => lt_of_isNumeralByte (isNumeralByte_of_mem_text _ b hb)) _
  | _, _, _, .string text decoded => r.trans (r.ascii (by decide)) (r.string text decoded)
  | _, _, _, .emptyList close | _, _, _, .emptyObject close =>
    r.trans (r.ascii (by decide)) (r.trans (r.blanks close) (r.ascii (by decide)))
  | _, _, _, .list items =>
    r.trans (r.ascii (by decide)) (r.trans (denotesItems items) (r.ascii (by decide)))
  | _, _, _, .object members =>
    r.trans (r.ascii (by decide)) (r.trans (denotesMembers members) (r.ascii (by decide)))

theorem denotesItems : {t : List UInt8} → {vs : List Value} → {u : List UInt8} →
    DenotesItems words t vs u → R t (0x5D :: u)
  | _, _, _, .last lead value close =>
    r.trans (r.blanks lead) (r.trans (denotes value) (r.blanks close))
  | _, _, _, .next lead value comma items =>
    r.trans (r.blanks lead) (r.trans (denotes value) (r.trans (r.blanks comma)
      (r.trans (r.ascii (by decide)) (denotesItems items))))

theorem denotesMembers : {t : List UInt8} → {ms : List (String × Value)} → {u : List UInt8} →
    DenotesMembers words t ms u → R t (0x7D :: u)
  | _, _, _, .last name lead value close =>
    r.trans (r.name name) (r.trans (r.blanks lead) (r.trans (denotes value) (r.blanks close)))
  | _, _, _, .next name lead value comma members =>
    r.trans (r.name name) (r.trans (r.blanks lead) (r.trans (denotes value) (r.trans (r.blanks comma)
      (r.trans (r.ascii (by decide)) (denotesMembers members)))))

end

end Respected

theorem length_stringText {t s u : List UInt8} (h : StringText t s u) : u.length < t.length := by
  induction h with
  | close => simp
  | _ => simp only [List.length_cons]; omega

theorem respected_length (words : List (List UInt8)) :
    Respected words fun t u => u.length ≤ t.length where
  refl _ := Nat.le_refl _
  trans h k := Nat.le_trans k h
  ascii _ := Nat.le_succ _
  string text _ := Nat.le_of_lt (length_stringText text)
  word _ := by simp

theorem rows_of_hexValue? {h : UInt8} {n : Nat} (digit : hexValue? h = some n) :
    (0x30 ≤ h.toNat ∧ h.toNat ≤ 0x39 ∧ n = h.toNat - 0x30) ∨
      (0x41 ≤ h.toNat ∧ h.toNat ≤ 0x46 ∧ n = h.toNat - 0x37) ∨
      (0x61 ≤ h.toNat ∧ h.toNat ≤ 0x66 ∧ n = h.toNat - 0x57) := by
  unfold hexValue? at digit
  simp only [Bool.and_eq_true, decide_eq_true_eq, UInt8.le_iff_toNat_le, UInt8.reduceToNat] at digit
  split at digit
  · next row => exact .inl ⟨row.1, row.2, (Option.some.inj digit).symm⟩
  split at digit
  · next row => exact .inr (.inl ⟨row.1, row.2, (Option.some.inj digit).symm⟩)
  split at digit
  · next row => exact .inr (.inr ⟨row.1, row.2, (Option.some.inj digit).symm⟩)
  · contradiction

theorem ascii_of_hexValue? {h : UInt8} {n : Nat} (digit : hexValue? h = some n) : h < 0x80 := by
  have rows := rows_of_hexValue? digit
  rw [UInt8.lt_iff_toNat_lt]
  simp only [UInt8.reduceToNat]
  omega

theorem ascii_of_unit? {h₁ h₂ h₃ h₄ : UInt8} {n : Nat} (digits : unit? h₁ h₂ h₃ h₄ = some n) :
    h₁ < 0x80 ∧ h₂ < 0x80 ∧ h₃ < 0x80 ∧ h₄ < 0x80 := by
  simp only [unit?, Option.bind_eq_bind, Option.bind_eq_some_iff, Option.pure_def] at digits
  obtain ⟨_, d₁, _, d₂, _, d₃, _, d₄, _⟩ := digits
  exact ⟨ascii_of_hexValue? d₁, ascii_of_hexValue? d₂, ascii_of_hexValue? d₃, ascii_of_hexValue? d₄⟩

theorem ascii_of_shortEscape? {e c : UInt8} (short : shortEscape? e = some c) :
    e < 0x80 ∧ c < 0x80 := by
  unfold shortEscape? at short
  simp only [Bool.or_eq_true, decide_eq_true_eq] at short
  split at short
  · next h =>
    cases short
    obtain (rfl | rfl) | rfl := h <;> decide
  repeat
    split at short
    · next h =>
      cases short
      subst h
      decide
  contradiction

open Text (IsUtf8) in
theorem isUtf8_unit {h₁ h₂ h₃ h₄ : UInt8} {n : Nat} (digits : unit? h₁ h₂ h₃ h₄ = some n)
    {t : List UInt8} (ht : IsUtf8 t) : IsUtf8 (0x5C :: 0x75 :: h₁ :: h₂ :: h₃ :: h₄ :: t) := by
  obtain ⟨d₁, d₂, d₃, d₄⟩ := ascii_of_unit? digits
  exact .cons (by decide) (.cons (by decide) (.cons d₁ (.cons d₂ (.cons d₃ (.cons d₄ ht)))))

open Text (IsUtf8) in
theorem isUtf8_stringText {t s u : List UInt8} (h : StringText t s u) (hu : IsUtf8 u) :
    ∀ p, IsUtf8 (p ++ s) → IsUtf8 (p ++ t) := by
  induction h with
  | close =>
    intro p hs
    rw [List.append_nil] at hs
    exact hs.append (.cons (by decide) hu)
  | @plain b t s u _ _ _ _ ih =>
    intro p hs
    rw [List.append_cons] at hs ⊢
    exact ih hu _ hs
  | @short e c t s u short _ ih =>
    intro p hs
    obtain ⟨he, hc⟩ := ascii_of_shortEscape? short
    rw [← List.singleton_append, ← Text.utf8EncodeChar_ascii hc] at hs
    obtain ⟨hp, hs⟩ := Text.isUtf8_of_append_char hs
    exact hp.append (.cons (by decide) (.cons he (ih hu [] hs)))
  | unit digits _ _ _ ih =>
    intro p hs
    obtain ⟨hp, hs⟩ := Text.isUtf8_of_append_char hs
    exact hp.append (isUtf8_unit digits (ih hu [] hs))
  | pair first _ second _ _ ih =>
    intro p hs
    obtain ⟨hp, hs⟩ := Text.isUtf8_of_append_char hs
    exact hp.append (isUtf8_unit first (isUtf8_unit second (ih hu [] hs)))

theorem respected_isUtf8 : Respected [] fun t u => Text.IsUtf8 u → Text.IsUtf8 t where
  refl _ := id
  trans h k := h ∘ k
  ascii small ht := ht.cons small
  string text decoded hu :=
    isUtf8_stringText text hu [] (Text.isUtf8_iff.2 ⟨_, decoded⟩)
  word mem := by simp at mem

theorem isUtf8_of_spells {t : List UInt8} {v : Value} (h : Spells [] t v) : Text.IsUtf8 t := by
  obtain ⟨t₁, t₂, lead, value, behind⟩ := h
  have ends := respected_isUtf8.blanks behind Text.IsUtf8.nil
  exact respected_isUtf8.blanks lead (respected_isUtf8.denotes value ends)

section

variable {few many : List (List UInt8)}

mutual

theorem Denotes.mono (sub : ∀ w ∈ few, w ∈ many) : {t : List UInt8} → {v : Value} →
    {u : List UInt8} → Denotes few t v u → Denotes many t v u
  | _, _, _, .null => .null
  | _, _, _, .word mem => .word (sub _ mem)
  | _, _, _, .true => .true
  | _, _, _, .false => .false
  | _, _, _, .number number => .number number
  | _, _, _, .string text decoded => .string text decoded
  | _, _, _, .emptyList close => .emptyList close
  | _, _, _, .list items => .list (items.mono sub)
  | _, _, _, .emptyObject close => .emptyObject close
  | _, _, _, .object members => .object (members.mono sub)

theorem DenotesItems.mono (sub : ∀ w ∈ few, w ∈ many) : {t : List UInt8} → {vs : List Value} →
    {u : List UInt8} → DenotesItems few t vs u → DenotesItems many t vs u
  | _, _, _, .last lead value close => .last lead (value.mono sub) close
  | _, _, _, .next lead value comma items => .next lead (value.mono sub) comma (items.mono sub)

theorem DenotesMembers.mono (sub : ∀ w ∈ few, w ∈ many) : {t : List UInt8} →
    {ms : List (String × Value)} → {u : List UInt8} → DenotesMembers few t ms u →
    DenotesMembers many t ms u
  | _, _, _, .last name lead value close => .last name lead (value.mono sub) close
  | _, _, _, .next name lead value comma members =>
    .next name lead (value.mono sub) comma (members.mono sub)

end

theorem Spells.mono (sub : ∀ w ∈ few, w ∈ many) {t : List UInt8} {v : Value}
    (h : Spells few t v) : Spells many t v := by
  obtain ⟨t₁, t₂, lead, value, behind⟩ := h
  exact ⟨t₁, t₂, lead, value.mono sub, behind⟩

end

end Herald.Json
