import Herald.Proofs.Json.ReadValue
import Herald.Repair

/-!
The repair of words and the grammar. Whatever a text is, its words that are no numbers are replaced
just where the grammar with these words takes them for values, so the text belongs to that grammar
exactly when the repaired one is JSON, and both spell the same value. The scanner and the grammar
stay in step because they agree on where strings end; that is what both halves are proved over.
-/
namespace Herald.Repair

open Json (Blanks StringText Numeral NameText Denotes DenotesItems DenotesMembers Spells Value)

theorem words_append (p : Place) (l t : List UInt8) : words p l.length (l ++ t) = words p 0 t := by
  induction l with
  | nil => rfl
  | cons b l ih => simpa [words] using ih

theorem word?_append {w : List UInt8} (h : w ∈ nonFinite) (t : List UInt8) :
    word? (w ++ t) = some w := by
  simp only [nonFinite, List.mem_cons, List.not_mem_nil, or_false] at h
  obtain rfl | rfl | rfl := h <;> rfl

theorem of_word?_eq_some {w t : List UInt8} (h : word? t = some w) :
    w ∈ nonFinite ∧ ∃ rest, t = w ++ rest := by
  unfold word? at h
  refine ⟨List.mem_of_find?_eq_some h, ?_⟩
  have found := List.find?_some h
  obtain ⟨rest, e⟩ := List.isPrefixOf_iff_prefix.1 found
  exact ⟨rest, e.symm⟩

theorem words_word {w : List UInt8} (h : w ∈ nonFinite) (t : List UInt8) :
    words .outside 0 (w ++ t) = null ++ words .outside 0 t := by
  have found := word?_append h t
  cases w with
  | nil => simp [nonFinite] at h
  | cons b w =>
    rw [List.cons_append] at found ⊢
    simp only [words, found, List.length_cons, Nat.add_sub_cancel]
    rw [words_append]

theorem words_cons {b : UInt8} {t : List UInt8} (h : word? (b :: t) = none) (p : Place) :
    words p 0 (b :: t) = b :: words (p.next b) 0 t := by
  cases p <;> simp [words, h]

theorem words_cons_inside (b : UInt8) (t : List UInt8) :
    words .inside 0 (b :: t) = b :: words (Place.next .inside b) 0 t := by
  simp [words]

theorem words_cons_escaped (b : UInt8) (t : List UInt8) :
    words .escaped 0 (b :: t) = b :: words .inside 0 t := by
  simp [words, Place.next]

def isCalm (b : UInt8) : Bool :=
  b ≠ 0x22 && b ≠ 0x2D && b ≠ 0x49 && b ≠ 0x4E

theorem word?_cons_eq_none {b : UInt8} (t : List UInt8) (minus : b ≠ 0x2D) (i : b ≠ 0x49)
    (n : b ≠ 0x4E) : word? (b :: t) = none := by
  simp [word?, nonFinite, List.isPrefixOf, minus.symm, i.symm, n.symm]

theorem words_calm {b : UInt8} (h : isCalm b = true) (t : List UInt8) :
    words .outside 0 (b :: t) = b :: words .outside 0 t := by
  simp only [isCalm, Bool.and_eq_true, decide_eq_true_eq] at h
  obtain ⟨⟨⟨quote, minus⟩, i⟩, n⟩ := h
  rw [words_cons (word?_cons_eq_none t minus i n)]
  simp [Place.next, quote]

theorem words_calm_append {l : List UInt8} (h : ∀ b ∈ l, isCalm b = true) (t : List UInt8) :
    words .outside 0 (l ++ t) = l ++ words .outside 0 t := by
  induction l with
  | nil => rfl
  | cons b l ih =>
    rw [List.cons_append, words_calm (h b (by simp)), ih fun c hc => h c (by simp [hc])]
    rfl

theorem words_minus {b : UInt8} (h : b ≠ 0x49) (t : List UInt8) :
    words .outside 0 (0x2D :: b :: t) = 0x2D :: words .outside 0 (b :: t) := by
  have none : word? (0x2D :: b :: t) = none := by
    simp [word?, nonFinite, List.isPrefixOf, h.symm]
  rw [words_cons none]
  rfl

theorem words_quote (t : List UInt8) :
    words .outside 0 (0x22 :: t) = 0x22 :: words .inside 0 t := by
  rw [words_cons rfl]
  rfl

theorem words_blanks {t u : List UInt8} (h : Blanks t u) :
    Blanks (words .outside 0 t) (words .outside 0 u) := by
  induction h with
  | nil => exact .nil
  | @cons b t u space _ ih =>
    have calm : isCalm b = true := by
      simp only [Json.isSpace, Bool.or_eq_true, decide_eq_true_eq] at space
      obtain ((rfl | rfl) | rfl) | rfl := space <;> rfl
    rw [words_calm calm]
    exact .cons space ih

theorem next_inside_of_hexValue? {h : UInt8} {n : Nat} (digit : Json.hexValue? h = some n) :
    Place.next .inside h = .inside := by
  have backslash : h ≠ 0x5C := by rintro rfl; simp [Json.hexValue?] at digit
  have quote : h ≠ 0x22 := by rintro rfl; simp [Json.hexValue?] at digit
  simp [Place.next, backslash, quote]

theorem words_unit {h₁ h₂ h₃ h₄ : UInt8} {n : Nat} (digits : Json.unit? h₁ h₂ h₃ h₄ = some n)
    (t : List UInt8) : words .inside 0 (0x5C :: 0x75 :: h₁ :: h₂ :: h₃ :: h₄ :: t) =
      0x5C :: 0x75 :: h₁ :: h₂ :: h₃ :: h₄ :: words .inside 0 t := by
  simp only [Json.unit?, Option.bind_eq_bind, Option.bind_eq_some_iff, Option.pure_def] at digits
  obtain ⟨_, d₁, _, d₂, _, d₃, _, d₄, _⟩ := digits
  have backslash : Place.next .inside 0x5C = .escaped := rfl
  simp only [words_cons_inside, words_cons_escaped, backslash, next_inside_of_hexValue? d₁,
    next_inside_of_hexValue? d₂, next_inside_of_hexValue? d₃, next_inside_of_hexValue? d₄]

theorem words_stringText {t s u : List UInt8} (h : StringText t s u) :
    StringText (words .inside 0 t) s (words .outside 0 u) := by
  induction h with
  | close =>
    rw [words_cons_inside]
    exact .close
  | plain printable quote backslash _ ih =>
    rw [words_cons_inside]
    simp only [Place.next, backslash, quote, if_false]
    exact .plain printable quote backslash ih
  | short short _ ih =>
    rw [words_cons_inside]
    simp only [Place.next, if_true]
    rw [words_cons_escaped]
    exact .short short ih
  | unit digits not_low not_high _ ih =>
    rw [words_unit digits]
    exact .unit digits not_low not_high ih
  | pair first high second low _ ih =>
    rw [words_unit first, words_unit second]
    exact .pair first high second low ih

theorem isCalm_of_isDigit {b : UInt8} (h : Json.isDigit b = true) : isCalm b = true := by
  have := Json.isDigit_bounds h
  simp only [isCalm, ne_eq, Bool.and_eq_true, decide_eq_true_eq]
  refine ⟨⟨⟨?_, ?_⟩, ?_⟩, ?_⟩ <;> rintro rfl <;> simp at this

theorem words_digits {ds : List UInt8} (h : ∀ b ∈ ds, Json.isDigit b = true) (t : List UInt8) :
    words .outside 0 (ds ++ t) = ds ++ words .outside 0 t :=
  words_calm_append (fun b hb => isCalm_of_isDigit (h b hb)) t

theorem words_minus_digits {ds : List UInt8} (h : ∀ b ∈ ds, Json.isDigit b = true) (ne : ds ≠ [])
    (t : List UInt8) : words .outside 0 (0x2D :: (ds ++ t)) = 0x2D :: (ds ++ words .outside 0 t) := by
  cases ds with
  | nil => exact absurd rfl ne
  | cons d ds =>
    have other : d ≠ 0x49 := by rintro rfl; exact absurd (h 0x49 (by simp)) (by decide)
    rw [List.cons_append, words_minus other, ← List.cons_append, words_digits h]

theorem words_exponentText (o : Option Json.Exponent) (t : List UInt8) :
    words .outside 0 (Json.exponentText o ++ t) = Json.exponentText o ++ words .outside 0 t := by
  cases o with
  | none => rfl
  | some e =>
    obtain ⟨capital, sign, digits, hdigits, ne⟩ := e
    have behind : words .outside 0 (sign.text ++ (digits ++ t)) =
        sign.text ++ (digits ++ words .outside 0 t) := by
      cases sign with
      | none => exact words_digits hdigits t
      | plus =>
        simp only [Json.Sign.text, List.cons_append, List.nil_append]
        rw [words_calm (by decide), words_digits hdigits]
      | minus => exact words_minus_digits hdigits ne t
    have letter : isCalm (if capital then 0x45 else 0x65) = true := by cases capital <;> decide
    simp only [Json.exponentText, Json.Exponent.text, List.cons_append, List.append_assoc]
    rw [words_calm letter, behind]

theorem words_fractionText {ds : List UInt8} (h : ∀ b ∈ ds, Json.isDigit b = true) (t : List UInt8) :
    words .outside 0 (Json.fractionText ds ++ t) = Json.fractionText ds ++ words .outside 0 t := by
  unfold Json.fractionText
  split
  · rfl
  · rw [List.cons_append, words_calm (by decide), words_digits h]
    rfl

theorem words_numeral (x : Numeral) (t : List UInt8) :
    words .outside 0 (x.text ++ t) = x.text ++ words .outside 0 t := by
  have behind := words_exponentText x.exponent t
  have part := words_fractionText x.isDigit_of_mem_fraction (Json.exponentText x.exponent ++ t)
  unfold Numeral.text Numeral.magnitude
  split
  · simp only [List.cons_append, List.append_assoc]
    rw [words_minus_digits x.isDigit_of_mem_whole x.whole_ne_nil, part, behind]
  · simp only [List.append_assoc]
    rw [words_digits x.isDigit_of_mem_whole, part, behind]

theorem words_nameText {t u : List UInt8} {name : String} (h : NameText t name u) :
    NameText (words .outside 0 t) name (words .outside 0 u) := by
  obtain ⟨before, text, decoded, colon⟩ := h
  have before := words_blanks before
  have colon := words_blanks colon
  rw [words_quote] at before
  rw [words_calm (by decide)] at colon
  exact .mk before (words_stringText text) decoded colon

mutual

theorem denotes_words : {t : List UInt8} → {v : Value} → {u : List UInt8} →
    Denotes nonFinite t v u → Denotes [] (words .outside 0 t) v (words .outside 0 u)
  | _, _, _, .null => by
    repeat rw [words_calm (by decide)]
    exact .null
  | _, _, _, .word mem => by
    rw [words_word mem]
    exact .null
  | _, _, _, .true => by
    repeat rw [words_calm (by decide)]
    exact .true
  | _, _, _, .false => by
    repeat rw [words_calm (by decide)]
    exact .false
  | _, _, _, .number number => by
    rw [words_numeral]
    exact .number number
  | _, _, _, .string text decoded => by
    rw [words_quote]
    exact .string (words_stringText text) decoded
  | _, _, _, .emptyList close => by
    have close := words_blanks close
    rw [words_calm (by decide)] at close ⊢
    exact .emptyList close
  | _, _, _, .list items => by
    rw [words_calm (by decide)]
    exact .list (denotesItems_words items)
  | _, _, _, .emptyObject close => by
    have close := words_blanks close
    rw [words_calm (by decide)] at close ⊢
    exact .emptyObject close
  | _, _, _, .object members => by
    rw [words_calm (by decide)]
    exact .object (denotesMembers_words members)

theorem denotesItems_words : {t : List UInt8} → {vs : List Value} → {u : List UInt8} →
    DenotesItems nonFinite t vs u → DenotesItems [] (words .outside 0 t) vs (words .outside 0 u)
  | _, _, _, .last lead value close => by
    have close := words_blanks close
    rw [words_calm (by decide)] at close
    exact .last (words_blanks lead) (denotes_words value) close
  | _, _, _, .next lead value comma items => by
    have comma := words_blanks comma
    rw [words_calm (by decide)] at comma
    exact .next (words_blanks lead) (denotes_words value) comma (denotesItems_words items)

theorem denotesMembers_words : {t : List UInt8} → {ms : List (String × Value)} → {u : List UInt8} →
    DenotesMembers nonFinite t ms u →
    DenotesMembers [] (words .outside 0 t) ms (words .outside 0 u)
  | _, _, _, .last name lead value close => by
    have close := words_blanks close
    rw [words_calm (by decide)] at close
    exact .last (words_nameText name) (words_blanks lead) (denotes_words value) close
  | _, _, _, .next name lead value comma members => by
    have comma := words_blanks comma
    rw [words_calm (by decide)] at comma
    exact .next (words_nameText name) (words_blanks lead) (denotes_words value) comma
      (denotesMembers_words members)

end

theorem of_words_eq_cons {t r : List UInt8} {b : UInt8} (h : words .outside 0 t = b :: r) :
    (∃ t', t = b :: t' ∧ words (Place.next .outside b) 0 t' = r) ∨
      ∃ w t', w ∈ nonFinite ∧ t = w ++ t' ∧ b :: r = null ++ words .outside 0 t' := by
  cases t with
  | nil => contradiction
  | cons c t =>
    cases found : word? (c :: t) with
    | none =>
      rw [words_cons found] at h
      obtain ⟨rfl, rfl⟩ := List.cons.inj h
      exact .inl ⟨t, rfl, rfl⟩
    | some w =>
      obtain ⟨mem, rest, e⟩ := of_word?_eq_some found
      rw [e, words_word mem] at h
      exact .inr ⟨w, rest, mem, e, h.symm⟩

theorem of_words_inside_eq_cons {t r : List UInt8} {b : UInt8} (h : words .inside 0 t = b :: r) :
    ∃ t', t = b :: t' ∧ words (Place.next .inside b) 0 t' = r := by
  cases t with
  | nil => contradiction
  | cons c t =>
    rw [words_cons_inside] at h
    obtain ⟨rfl, rfl⟩ := List.cons.inj h
    exact ⟨t, rfl, rfl⟩

theorem of_words_escaped_eq_cons {t r : List UInt8} {b : UInt8} (h : words .escaped 0 t = b :: r) :
    ∃ t', t = b :: t' ∧ words .inside 0 t' = r := by
  cases t with
  | nil => contradiction
  | cons c t =>
    rw [words_cons_escaped] at h
    obtain ⟨rfl, rfl⟩ := List.cons.inj h
    exact ⟨t, rfl, rfl⟩

theorem of_words_eq_cons_of_ne {t r : List UInt8} {b : UInt8} (h : words .outside 0 t = b :: r)
    (ne : b ≠ 0x6E) : ∃ t', t = b :: t' ∧ words (Place.next .outside b) 0 t' = r := by
  obtain same | ⟨w, t', _, _, e⟩ := of_words_eq_cons h
  · exact same
  · exact absurd (List.cons.inj e).1 ne

theorem of_words_eq_append {l t r : List UInt8} (h : words .outside 0 t = l ++ r)
    (plain : ∀ b ∈ l, b ≠ 0x6E ∧ b ≠ 0x22) : ∃ t', t = l ++ t' ∧ words .outside 0 t' = r := by
  induction l generalizing t with
  | nil => exact ⟨t, rfl, h⟩
  | cons b l ih =>
    obtain ⟨n, quote⟩ := plain b (by simp)
    obtain ⟨t', rfl, behind⟩ := of_words_eq_cons_of_ne h n
    simp only [Place.next, quote, if_false] at behind
    obtain ⟨t'', rfl, rest⟩ := ih behind fun c hc => plain c (by simp [hc])
    exact ⟨t'', rfl, rest⟩

theorem of_words_cons {t r : List UInt8} {b : UInt8} (h : words .outside 0 t = b :: r)
    (n : b ≠ 0x6E) (quote : b ≠ 0x22) : ∃ t', t = b :: t' ∧ words .outside 0 t' = r :=
  of_words_eq_append (l := [b]) h (by simp [n, quote])

theorem of_words_quote {t r : List UInt8} (h : words .outside 0 t = 0x22 :: r) :
    ∃ t', t = 0x22 :: t' ∧ words .inside 0 t' = r :=
  of_words_eq_cons_of_ne h (by decide)

theorem of_words_blanks {t' u' : List UInt8} (h : Blanks t' u') :
    ∀ t, words .outside 0 t = t' → ∃ u, words .outside 0 u = u' ∧ Blanks t u := by
  induction h with
  | nil => exact fun t e => ⟨t, e, .nil⟩
  | @cons b t' u' space _ ih =>
    intro t e
    have n : b ≠ 0x6E := by rintro rfl; exact absurd space (by decide)
    have quote : b ≠ 0x22 := by rintro rfl; exact absurd space (by decide)
    obtain ⟨t₁, rfl, behind⟩ := of_words_cons e n quote
    obtain ⟨u, e, blanks⟩ := ih t₁ behind
    exact ⟨u, e, .cons space blanks⟩

theorem of_words_unit {h₁ h₂ h₃ h₄ : UInt8} {n : Nat} (digits : Json.unit? h₁ h₂ h₃ h₄ = some n)
    {t r : List UInt8}
    (h : words .inside 0 t = 0x5C :: 0x75 :: h₁ :: h₂ :: h₃ :: h₄ :: r) :
    ∃ t', t = 0x5C :: 0x75 :: h₁ :: h₂ :: h₃ :: h₄ :: t' ∧ words .inside 0 t' = r := by
  simp only [Json.unit?, Option.bind_eq_bind, Option.bind_eq_some_iff, Option.pure_def] at digits
  obtain ⟨_, d₁, _, d₂, _, d₃, _, d₄, _⟩ := digits
  obtain ⟨t₁, rfl, after₁⟩ := of_words_inside_eq_cons h
  obtain ⟨t₂, rfl, after₂⟩ := of_words_escaped_eq_cons after₁
  obtain ⟨t₃, rfl, after₃⟩ := of_words_inside_eq_cons after₂
  rw [next_inside_of_hexValue? d₁] at after₃
  obtain ⟨t₄, rfl, after₄⟩ := of_words_inside_eq_cons after₃
  rw [next_inside_of_hexValue? d₂] at after₄
  obtain ⟨t₅, rfl, after₅⟩ := of_words_inside_eq_cons after₄
  rw [next_inside_of_hexValue? d₃] at after₅
  obtain ⟨t₆, rfl, after₆⟩ := of_words_inside_eq_cons after₅
  rw [next_inside_of_hexValue? d₄] at after₆
  exact ⟨t₆, rfl, after₆⟩

theorem of_words_stringText {t' s u' : List UInt8} (h : StringText t' s u') :
    ∀ t, words .inside 0 t = t' → ∃ u, words .outside 0 u = u' ∧ StringText t s u := by
  induction h with
  | close =>
    intro t e
    obtain ⟨t₁, rfl, behind⟩ := of_words_inside_eq_cons e
    exact ⟨t₁, behind, .close⟩
  | plain printable quote backslash _ ih =>
    intro t e
    obtain ⟨t₁, rfl, behind⟩ := of_words_inside_eq_cons e
    simp only [Place.next, backslash, quote, if_false] at behind
    obtain ⟨u, e, text⟩ := ih t₁ behind
    exact ⟨u, e, .plain printable quote backslash text⟩
  | short short _ ih =>
    intro t e
    obtain ⟨t₁, rfl, escaped⟩ := of_words_inside_eq_cons e
    obtain ⟨t₂, rfl, behind⟩ := of_words_escaped_eq_cons escaped
    obtain ⟨u, e, text⟩ := ih t₂ behind
    exact ⟨u, e, .short short text⟩
  | unit digits not_low not_high _ ih =>
    intro t e
    obtain ⟨t₁, rfl, behind⟩ := of_words_unit digits e
    obtain ⟨u, e, text⟩ := ih t₁ behind
    exact ⟨u, e, .unit digits not_low not_high text⟩
  | pair first high second low _ ih =>
    intro t e
    obtain ⟨t₁, rfl, between⟩ := of_words_unit first e
    obtain ⟨t₂, rfl, behind⟩ := of_words_unit second between
    obtain ⟨u, e, text⟩ := ih t₂ behind
    exact ⟨u, e, .pair first high second low text⟩

theorem plain_of_mem_numeral (x : Numeral) : ∀ b ∈ x.text, b ≠ 0x6E ∧ b ≠ 0x22 := by
  intro b hb
  have byte := Json.isNumeralByte_of_mem_text x b hb
  constructor <;> rintro rfl <;> exact absurd byte (by decide)

theorem of_words_nameText {t' u' : List UInt8} {name : String} (h : NameText t' name u') :
    ∀ t, words .outside 0 t = t' → ∃ u, words .outside 0 u = u' ∧ NameText t name u := by
  intro t e
  obtain ⟨before, text, decoded, colon⟩ := h
  obtain ⟨t₁, e₁, before⟩ := of_words_blanks before t e
  obtain ⟨t₂, rfl, inside⟩ := of_words_quote e₁
  obtain ⟨t₃, e₃, text⟩ := of_words_stringText text t₂ inside
  obtain ⟨t₄, e₄, colon⟩ := of_words_blanks colon t₃ e₃
  obtain ⟨u, rfl, behind⟩ := of_words_cons e₄ (by decide) (by decide)
  exact ⟨u, behind, .mk before text decoded colon⟩

theorem of_words_close {t' u' : List UInt8} {b : UInt8} (h : Blanks t' (b :: u')) (n : b ≠ 0x6E)
    (quote : b ≠ 0x22) :
    ∀ t, words .outside 0 t = t' → ∃ u, words .outside 0 u = u' ∧ Blanks t (b :: u) := by
  intro t e
  obtain ⟨t₁, e₁, blanks⟩ := of_words_blanks h t e
  obtain ⟨u, rfl, behind⟩ := of_words_cons e₁ n quote
  exact ⟨u, behind, blanks⟩

mutual

theorem of_denotes_words : {t' : List UInt8} → {v : Value} → {u' : List UInt8} →
    Denotes [] t' v u' → ∀ t, words .outside 0 t = t' →
    ∃ u, words .outside 0 u = u' ∧ Denotes nonFinite t v u
  | _, _, u', .null, t, e => by
    obtain ⟨t₁, rfl, behind⟩ | ⟨w, u, mem, rfl, same⟩ := of_words_eq_cons e
    · obtain ⟨u, rfl, rest⟩ :=
        of_words_eq_append (l := [0x75, 0x6C, 0x6C]) behind (by simp)
      exact ⟨u, rest, .null⟩
    · have same : null ++ u' = null ++ words .outside 0 u := same
      exact ⟨u, (List.append_cancel_left same).symm, .word mem⟩
  | _, _, _, .word mem, _, _ => by simp at mem
  | _, _, _, .true, t, e => by
    obtain ⟨u, rfl, rest⟩ := of_words_eq_append (l := [0x74, 0x72, 0x75, 0x65]) e (by simp)
    exact ⟨u, rest, .true⟩
  | _, _, _, .false, t, e => by
    obtain ⟨u, rfl, rest⟩ := of_words_eq_append (l := [0x66, 0x61, 0x6C, 0x73, 0x65]) e (by simp)
    exact ⟨u, rest, .false⟩
  | _, _, _, .number number, t, e => by
    obtain ⟨u, rfl, rest⟩ := of_words_eq_append e (plain_of_mem_numeral _)
    exact ⟨u, rest, .number number⟩
  | _, _, _, .string text decoded, t, e => by
    obtain ⟨t₁, rfl, inside⟩ := of_words_quote e
    obtain ⟨u, rest, text⟩ := of_words_stringText text t₁ inside
    exact ⟨u, rest, .string text decoded⟩
  | _, _, _, .emptyList close, t, e => by
    obtain ⟨t₁, rfl, inside⟩ := of_words_cons e (by decide) (by decide)
    obtain ⟨u, rest, close⟩ := of_words_close close (by decide) (by decide) t₁ inside
    exact ⟨u, rest, .emptyList close⟩
  | _, _, _, .list items, t, e => by
    obtain ⟨t₁, rfl, inside⟩ := of_words_cons e (by decide) (by decide)
    obtain ⟨u, rest, items⟩ := of_denotesItems_words items t₁ inside
    exact ⟨u, rest, .list items⟩
  | _, _, _, .emptyObject close, t, e => by
    obtain ⟨t₁, rfl, inside⟩ := of_words_cons e (by decide) (by decide)
    obtain ⟨u, rest, close⟩ := of_words_close close (by decide) (by decide) t₁ inside
    exact ⟨u, rest, .emptyObject close⟩
  | _, _, _, .object members, t, e => by
    obtain ⟨t₁, rfl, inside⟩ := of_words_cons e (by decide) (by decide)
    obtain ⟨u, rest, members⟩ := of_denotesMembers_words members t₁ inside
    exact ⟨u, rest, .object members⟩

theorem of_denotesItems_words : {t' : List UInt8} → {vs : List Value} → {u' : List UInt8} →
    DenotesItems [] t' vs u' → ∀ t, words .outside 0 t = t' →
    ∃ u, words .outside 0 u = u' ∧ DenotesItems nonFinite t vs u
  | _, _, _, .last lead value close, t, e => by
    obtain ⟨t₁, e₁, lead⟩ := of_words_blanks lead t e
    obtain ⟨t₂, e₂, value⟩ := of_denotes_words value t₁ e₁
    obtain ⟨u, rest, close⟩ := of_words_close close (by decide) (by decide) t₂ e₂
    exact ⟨u, rest, .last lead value close⟩
  | _, _, _, .next lead value comma items, t, e => by
    obtain ⟨t₁, e₁, lead⟩ := of_words_blanks lead t e
    obtain ⟨t₂, e₂, value⟩ := of_denotes_words value t₁ e₁
    obtain ⟨t₃, e₃, comma⟩ := of_words_close comma (by decide) (by decide) t₂ e₂
    obtain ⟨u, rest, items⟩ := of_denotesItems_words items t₃ e₃
    exact ⟨u, rest, .next lead value comma items⟩

theorem of_denotesMembers_words : {t' : List UInt8} → {ms : List (String × Value)} →
    {u' : List UInt8} → DenotesMembers [] t' ms u' → ∀ t, words .outside 0 t = t' →
    ∃ u, words .outside 0 u = u' ∧ DenotesMembers nonFinite t ms u
  | _, _, _, .last name lead value close, t, e => by
    obtain ⟨t₀, e₀, name⟩ := of_words_nameText name t e
    obtain ⟨t₁, e₁, lead⟩ := of_words_blanks lead t₀ e₀
    obtain ⟨t₂, e₂, value⟩ := of_denotes_words value t₁ e₁
    obtain ⟨u, rest, close⟩ := of_words_close close (by decide) (by decide) t₂ e₂
    exact ⟨u, rest, .last name lead value close⟩
  | _, _, _, .next name lead value comma members, t, e => by
    obtain ⟨t₀, e₀, name⟩ := of_words_nameText name t e
    obtain ⟨t₁, e₁, lead⟩ := of_words_blanks lead t₀ e₀
    obtain ⟨t₂, e₂, value⟩ := of_denotes_words value t₁ e₁
    obtain ⟨t₃, e₃, comma⟩ := of_words_close comma (by decide) (by decide) t₂ e₂
    obtain ⟨u, rest, members⟩ := of_denotesMembers_words members t₃ e₃
    exact ⟨u, rest, .next name lead value comma members⟩

end

theorem spells_words_iff {t : List UInt8} {v : Value} :
    Spells [] (words .outside 0 t) v ↔ Spells nonFinite t v := by
  constructor
  · rintro ⟨t₁, t₂, lead, value, behind⟩
    obtain ⟨u₁, e₁, lead⟩ := of_words_blanks lead t rfl
    obtain ⟨u₂, e₂, value⟩ := of_denotes_words value u₁ e₁
    obtain ⟨u₃, e₃, behind⟩ := of_words_blanks behind u₂ e₂
    cases u₃ with
    | nil => exact ⟨u₁, u₂, lead, value, behind⟩
    | cons b u₃ =>
      cases found : word? (b :: u₃) with
      | none => rw [words_cons found] at e₃; contradiction
      | some w =>
        obtain ⟨mem, rest, e⟩ := of_word?_eq_some found
        rw [e, words_word mem] at e₃
        contradiction
  · rintro ⟨t₁, t₂, lead, value, behind⟩
    exact ⟨_, _, words_blanks lead, denotes_words value, words_blanks behind⟩

end Herald.Repair
