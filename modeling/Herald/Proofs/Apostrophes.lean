import Herald.Proofs.Json.Rearranged
import Herald.Proofs.Submission

/-!
How often an apostrophe stands in the strings of a JSON text. Each one is either written as itself or
as an escape, and replacing the byte never makes an escape or undoes one; so a text that is changed
by the replacement spells strings with fewer apostrophes than before.
-/
namespace Herald.Json

open Text (encode)

namespace Value

mutual

/-- How many apostrophes stand in the strings and names of a value. -/
def apostrophes : Value → Nat
  | .string s => (encode s).count 0x27
  | .array vs => apostrophesItems vs
  | .object ms => apostrophesMembers ms
  | _ => 0

def apostrophesItems : List Value → Nat
  | [] => 0
  | v :: rest => v.apostrophes + apostrophesItems rest

def apostrophesMembers : List (String × Value) → Nat
  | [] => 0
  | (name, v) :: rest => (encode name).count 0x27 + v.apostrophes + apostrophesMembers rest

end

theorem apostrophesMembers_insertMember_le (name : String) (v : Value)
    (ms : List (String × Value)) : apostrophesMembers (insertMember name v ms) ≤
      (encode name).count 0x27 + v.apostrophes + apostrophesMembers ms := by
  induction ms with
  | nil => simp [insertMember, apostrophesMembers]
  | cons m rest ih =>
    obtain ⟨k, w⟩ := m
    unfold insertMember
    split
    · simp [apostrophesMembers]
    split
    · simp only [apostrophesMembers]
      omega
    · simp only [apostrophesMembers]
      omega

theorem apostrophesMembers_sortMembers_le (ms : List (String × Value)) :
    apostrophesMembers (sortMembers ms) ≤ apostrophesMembers ms := by
  have go : ∀ (ms sorted : List (String × Value)),
      apostrophesMembers (ms.foldl (fun sorted m => insertMember m.1 m.2 sorted) sorted) ≤
        apostrophesMembers sorted + apostrophesMembers ms := by
    intro ms
    induction ms with
    | nil => simp [apostrophesMembers]
    | cons m rest ih =>
      intro sorted
      have rest_le := ih (insertMember m.1 m.2 sorted)
      have first_le := apostrophesMembers_insertMember_le m.1 m.2 sorted
      simp only [List.foldl_cons, apostrophesMembers]
      omega
  simpa [sortMembers, apostrophesMembers] using go ms []

theorem apostrophesMembers_eq_of_perm {ms ns : List (String × Value)} (same : ms.Perm ns) :
    apostrophesMembers ms = apostrophesMembers ns := by
  induction same with
  | nil => rfl
  | cons m _ ih => simp only [apostrophesMembers, ih]
  | swap m n ms =>
    simp only [apostrophesMembers]
    omega
  | trans _ _ ih ih' => exact ih.trans ih'

theorem apostrophesMembers_sortMembers {ms : List (String × Value)}
    (nodup : (ms.map Prod.fst).Nodup) :
    apostrophesMembers (sortMembers ms) = apostrophesMembers ms :=
  apostrophesMembers_eq_of_perm (sortMembers_perm nodup)

mutual

theorem apostrophes_canonical_le : (v : Value) → v.canonical.apostrophes ≤ v.apostrophes
  | .null | .bool _ | .number _ | .string _ => Nat.le_refl _
  | .array vs => apostrophesItems_canonicalItems_le vs
  | .object ms =>
    Nat.le_trans (apostrophesMembers_sortMembers_le _) (apostrophesMembers_canonicalMembers_le ms)

theorem apostrophesItems_canonicalItems_le : (vs : List Value) →
    apostrophesItems (canonicalItems vs) ≤ apostrophesItems vs
  | [] => Nat.le_refl _
  | v :: rest => by
    have first := apostrophes_canonical_le v
    have others := apostrophesItems_canonicalItems_le rest
    simp only [canonicalItems, apostrophesItems]
    omega

theorem apostrophesMembers_canonicalMembers_le : (ms : List (String × Value)) →
    apostrophesMembers (canonicalMembers ms) ≤ apostrophesMembers ms
  | [] => Nat.le_refl _
  | (name, v) :: rest => by
    have first := apostrophes_canonical_le v
    have others := apostrophesMembers_canonicalMembers_le rest
    simp only [canonicalMembers, apostrophesMembers]
    omega

end

mutual

theorem apostrophes_canonical : (v : Value) → v.Distinct →
    v.canonical.apostrophes = v.apostrophes
  | .null, _ | .bool _, _ | .number _, _ | .string _, _ => rfl
  | .array vs, h => apostrophesItems_canonicalItems vs h
  | .object ms, h => by
    have nodup : ((canonicalMembers ms).map Prod.fst).Nodup := by
      rw [names_canonicalMembers]
      exact h.1
    rw [canonical, apostrophes, apostrophesMembers_sortMembers nodup,
      apostrophesMembers_canonicalMembers ms h.2]
    rfl

theorem apostrophesItems_canonicalItems : (vs : List Value) → DistinctItems vs →
    apostrophesItems (canonicalItems vs) = apostrophesItems vs
  | [], _ => rfl
  | v :: rest, h => by
    rw [canonicalItems, apostrophesItems, apostrophes_canonical v h.1,
      apostrophesItems_canonicalItems rest h.2]
    rfl

theorem apostrophesMembers_canonicalMembers : (ms : List (String × Value)) → DistinctMembers ms →
    apostrophesMembers (canonicalMembers ms) = apostrophesMembers ms
  | [], _ => rfl
  | (name, v) :: rest, h => by
    rw [canonicalMembers, apostrophesMembers, apostrophes_canonical v h.1,
      apostrophesMembers_canonicalMembers rest h.2]
    rfl

end

end Value

def apostropheDigits : List UInt8 :=
  [0x75, 0x30, 0x30, 0x32, 0x37]

/-- How many escapes of apostrophes stand in a text; `escaping` says that the byte before it is a
backslash that is not escaped itself. -/
def escapes (escaping : Bool) : List UInt8 → Nat
  | [] => 0
  | b :: rest =>
    (if escaping && apostropheDigits.isPrefixOf (b :: rest) then 1 else 0) +
      escapes (!escaping && b = 0x5C) rest

/-- Apostrophes and their escapes. -/
def marks (escaping : Bool) (text : List UInt8) : Nat :=
  text.count 0x27 + escapes escaping text

theorem marks_cons {b : UInt8} (h : b ≠ 0x5C) (text : List UInt8) :
    marks false (b :: text) = (if b = 0x27 then 1 else 0) + marks false text := by
  simp only [marks, escapes, h, List.count_cons, beq_iff_eq]
  simp
  omega

theorem marks_append {l : List UInt8} (h : ∀ b ∈ l, b ≠ 0x5C) (text : List UInt8) :
    marks false (l ++ text) = l.count 0x27 + marks false text := by
  induction l with
  | nil => simp
  | cons b l ih =>
    rw [List.cons_append, marks_cons (h b (by simp)), ih fun c hc => h c (by simp [hc]),
      List.count_cons]
    simp only [beq_iff_eq]
    omega

theorem marks_backslash (text : List UInt8) : marks false (0x5C :: text) = marks true text := by
  simp [marks, escapes]

theorem marks_escaped {e : UInt8} (apostrophe : e ≠ 0x27) (u : e ≠ 0x75) (text : List UInt8) :
    marks true (e :: text) = marks false text := by
  simp [marks, escapes, apostropheDigits, List.isPrefixOf, apostrophe, u.symm]

theorem hexValue?_eq_iff {h : UInt8} {n d : Nat} (digit : hexValue? h = some n) (small : d < 10) :
    n = d ↔ h = UInt8.ofNat (0x30 + d) := by
  have rows := rows_of_hexValue? digit
  rw [← UInt8.toNat_inj, UInt8.toNat_ofNat', Nat.mod_eq_of_lt (by omega)]
  omega

theorem lt_of_hexValue? {h : UInt8} {n : Nat} (digit : hexValue? h = some n) : n < 16 := by
  have rows := rows_of_hexValue? digit
  omega

theorem plain_of_hexValue? {h : UInt8} {n : Nat} (digit : hexValue? h = some n) :
    h ≠ 0x27 ∧ h ≠ 0x5C := by
  constructor
  · rintro rfl
    simp [hexValue?] at digit
  · rintro rfl
    simp [hexValue?] at digit

theorem marks_unit {h₁ h₂ h₃ h₄ : UInt8} {n : Nat} (digits : unit? h₁ h₂ h₃ h₄ = some n)
    (t : List UInt8) : marks false (0x5C :: 0x75 :: h₁ :: h₂ :: h₃ :: h₄ :: t) =
      (if n = 0x27 then 1 else 0) + marks false t := by
  simp only [unit?, Option.bind_eq_bind, Option.bind_eq_some_iff, Option.pure_def] at digits
  obtain ⟨n₁, d₁, n₂, d₂, n₃, d₃, n₄, d₄, sum⟩ := digits
  have spelled : apostropheDigits.isPrefixOf (0x75 :: h₁ :: h₂ :: h₃ :: h₄ :: t) = true ↔
      n = 0x27 := by
    have e₁ := hexValue?_eq_iff d₁ (d := 0) (by decide)
    have e₂ := hexValue?_eq_iff d₂ (d := 0) (by decide)
    have e₃ := hexValue?_eq_iff d₃ (d := 2) (by decide)
    have e₄ := hexValue?_eq_iff d₄ (d := 7) (by decide)
    have b₂ := lt_of_hexValue? d₂
    have b₃ := lt_of_hexValue? d₃
    have b₄ := lt_of_hexValue? d₄
    cases sum
    simp only [apostropheDigits, List.isPrefixOf, Bool.and_eq_true, beq_iff_eq]
    rw [eq_comm (b := h₁), eq_comm (b := h₂), eq_comm (b := h₃), eq_comm (b := h₄)]
    simp only [true_and, and_true]
    change h₁ = UInt8.ofNat (0x30 + 0) ∧ h₂ = UInt8.ofNat (0x30 + 0) ∧
      h₃ = UInt8.ofNat (0x30 + 2) ∧ h₄ = UInt8.ofNat (0x30 + 7) ↔ _
    rw [← e₁, ← e₂, ← e₃, ← e₄]
    omega
  have plain : ∀ b ∈ [h₁, h₂, h₃, h₄], b ≠ 0x27 ∧ b ≠ 0x5C := by
    simp only [List.mem_cons, List.not_mem_nil, or_false]
    rintro b (rfl | rfl | rfl | rfl)
    · exact plain_of_hexValue? d₁
    · exact plain_of_hexValue? d₂
    · exact plain_of_hexValue? d₃
    · exact plain_of_hexValue? d₄
  have behind : marks false ([h₁, h₂, h₃, h₄] ++ t) = marks false t := by
    rw [marks_append fun b hb => (plain b hb).2,
      List.count_eq_zero.2 fun mem => (plain _ mem).1 rfl, Nat.zero_add]
  have first : marks true (0x75 :: h₁ :: h₂ :: h₃ :: h₄ :: t) =
      (if n = 0x27 then 1 else 0) + marks false ([h₁, h₂, h₃, h₄] ++ t) := by
    rw [marks, escapes, Bool.true_and]
    simp only [spelled]
    simp [marks]
    omega
  rw [marks_backslash, first, behind]

theorem count_codePoint (n : Nat) : (codePoint n).count 0x27 = if n = 0x27 then 1 else 0 := by
  split
  · next e =>
    subst e
    decide
  · next ne =>
    rw [List.count_eq_zero]
    intro mem
    have same : (Char.ofNat n).toNat = 0x27 :=
      Text.toNat_eq_of_mem_utf8EncodeChar mem (by decide)
    by_cases valid : n.isValidChar
    · rw [Char.ofNat, dif_pos valid] at same
      exact ne same
    · rw [Char.ofNat, dif_neg valid] at same
      contradiction

theorem marks_stringText {t s u : List UInt8} (h : StringText t s u) :
    marks false t = s.count 0x27 + marks false u := by
  induction h with
  | close =>
    rw [marks_cons (by decide)]
    rfl
  | plain _ _ backslash _ ih =>
    rw [marks_cons backslash, ih, List.count_cons]
    simp only [beq_iff_eq]
    omega
  | @short e c t s u short _ ih =>
    have apostrophe : e ≠ 0x27 := by rintro rfl; simp [shortEscape?] at short
    have unit : e ≠ 0x75 := by rintro rfl; simp [shortEscape?] at short
    have other : c ≠ 0x27 := by
      rintro rfl
      unfold shortEscape? at short
      split at short
      · exact apostrophe (Option.some.inj short)
      repeat
        split at short
        · contradiction
      contradiction
    rw [marks_backslash, marks_escaped apostrophe unit, ih, List.count_cons_of_ne other]
  | unit digits _ _ _ ih =>
    rw [marks_unit digits, ih, List.count_append, count_codePoint]
    omega
  | @pair _ _ _ _ _ _ _ _ n m _ _ _ first high second low _ ih =>
    simp only [isHighSurrogate, isLowSurrogate, Bool.and_eq_true, decide_eq_true_eq] at high low
    have beyond : surrogatePair n m ≠ 0x27 := by
      unfold surrogatePair
      omega
    rw [marks_unit first, marks_unit second, if_neg (by omega), if_neg (by omega), ih,
      List.count_append, count_codePoint, if_neg beyond]
    omega

theorem marks_blanks {t u : List UInt8} (h : Blanks t u) : marks false t = marks false u := by
  induction h with
  | nil => rfl
  | @cons b t u space _ ih =>
    have apostrophe : b ≠ 0x27 := by rintro rfl; contradiction
    have backslash : b ≠ 0x5C := by rintro rfl; contradiction
    rw [marks_cons backslash, if_neg apostrophe, ih, Nat.zero_add]

def isQuiet (b : UInt8) : Bool :=
  b ≠ 0x27 && b ≠ 0x5C

theorem marks_quiet {b : UInt8} (h : isQuiet b = true) (t : List UInt8) :
    marks false (b :: t) = marks false t := by
  simp only [isQuiet, Bool.and_eq_true, decide_eq_true_eq] at h
  rw [marks_cons h.2, if_neg h.1, Nat.zero_add]

theorem marks_quiet_append {l : List UInt8} (h : ∀ b ∈ l, isQuiet b = true) (t : List UInt8) :
    marks false (l ++ t) = marks false t := by
  induction l with
  | nil => rfl
  | cons b l ih =>
    rw [List.cons_append, marks_quiet (h b (by simp)), ih fun c hc => h c (by simp [hc])]

theorem isQuiet_of_isNumeralByte {b : UInt8} (h : isNumeralByte b = true) : isQuiet b = true := by
  simp only [isQuiet, Bool.and_eq_true, decide_eq_true_eq]
  constructor
  · rintro rfl
    contradiction
  · rintro rfl
    contradiction

theorem marks_blanks_cons {t u : List UInt8} {b : UInt8} (h : Blanks t (b :: u))
    (quiet : isQuiet b = true) : marks false t = marks false u := by
  rw [marks_blanks h, marks_quiet quiet]

theorem marks_name {t u : List UInt8} {name : String} (h : NameText t name u) :
    marks false t = (encode name).count 0x27 + marks false u := by
  obtain ⟨before, text, decoded, colon⟩ := h
  rw [marks_blanks_cons before rfl, marks_stringText text, marks_blanks_cons colon rfl,
    Text.decode?_eq_some_iff.1 decoded]

section Values

variable {words : List (List UInt8)}

mutual

theorem marks_denotes (quiet : ∀ w ∈ words, ∀ b ∈ w, isQuiet b = true) : {t : List UInt8} →
    {v : Value} → {u : List UInt8} → Denotes words t v u →
    marks false t = v.apostrophes + marks false u
  | _, _, _, .null => by
    rw [Value.apostrophes.eq_def, Nat.zero_add]
    exact marks_quiet_append (l := [0x6E, 0x75, 0x6C, 0x6C]) (List.all_eq_true.1 rfl) _
  | _, _, _, .word mem => by
    rw [Value.apostrophes.eq_def, Nat.zero_add]
    exact marks_quiet_append (quiet _ mem) _
  | _, _, _, .true => by
    rw [Value.apostrophes.eq_def, Nat.zero_add]
    exact marks_quiet_append (l := [0x74, 0x72, 0x75, 0x65]) (List.all_eq_true.1 rfl) _
  | _, _, _, .false => by
    rw [Value.apostrophes.eq_def, Nat.zero_add]
    exact marks_quiet_append (l := [0x66, 0x61, 0x6C, 0x73, 0x65]) (List.all_eq_true.1 rfl) _
  | _, _, _, .number _ => by
    rw [Value.apostrophes.eq_def, Nat.zero_add]
    exact marks_quiet_append
      (fun b hb => isQuiet_of_isNumeralByte (isNumeralByte_of_mem_text _ b hb)) _
  | _, _, _, .string text decoded => by
    rw [marks_quiet rfl, marks_stringText text, Text.decode?_eq_some_iff.1 decoded]
    rfl
  | _, _, _, .emptyList close => by
    rw [marks_quiet rfl, marks_blanks_cons close rfl]
    exact (Nat.zero_add _).symm
  | _, _, _, .list items => by
    rw [marks_quiet rfl, marks_denotesItems quiet items]
    rfl
  | _, _, _, .emptyObject close => by
    rw [marks_quiet rfl, marks_blanks_cons close rfl]
    exact (Nat.zero_add _).symm
  | _, _, _, .object members => by
    rw [marks_quiet rfl, marks_denotesMembers quiet members]
    rfl

theorem marks_denotesItems (quiet : ∀ w ∈ words, ∀ b ∈ w, isQuiet b = true) :
    {t : List UInt8} → {vs : List Value} → {u : List UInt8} →
    DenotesItems words t vs u → marks false t = Value.apostrophesItems vs + marks false u
  | _, _, _, .last lead value close => by
    rw [marks_blanks lead, marks_denotes quiet value, marks_blanks_cons close rfl]
    rfl
  | _, _, _, .next lead value comma items => by
    rw [marks_blanks lead, marks_denotes quiet value, marks_blanks_cons comma rfl,
      marks_denotesItems quiet items, Value.apostrophesItems]
    omega

theorem marks_denotesMembers (quiet : ∀ w ∈ words, ∀ b ∈ w, isQuiet b = true) :
    {t : List UInt8} → {ms : List (String × Value)} → {u : List UInt8} → DenotesMembers words t ms u →
    marks false t = Value.apostrophesMembers ms + marks false u
  | _, _, _, .last name lead value close => by
    rw [marks_name name, marks_blanks lead, marks_denotes quiet value, marks_blanks_cons close rfl]
    simp only [Value.apostrophesMembers]
    omega
  | _, _, _, .next name lead value comma members => by
    rw [marks_name name, marks_blanks lead, marks_denotes quiet value, marks_blanks_cons comma rfl,
      marks_denotesMembers quiet members]
    simp only [Value.apostrophesMembers]
    omega

end

theorem apostrophes_of_spells (quiet : ∀ w ∈ words, ∀ b ∈ w, isQuiet b = true) {t : List UInt8}
    {v : Value} (h : Spells words t v) :
    v.apostrophes = marks false t := by
  obtain ⟨t₁, t₂, before, value, behind⟩ := h
  rw [marks_blanks before, marks_denotes quiet value, marks_blanks behind]
  rfl

end Values

end Herald.Json

namespace Herald.Repair

open Json (escapes apostropheDigits marks)

theorem isPrefixOf_quotes (word t : List UInt8) (h : ∀ b ∈ word, b ≠ 0x22 ∧ b ≠ 0x27) :
    word.isPrefixOf (quotes t) = word.isPrefixOf t := by
  induction word generalizing t with
  | nil => simp
  | cons a word ih =>
    cases t with
    | nil => rfl
    | cons b t =>
      have rest := ih t fun c hc => h c (by simp [hc])
      have same : (a == quote b) = (a == b) := by
        obtain ⟨quote_ne, apostrophe_ne⟩ := h a (by simp)
        unfold quote
        split
        · next e =>
          subst e
          rw [beq_eq_false_iff_ne.2 quote_ne, beq_eq_false_iff_ne.2 apostrophe_ne]
        · rfl
      change (a == quote b && word.isPrefixOf (quotes t)) = (a == b && word.isPrefixOf t)
      rw [same, rest]

theorem escapes_quotes (escaping : Bool) (t : List UInt8) :
    escapes escaping (quotes t) = escapes escaping t := by
  induction t generalizing escaping with
  | nil => rfl
  | cons b t ih =>
    have backslash : (quote b = 0x5C) = (b = 0x5C) := by
      unfold quote
      split
      · next e =>
        subst e
        decide
      · rfl
    have digits := isPrefixOf_quotes apostropheDigits (b :: t) (by simp [apostropheDigits])
    change escapes escaping (quote b :: quotes t) = _
    change apostropheDigits.isPrefixOf (quote b :: quotes t) = _ at digits
    simp only [escapes, digits, backslash, ih]

theorem count_quotes (t : List UInt8) : (quotes t).count 0x27 = 0 := by
  rw [List.count_eq_zero, quotes, List.mem_map]
  rintro ⟨b, _, e⟩
  unfold quote at e
  split at e
  · contradiction
  · next ne => exact ne e

theorem marks_quotes (t : List UInt8) : marks false (quotes t) + t.count 0x27 = marks false t := by
  rw [marks, marks, count_quotes, escapes_quotes]
  omega

theorem quotes_eq_self {t : List UInt8} (h : 0x27 ∉ t) : quotes t = t := by
  have same : ∀ b ∈ t, quote b = b := by
    intro b hb
    refine if_neg ?_
    rintro rfl
    exact h hb
  rw [quotes, List.map_congr_left same, List.map_id']

end Herald.Repair

namespace Herald.Document

open Json (Value Spells)

theorem isQuiet_of_mem_nonFinite : ∀ w ∈ Repair.nonFinite, ∀ b ∈ w, Json.isQuiet b = true := by
  simp [Repair.nonFinite, Json.isQuiet]

theorem apostrophes_of_quotes {b : List UInt8} {v v' : Value} (h : Spells [] b v)
    (h' : Spells Repair.nonFinite (Repair.quotes b) v') :
    v'.apostrophes + b.count 0x27 = v.apostrophes := by
  rw [Json.apostrophes_of_spells (by simp) h,
    Json.apostrophes_of_spells isQuiet_of_mem_nonFinite h', Repair.marks_quotes]

theorem isMeant_iff {b : List UInt8} {d : Document} (utf8 : Text.IsUtf8 b) : IsMeant b d ↔
    ∃ v, Spells Repair.nonFinite (Repair.quotes b) v ∧ v.depth ≤ Json.maxDepth ∧ d = ofValue v := by
  obtain ⟨s, decoded⟩ := Text.isUtf8_iff.1 utf8
  obtain rfl := Text.decode?_eq_some_iff.1 decoded
  unfold IsMeant
  rw [decoded, Repair.quotes_encode]
  constructor
  · rintro ⟨_, v, same, h⟩
    cases same
    exact ⟨v, h⟩
  · rintro ⟨v, h⟩
    exact ⟨s, v, rfl, h⟩

def NamesOnce (b : List UInt8) : Prop :=
  ∀ v, Json.parse b = .ok v → v.Distinct

theorem namesOnce_bytes (d : Document) : NamesOnce d.bytes := by
  intro v read
  exact Json.distinct_of_ordered v ((Json.rereads_of_parse read).ordered d.ordered)

theorem normalize_of_not_mem {b : List UInt8} {v : Value} (read : Json.parse b = .ok v)
    (none : 0x27 ∉ b) : normalize b = .ok (ofValue v) := by
  obtain ⟨spelled, shallow⟩ := Json.parse_eq_ok_iff.1 read
  rw [normalize_eq_ok_iff, isMeant_iff (Json.isUtf8_of_spells spelled), Repair.quotes_eq_self none]
  exact ⟨v, spelled.mono (by simp), shallow, rfl⟩

theorem not_mem_of_normalize {b : List UInt8} {v : Value} (read : Json.parse b = .ok v)
    (distinct : v.Distinct) (same : normalize b = .ok (ofValue v)) : 0x27 ∉ b := by
  have spelled := (Json.parse_eq_ok_iff.1 read).1
  rw [normalize_eq_ok_iff, isMeant_iff (Json.isUtf8_of_spells spelled)] at same
  obtain ⟨v', spelled', _, e⟩ := same
  have canonical : v.canonical = v'.canonical := congrArg Document.value e
  have lost := apostrophes_of_quotes spelled spelled'
  have all := Value.apostrophes_canonical v distinct
  have fewer := Value.apostrophes_canonical_le v'
  rw [← canonical] at fewer
  rw [← List.count_eq_zero]
  omega

/-- Bytes of JSON that hold no apostrophe are submitted as what they are stored as. One that is
written out keeps them from it, unless it stood in a member that another one of its name replaces. -/
theorem normalize_eq_ofBytes_iff {b : List UInt8} {d : Document} (read : ofBytes b = .ok d) :
    (0x27 ∉ b → normalize b = .ok d) ∧
      (NamesOnce b ∨ (∃ e : Document, b = e.bytes) → (normalize b = .ok d ↔ 0x27 ∉ b)) := by
  cases parsed : Json.parse b with
  | error fault =>
    rw [ofBytes, parsed] at read
    contradiction
  | ok v =>
    rw [ofBytes, parsed] at read
    cases read
    refine ⟨normalize_of_not_mem parsed, ?_⟩
    intro once
    have distinct : v.Distinct := by
      cases once with
      | inl once => exact once v parsed
      | inr canonical =>
        obtain ⟨e, rfl⟩ := canonical
        exact namesOnce_bytes e v parsed
    exact ⟨not_mem_of_normalize parsed distinct, normalize_of_not_mem parsed⟩

theorem normalize_escaped_apostrophe :
    normalize (Text.encode "[\"it\\u0027s\"]") = .ok (ofValue (.array [.string "it's"])) :=
  (normalize_eq_ofBytes_iff rfl).1 (by decide)

/-- Of two canonical texts one is refused, and the other is taken for a list of two strings. -/
theorem normalize_bytes_apostrophe :
    ((ofValue (.array [.string "it's"])).bytes = Text.encode "[\"it's\"]" ∧
      ofBytes (Text.encode "[\"it's\"]") = .ok (ofValue (.array [.string "it's"])) ∧
      ∀ d, normalize (Text.encode "[\"it's\"]") ≠ .ok d) ∧
    ((ofValue (.array [.string "a','b"])).bytes = Text.encode "[\"a','b\"]" ∧
      ofBytes (Text.encode "[\"a','b\"]") = .ok (ofValue (.array [.string "a','b"])) ∧
      normalize (Text.encode "[\"a','b\"]") = .ok (ofValue (.array [.string "a", .string "b"])) ∧
      ofValue (.array [.string "a','b"]) ≠ ofValue (.array [.string "a", .string "b"])) := by
  refine ⟨⟨rfl, rfl, ?_⟩, ⟨rfl, rfl, rfl, by decide⟩⟩
  intro d same
  cases same

end Herald.Document
