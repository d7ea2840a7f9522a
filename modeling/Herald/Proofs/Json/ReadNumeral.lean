import Herald.Proofs.Json.Grammar

/-!
The reader of numbers takes exactly the numerals of the grammar: what it reads is the text of one,
and it reads the text of every one whose number is in range, as long as what follows could not
belong to the number as well.
-/
namespace Herald.Json

/-- Starts with a byte that may stand in a number behind its first digit. -/
def continuesNumeral : List UInt8 → Bool
  | b :: _ => isDigit b || b = 0x2E || b = 0x65 || b = 0x45
  | [] => false

theorem startsWithDigit_of_not_continues {t : List UInt8} (h : continuesNumeral t = false) :
    startsWithDigit t = false := by
  cases t with
  | nil => rfl
  | cons b rest =>
    simp only [continuesNumeral, Bool.or_eq_false_iff] at h
    exact h.1.1.1

theorem startsWithDigit_dropWhile (t : List UInt8) :
    startsWithDigit (t.dropWhile isDigit) = false := by
  induction t with
  | nil => rfl
  | cons b rest ih =>
    rw [List.dropWhile_cons]
    split
    · exact ih
    · next h => simpa [startsWithDigit] using h

theorem isDigit_of_mem_takeWhile {t : List UInt8} : ∀ b ∈ t.takeWhile isDigit, isDigit b = true := by
  intro b hb
  exact (List.all_eq_true.1 List.all_takeWhile) b hb

theorem exists_digits (t : List UInt8) : ∃ ds rest, t = ds ++ rest ∧
    (∀ b ∈ ds, isDigit b = true) ∧ startsWithDigit rest = false :=
  ⟨t.takeWhile isDigit, t.dropWhile isDigit, List.takeWhile_append_dropWhile.symm,
    isDigit_of_mem_takeWhile, startsWithDigit_dropWhile t⟩

theorem dropWhile_digits {ds rest : List UInt8} (hds : ∀ b ∈ ds, isDigit b = true)
    (hrest : startsWithDigit rest = false) : (ds ++ rest).dropWhile isDigit = rest := by
  rw [List.dropWhile_append_of_pos hds]
  cases rest with
  | nil => rfl
  | cons b rest => exact List.dropWhile_cons_of_neg (by simpa [startsWithDigit] using hrest)

theorem takeWhile_digits {ds rest : List UInt8} (hds : ∀ b ∈ ds, isDigit b = true)
    (hrest : startsWithDigit rest = false) : (ds ++ rest).takeWhile isDigit = ds := by
  rw [List.takeWhile_append_of_pos hds]
  cases rest with
  | nil => simp
  | cons b rest =>
    rw [List.takeWhile_cons_of_neg (by simpa [startsWithDigit] using hrest), List.append_nil]

theorem takeDigits_append (limit s c : Nat) {ds rest : List UInt8}
    (hrest : startsWithDigit rest = false) :
    takeDigits limit s c (ds ++ rest) =
      { takeDigits limit s c ds with rest := (takeDigits limit s c ds).rest ++ rest } := by
  induction ds generalizing s c with
  | nil =>
    cases rest with
    | nil => rfl
    | cons b rest =>
      have hb : isDigit b = false := hrest
      simp [takeDigits, hb]
  | cons d ds ih =>
    simp only [List.cons_append, takeDigits]
    split
    · exact ih _ _
    · rfl

theorem takeDigits_count (limit s c : Nat) (ds : List UInt8) :
    takeDigits limit s c ds =
      { takeDigits limit s 0 ds with count := c + (takeDigits limit s 0 ds).count } := by
  induction ds generalizing s c with
  | nil => rfl
  | cons d ds ih =>
    simp only [takeDigits]
    split
    · rw [ih _ (c + 1), ih _ (0 + 1)]
      simp only [Taken.mk.injEq, and_true, true_and]
      omega
    · rfl

theorem isDigit_of_mem_rest {limit s c : Nat} {ds : List UInt8} (h : ∀ b ∈ ds, isDigit b = true) :
    ∀ b ∈ (takeDigits limit s c ds).rest, isDigit b = true := by
  induction ds generalizing s c with
  | nil => simp [takeDigits]
  | cons d ds ih =>
    unfold takeDigits
    split
    · exact ih fun b hb => h b (by simp [hb])
    · exact h

theorem count_pos_of_rest_nil {limit s : Nat} {d : UInt8} {ds : List UInt8}
    (h : (takeDigits limit s 0 (d :: ds)).rest = []) : (takeDigits limit s 0 (d :: ds)).count ≠ 0 := by
  unfold takeDigits at h ⊢
  split
  · rw [takeDigits_count]
    simp only [Nat.zero_add]
    omega
  · next out => simp [out] at h

theorem startsWithDigit_append {ds rest : List UInt8} (hds : ∀ b ∈ ds, isDigit b = true)
    (hrest : startsWithDigit rest = false) : startsWithDigit (ds ++ rest) = !ds.isEmpty := by
  cases ds with
  | nil => exact hrest
  | cons d ds => exact hds d (by simp)

theorem isDigit_bounds {b : UInt8} (h : isDigit b = true) : 0x30 ≤ b.toNat ∧ b.toNat ≤ 0x39 := by
  simp only [isDigit, Bool.and_eq_true, decide_eq_true_eq] at h
  exact ⟨UInt8.le_iff_toNat_le.1 h.1, UInt8.le_iff_toNat_le.1 h.2⟩

theorem digitValue_lt {b : UInt8} (h : isDigit b = true) : digitValue b < 10 := by
  have := isDigit_bounds h
  unfold digitValue
  omega

theorem takeDigits_first {limit : Nat} {b : UInt8} {ds : List UInt8} (hb : isDigit b = true)
    (fits : 10 ≤ limit) : takeDigits limit 0 0 (b :: ds) = takeDigits limit (digitValue b) 1 ds := by
  have := digitValue_lt hb
  have small : digitValue b < limit := by omega
  simp [takeDigits, hb, small]

theorem exponentSign_digits (s : Sign) {d : UInt8} (hd : isDigit d = true) (rest : List UInt8) :
    exponentSign (s.text ++ d :: rest) = (decide (s = .minus), d :: rest) := by
  have hplus : d ≠ 0x2B := fun e => by subst e; exact absurd hd (by decide)
  have hminus : d ≠ 0x2D := fun e => by subst e; exact absurd hd (by decide)
  cases s <;> simp [Sign.text, exponentSign, hplus, hminus]

theorem exists_exponentSign (t : List UInt8) :
    ∃ s u, t = Sign.text s ++ u ∧ exponentSign t = (decide (s = .minus), u) := by
  cases t with
  | nil => exact ⟨.none, [], rfl, rfl⟩
  | cons b rest =>
    by_cases plus : b = 0x2B
    · exact ⟨.plus, rest, by rw [plus]; rfl, by simp [exponentSign, plus]⟩
    by_cases minus : b = 0x2D
    · exact ⟨.minus, rest, by rw [minus]; rfl, by simp [exponentSign, minus]⟩
    · exact ⟨.none, b :: rest, rfl, by simp [exponentSign, plus, minus]⟩

theorem finish_eq (negative : Bool) (significand : Nat) (exponent : Int) (rest : List UInt8) :
    finish negative significand exponent rest =
      match scaled? negative significand exponent with
      | some n => .ok (n, rest)
      | none => .error (.here .outOfRange rest) := by
  unfold finish scaled?
  cases ofParts significand exponent <;> rfl

theorem finish_eq_ok {negative : Bool} {significand : Nat} {exponent : Int} {t rest : List UInt8}
    {n : Number} : finish negative significand exponent t = .ok (n, rest) ↔
      scaled? negative significand exponent = some n ∧ t = rest := by
  rw [finish_eq]
  cases scaled? negative significand exponent <;> simp

theorem exponentPart_digits (negative : Bool) (significand : Nat) (start : Int) (s : Sign)
    {d : UInt8} {ds rest : List UInt8} (hds : ∀ b ∈ d :: ds, isDigit b = true)
    (hrest : startsWithDigit rest = false) :
    exponentPart negative significand start (s.text ++ (d :: ds ++ rest)) =
      let taken := takeDigits exponentLimit 0 0 (d :: ds)
      if taken.rest = [] then
        finish negative significand (clampExponent
          (if s = .minus then start - taken.significand else start + taken.significand)) rest
      else if significand ≠ 0 ∧ s ≠ .minus then
        .error (.here .outOfRange (taken.rest ++ rest).tail)
      else .ok (.float (signed negative 0.0), rest) := by
  have hd : isDigit d = true := hds d (by simp)
  have first : (takeDigits exponentLimit (digitValue d) 0 (ds ++ rest)) =
      { takeDigits exponentLimit 0 0 (d :: ds) with
        count := (takeDigits exponentLimit (digitValue d) 0 ds).count
        rest := (takeDigits exponentLimit 0 0 (d :: ds)).rest ++ rest } := by
    rw [takeDigits_append _ _ _ hrest, takeDigits_first hd (by decide),
      takeDigits_count _ _ 1]
  have digits : ∀ b ∈ (takeDigits exponentLimit 0 0 (d :: ds)).rest, isDigit b = true :=
    isDigit_of_mem_rest hds
  unfold exponentPart
  rw [List.cons_append, exponentSign_digits s hd]
  simp only [hd, Bool.not_true, Bool.false_eq_true, if_false, first]
  rw [startsWithDigit_append digits hrest, dropWhile_digits digits hrest]
  cases (takeDigits exponentLimit 0 0 (d :: ds)).rest <;> simp

theorem exponentPart_sound {negative : Bool} {significand : Nat} {start : Int} {t rest : List UInt8}
    {n : Number} (h : exponentPart negative significand start t = .ok (n, rest)) (capital : Bool) :
    ∃ e : Exponent, e.capital = capital ∧ t = e.sign.text ++ (e.digits ++ rest) ∧
      e.number? negative significand start = some n := by
  obtain ⟨s, u, rfl, hs⟩ := exists_exponentSign t
  obtain ⟨ds, u, rfl, hds, hrest⟩ := exists_digits u
  cases ds with
  | nil =>
    rw [List.nil_append] at h hs
    unfold exponentPart at h
    rw [hs] at h
    cases u with
    | nil => simp at h
    | cons b u =>
      have hb : isDigit b = false := hrest
      simp [hb] at h
  | cons d ds =>
    rw [exponentPart_digits negative significand start s hds hrest] at h
    let e : Exponent := ⟨capital, s, d :: ds, hds, List.cons_ne_nil d ds⟩
    dsimp only at h
    split at h
    · next all =>
      obtain ⟨number, rfl⟩ := finish_eq_ok.1 h
      exact ⟨e, rfl, rfl, by simp only [e, Exponent.number?, all, if_true, number]⟩
    split at h
    · contradiction
    · next some_left small =>
      cases h
      exact ⟨e, rfl, rfl, by simp only [e, Exponent.number?, some_left, small, if_false]⟩

theorem exponentPart_complete {e : Exponent} {negative : Bool} {significand : Nat} {start : Int}
    {n : Number} (h : e.number? negative significand start = some n) {rest : List UInt8}
    (hrest : startsWithDigit rest = false) :
    exponentPart negative significand start (e.sign.text ++ (e.digits ++ rest)) = .ok (n, rest) := by
  obtain ⟨capital, s, digits, hds, ne⟩ := e
  cases digits with
  | nil => exact absurd rfl ne
  | cons d ds =>
    dsimp only
    rw [exponentPart_digits negative significand start s hds hrest]
    unfold Exponent.number? at h
    dsimp only at h ⊢
    split at h
    · next all =>
      rw [if_pos all]
      exact finish_eq_ok.2 ⟨h, rfl⟩
    split at h
    · contradiction
    · next some_left small =>
      rw [if_neg some_left, if_neg small, Option.some.inj h]

theorem continuesNumeral_letter (e : Exponent) (rest : List UInt8) :
    ∃ b, e.text ++ rest = b :: (e.sign.text ++ (e.digits ++ rest)) ∧ (b = 0x65 ∨ b = 0x45) := by
  unfold Exponent.text
  cases e.capital
  · exact ⟨0x65, by simp, .inl rfl⟩
  · exact ⟨0x45, by simp, .inr rfl⟩

theorem afterDigits_sound {negative : Bool} {significand : Nat} {exponent : Int} {t rest : List UInt8}
    {n : Number} (h : afterDigits negative significand exponent t = .ok (n, rest)) :
    ∃ o, t = exponentText o ++ rest ∧ powered? negative significand exponent o = some n := by
  cases t with
  | nil =>
    obtain ⟨number, rfl⟩ := finish_eq_ok.1 h
    exact ⟨none, rfl, number⟩
  | cons b t =>
    rw [afterDigits] at h
    split at h
    · next letter =>
      obtain ⟨e, capital, rfl, number⟩ := exponentPart_sound h (decide (b = 0x45))
      refine ⟨some e, ?_, number⟩
      simp only [Bool.or_eq_true, decide_eq_true_eq] at letter
      obtain rfl | rfl := letter <;> simp [exponentText, Exponent.text, capital]
    · obtain ⟨number, rfl⟩ := finish_eq_ok.1 h
      exact ⟨none, rfl, number⟩

theorem afterDigits_complete {negative : Bool} {significand : Nat} {exponent : Int}
    {o : Option Exponent} {n : Number} (h : powered? negative significand exponent o = some n)
    {rest : List UInt8} (hrest : continuesNumeral rest = false) :
    afterDigits negative significand exponent (exponentText o ++ rest) = .ok (n, rest) := by
  cases o with
  | none =>
    have done : finish negative significand exponent rest = .ok (n, rest) :=
      finish_eq_ok.2 ⟨h, rfl⟩
    cases rest with
    | nil => exact done
    | cons b rest =>
      simp only [continuesNumeral, Bool.or_eq_false_iff] at hrest
      simp [exponentText, afterDigits, hrest, done]
  | some e =>
    obtain ⟨b, text, letter⟩ := continuesNumeral_letter e rest
    have read := exponentPart_complete h (startsWithDigit_of_not_continues hrest)
    simp only [exponentText, text, afterDigits]
    rw [if_pos (by simpa using letter), read]

theorem startsWithDigit_exponentText (o : Option Exponent) {rest : List UInt8}
    (hrest : continuesNumeral rest = false) : startsWithDigit (exponentText o ++ rest) = false := by
  cases o with
  | none => exact startsWithDigit_of_not_continues hrest
  | some e =>
    obtain ⟨b, text, letter⟩ := continuesNumeral_letter e rest
    rw [exponentText, text]
    obtain rfl | rfl := letter <;> rfl

theorem fractionPart_digits (negative : Bool) (significand : Nat) (exponent : Int) {d : UInt8}
    {ds rest : List UInt8} (hds : ∀ b ∈ d :: ds, isDigit b = true)
    (hrest : startsWithDigit rest = false) :
    fractionPart negative significand exponent (d :: ds ++ rest) =
      let taken := takeDigits wordLimit significand 0 (d :: ds)
      afterDigits negative taken.significand (exponent - taken.count) rest := by
  have digits : ∀ b ∈ (takeDigits wordLimit significand 0 (d :: ds)).rest, isDigit b = true :=
    isDigit_of_mem_rest hds
  unfold fractionPart
  rw [takeDigits_append _ _ _ hrest]
  dsimp only
  rw [startsWithDigit_append digits hrest, dropWhile_digits digits hrest]
  cases left : (takeDigits wordLimit significand 0 (d :: ds)).rest with
  | nil => simp [count_pos_of_rest_nil left]
  | cons c left => simp

theorem fractionPart_sound {negative : Bool} {significand : Nat} {exponent : Int}
    {t rest : List UInt8} {n : Number}
    (h : fractionPart negative significand exponent t = .ok (n, rest)) :
    ∃ ds o, ds ≠ [] ∧ (∀ b ∈ ds, isDigit b = true) ∧ t = ds ++ (exponentText o ++ rest) ∧
      powered? negative (takeDigits wordLimit significand 0 ds).significand
        (exponent - (takeDigits wordLimit significand 0 ds).count) o = some n := by
  obtain ⟨ds, u, rfl, hds, hrest⟩ := exists_digits t
  cases ds with
  | nil =>
    rw [List.nil_append] at h
    have none_taken : takeDigits wordLimit significand 0 u = ⟨significand, 0, u⟩ :=
      @takeDigits_append wordLimit significand 0 [] u hrest
    unfold fractionPart at h
    rw [none_taken] at h
    cases u <;> simp [hrest] at h
  | cons d ds =>
    rw [fractionPart_digits negative significand exponent hds hrest] at h
    obtain ⟨o, rfl, number⟩ := afterDigits_sound h
    exact ⟨d :: ds, o, List.cons_ne_nil d ds, hds, rfl, number⟩

theorem fractionPart_complete {negative : Bool} {significand : Nat} {exponent : Int}
    {ds : List UInt8} (ne : ds ≠ []) (hds : ∀ b ∈ ds, isDigit b = true) {o : Option Exponent}
    {n : Number}
    (h : powered? negative (takeDigits wordLimit significand 0 ds).significand
      (exponent - (takeDigits wordLimit significand 0 ds).count) o = some n)
    {rest : List UInt8} (hrest : continuesNumeral rest = false) :
    fractionPart negative significand exponent (ds ++ (exponentText o ++ rest)) = .ok (n, rest) := by
  cases ds with
  | nil => exact absurd rfl ne
  | cons d ds =>
    rw [fractionPart_digits negative significand exponent hds (startsWithDigit_exponentText o hrest)]
    exact afterDigits_complete h hrest

def afterWhole (negative : Bool) (w : Taken) : Reader Number := fun t =>
  if w.rest = [] then afterInteger negative w.significand t
  else longInteger negative w.significand (w.rest ++ t)

theorem longInteger_point (negative : Bool) (significand : Nat) {left : List UInt8}
    (hleft : ∀ b ∈ left, isDigit b = true) (t : List UInt8) :
    longInteger negative significand (left ++ 0x2E :: t) =
      fractionPart negative significand left.length t := by
  have point : startsWithDigit (0x2E :: t) = false := rfl
  unfold longInteger
  rw [dropWhile_digits hleft point, takeWhile_digits hleft point]
  rfl

theorem longInteger_digits (negative : Bool) (significand : Nat) {left t : List UInt8}
    (hleft : ∀ b ∈ left, isDigit b = true) (ht : startsWithDigit t = false)
    (no_point : ∀ rest, t ≠ 0x2E :: rest) :
    longInteger negative significand (left ++ t) =
      afterDigits negative significand left.length t := by
  unfold longInteger
  rw [dropWhile_digits hleft ht, takeWhile_digits hleft ht]
  cases t with
  | nil => rfl
  | cons b rest =>
    have other : b ≠ 0x2E := fun e => no_point rest (by rw [e])
    simp [other]

theorem exponentText_ne_point (o : Option Exponent) {rest : List UInt8}
    (hrest : continuesNumeral rest = false) (u : List UInt8) :
    exponentText o ++ rest ≠ 0x2E :: u := by
  cases o with
  | none =>
    rintro rfl
    simp [continuesNumeral] at hrest
  | some e =>
    obtain ⟨b, text, letter⟩ := continuesNumeral_letter e rest
    rw [exponentText, text]
    obtain rfl | rfl := letter <;> simp

theorem afterWhole_sound {negative : Bool} {w : Taken} (hw : ∀ b ∈ w.rest, isDigit b = true)
    {t rest : List UInt8} (ht : startsWithDigit t = false) {n : Number}
    (h : afterWhole negative w t = .ok (n, rest)) :
    ∃ fraction o, (∀ b ∈ fraction, isDigit b = true) ∧
      t = fractionText fraction ++ (exponentText o ++ rest) ∧
      w.number? negative fraction o = some n := by
  have pointed {u : List UInt8} (point : t = 0x2E :: u)
      (read : fractionPart negative w.significand w.rest.length u = .ok (n, rest)) :
      ∃ fraction o, (∀ b ∈ fraction, isDigit b = true) ∧
        t = fractionText fraction ++ (exponentText o ++ rest) ∧
        w.number? negative fraction o = some n := by
    obtain ⟨ds, o, ne, hds, rfl, number⟩ := fractionPart_sound read
    exact ⟨ds, o, hds, by simp [point, fractionText, ne], by simpa [Taken.number?, ne] using number⟩
  unfold afterWhole at h
  split at h
  · next all =>
    cases t with
    | nil =>
      cases h
      exact ⟨[], none, by simp, rfl, by simp [Taken.number?, all]⟩
    | cons b t =>
      rw [afterInteger] at h
      split at h
      · next point =>
        subst point
        exact pointed rfl (by rw [all]; exact h)
      split at h
      · next letter =>
        obtain ⟨e, capital, rfl, number⟩ := exponentPart_sound h (decide (b = 0x45))
        refine ⟨[], some e, by simp, ?_, by simpa [Taken.number?, all, takeDigits, powered?] using number⟩
        simp only [Bool.or_eq_true, decide_eq_true_eq] at letter
        obtain rfl | rfl := letter <;> simp [fractionText, exponentText, Exponent.text, capital]
      · cases h
        exact ⟨[], none, by simp, rfl, by simp [Taken.number?, all]⟩
  · next some_left =>
    by_cases point : ∃ u, t = 0x2E :: u
    · obtain ⟨u, rfl⟩ := point
      rw [longInteger_point negative w.significand hw] at h
      exact pointed rfl h
    · rw [longInteger_digits negative w.significand hw ht fun u e => point ⟨u, e⟩] at h
      obtain ⟨o, rfl, number⟩ := afterDigits_sound h
      exact ⟨[], o, by simp, rfl, by simpa [Taken.number?, some_left, takeDigits] using number⟩

theorem afterWhole_complete {negative : Bool} {w : Taken} (hw : ∀ b ∈ w.rest, isDigit b = true)
    {fraction : List UInt8} (hf : ∀ b ∈ fraction, isDigit b = true) {o : Option Exponent}
    {n : Number} (h : w.number? negative fraction o = some n) {rest : List UInt8}
    (hrest : continuesNumeral rest = false) :
    afterWhole negative w (fractionText fraction ++ (exponentText o ++ rest)) = .ok (n, rest) := by
  by_cases hfraction : fraction = []
  · subst hfraction
    have hdigit := startsWithDigit_exponentText o hrest
    simp only [Taken.number?, takeDigits, true_and] at h
    simp only [fractionText, if_true, List.nil_append, afterWhole]
    split
    · next all =>
      cases o with
      | none =>
        simp only [all, and_self, if_true, Option.some.injEq] at h
        subst h
        cases rest with
        | nil => rfl
        | cons b rest =>
          simp only [continuesNumeral, Bool.or_eq_false_iff, decide_eq_false_iff_not] at hrest
          simp [exponentText, afterInteger, hrest]
      | some e =>
        obtain ⟨b, text, letter⟩ := continuesNumeral_letter e rest
        have number : e.number? negative w.significand 0 = some n := by
          simpa [all, powered?] using h
        have read := exponentPart_complete number (startsWithDigit_of_not_continues hrest)
        rw [exponentText, text]
        obtain rfl | rfl := letter <;> simp [afterInteger, read]
    · next some_left =>
      have number : powered? negative w.significand w.rest.length o = some n := by
        simpa [some_left] using h
      rw [longInteger_digits negative w.significand hw hdigit (exponentText_ne_point o hrest)]
      exact afterDigits_complete number hrest
  · simp only [Taken.number?, hfraction, false_and, if_false] at h
    have read := fractionPart_complete hfraction hf h hrest
    simp only [fractionText, hfraction, if_false, List.cons_append, afterWhole]
    split
    · next all =>
      rw [all] at read
      simpa [afterInteger] using read
    · rw [longInteger_point negative w.significand hw]
      exact read

theorem numeral_digits (negative : Bool) {d : UInt8} {ds t : List UInt8}
    (hds : ∀ b ∈ d :: ds, isDigit b = true) (zero : d = 0x30 → ds = [])
    (ht : startsWithDigit t = false) :
    numeral negative (d :: ds ++ t) = afterWhole negative (takeDigits wordLimit 0 0 (d :: ds)) t := by
  have hd : isDigit d = true := hds d (by simp)
  have first : takeDigits wordLimit 0 0 (d :: ds) = takeDigits wordLimit (digitValue d) 1 ds :=
    takeDigits_first hd (by decide)
  have digits : ∀ b ∈ (takeDigits wordLimit 0 0 (d :: ds)).rest, isDigit b = true :=
    isDigit_of_mem_rest hds
  rw [List.cons_append, numeral]
  split
  · next e =>
    rw [zero e, List.nil_append, ht, e]
    rfl
  · have taken : takeDigits wordLimit (digitValue d) 0 (ds ++ t) =
        { takeDigits wordLimit 0 0 (d :: ds) with
          count := (takeDigits wordLimit (digitValue d) 0 ds).count
          rest := (takeDigits wordLimit 0 0 (d :: ds)).rest ++ t } := by
      rw [takeDigits_append _ _ _ ht, first, takeDigits_count _ _ 1]
    simp only [taken]
    rw [startsWithDigit_append digits ht]
    unfold afterWhole
    cases (takeDigits wordLimit 0 0 (d :: ds)).rest <;> simp

theorem numeral_sound {negative : Bool} {t rest : List UInt8} {n : Number}
    (h : numeral negative t = .ok (n, rest)) :
    ∃ x : Numeral, x.negative = negative ∧ t = x.magnitude ++ rest ∧ x.number? = some n := by
  obtain ⟨ds, u, rfl, hds, hu⟩ := exists_digits t
  cases ds with
  | nil =>
    rw [List.nil_append] at h
    cases u with
    | nil => simp [numeral] at h
    | cons b u =>
      have hb : isDigit b = false := hu
      have other : b ≠ 0x30 := fun e => by subst e; exact absurd hb (by decide)
      simp [numeral, hb, other] at h
  | cons d ds =>
    have zero : d = 0x30 → ds = [] := by
      intro e
      cases ds with
      | nil => rfl
      | cons c ds =>
        have hc : isDigit c = true := hds c (by simp)
        simp [e, numeral, startsWithDigit, hc] at h
    rw [numeral_digits negative hds zero hu] at h
    obtain ⟨fraction, o, hf, rfl, number⟩ := afterWhole_sound (isDigit_of_mem_rest hds) hu h
    refine ⟨⟨negative, d :: ds, fraction, o, hds, hf, List.cons_ne_nil d ds, ?_⟩, rfl, ?_, number⟩
    · intro rest e
      obtain ⟨first, rfl⟩ := List.cons.inj e
      exact zero first
    · simp [Numeral.magnitude]

theorem numeral_complete {x : Numeral} {n : Number} (h : x.number? = some n) {rest : List UInt8}
    (hrest : continuesNumeral rest = false) :
    numeral x.negative (x.magnitude ++ rest) = .ok (n, rest) := by
  obtain ⟨negative, whole, fraction, o, hw, hf, ne, zero⟩ := x
  have behind : startsWithDigit (fractionText fraction ++ (exponentText o ++ rest)) = false := by
    unfold fractionText
    split
    · exact startsWithDigit_exponentText o hrest
    · rfl
  cases whole with
  | nil => exact absurd rfl ne
  | cons d ds =>
    have read := afterWhole_complete (isDigit_of_mem_rest hw) hf h hrest
    simp only [Numeral.magnitude, List.append_assoc]
    rw [numeral_digits negative hw (fun e => zero ds (by rw [e])) behind, read]

end Herald.Json
