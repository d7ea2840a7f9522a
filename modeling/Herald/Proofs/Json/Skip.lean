import Herald.Json.Skip
import Herald.Proofs.Json.Printed

/-!
What is passed over. Every value of the grammar is, however deep it nests, and the text behind it is
left as it is. The machine that does it is followed in runs: a run of some steps goes from one state to
another, runs are put together, and the run of a value takes at most two steps for each of its bytes.
-/
namespace Herald.Json

theorem skipString_complete {t bytes u : List UInt8} (h : StringText t bytes u) :
    skipString t = .ok u := by
  induction h with
  | close =>
    rw [skipString.eq_def]
    rfl
  | plain printable quote backslash _ ih =>
    rw [skipString.eq_def]
    simp [quote, backslash, UInt8.not_lt.2 printable, ih]
  | @short e c t s u short _ ih =>
    have not_unit : e ≠ 0x75 := by
      rintro rfl
      rw [shortEscape?_unit] at short
      contradiction
    rw [skipString.eq_def]
    simp [not_unit, short, ih]
  | unit digits _ _ _ ih =>
    rw [skipString.eq_def]
    simp [digits, ih]
  | pair first _ second _ _ ih =>
    -- The halves of a pair are two escapes here.
    rw [skipString.eq_def]
    simp only [first, Option.isSome_some, if_true]
    rw [skipString.eq_def]
    simp [second, ih]

theorem skipExponent_complete (e : Exponent) {u : List UInt8} (behind : continuesNumeral u = false) :
    skipExponent (e.sign.text ++ (e.digits ++ u)) = .ok u := by
  have stop := startsWithDigit_of_not_continues behind
  cases digits : e.digits with
  | nil => exact absurd digits e.digits_ne_nil
  | cons d ds =>
    have all : ∀ b ∈ d :: ds, isDigit b = true := digits ▸ e.isDigit_of_mem
    unfold skipExponent
    rw [List.cons_append, exponentSign_digits e.sign (all d (by simp))]
    simp only [all d (by simp), if_true]
    rw [dropWhile_digits (fun b mem => all b (by simp [mem])) stop]

theorem skipTail_complete (o : Option Exponent) {u : List UInt8} (behind : continuesNumeral u = false) :
    (match exponentText o ++ u with
      | c :: rest => if c = 0x65 || c = 0x45 then skipExponent rest else .ok (c :: rest)
      | [] => .ok []) = .ok u := by
  cases o with
  | none =>
    cases u with
    | nil => rfl
    | cons c rest =>
      simp only [continuesNumeral, Bool.or_eq_false_iff] at behind
      simp [exponentText, behind]
  | some e =>
    obtain ⟨b, text, letter⟩ := continuesNumeral_letter e u
    rw [exponentText, text]
    dsimp only
    rw [if_pos (by simpa using letter), skipExponent_complete e behind]

theorem skipFraction_complete {ds : List UInt8} (digits : ∀ b ∈ ds, isDigit b = true) (some : ds ≠ [])
    (o : Option Exponent) {u : List UInt8} (behind : continuesNumeral u = false) :
    skipFraction (ds ++ (exponentText o ++ u)) = .ok u := by
  have stop := startsWithDigit_exponentText o behind
  unfold skipFraction
  rw [startsWithDigit_append digits stop, dropWhile_digits digits stop]
  rw [if_pos (by simpa using some)]
  exact skipTail_complete o behind

theorem skipNumeral_complete (x : Numeral) {u : List UInt8} (behind : continuesNumeral u = false) :
    skipNumeral (x.magnitude ++ u) = .ok u := by
  have stop := startsWithDigit_exponentText x.exponent behind
  have point : startsWithDigit (fractionText x.fraction ++ (exponentText x.exponent ++ u)) = false := by
    unfold fractionText
    split
    · exact stop
    · rfl
  unfold Numeral.magnitude
  cases whole : x.whole with
  | nil => exact absurd whole x.whole_ne_nil
  | cons d ds =>
    have digits : ∀ b ∈ d :: ds, isDigit b = true := whole ▸ x.isDigit_of_mem_whole
    have tail : ∀ b ∈ ds, isDigit b = true := fun b mem => digits b (by simp [mem])
    have zero : ¬ (d = 0x30 && startsWithDigit (ds ++ (fractionText x.fraction ++
        (exponentText x.exponent ++ u)))) = true := by
      simp only [Bool.and_eq_true, decide_eq_true_eq]
      rintro ⟨rfl, more⟩
      rw [x.no_leading_zero ds whole, List.nil_append, point] at more
      contradiction
    rw [List.cons_append, List.cons_append, List.append_assoc, List.append_assoc]
    unfold skipNumeral
    simp only [digits d (by simp), Bool.not_true, Bool.false_eq_true, if_false, if_neg zero]
    rw [dropWhile_digits tail point]
    by_cases none : x.fraction = []
    · have done := skipTail_complete x.exponent behind
      have other := exponentText_ne_point x.exponent behind
      rw [fractionText, if_pos none, List.nil_append]
      cases text : exponentText x.exponent ++ u with
      | nil =>
        rw [text] at done
        exact done
      | cons c rest =>
        have letter : c ≠ 0x2E := by
          rintro rfl
          exact other rest text
        rw [text] at done
        simpa [letter] using done
    · rw [fractionText, if_neg none]
      exact skipFraction_complete x.isDigit_of_mem_fraction none x.exponent behind

def Leads (n : Nat) (brackets : List Bracket) (turn : Turn) (t : List UInt8) (brackets' : List Bracket)
    (turn' : Turn) (t' : List UInt8) : Prop :=
  ∀ fuel, skipIn (fuel + n) brackets turn t = skipIn fuel brackets' turn' t'

theorem Leads.trans {m n : Nat} {b b' b'' : List Bracket} {k k' k'' : Turn} {t t' t'' : List UInt8}
    (h : Leads m b k t b' k' t') (h' : Leads n b' k' t' b'' k'' t'') :
    Leads (m + n) b k t b'' k'' t'' := by
  intro fuel
  rw [Nat.add_comm m n, ← Nat.add_assoc, h, h']

section Steps

variable {outer : List Bracket} {s t u : List UInt8}

theorem leads_word {b : UInt8} {w : List UInt8} (lead : Blanks s (b :: (w ++ u)))
    (first : (b = 0x6E ∧ w = [0x75, 0x6C, 0x6C]) ∨ (b = 0x74 ∧ w = [0x72, 0x75, 0x65]) ∨
      (b = 0x66 ∧ w = [0x61, 0x6C, 0x73, 0x65])) :
    Leads 1 outer .value s outer (.next true) u := by
  intro fuel
  rw [skipIn]
  obtain ⟨rfl, rfl⟩ | ⟨rfl, rfl⟩ | ⟨rfl, rfl⟩ := first
  all_goals
    rw [skipSpace_eq lead (by decide)]
    simp [word, bind, Except.bind]

theorem leads_number (x : Numeral) (behind : continuesNumeral u = false)
    (lead : Blanks s (x.text ++ u)) : Leads 1 outer .value s outer (.next true) u := by
  have read := skipNumeral_complete x behind
  intro fuel
  rw [skipIn]
  obtain ⟨_, text⟩ | ⟨d, rest, digit, _, text, magnitude⟩ := text_append x u
  · rw [text] at lead
    rw [skipSpace_eq lead (by decide)]
    simp [read, bind, Except.bind]
  · rw [text] at lead
    rw [magnitude] at read
    rw [skipSpace_eq lead (isSpace_of_isDigit digit)]
    have null : d ≠ 0x6E := by rintro rfl; exact absurd digit (by decide)
    have true : d ≠ 0x74 := by rintro rfl; exact absurd digit (by decide)
    have false : d ≠ 0x66 := by rintro rfl; exact absurd digit (by decide)
    have minus : d ≠ 0x2D := by rintro rfl; exact absurd digit (by decide)
    simp [null, true, false, minus, digit, read, bind, Except.bind]

theorem leads_string {bytes : List UInt8} (lead : Blanks s (0x22 :: t)) (text : StringText t bytes u) :
    Leads 1 outer .value s outer (.next true) u := by
  have read := skipString_complete text
  intro fuel
  rw [skipIn, skipSpace_eq lead (by decide)]
  simp [isDigit, read, bind, Except.bind]

theorem leads_open {b : Bracket} (lead : Blanks s ((match b with | .list => 0x5B | .object => 0x7B) :: t)) :
    Leads 1 outer .value s (b :: outer) (.next false) t := by
  intro fuel
  cases b with
  | list =>
    rw [skipIn, skipSpace_eq lead (by decide)]
    simp [isDigit]
  | object =>
    rw [skipIn, skipSpace_eq lead (by decide)]
    simp [isDigit]

theorem leads_close {b : Bracket} {comma : Bool} (lead : Blanks s (b.close :: u)) :
    Leads 1 (b :: outer) (.next comma) s outer (.next true) u := by
  have solid : isSpace b.close = false := by cases b <;> rfl
  intro fuel
  rw [skipIn, skipSpace_eq lead solid]
  simp

theorem lead_object {name : String} (named : NameText t name u) : Bracket.object.lead t = .ok u := by
  obtain ⟨before, text, _, colon⟩ := named
  rw [Bracket.lead, skipSpace_eq before (by decide)]
  simp [skipString_complete text, colon_complete colon, bind, Except.bind]

theorem leads_item (outer : List Bracket) {first : Bool} {t₁ : List UInt8} {v : Value} (lead : ItemLead first s t)
    (blanks : Blanks t t₁) (h : Denotes [] t₁ v u) : ∃ t', Blanks t' t₁ ∧
      Leads 1 (.list :: outer) (.next (!first)) s (.list :: outer) .value t' := by
  obtain ⟨b, rest, rfl, solid, other⟩ := denotes_head h
  cases first with
  | true =>
    obtain rfl : s = t := lead
    refine ⟨b :: rest, .nil, ?_⟩
    intro fuel
    rw [skipIn, skipSpace_eq blanks solid]
    simp [Bracket.close, Bracket.lead, other, bind, Except.bind]
  | false =>
    have comma : Blanks s (0x2C :: t) := lead
    refine ⟨t, blanks, ?_⟩
    intro fuel
    rw [skipIn, skipSpace_eq comma (by decide)]
    simp [Bracket.close, Bracket.lead, bind, Except.bind]

theorem leads_member {first : Bool} {name : String} (lead : ItemLead first s t)
    (named : NameText t name u) :
    Leads 1 (.object :: outer) (.next (!first)) s (.object :: outer) .value u := by
  intro fuel
  cases first with
  | true =>
    obtain rfl : s = t := lead
    obtain ⟨before, text, decoded, colon⟩ := named
    have passed := lead_object (.mk .nil text decoded colon)
    rw [skipIn, skipSpace_eq before (by decide)]
    simp [Bracket.close, passed, bind, Except.bind]
  | false =>
    have comma : Blanks s (0x2C :: t) := lead
    have passed := lead_object named
    rw [skipIn, skipSpace_eq comma (by decide)]
    simp [Bracket.close, passed, bind, Except.bind]

end Steps

mutual

theorem leads_value : {t : List UInt8} → {v : Value} → {u : List UInt8} → Denotes [] t v u →
    continuesNumeral u = false → ∀ s outer, Blanks s t →
    ∃ n, n + 2 * u.length ≤ 2 * t.length ∧ Leads n outer .value s outer (.next true) u
  | _, _, u, .null, _, s, outer, lead =>
    ⟨1, by simp only [List.length_cons]; omega, leads_word lead (.inl ⟨rfl, rfl⟩)⟩
  | _, _, _, .word mem, _, _, _, _ => by simp at mem
  | _, _, u, .true, _, s, outer, lead =>
    ⟨1, by simp only [List.length_cons]; omega, leads_word lead (.inr (.inl ⟨rfl, rfl⟩))⟩
  | _, _, u, .false, _, s, outer, lead =>
    ⟨1, by simp only [List.length_cons]; omega, leads_word lead (.inr (.inr ⟨rfl, rfl⟩))⟩
  | _, _, u, @Denotes.number _ x _ _ _, behind, s, outer, lead => by
    obtain ⟨b, rest, text, _⟩ := text_head x
    refine ⟨1, ?_, leads_number x behind lead⟩
    rw [text, List.cons_append, List.length_cons, List.length_append]
    omega
  | _, _, u, .string text decoded, _, s, outer, lead => by
    have shorter := length_stringText text
    exact ⟨1, by rw [List.length_cons]; omega, leads_string lead text⟩
  | _, _, u, .emptyList close, _, s, outer, lead => by
    have shorter := (respected_length []).blanks close
    rw [List.length_cons] at shorter
    exact ⟨1 + 1, by rw [List.length_cons]; omega,
      (leads_open (b := .list) lead).trans (leads_close (b := .list) close)⟩
  | _, _, u, .list items, _, s, outer, lead => by
    obtain ⟨n, few, leads⟩ := leads_items items true _ outer rfl
    exact ⟨1 + n, by rw [List.length_cons]; omega, (leads_open (b := .list) lead).trans leads⟩
  | _, _, u, .emptyObject close, _, s, outer, lead => by
    have shorter := (respected_length []).blanks close
    rw [List.length_cons] at shorter
    exact ⟨1 + 1, by rw [List.length_cons]; omega,
      (leads_open (b := .object) lead).trans (leads_close (b := .object) close)⟩
  | _, _, u, .object members, _, s, outer, lead => by
    obtain ⟨n, few, leads⟩ := leads_members members true _ outer rfl
    exact ⟨1 + n, by rw [List.length_cons]; omega, (leads_open (b := .object) lead).trans leads⟩

theorem leads_items : {t : List UInt8} → {vs : List Value} → {u : List UInt8} →
    DenotesItems [] t vs u → ∀ first s outer, ItemLead first s t →
    ∃ n, n + 2 * u.length ≤ 2 * t.length ∧
      Leads n (.list :: outer) (.next (!first)) s outer (.next true) u
  | _, _, u, .last blanks h close, first, s, outer, lead => by
    obtain ⟨t', blanks', here⟩ := leads_item outer lead blanks h
    obtain ⟨n, few, value⟩ := leads_value h (continuesNumeral_of_blanks close rfl) t' (.list :: outer) blanks'
    have h₁ := (respected_length []).blanks blanks
    have h₂ := (respected_length []).blanks close
    rw [List.length_cons] at h₂
    exact ⟨1 + n + 1, by omega, (here.trans value).trans (leads_close (b := .list) close)⟩
  | _, _, u, .next blanks h comma more, first, s, outer, lead => by
    obtain ⟨t', blanks', here⟩ := leads_item outer lead blanks h
    obtain ⟨n, few, value⟩ := leads_value h (continuesNumeral_of_blanks comma rfl) t' (.list :: outer) blanks'
    obtain ⟨m, few', others⟩ := leads_items more false _ outer comma
    have h₁ := (respected_length []).blanks blanks
    have h₂ := (respected_length []).blanks comma
    rw [List.length_cons] at h₂
    exact ⟨1 + n + m, by omega, (here.trans value).trans others⟩

theorem leads_members : {t : List UInt8} → {ms : List (String × Value)} → {u : List UInt8} →
    DenotesMembers [] t ms u → ∀ first s outer, ItemLead first s t →
    ∃ n, n + 2 * u.length ≤ 2 * t.length ∧
      Leads n (.object :: outer) (.next (!first)) s outer (.next true) u
  | _, _, u, .last name blanks h close, first, s, outer, lead => by
    obtain ⟨n, few, value⟩ := leads_value h (continuesNumeral_of_blanks close rfl) _ (.object :: outer) blanks
    have h₀ := (respected_length []).name name
    have h₁ := (respected_length []).blanks blanks
    have h₂ := (respected_length []).blanks close
    rw [List.length_cons] at h₂
    exact ⟨1 + n + 1, by omega, ((leads_member lead name).trans value).trans (leads_close (b := .object) close)⟩
  | _, _, u, .next name blanks h comma more, first, s, outer, lead => by
    obtain ⟨n, few, value⟩ := leads_value h (continuesNumeral_of_blanks comma rfl) _ (.object :: outer) blanks
    obtain ⟨m, few', others⟩ := leads_members more false _ outer comma
    have h₀ := (respected_length []).name name
    have h₁ := (respected_length []).blanks blanks
    have h₂ := (respected_length []).blanks comma
    rw [List.length_cons] at h₂
    exact ⟨1 + n + m, by omega, ((leads_member lead name).trans value).trans others⟩

end

/-- Every value is passed over, and nothing behind it. -/
theorem skip_complete {s t u : List UInt8} {v : Value} (lead : Blanks s t) (h : Denotes [] t v u)
    (behind : continuesNumeral u = false) : skip s = .ok u := by
  obtain ⟨n, few, leads⟩ := leads_value h behind s [] lead
  have shorter := (respected_length []).blanks lead
  unfold skip
  obtain ⟨spare, enough⟩ : ∃ spare, 2 * s.length + 2 = (spare + 1) + n :=
    ⟨2 * s.length + 1 - n, by omega⟩
  rw [enough, leads (spare + 1)]
  rfl

end Herald.Json
