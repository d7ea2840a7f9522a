import Herald.Json.Reader
import Herald.Proofs.Json.Phrases
import Herald.Proofs.Json.ReadString

/-!
The reader of JSON accepts exactly the texts of the grammar whose brackets do not nest too deep, and
gives the value they spell. Both halves follow the reader: blanks and brackets first, then lists and
objects over a reader of their parts, then values by induction on the depth that is left.
-/
namespace Herald.Json

theorem blanks_skipSpace (t : List UInt8) : Blanks t (skipSpace t) := by
  unfold skipSpace
  induction t with
  | nil => exact .nil
  | cons b t ih =>
    rw [List.dropWhile_cons]
    split
    · next space => exact .cons space ih
    · exact .nil

theorem Blanks.trans {t u w : List UInt8} (h : Blanks t u) (k : Blanks u w) : Blanks t w := by
  induction h with
  | nil => exact k
  | cons space _ ih => exact .cons space (ih k)

theorem skipSpace_cons {b : UInt8} (h : isSpace b = false) (t : List UInt8) :
    skipSpace (b :: t) = b :: t := by
  simp [skipSpace, h]

theorem skipSpace_of_blanks {t u : List UInt8} (h : Blanks t u) : skipSpace t = skipSpace u := by
  induction h with
  | nil => rfl
  | cons space _ ih => simpa [skipSpace, space] using ih

theorem skipSpace_eq {t u : List UInt8} {b : UInt8} (h : Blanks t (b :: u))
    (other : isSpace b = false) : skipSpace t = b :: u := by
  rw [skipSpace_of_blanks h, skipSpace_cons other]

/-- Reads values of the grammar, nested up to `depth`, with blanks before them. -/
def ReadsOnly (item : Reader Value) (depth : Nat) : Prop :=
  ∀ t v u, item t = .ok (v, u) → ∃ t₁, Blanks t t₁ ∧ Denotes [] t₁ v u ∧ v.depth ≤ depth

def ItemsBehind (t : List UInt8) (vs : List Value) (u : List UInt8) : Prop :=
  (vs = [] ∧ Blanks t (0x5D :: u)) ∨ ∃ t₁, Blanks t (0x2C :: t₁) ∧ DenotesItems [] t₁ vs u

def MembersBehind (t : List UInt8) (ms : List (String × Value)) (u : List UInt8) : Prop :=
  (ms = [] ∧ Blanks t (0x7D :: u)) ∨ ∃ t₁, Blanks t (0x2C :: t₁) ∧ DenotesMembers [] t₁ ms u

theorem denotesItems_cons {t t₁ t₂ u : List UInt8} {v : Value} {vs : List Value} (h : Blanks t t₁)
    (hv : Denotes [] t₁ v t₂) (hs : ItemsBehind t₂ vs u) : DenotesItems [] t (v :: vs) u := by
  obtain ⟨rfl, close⟩ | ⟨t₃, comma, items⟩ := hs
  · exact .last h hv close
  · exact .next h hv comma items

theorem denotesMembers_cons {t t₀ t₁ t₂ u : List UInt8} {name : String} {v : Value}
    {ms : List (String × Value)} (hn : NameText t name t₀) (h : Blanks t₀ t₁)
    (hv : Denotes [] t₁ v t₂) (hs : MembersBehind t₂ ms u) :
    DenotesMembers [] t ((name, v) :: ms) u := by
  obtain ⟨rfl, close⟩ | ⟨t₃, comma, members⟩ := hs
  · exact .last hn h hv close
  · exact .next hn h hv comma members

theorem itemTurn_sound {first more : Bool} {t u : List UInt8}
    (h : itemTurn first t = .ok (more, u)) :
    (more = false ∧ Blanks t u ∧ ∃ rest, u = 0x5D :: rest) ∨
      (more = true ∧ if first then Blanks t u else ∃ t₁, Blanks t (0x2C :: t₁) ∧ Blanks t₁ u) := by
  have blanks := blanks_skipSpace t
  unfold itemTurn at h
  split at h
  · contradiction
  · next b rest e =>
    rw [e] at blanks
    split at h
    · next bracket =>
      cases h
      exact .inl ⟨rfl, blanks, rest, by rw [bracket]⟩
    split at h
    · next start =>
      cases h
      exact .inr ⟨rfl, by simpa [start] using blanks⟩
    split at h
    · next start comma =>
      have behind := blanks_skipSpace rest
      split at h
      · contradiction
      · next c rest' e' =>
        rw [e'] at behind
        split at h
        · contradiction
        · cases h
          rw [comma] at blanks
          exact .inr ⟨rfl, by simpa [start] using ⟨rest, blanks, behind⟩⟩
    · contradiction

theorem memberTurn_sound {first more : Bool} {t u : List UInt8}
    (h : memberTurn first t = .ok (more, u)) :
    (more = false ∧ Blanks t u ∧ ∃ rest, u = 0x7D :: rest) ∨
      (more = true ∧ (∃ rest, u = 0x22 :: rest) ∧
        if first then Blanks t u else ∃ t₁, Blanks t (0x2C :: t₁) ∧ Blanks t₁ u) := by
  have blanks := blanks_skipSpace t
  unfold memberTurn at h
  split at h
  · contradiction
  · next b rest e =>
    rw [e] at blanks
    split at h
    · next brace =>
      cases h
      exact .inl ⟨rfl, blanks, rest, by rw [brace]⟩
    split at h
    · next start =>
      split at h
      · next quote =>
        cases h
        exact .inr ⟨rfl, ⟨rest, by rw [quote]⟩, by simpa [start] using blanks⟩
      · contradiction
    split at h
    · next start comma =>
      have behind := blanks_skipSpace rest
      split at h
      · contradiction
      · next c rest' e' =>
        rw [e'] at behind
        split at h
        · next quote =>
          cases h
          rw [comma] at blanks
          exact .inr ⟨rfl, ⟨rest', by rw [quote]⟩, by simpa [start] using ⟨rest, blanks, behind⟩⟩
        split at h <;> contradiction
    · contradiction

theorem items_sound {item : Reader Value} {depth : Nat} (read : ReadsOnly item depth) {first : Bool}
    {fuel : Nat} {t u : List UInt8} {vs : List Value} (h : items item first fuel t = .ok (vs, u)) :
    Value.depthItems vs ≤ depth ∧ ∃ rest, u = 0x5D :: rest ∧
      if first then (vs = [] ∧ Blanks t (0x5D :: rest)) ∨ DenotesItems [] t vs rest
      else ItemsBehind t vs rest := by
  induction fuel generalizing first t vs with
  | zero => contradiction
  | succ fuel ih =>
    simp only [items, bind_eq_ok_iff, Prod.exists] at h
    obtain ⟨more, t₁, turn, h⟩ := h
    obtain ⟨rfl, blanks, rest, rfl⟩ | ⟨rfl, lead⟩ := itemTurn_sound turn
    · cases h
      refine ⟨Nat.zero_le _, rest, rfl, ?_⟩
      split
      · exact .inl ⟨rfl, blanks⟩
      · exact .inl ⟨rfl, blanks⟩
    · simp only [if_true, bind_eq_ok_iff, Prod.exists] at h
      obtain ⟨v, t₂, hv, ws, t₃, hs, h⟩ := h
      cases h
      obtain ⟨t₁', lead', denotes, shallow⟩ := read _ _ _ hv
      obtain ⟨others, rest, rfl, behind⟩ := ih hs
      refine ⟨Nat.max_le.2 ⟨shallow, others⟩, rest, rfl, ?_⟩
      cases first with
      | true => exact .inr (denotesItems_cons (lead.trans lead') denotes behind)
      | false =>
        obtain ⟨t₀, comma, lead⟩ := lead
        exact .inr ⟨t₀, comma, denotesItems_cons (lead.trans lead') denotes behind⟩

theorem colon_sound {t u : List UInt8} (h : colon t = .ok u) : Blanks t (0x3A :: u) := by
  have blanks := blanks_skipSpace t
  unfold colon at h
  split at h
  · contradiction
  · next b rest e =>
    rw [e] at blanks
    split at h
    · next colon =>
      cases h
      rwa [colon] at blanks
    · contradiction

theorem members_sound {item : Reader Value} {depth : Nat} (read : ReadsOnly item depth)
    {first : Bool} {fuel : Nat} {t u : List UInt8} {ms : List (String × Value)}
    (h : members item first fuel t = .ok (ms, u)) :
    Value.depthMembers ms ≤ depth ∧ ∃ rest, u = 0x7D :: rest ∧
      if first then (ms = [] ∧ Blanks t (0x7D :: rest)) ∨ DenotesMembers [] t ms rest
      else MembersBehind t ms rest := by
  induction fuel generalizing first t ms with
  | zero => contradiction
  | succ fuel ih =>
    simp only [members, bind_eq_ok_iff, Prod.exists] at h
    obtain ⟨more, t₁, turn, h⟩ := h
    obtain ⟨rfl, blanks, rest, rfl⟩ | ⟨rfl, ⟨t₂, rfl⟩, lead⟩ := memberTurn_sound turn
    · cases h
      refine ⟨Nat.zero_le _, rest, rfl, ?_⟩
      split
      · exact .inl ⟨rfl, blanks⟩
      · exact .inl ⟨rfl, blanks⟩
    · simp only [if_true, bind_eq_ok_iff, Prod.exists] at h
      obtain ⟨name, t₃, hname, t₄, hcolon, v, t₅, hv, ns, t₆, hs, h⟩ := h
      cases h
      obtain ⟨bytes, text, decoded⟩ := string_eq_ok_iff.1 hname
      obtain ⟨t₄', lead', denotes, shallow⟩ := read _ _ _ hv
      obtain ⟨others, rest, rfl, behind⟩ := ih hs
      refine ⟨Nat.max_le.2 ⟨shallow, others⟩, rest, rfl, ?_⟩
      cases first with
      | true =>
        have named : NameText t name t₄ := .mk lead text decoded (colon_sound hcolon)
        exact .inr (denotesMembers_cons named lead' denotes behind)
      | false =>
        obtain ⟨t₀, comma, lead⟩ := lead
        have named : NameText t₀ name t₄ := .mk lead text decoded (colon_sound hcolon)
        exact .inr ⟨t₀, comma, denotesMembers_cons named lead' denotes behind⟩

theorem list_sound {item : Reader Value} {depth : Nat} (read : ReadsOnly item depth)
    {t u : List UInt8} {v : Value} (h : list item t = .ok (v, u)) :
    Denotes [] (0x5B :: t) v u ∧ v.depth ≤ depth + 1 := by
  simp only [list, bind_eq_ok_iff, Prod.exists] at h
  obtain ⟨vs, t₁, hs, t₂, close, h⟩ := h
  cases h
  obtain ⟨shallow, rest, rfl, behind⟩ := items_sound read hs
  obtain rfl : rest = u := Except.ok.inj close
  refine ⟨?_, Nat.succ_le_succ shallow⟩
  obtain ⟨rfl, blanks⟩ | items := behind
  · exact .emptyList blanks
  · exact .list items

theorem object_sound {item : Reader Value} {depth : Nat} (read : ReadsOnly item depth)
    {t u : List UInt8} {v : Value} (h : object item t = .ok (v, u)) :
    Denotes [] (0x7B :: t) v u ∧ v.depth ≤ depth + 1 := by
  simp only [object, bind_eq_ok_iff, Prod.exists] at h
  obtain ⟨ms, t₁, hs, t₂, close, h⟩ := h
  cases h
  obtain ⟨shallow, rest, rfl, behind⟩ := members_sound read hs
  obtain rfl : rest = u := Except.ok.inj close
  refine ⟨?_, Nat.succ_le_succ shallow⟩
  obtain ⟨rfl, blanks⟩ | members := behind
  · exact .emptyObject blanks
  · exact .object members

theorem numeral_denotes {negative : Bool} {t u : List UInt8} {n : Number}
    (h : numeral negative t = .ok (n, u)) :
    Denotes [] (if negative then 0x2D :: t else t) (.number n) u := by
  obtain ⟨x, rfl, rfl, number⟩ := numeral_sound h
  have denotes : Denotes [] (x.text ++ u) (.number n) u := .number number
  unfold Numeral.text at denotes
  split at denotes
  · next neg => simpa [neg] using denotes
  · next neg => simpa [neg] using denotes

theorem number_sound {negative : Bool} {t u : List UInt8} {v : Value}
    (h : (do let (n, rest) ← numeral negative t; return (.number n, rest)) = Except.ok (v, u)) :
    Denotes [] (if negative then 0x2D :: t else t) v u ∧ v.depth = 0 := by
  simp only [bind_eq_ok_iff, Prod.exists] at h
  obtain ⟨n, _, read, h⟩ := h
  cases h
  exact ⟨numeral_denotes read, rfl⟩

theorem word_sound {letters rest u : List UInt8} {v w : Value}
    (h : (do return (w, ← word letters rest)) = Except.ok (v, u)) : v = w ∧ rest = letters ++ u := by
  simp only [bind_eq_ok_iff] at h
  obtain ⟨_, behind, h⟩ := h
  cases h
  exact ⟨rfl, word_eq_ok_iff.1 behind⟩

theorem node_sound {part? : Option (Reader Value)} {depth : Nat}
    (read : ∀ part ∈ part?, ∃ d, depth = d + 1 ∧ ReadsOnly part d) :
    ReadsOnly (node part?) depth := by
  intro t v u h
  have blanks := blanks_skipSpace t
  refine ⟨skipSpace t, blanks, ?_⟩
  unfold node at h
  split at h
  · contradiction
  · next b rest e =>
    rw [e]
    split at h
    · next first =>
      obtain ⟨rfl, rfl⟩ := word_sound h
      rw [first]
      exact ⟨.null, Nat.zero_le _⟩
    split at h
    · next first =>
      obtain ⟨rfl, rfl⟩ := word_sound h
      rw [first]
      exact ⟨.true, Nat.zero_le _⟩
    split at h
    · next first =>
      obtain ⟨rfl, rfl⟩ := word_sound h
      rw [first]
      exact ⟨.false, Nat.zero_le _⟩
    split at h
    · next first =>
      obtain ⟨denotes, flat⟩ := number_sound h
      rw [first, flat]
      exact ⟨denotes, Nat.zero_le _⟩
    split at h
    · obtain ⟨denotes, flat⟩ := number_sound h
      rw [flat]
      exact ⟨denotes, Nat.zero_le _⟩
    split at h
    · next quote =>
      simp only [bind_eq_ok_iff, Prod.exists] at h
      obtain ⟨s, _, hs, h⟩ := h
      cases h
      obtain ⟨bytes, text, decoded⟩ := string_eq_ok_iff.1 hs
      rw [quote]
      exact ⟨.string text decoded, Nat.zero_le _⟩
    split at h
    · next bracket =>
      split at h
      · next part =>
        obtain ⟨d, rfl, reads⟩ := read part rfl
        rw [bracket]
        exact list_sound reads h
      · contradiction
    split at h
    · next brace =>
      split at h
      · next part =>
        obtain ⟨d, rfl, reads⟩ := read part rfl
        rw [brace]
        exact object_sound reads h
      · contradiction
    · contradiction

theorem value_sound (depth : Nat) : ReadsOnly (value depth) depth := by
  induction depth with
  | zero => exact node_sound (by simp)
  | succ depth ih => exact node_sound (by simpa using ih)

theorem continuesNumeral_of_blanks {t u : List UInt8} (h : Blanks t u)
    (hu : continuesNumeral u = false) : continuesNumeral t = false := by
  cases h with
  | nil => exact hu
  | @cons b t u space =>
    simp only [isSpace, Bool.or_eq_true, decide_eq_true_eq] at space
    obtain ((rfl | rfl) | rfl) | rfl := space <;> rfl

theorem isSpace_of_isDigit {b : UInt8} (h : isDigit b = true) : isSpace b = false := by
  have := isDigit_bounds h
  simp only [isSpace, Bool.or_eq_false_iff, decide_eq_false_iff_not]
  refine ⟨⟨⟨?_, ?_⟩, ?_⟩, ?_⟩ <;> rintro rfl <;> simp at this

theorem text_append (x : Numeral) (u : List UInt8) :
    (x.negative = true ∧ x.text ++ u = 0x2D :: (x.magnitude ++ u)) ∨
      ∃ d rest, isDigit d = true ∧ x.negative = false ∧ x.text ++ u = d :: rest ∧
        x.magnitude ++ u = d :: rest := by
  cases neg : x.negative with
  | true => exact .inl ⟨rfl, by simp [Numeral.text, neg]⟩
  | false =>
    have text : x.text = x.magnitude := by simp [Numeral.text, neg]
    cases whole : x.whole with
    | nil => exact absurd whole x.whole_ne_nil
    | cons d ds =>
      refine .inr ⟨d, ds ++ (fractionText x.fraction ++ exponentText x.exponent) ++ u,
        x.isDigit_of_mem_whole d (by simp [whole]), rfl, ?_, ?_⟩
      · simp [text, Numeral.magnitude, whole]
      · simp [Numeral.magnitude, whole]

theorem denotes_head {t u : List UInt8} {v : Value} (h : Denotes [] t v u) :
    ∃ b rest, t = b :: rest ∧ isSpace b = false ∧ b ≠ 0x5D := by
  cases h with
  | word mem => simp at mem
  | @number x n _ _ =>
    obtain ⟨_, text⟩ | ⟨d, rest, digit, _, text, _⟩ := text_append x u
    · exact ⟨_, _, text, by decide, by decide⟩
    · exact ⟨d, rest, text, isSpace_of_isDigit digit, by rintro rfl; exact absurd digit (by decide)⟩
  | _ => exact ⟨_, _, rfl, by decide, by decide⟩

theorem itemTurn_close (first : Bool) {t u : List UInt8} (h : Blanks t (0x5D :: u)) :
    itemTurn first t = .ok (false, 0x5D :: u) := by
  unfold itemTurn
  rw [skipSpace_eq h (by decide)]
  rfl

theorem itemTurn_first {b : UInt8} {t u : List UInt8} (h : Blanks t (b :: u))
    (space : isSpace b = false) (bracket : b ≠ 0x5D) : itemTurn true t = .ok (true, b :: u) := by
  unfold itemTurn
  rw [skipSpace_eq h space]
  simp [bracket]

theorem itemTurn_next {b : UInt8} {t t₁ u : List UInt8} (comma : Blanks t (0x2C :: t₁))
    (h : Blanks t₁ (b :: u)) (space : isSpace b = false) (bracket : b ≠ 0x5D) :
    itemTurn false t = .ok (true, b :: u) := by
  unfold itemTurn
  rw [skipSpace_eq comma (by decide)]
  simp [skipSpace_eq h space, bracket]

theorem memberTurn_close (first : Bool) {t u : List UInt8} (h : Blanks t (0x7D :: u)) :
    memberTurn first t = .ok (false, 0x7D :: u) := by
  unfold memberTurn
  rw [skipSpace_eq h (by decide)]
  rfl

theorem memberTurn_first {t u : List UInt8} (h : Blanks t (0x22 :: u)) :
    memberTurn true t = .ok (true, 0x22 :: u) := by
  unfold memberTurn
  rw [skipSpace_eq h (by decide)]
  rfl

theorem memberTurn_next {t t₁ u : List UInt8} (comma : Blanks t (0x2C :: t₁))
    (h : Blanks t₁ (0x22 :: u)) : memberTurn false t = .ok (true, 0x22 :: u) := by
  unfold memberTurn
  rw [skipSpace_eq comma (by decide)]
  simp [skipSpace_eq h (by decide)]

theorem colon_complete {t u : List UInt8} (h : Blanks t (0x3A :: u)) : colon t = .ok u := by
  unfold colon
  rw [skipSpace_eq h (by decide)]
  rfl

theorem exists_value_eq_node (depth : Nat) : ∃ part?, value depth = node part? := by
  cases depth with
  | zero => exact ⟨_, rfl⟩
  | succ depth => exact ⟨_, rfl⟩

theorem node_number {part? : Option (Reader Value)} {x : Numeral} {n : Number} {s u : List UInt8}
    (number : x.number? = some n) (behind : continuesNumeral u = false)
    (lead : Blanks s (x.text ++ u)) : node part? s = .ok (.number n, u) := by
  have read := numeral_complete number behind
  unfold node
  obtain ⟨neg, text⟩ | ⟨d, rest, digit, neg, text, magnitude⟩ := text_append x u
  · rw [text] at lead
    rw [neg] at read
    rw [skipSpace_eq lead (by decide)]
    simp [read, bind, Except.bind, pure, Except.pure]
  · rw [text] at lead
    rw [neg, magnitude] at read
    rw [skipSpace_eq lead (isSpace_of_isDigit digit)]
    have null : d ≠ 0x6E := by rintro rfl; exact absurd digit (by decide)
    have true : d ≠ 0x74 := by rintro rfl; exact absurd digit (by decide)
    have false : d ≠ 0x66 := by rintro rfl; exact absurd digit (by decide)
    have minus : d ≠ 0x2D := by rintro rfl; exact absurd digit (by decide)
    simp [null, true, false, minus, digit, read, bind, Except.bind, pure, Except.pure]

theorem node_string {part? : Option (Reader Value)} {s t bytes u : List UInt8} {text : String}
    (lead : Blanks s (0x22 :: t)) (spelled : StringText t bytes u)
    (decoded : Text.decode? bytes = some text) : node part? s = .ok (.string text, u) := by
  have read := string_eq_ok_iff.2 ⟨bytes, spelled, decoded⟩
  unfold node
  rw [skipSpace_eq lead (by decide)]
  simp [isDigit, read, bind, Except.bind, pure, Except.pure]

theorem node_list {part : Reader Value} {s t : List UInt8} (lead : Blanks s (0x5B :: t)) :
    node (some part) s = list part t := by
  unfold node
  rw [skipSpace_eq lead (by decide)]
  simp [isDigit]

theorem node_object {part : Reader Value} {s t : List UInt8} (lead : Blanks s (0x7B :: t)) :
    node (some part) s = object part t := by
  unfold node
  rw [skipSpace_eq lead (by decide)]
  simp [isDigit]

theorem list_complete {part : Reader Value} {t u : List UInt8} {vs : List Value}
    (h : items part true (t.length + 1) t = .ok (vs, 0x5D :: u)) :
    list part t = .ok (.array vs, u) := by
  have close : listEnd (0x5D :: u) = .ok u := rfl
  simp only [list, h, bind, Except.bind, close]
  rfl

theorem object_complete {part : Reader Value} {t u : List UInt8} {ms : List (String × Value)}
    (h : members part true (t.length + 1) t = .ok (ms, 0x7D :: u)) :
    object part t = .ok (.object ms, u) := by
  have close : objectEnd (0x7D :: u) = .ok u := rfl
  simp only [object, h, bind, Except.bind, close]
  rfl

theorem items_step {item : Reader Value} {first : Bool} {fuel : Nat} {s t t₂ u : List UInt8}
    {v : Value} {vs : List Value} (turn : itemTurn first s = .ok (true, t))
    (hv : item t = .ok (v, t₂)) (hs : items item false fuel t₂ = .ok (vs, u)) :
    items item first (fuel + 1) s = .ok (v :: vs, u) := by
  simp [items, turn, hv, hs, bind, Except.bind, pure, Except.pure]

theorem items_close (item : Reader Value) (first : Bool) (fuel : Nat) {t u : List UInt8}
    (h : Blanks t (0x5D :: u)) : items item first (fuel + 1) t = .ok ([], 0x5D :: u) := by
  simp [items, itemTurn_close first h, bind, Except.bind, pure, Except.pure]

theorem members_step {item : Reader Value} {first : Bool} {fuel : Nat}
    {s t t₁ bytes t₂ t₃ u : List UInt8} {name : String} {v : Value} {ms : List (String × Value)}
    (turn : memberTurn first s = .ok (true, 0x22 :: t)) (text : StringText t bytes t₁)
    (decoded : Text.decode? bytes = some name) (sep : Blanks t₁ (0x3A :: t₂))
    (hv : item t₂ = .ok (v, t₃)) (hs : members item false fuel t₃ = .ok (ms, u)) :
    members item first (fuel + 1) s = .ok ((name, v) :: ms, u) := by
  have read : memberName (0x22 :: t) = .ok (name, t₁) :=
    string_eq_ok_iff.2 ⟨bytes, text, decoded⟩
  simp [members, turn, read, colon_complete sep, hv, hs, bind, Except.bind, pure, Except.pure]

theorem members_close (item : Reader Value) (first : Bool) (fuel : Nat) {t u : List UInt8}
    (h : Blanks t (0x7D :: u)) : members item first (fuel + 1) t = .ok ([], 0x7D :: u) := by
  simp [members, memberTurn_close first h, bind, Except.bind, pure, Except.pure]

def ItemLead (first : Bool) (s t : List UInt8) : Prop :=
  if first then s = t else Blanks s (0x2C :: t)

theorem itemTurn_complete {first : Bool} {s t t₁ u : List UInt8} {v : Value}
    (lead : ItemLead first s t) (blanks : Blanks t t₁) (h : Denotes [] t₁ v u) :
    itemTurn first s = .ok (true, t₁) := by
  obtain ⟨b, rest, rfl, space, bracket⟩ := denotes_head h
  cases first with
  | true =>
    obtain rfl : s = t := lead
    exact itemTurn_first blanks space bracket
  | false => exact itemTurn_next lead blanks space bracket

theorem memberTurn_complete {first : Bool} {s t u : List UInt8} (lead : ItemLead first s t)
    (blanks : Blanks t (0x22 :: u)) : memberTurn first s = .ok (true, 0x22 :: u) := by
  cases first with
  | true =>
    obtain rfl : s = t := lead
    exact memberTurn_first blanks
  | false => exact memberTurn_next lead blanks

mutual

theorem value_complete : {t : List UInt8} → {v : Value} → {u : List UInt8} → Denotes [] t v u →
    ∀ depth, v.depth ≤ depth → continuesNumeral u = false → ∀ s, Blanks s t →
    value depth s = .ok (v, u)
  | _, _, _, .null, depth, _, _, s, lead => by
    obtain ⟨part?, node_eq⟩ := exists_value_eq_node depth
    rw [node_eq, node, skipSpace_eq lead (by decide)]
    rfl
  | _, _, _, .word mem, _, _, _, _, _ => by simp at mem
  | _, _, _, .true, depth, _, _, s, lead => by
    obtain ⟨part?, node_eq⟩ := exists_value_eq_node depth
    rw [node_eq, node, skipSpace_eq lead (by decide)]
    rfl
  | _, _, _, .false, depth, _, _, s, lead => by
    obtain ⟨part?, node_eq⟩ := exists_value_eq_node depth
    rw [node_eq, node, skipSpace_eq lead (by decide)]
    rfl
  | _, _, _, .number number, depth, _, behind, s, lead => by
    obtain ⟨part?, node_eq⟩ := exists_value_eq_node depth
    rw [node_eq]
    exact node_number number behind lead
  | _, _, _, .string text decoded, depth, _, _, s, lead => by
    obtain ⟨part?, node_eq⟩ := exists_value_eq_node depth
    rw [node_eq]
    exact node_string lead text decoded
  | _, _, _, .emptyList close, 0, shallow, _, _, _ => absurd shallow (Nat.not_succ_le_zero _)
  | _, _, _, .emptyList close, depth + 1, _, _, s, lead => by
    rw [value, node_list lead]
    exact list_complete (items_close _ true _ close)
  | _, _, _, .list items, 0, shallow, _, _, _ => absurd shallow (Nat.not_succ_le_zero _)
  | _, _, _, .list items, depth + 1, shallow, _, s, lead => by
    rw [value, node_list lead]
    apply list_complete
    exact items_complete items depth (Nat.le_of_succ_le_succ shallow) _ (Nat.lt_succ_self _) true _ rfl
  | _, _, _, .emptyObject close, 0, shallow, _, _, _ => absurd shallow (Nat.not_succ_le_zero _)
  | _, _, _, .emptyObject close, depth + 1, _, _, s, lead => by
    rw [value, node_object lead]
    exact object_complete (members_close _ true _ close)
  | _, _, _, .object members, 0, shallow, _, _, _ => absurd shallow (Nat.not_succ_le_zero _)
  | _, _, _, .object members, depth + 1, shallow, _, s, lead => by
    rw [value, node_object lead]
    apply object_complete
    exact members_complete members depth (Nat.le_of_succ_le_succ shallow) _ (Nat.lt_succ_self _)
      true _ rfl

theorem items_complete : {t : List UInt8} → {vs : List Value} → {u : List UInt8} →
    DenotesItems [] t vs u → ∀ depth, Value.depthItems vs ≤ depth → ∀ fuel, t.length < fuel →
    ∀ first s, ItemLead first s t → items (value depth) first fuel s = .ok (vs, 0x5D :: u)
  | _, _, _, .last blanks h close, depth, shallow, fuel + 1, enough, first, s, lead => by
    have behind := continuesNumeral_of_blanks close rfl
    have read := value_complete h depth (Nat.max_le.1 shallow).1 behind _ .nil
    have nonempty := (respected_length []).denotesItems (.last blanks h close)
    rw [List.length_cons] at nonempty
    obtain ⟨fuel, rfl⟩ : ∃ k, fuel = k + 1 := ⟨fuel - 1, by omega⟩
    exact items_step (itemTurn_complete lead blanks h) read (items_close _ false _ close)
  | _, _, _, .next blanks h comma more, depth, shallow, fuel + 1, enough, first, s, lead => by
    have behind := continuesNumeral_of_blanks comma rfl
    have read := value_complete h depth (Nat.max_le.1 shallow).1 behind _ .nil
    have h₁ := (respected_length []).blanks blanks
    have h₂ := (respected_length []).denotes h
    have h₃ := (respected_length []).blanks comma
    rw [List.length_cons] at h₃
    exact items_step (itemTurn_complete lead blanks h) read
      (items_complete more depth (Nat.max_le.1 shallow).2 fuel (by omega) false _ comma)

theorem members_complete : {t : List UInt8} → {ms : List (String × Value)} → {u : List UInt8} →
    DenotesMembers [] t ms u → ∀ depth, Value.depthMembers ms ≤ depth → ∀ fuel, t.length < fuel →
    ∀ first s, ItemLead first s t → members (value depth) first fuel s = .ok (ms, 0x7D :: u)
  | _, _, _, .last (.mk before text decoded sep) blanks h close, depth, shallow, fuel + 1, enough,
      first, s, lead => by
    have behind := continuesNumeral_of_blanks close rfl
    have read := value_complete h depth (Nat.max_le.1 shallow).1 behind _ blanks
    have nonempty := (respected_length []).denotesMembers
      (.last (.mk before text decoded sep) blanks h close)
    rw [List.length_cons] at nonempty
    obtain ⟨fuel, rfl⟩ : ∃ k, fuel = k + 1 := ⟨fuel - 1, by omega⟩
    exact members_step (memberTurn_complete lead before) text decoded sep read
      (members_close _ false _ close)
  | _, _, _, .next (.mk before text decoded sep) blanks h comma more, depth, shallow, fuel + 1,
      enough, first, s, lead => by
    have behind := continuesNumeral_of_blanks comma rfl
    have read := value_complete h depth (Nat.max_le.1 shallow).1 behind _ blanks
    have h₀ := (respected_length []).name (.mk before text decoded sep)
    have h₁ := (respected_length []).blanks blanks
    have h₂ := (respected_length []).denotes h
    have h₃ := (respected_length []).blanks comma
    rw [List.length_cons] at h₃
    exact members_step (memberTurn_complete lead before) text decoded sep read
      (members_complete more depth (Nat.max_le.1 shallow).2 fuel (by omega) false _ comma)

end

/-- The reader accepts the texts of JSON up to its nesting limit, and gives the values they spell. -/
theorem parse_eq_ok_iff {t : List UInt8} {v : Value} :
    parse t = .ok v ↔ Spells [] t v ∧ v.depth ≤ maxDepth := by
  unfold parse whole
  simp only [bind_eq_ok_iff, Prod.exists]
  constructor
  · rintro ⟨v', u, read, h⟩
    obtain ⟨t₁, blanks, denotes, shallow⟩ := value_sound maxDepth _ _ _ read
    split at h
    · next e =>
      cases h
      exact ⟨⟨t₁, u, blanks, denotes, e ▸ blanks_skipSpace u⟩, shallow⟩
    · contradiction
  · rintro ⟨⟨t₁, u, lead, denotes, behind⟩, shallow⟩
    have ends : skipSpace u = [] := skipSpace_of_blanks behind
    refine ⟨v, u, value_complete denotes maxDepth shallow ?_ t lead, by rw [ends]⟩
    exact continuesNumeral_of_blanks behind rfl

end Herald.Json
