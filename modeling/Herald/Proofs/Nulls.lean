import Herald.Proofs.Repair
import Herald.Proofs.Text.Literals
import Herald.Proofs.Text.Utf8
import Mathlib.Data.List.Forall2

/-!
What becomes of a text whose words for numbers are replaced. Its literals stay as they are, and
between them the words give way to `null` from the left. No word arises where a `null` meets its
neighbours, so a second pass finds nothing to replace.
-/
namespace Herald.Repair

open Text (encode Enclosed Unclosed Gap Parts)

def tokens : List (List Char) :=
  ["-Infinity".toList, "Infinity".toList, "NaN".toList]

def nullChars : List Char :=
  "null".toList

/-- No word begins within `before` where `behind` follows it. -/
def Silent (before behind : List Char) : Prop :=
  ∀ w ∈ tokens, ∀ a b, before ++ behind = a ++ (w ++ b) → before.length ≤ a.length

/-- The second text is the first one with its words replaced: the one that begins leftmost, and then
those behind it. -/
inductive Nulled : List Char → List Char → Prop
  | rest {t : List Char} : Silent t [] → Nulled t t
  | word {before w behind after : List Char} : w ∈ tokens → Silent before (w ++ behind) →
      Nulled behind after → Nulled (before ++ (w ++ behind)) (before ++ (nullChars ++ after))

theorem nonFinite_eq_map : nonFinite = tokens.map (·.flatMap String.utf8EncodeChar) := by
  decide

theorem ne_nil_of_mem_tokens : ∀ w ∈ tokens, w ≠ [] := by
  decide

theorem plain_of_mem_tokens : ∀ w ∈ tokens, ∀ c ∈ w, c.toNat < 0x80 ∧ c ≠ '"' := by
  simp [tokens]

theorem silent_nil (behind : List Char) : Silent [] behind :=
  fun _ _ _ _ _ => Nat.zero_le _

theorem silent_cons_iff {c : Char} {before behind : List Char} : Silent (c :: before) behind ↔
    (∀ w ∈ tokens, ¬ w <+: c :: (before ++ behind)) ∧ Silent before behind := by
  constructor
  · intro silent
    constructor
    · rintro w mem ⟨b, here⟩
      exact absurd (silent w mem [] b here.symm) (by simp)
    · intro w mem a b same
      have later := silent w mem (c :: a) b (congrArg (c :: ·) same)
      simpa using later
  · rintro ⟨here, later⟩ w mem a b same
    cases a with
    | nil => exact absurd ⟨b, same.symm⟩ (here w mem)
    | cons d a => simpa using later w mem a b (List.cons.inj same).2

theorem Silent.free {before behind w : List Char} (h : Silent before behind)
    (mem : w ∈ tokens) : ¬ w <:+: before := by
  rintro ⟨a, b, rfl⟩
  have short := h w mem a (b ++ behind) (by simp)
  have some := List.length_pos_iff.2 (ne_nil_of_mem_tokens w mem)
  simp only [List.length_append] at short
  omega

theorem silent_of_free {t : List Char} (h : ∀ w ∈ tokens, ¬ w <:+: t) : Silent t [] := by
  intro w mem a b same
  rw [List.append_nil] at same
  exact absurd ⟨a, b, by rw [same, List.append_assoc]⟩ (h w mem)

theorem infix_of_infix_append_cons {w x y : List Char} {c : Char} (h : w <:+: x ++ c :: y)
    (mem : c ∉ w) : w <:+: x ∨ w <:+: y := by
  obtain before | behind | ⟨w₁, w₂, rfl, suffix, front⟩ := List.infix_append_iff.1 h
  · exact .inl before
  · obtain front | behind := List.infix_cons_iff.1 behind
    · obtain rfl | ⟨w, rfl, _⟩ := List.prefix_cons_iff.1 front
      · exact .inl ⟨[], x, rfl⟩
      · simp at mem
    · exact .inr behind
  · obtain rfl | ⟨w₂, rfl, _⟩ := List.prefix_cons_iff.1 front
    · rw [List.append_nil]
      exact .inl suffix.isInfix
    · simp at mem

theorem free_of_seam {before after w : List Char} (mem : w ∈ tokens)
    (left : ¬ w <:+: before) (right : ¬ w <:+: after) :
    ¬ w <:+: before ++ (nullChars ++ after) := by
  have letters : ∀ w ∈ tokens, 'u' ∉ w ∧ 'l' ∉ w ∧ w.getLast? ≠ some 'n' := by decide
  obtain ⟨u, l, n⟩ := letters w mem
  have empty : ¬ w <:+: [] := by simpa using ne_nil_of_mem_tokens w mem
  have shape : before ++ (nullChars ++ after) =
      (before ++ ['n']) ++ 'u' :: ([] ++ 'l' :: ([] ++ 'l' :: after)) := by
    simp [nullChars]
  rw [shape]
  intro within
  -- The word stands on one side of the `u`, and it has none of `null` there: not the `n`, which would
  -- be its last letter, and no `l`.
  obtain front | back := infix_of_infix_append_cons within u
  · obtain suffix | inside := List.infix_concat_iff.1 front
    · obtain rfl | ⟨w, rfl, _⟩ := List.suffix_concat_iff.1 suffix
      · exact empty ⟨[], [], rfl⟩
      · simp at n
    · exact left inside
  · have later := (infix_of_infix_append_cons back l).resolve_left empty
    exact right ((infix_of_infix_append_cons later l).resolve_left empty)

namespace Nulled

theorem cons {c : Char} {t u : List Char} (h : Nulled t u) (here : ∀ w ∈ tokens, ¬ w <+: c :: t) :
    Nulled (c :: t) (c :: u) := by
  cases h with
  | rest silent => exact rest (silent_cons_iff.2 ⟨by simpa using here, silent⟩)
  | @word before _ _ _ mem silent h =>
    exact @word (c :: before) _ _ _ mem (silent_cons_iff.2 ⟨here, silent⟩) h

theorem bare {t u : List Char} (h : Nulled t u) (bare : '"' ∉ t) : '"' ∉ u := by
  induction h with
  | rest => exact bare
  | word _ _ _ ih =>
    simp only [List.mem_append, not_or] at bare ⊢
    exact ⟨bare.1, by decide, ih bare.2.2⟩

theorem free {t u : List Char} (h : Nulled t u) : ∀ w ∈ tokens, ¬ w <:+: u := by
  induction h with
  | rest silent => exact fun w mem => silent.free mem
  | word _ silent _ ih =>
    exact fun w mem => free_of_seam mem (silent.free mem) (ih w mem)

theorem again {t u : List Char} (h : Nulled t u) : Nulled u u :=
  rest (silent_of_free h.free)

end Nulled

theorem exists_nulled (t : List Char) : ∃ u, Nulled t u := by
  by_cases here : ∃ w ∈ tokens, w <+: t
  · obtain ⟨w, mem, behind, same⟩ := here
    have some := List.length_pos_iff.2 (ne_nil_of_mem_tokens w mem)
    have shorter : behind.length < t.length := by
      rw [← same, List.length_append]
      omega
    -- A word is passed as a whole, so the recursion is on the length of what is left.
    obtain ⟨u, h⟩ := exists_nulled behind
    exact ⟨nullChars ++ u, same ▸ @Nulled.word [] w _ _ mem (silent_nil _) h⟩
  · match t with
    | [] => exact ⟨[], .rest (silent_nil [])⟩
    | c :: t =>
      obtain ⟨u, h⟩ := exists_nulled t
      exact ⟨c :: u, h.cons fun w mem front => here ⟨w, mem, front⟩⟩
termination_by t.length

inductive EndsGap : List UInt8 → Prop
  | nil : EndsGap []
  | quote (t : List UInt8) : EndsGap (0x22 :: t)

theorem prefix_of_encoded {w cs : List Char} {t : List UInt8}
    (plain : ∀ c ∈ w, c.toNat < 0x80 ∧ c ≠ '"') (ends : EndsGap t)
    (h : w.flatMap String.utf8EncodeChar <+: cs.flatMap String.utf8EncodeChar ++ t) : w <+: cs := by
  induction w generalizing cs with
  | nil => exact List.nil_prefix
  | cons c w ih =>
    obtain ⟨⟨ascii, quote⟩, plain⟩ := List.forall_mem_cons.1 plain
    rw [List.flatMap_cons] at h
    cases cs with
    | nil =>
      cases ends with
      | nil => simp [Text.utf8EncodeChar_of_ascii ascii] at h
      | quote t =>
        have mark : (0x22 : UInt8) :: t = String.utf8EncodeChar '"' ++ t := rfl
        rw [List.flatMap_nil, List.nil_append, mark] at h
        exact absurd (Text.prefix_of_ascii_append ascii h).1 quote
    | cons d cs =>
      rw [List.flatMap_cons, List.append_assoc] at h
      obtain ⟨rfl, behind⟩ := Text.prefix_of_ascii_append ascii h
      exact List.cons_prefix_cons.2 ⟨rfl, ih plain behind⟩

theorem word?_encoded {cs : List Char} {t : List UInt8} (ends : EndsGap t)
    (silent : ∀ w ∈ tokens, ¬ w <+: cs) :
    word? (cs.flatMap String.utf8EncodeChar ++ t) = none := by
  unfold word?
  rw [List.find?_eq_none, nonFinite_eq_map]
  intro bytes known found
  obtain ⟨w, mem, rfl⟩ := List.mem_map.1 known
  rw [List.isPrefixOf_iff_prefix] at found
  exact silent w mem (prefix_of_encoded (plain_of_mem_tokens w mem) ends found)

theorem calm_of_isTail {b : UInt8} (h : Text.isTail b = true) :
    isCalm b = true ∧ b ≠ 0x22 ∧ b ≠ 0x5C := by
  have high : 0x80 ≤ b := by
    simp only [Text.isTail, Bool.and_eq_true, decide_eq_true_eq] at h
    exact h.1
  have other {a : UInt8} (low : a < 0x80) : b ≠ a := by
    rintro rfl
    exact absurd high (UInt8.not_le.2 low)
  refine ⟨?_, other (by decide), other (by decide)⟩
  simp only [isCalm, Bool.and_eq_true, decide_eq_true_eq]
  exact ⟨⟨⟨other (by decide), other (by decide)⟩, other (by decide)⟩, other (by decide)⟩

theorem words_inside_append {l : List UInt8} (h : ∀ b ∈ l, b ≠ 0x22 ∧ b ≠ 0x5C) (t : List UInt8) :
    words .inside 0 (l ++ t) = l ++ words .inside 0 t := by
  induction l with
  | nil => rfl
  | cons b l ih =>
    obtain ⟨quote, backslash⟩ := h b (by simp)
    rw [List.cons_append, words_cons_inside]
    simp only [Place.next, quote, backslash, if_false]
    rw [ih fun c hc => h c (by simp [hc])]
    rfl

theorem words_char {c : Char} {t : List UInt8} (quote : c ≠ '"')
    (silent : word? (String.utf8EncodeChar c ++ t) = none) :
    words .outside 0 (String.utf8EncodeChar c ++ t) =
      String.utf8EncodeChar c ++ words .outside 0 t := by
  obtain ⟨b, tail, shape, _, tails⟩ := Text.exists_utf8EncodeChar c
  have first : b ≠ 0x22 := by
    rintro rfl
    exact Text.not_mem_utf8EncodeChar quote (by decide) (by rw [shape]; exact .head _)
  rw [shape, List.cons_append] at silent ⊢
  rw [words_cons silent]
  simp only [Place.next, first, if_false]
  rw [words_calm_append fun a ha => (calm_of_isTail (tails a ha)).1]
  rfl

theorem words_char_inside {c : Char} (quote : c ≠ '"') (backslash : c ≠ '\\') (t : List UInt8) :
    words .inside 0 (String.utf8EncodeChar c ++ t) =
      String.utf8EncodeChar c ++ words .inside 0 t := by
  refine words_inside_append (fun b mem => ⟨?_, ?_⟩) t
  · rintro rfl
    exact Text.not_mem_utf8EncodeChar quote (by decide) mem
  · rintro rfl
    exact Text.not_mem_utf8EncodeChar backslash (by decide) mem

theorem words_char_escaped (c : Char) (t : List UInt8) :
    words .escaped 0 (String.utf8EncodeChar c ++ t) =
      String.utf8EncodeChar c ++ words .inside 0 t := by
  obtain ⟨b, tail, shape, _, tails⟩ := Text.exists_utf8EncodeChar c
  rw [shape, List.cons_append, words_cons_escaped,
    words_inside_append fun a ha => (calm_of_isTail (tails a ha)).2]
  rfl

theorem words_silent {before behind : List Char} {t : List UInt8} (silent : Silent before behind)
    (bare : '"' ∉ before) (ends : EndsGap t) :
    words .outside 0 ((before ++ behind).flatMap String.utf8EncodeChar ++ t) =
      before.flatMap String.utf8EncodeChar ++
        words .outside 0 (behind.flatMap String.utf8EncodeChar ++ t) := by
  induction before with
  | nil => rfl
  | cons c before ih =>
    obtain ⟨here, later⟩ := silent_cons_iff.1 silent
    obtain ⟨quote, bare⟩ := not_or.1 (mt List.mem_cons.2 bare)
    have alone := word?_encoded ends here
    rw [List.flatMap_cons, List.append_assoc] at alone
    rw [List.cons_append, List.flatMap_cons, List.append_assoc, words_char (Ne.symm quote) alone,
      ih later bare, List.flatMap_cons, List.append_assoc]

theorem words_nulled {gap gap' : List Char} {t : List UInt8} (h : Nulled gap gap')
    (bare : '"' ∉ gap) (ends : EndsGap t) :
    words .outside 0 (gap.flatMap String.utf8EncodeChar ++ t) =
      gap'.flatMap String.utf8EncodeChar ++ words .outside 0 t := by
  induction h with
  | rest silent => simpa using words_silent silent bare ends
  | @word before w behind after mem silent _ ih =>
    simp only [List.mem_append, not_or] at bare
    have known : w.flatMap String.utf8EncodeChar ∈ nonFinite := by
      rw [nonFinite_eq_map]
      exact List.mem_map_of_mem mem
    have bytes : nullChars.flatMap String.utf8EncodeChar = null := by decide
    rw [words_silent silent bare.1 ends, List.flatMap_append, List.append_assoc,
      words_word known, ih bare.2.2]
    simp only [List.flatMap_append, List.append_assoc, bytes]

theorem words_enclosed {body : List Char} (h : Enclosed body) (t : List UInt8) :
    words .inside 0 (body.flatMap String.utf8EncodeChar ++ t) =
      body.flatMap String.utf8EncodeChar ++ words .inside 0 t := by
  induction h with
  | nil => rfl
  | plain quote backslash _ ih =>
    rw [List.flatMap_cons, List.append_assoc, words_char_inside quote backslash, ih,
      List.append_assoc]
  | escape c _ ih =>
    have mark : String.utf8EncodeChar '\\' = [0x5C] := by decide
    simp only [List.flatMap_cons, mark, List.append_assoc, List.cons_append, List.nil_append]
    rw [words_cons_inside]
    simp only [Place.next, if_true]
    rw [words_char_escaped, ih]

theorem words_unclosed {body : List Char} (h : Unclosed body) :
    words .inside 0 (body.flatMap String.utf8EncodeChar) = body.flatMap String.utf8EncodeChar := by
  cases h with
  | whole h => simpa [words] using words_enclosed h []
  | cut h =>
    rw [List.flatMap_append, words_enclosed h]
    rfl

/-- The parts of a text, and of what becomes of it. -/
inductive Repaired : Parts → Parts → Prop
  | last {g g' : Gap} : Nulled g.chars g'.chars → Repaired (.last g) (.last g')
  | unclosed {g g' : Gap} {body : List Char} {ended : Unclosed body} : Nulled g.chars g'.chars →
      Repaired (.unclosed g body ended) (.unclosed g' body ended)
  | closed {g g' : Gap} {body : List Char} {enclosed : Enclosed body} {p p' : Parts} :
      Nulled g.chars g'.chars → Repaired p p' →
      Repaired (.closed g body enclosed p) (.closed g' body enclosed p')

theorem exists_gap (g : Gap) : ∃ g' : Gap, Nulled g.chars g'.chars := by
  obtain ⟨cs, h⟩ := exists_nulled g.chars
  exact ⟨⟨cs, h.bare g.bare⟩, h⟩

theorem exists_repaired (p : Parts) : ∃ p', Repaired p p' := by
  induction p with
  | last g =>
    obtain ⟨g', h⟩ := exists_gap g
    exact ⟨_, .last h⟩
  | unclosed g body ended =>
    obtain ⟨g', h⟩ := exists_gap g
    exact ⟨_, .unclosed h⟩
  | closed g body enclosed p ih =>
    obtain ⟨g', h⟩ := exists_gap g
    obtain ⟨p', more⟩ := ih
    exact ⟨_, .closed h more⟩

namespace Repaired

theorem literals_eq {p p' : Parts} (h : Repaired p p') : p'.literals = p.literals := by
  induction h with
  | last => rfl
  | unclosed => rfl
  | closed _ _ ih => rw [Parts.literals, Parts.literals, ih]

theorem gaps {p p' : Parts} (h : Repaired p p') : List.Forall₂ Nulled p.gaps p'.gaps := by
  induction h with
  | last h => exact .cons h .nil
  | unclosed h => exact .cons h .nil
  | closed h _ ih => exact .cons h ih

theorem free {p p' : Parts} (h : Repaired p p') :
    ∀ gap ∈ p'.gaps, ∀ w ∈ tokens, ¬ w <:+: gap := by
  induction h with
  | last h => simpa [Parts.gaps] using h.free
  | unclosed h => simpa [Parts.gaps] using h.free
  | closed h _ ih => exact List.forall_mem_cons.2 ⟨h.free, ih⟩

theorem again {p p' : Parts} (h : Repaired p p') : Repaired p' p' := by
  induction h with
  | last h => exact last h.again
  | unclosed h => exact unclosed h.again
  | closed h _ ih => exact closed h.again ih

theorem words_eq {p p' : Parts} (h : Repaired p p') :
    words .outside 0 (p.chars.flatMap String.utf8EncodeChar) =
      p'.chars.flatMap String.utf8EncodeChar := by
  have mark : String.utf8EncodeChar '"' = [0x22] := by decide
  induction h with
  | @last g g' h => simpa [Parts.chars, words] using words_nulled h g.bare .nil
  | @unclosed g g' body ended h =>
    simp only [Parts.chars, List.flatMap_append, List.flatMap_cons, mark, List.cons_append,
      List.nil_append]
    rw [words_nulled h g.bare (.quote _), words_quote, words_unclosed ended]
  | @closed g g' body enclosed p p' h _ ih =>
    simp only [Parts.chars, List.flatMap_append, List.flatMap_cons, mark, List.cons_append,
      List.nil_append]
    rw [words_nulled h g.bare (.quote _), words_quote, words_enclosed enclosed, words_cons_inside,
      ← ih]
    rfl

end Repaired

/-- Replacing words leaves a text with the same literals and without a word between them, in which
nothing is replaced any more. -/
theorem words_settled (s : String) :
    words .outside 0 (words .outside 0 (encode s)) = words .outside 0 (encode s) ∧
      ∃ (s' : String) (p p' : Parts), words .outside 0 (encode s) = encode s' ∧
        p.AreOf s.toList ∧ p'.AreOf s'.toList ∧ p'.literals = p.literals ∧
        List.Forall₂ Nulled p.gaps p'.gaps ∧ ∀ gap ∈ p'.gaps, ∀ w ∈ tokens, ¬ w <:+: gap := by
  obtain ⟨p, chars⟩ := Text.exists_chars_eq s.toList
  obtain ⟨p', repaired⟩ := exists_repaired p
  have once : words .outside 0 (encode s) = encode (String.ofList p'.chars) := by
    rw [Text.encode_eq_flatMap, ← chars, repaired.words_eq, Text.encode_ofList]
  have twice : words .outside 0 (encode (String.ofList p'.chars)) =
      encode (String.ofList p'.chars) := by
    rw [Text.encode_ofList, repaired.again.words_eq]
  refine ⟨by rw [once, twice], String.ofList p'.chars, p, p', once, chars ▸ p.areOf_chars, ?_,
    repaired.literals_eq, repaired.gaps, repaired.free⟩
  rw [String.toList_ofList]
  exact p'.areOf_chars

/-- A word that begins inside another one is none, and an escaped quote closes no literal. -/
example : words .outside 0 (encode "NaNaN--Infinity\"NaN\\\"NaN") =
    encode "nullaN-null\"NaN\\\"NaN" := by
  decide

end Herald.Repair
