import Herald.Text.Blank
import Herald.Text.Lowercase
import Herald.Text.Pieces
import Herald.Text.Utf8
import Mathlib.Data.List.Infix

/-!
Words that are looked for without regard to case. A word of basic characters stands in a text in
lower case where the text has a part that becomes the word character by character; the two exceptions
among the lower-case forms make no difference, as long as the word does not end with an `i`.
-/
namespace Herald.Text

def Mentions (text word : List Char) : Prop :=
  ∃ part, part <:+: text ∧ part.map lowerChar = word

/-- What the exceptions cannot make or break. -/
structure Sturdy (word : List Char) : Prop where
  basic : ∀ c ∈ word, c.toNat < 0x80
  closed : word.getLast? ≠ some 'i'

theorem Sturdy.of_all {word : List Char} (basic : word.all (·.toNat < 0x80) = true)
    (closed : word.getLast? ≠ some 'i') : Sturdy word where
  basic := by simpa using basic
  closed := closed

theorem Sturdy.tail {c : Char} {word : List Char} (sturdy : Sturdy (c :: word)) : Sturdy word where
  basic d mem := sturdy.basic d (.tail c mem)
  closed := by
    cases word with
    | nil => nofun
    | cons d word => simpa using sturdy.closed

/-- How the lower-case form of a text begins, where the character is one of the exceptions. -/
inductive Odd : Char → List Char → Prop
  | dotted : Odd '\u0130' ['i', '\u0307']
  | sigma {form : Char} : ¬ form.toNat < 0x80 → Odd '\u03A3' [form]

theorem Odd.lowerChar {c : Char} {forms : List Char} (odd : Odd c forms) : ¬ (lowerChar c).toNat < 0x80 := by
  cases odd with
  | dotted => decide
  | sigma => decide

theorem lowerChars_cons (before : List Char) (c : Char) (rest : List Char) :
    ∃ forms, lowerChars before (c :: rest) = forms ++ lowerChars (c :: before) rest ∧
      (forms = [lowerChar c] ∨ Odd c forms) := by
  rw [lowerChars]
  split_ifs with dotted sigma last
  · exact ⟨_, rfl, .inr (dotted ▸ .dotted)⟩
  · exact ⟨_, rfl, .inr (sigma ▸ .sigma (by decide))⟩
  · exact ⟨_, rfl, .inr (sigma ▸ .sigma (by decide))⟩
  · exact ⟨_, rfl, .inl rfl⟩

theorem Odd.not_prefix {c d : Char} {forms word rest : List Char} (odd : Odd c forms)
    (sturdy : Sturdy (d :: word)) : ¬ d :: word <+: forms ++ rest := by
  intro front
  cases odd with
  | sigma beyond =>
    obtain ⟨rfl, _⟩ := List.cons_prefix_cons.1 front
    exact beyond (sturdy.basic _ (.head _))
  | dotted =>
    obtain ⟨rfl, behind⟩ := List.cons_prefix_cons.1 front
    cases word with
    | nil => exact sturdy.closed rfl
    | cons e word =>
      obtain ⟨rfl, _⟩ := List.cons_prefix_cons.1 behind
      exact absurd (sturdy.basic _ (.tail _ (.head _))) (by decide)

theorem prefix_lowerChars_iff {text : List Char} : ∀ {before word : List Char}, Sturdy word →
    (word <+: lowerChars before text ↔ ∃ part, part <+: text ∧ part.map lowerChar = word) := by
  induction text with
  | nil =>
    intro before word _
    simp [lowerChars, eq_comm]
  | cons c text ih =>
    intro before word sturdy
    cases word with
    | nil => simp
    | cons d word =>
      obtain ⟨forms, eq, rfl | odd⟩ := lowerChars_cons before c text
      · rw [eq, List.singleton_append, List.cons_prefix_cons, ih sturdy.tail]
        constructor
        · rintro ⟨rfl, part, front, rfl⟩
          exact ⟨c :: part, List.cons_prefix_cons.2 ⟨rfl, front⟩, rfl⟩
        · rintro ⟨part, front, same⟩
          cases part with
          | nil => contradiction
          | cons e part =>
            obtain ⟨rfl, behind⟩ := List.cons_prefix_cons.1 front
            cases same
            exact ⟨rfl, part, behind, rfl⟩
      · rw [eq]
        refine iff_of_false (odd.not_prefix sturdy) ?_
        rintro ⟨part, front, same⟩
        cases part with
        | nil => contradiction
        | cons e part =>
          obtain ⟨rfl, _⟩ := List.cons_prefix_cons.1 front
          cases same
          exact odd.lowerChar (sturdy.basic _ (.head _))

theorem Odd.infix_append_iff {c d : Char} {forms word rest : List Char} (odd : Odd c forms)
    (sturdy : Sturdy (d :: word)) : d :: word <:+: forms ++ rest ↔ d :: word <:+: rest := by
  refine ⟨fun within => ?_, fun within => within.trans (List.suffix_append forms rest).isInfix⟩
  have front : ¬ d :: word <+: forms ++ rest := odd.not_prefix sturdy
  cases odd with
  | sigma => exact (List.infix_cons_iff.1 within).resolve_left front
  | dotted =>
    have later := (List.infix_cons_iff.1 within).resolve_left front
    refine (List.infix_cons_iff.1 later).resolve_left fun front => ?_
    obtain ⟨rfl, _⟩ := List.cons_prefix_cons.1 front
    exact absurd (sturdy.basic _ (.head _)) (by decide)

theorem infix_lowerChars_iff {text : List Char} {d : Char} {word : List Char} (sturdy : Sturdy (d :: word)) :
    ∀ {before : List Char}, d :: word <:+: lowerChars before text ↔ Mentions text (d :: word) := by
  induction text with
  | nil =>
    intro before
    simp [lowerChars, Mentions]
  | cons c text ih =>
    intro before
    have mentions : Mentions (c :: text) (d :: word) ↔
        d :: word <+: lowerChars before (c :: text) ∨ Mentions text (d :: word) := by
      rw [prefix_lowerChars_iff sturdy]
      simp only [Mentions, List.infix_cons_iff]
      grind
    obtain ⟨forms, eq, rfl | odd⟩ := lowerChars_cons before c text
    · rw [mentions, eq, List.singleton_append, List.infix_cons_iff, ih]
    · rw [mentions, eq, odd.infix_append_iff sturdy, ih]
      simp [odd.not_prefix sturdy]

theorem holds_lower_iff {text : String} {d : Char} {word : List Char} (sturdy : Sturdy (d :: word)) :
    holds (d :: word) (lower text).toList = true ↔ Mentions text.toList (d :: word) := by
  rw [holds_iff, lower, String.toList_ofList, infix_lowerChars_iff sturdy]

theorem toLower_of_not_basic {c : Char} (other : ¬ c.toNat < 0x80) : c.toLower = c :=
  dif_neg fun upper => other (Nat.lt_of_le_of_lt (UInt32.le_iff_toNat_le.1 upper.2) (by decide))

theorem lowerChar_of_basic {c : Char} (basic : c.toNat < 0x80) :
    lowerChar c = c.toLower ∧ c.toLower.toNat < 0x80 := by
  exact forall_ascii basic (by decide +kernel)

theorem lowerChars_of_basic {cs : List Char} : ∀ {before : List Char}, (∀ c ∈ cs, c.toNat < 0x80) →
    lowerChars before cs = cs.map Char.toLower := by
  induction cs with
  | nil => exact fun _ => rfl
  | cons c cs ih =>
    intro before basic
    obtain ⟨lowered, small⟩ := lowerChar_of_basic (basic c (.head _))
    obtain ⟨forms, eq, rfl | odd⟩ := lowerChars_cons before c cs
    · rw [eq, ih fun d mem => basic d (.tail _ mem), lowered]
      rfl
    · exact absurd (lowered ▸ small) odd.lowerChar

theorem lower_of_basic {s : String} (basic : ∀ c ∈ s.toList, c.toNat < 0x80) : lower s = lowerAscii s := by
  rw [lower, lowerChars_of_basic basic, lowerAscii]

theorem mem_lower {d : Char} (basic : d.toNat < 0x80) (fixed : lowerChar d = d) {s : String}
    (mem : d ∈ s.toList) : d ∈ (lower s).toList := by
  have kept : ∀ {cs before : List Char}, d ∈ cs → d ∈ lowerChars before cs := by
    intro cs
    induction cs with
    | nil => exact fun mem => mem
    | cons c cs ih =>
      intro before mem
      obtain ⟨forms, eq, kind⟩ := lowerChars_cons before c cs
      rw [eq, List.mem_append]
      obtain rfl | later := List.mem_cons.1 mem
      · obtain rfl | odd := kind
        · exact .inl (by rw [fixed]; exact .head _)
        · exact absurd (fixed.symm ▸ basic) odd.lowerChar
      · exact .inr (ih later)
  rw [lower, String.toList_ofList]
  exact kept mem

theorem lowerChar_of_isBlank {c : Char} (blank : isBlank c = true) :
    lowerChar c = c ∧ c ≠ '\u0130' ∧ c ≠ '\u03A3' := by
  have all : ∀ n ∈ [0x09, 0x0A, 0x0B, 0x0C, 0x0D, 0x20, 0x85, 0xA0, 0x1680, 0x2000, 0x2001, 0x2002, 0x2003,
      0x2004, 0x2005, 0x2006, 0x2007, 0x2008, 0x2009, 0x200A, 0x2028, 0x2029, 0x202F, 0x205F, 0x3000],
      lowerChar (Char.ofNat n) = Char.ofNat n ∧ Char.ofNat n ≠ '\u0130' ∧ Char.ofNat n ≠ '\u03A3' := by
    decide +kernel
  have known := all c.toNat
  rw [Char.ofNat_toNat] at known
  refine known ?_
  simp only [isBlank, Bool.or_eq_true, Bool.and_eq_true, decide_eq_true_eq] at blank
  simp only [List.mem_cons, List.not_mem_nil, or_false]
  omega

theorem lower_of_blank {s : String} (blank : ∀ c ∈ s.toList, isBlank c = true) : lower s = s := by
  have kept : ∀ {cs before : List Char}, (∀ c ∈ cs, isBlank c = true) → lowerChars before cs = cs := by
    intro cs
    induction cs with
    | nil => exact fun _ => rfl
    | cons c cs ih =>
      intro before blank
      obtain ⟨same, dotted, sigma⟩ := lowerChar_of_isBlank (blank c (.head _))
      rw [lowerChars, if_neg dotted, if_neg sigma, same, ih fun d mem => blank d (.tail _ mem)]
      rfl
  rw [lower, kept blank, String.ofList_toList]

end Herald.Text
