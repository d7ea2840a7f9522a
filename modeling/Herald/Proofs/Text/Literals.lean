/-!
String literals in a text. A literal goes from a quote to the next one that is not escaped, or to the
end of the text. Escapes belong to literals: between them a backslash is a character like any other.
So a text comes apart into literals and what stands between them, and it does so in one way only.
-/
namespace Herald.Text

/-- What may stand between the quotes of a literal: a quote only behind a backslash, which goes with
the character behind it, whatever that is. -/
inductive Enclosed : List Char → Prop
  | nil : Enclosed []
  | plain {c : Char} {cs : List Char} (quote : c ≠ '"') (backslash : c ≠ '\\') :
      Enclosed cs → Enclosed (c :: cs)
  | escape (c : Char) {cs : List Char} : Enclosed cs → Enclosed ('\\' :: c :: cs)

/-- What stands behind a quote that nothing closes; the text may end on a backslash. -/
inductive Unclosed : List Char → Prop
  | whole {cs : List Char} : Enclosed cs → Unclosed cs
  | cut {cs : List Char} : Enclosed cs → Unclosed (cs ++ ['\\'])

/-- What stands between two literals, or between one and the start or the end of the text. -/
structure Gap where
  chars : List Char
  bare : '"' ∉ chars

inductive Parts where
  | last (gap : Gap)
  | unclosed (gap : Gap) (body : List Char) (ended : Unclosed body)
  | closed (gap : Gap) (body : List Char) (enclosed : Enclosed body) (rest : Parts)

namespace Parts

def chars : Parts → List Char
  | last gap => gap.chars
  | unclosed gap body _ => gap.chars ++ '"' :: body
  | closed gap body _ rest => gap.chars ++ '"' :: (body ++ '"' :: rest.chars)

def literals : Parts → List (List Char)
  | last _ => []
  | unclosed _ body _ => ['"' :: body]
  | closed _ body _ rest => ('"' :: (body ++ ['"'])) :: rest.literals

def gaps : Parts → List (List Char)
  | last gap => [gap.chars]
  | unclosed gap _ _ => [gap.chars]
  | closed gap _ _ rest => gap.chars :: rest.gaps

def AreOf (p : Parts) (text : List Char) : Prop :=
  ∀ q : Parts, q.chars = text ↔ q = p

end Parts

inductive Halt : List Char → Prop
  | nil : Halt []
  | backslash : Halt ['\\']
  | quote (rest : List Char) : Halt ('"' :: rest)

theorem exists_enclosed (text : List Char) :
    ∃ body rest, Enclosed body ∧ Halt rest ∧ body ++ rest = text := by
  match text with
  | [] => exact ⟨[], [], .nil, .nil, rfl⟩
  | c :: text =>
    by_cases quote : c = '"'
    · exact ⟨[], _, .nil, quote ▸ .quote text, rfl⟩
    by_cases backslash : c = '\\'
    · match text with
      | [] => exact ⟨[], _, .nil, backslash ▸ .backslash, rfl⟩
      | d :: text =>
        obtain ⟨body, rest, enclosed, halt, rfl⟩ := exists_enclosed text
        exact ⟨c :: d :: body, rest, backslash ▸ .escape d enclosed, halt, rfl⟩
    · obtain ⟨body, rest, enclosed, halt, rfl⟩ := exists_enclosed text
      exact ⟨c :: body, rest, .plain quote backslash enclosed, halt, rfl⟩

theorem exists_chars_eq (text : List Char) : ∃ p : Parts, p.chars = text := by
  by_cases mem : '"' ∈ text
  · obtain ⟨before, behind, rfl, bare⟩ := List.eq_append_cons_of_mem mem
    obtain ⟨body, rest, enclosed, halt, rfl⟩ := exists_enclosed behind
    cases halt with
    | nil => exact ⟨.unclosed ⟨before, bare⟩ _ (.whole enclosed), by simp [Parts.chars]⟩
    | backslash => exact ⟨.unclosed ⟨before, bare⟩ _ (.cut enclosed), rfl⟩
    | quote rest =>
      obtain ⟨p, same⟩ := exists_chars_eq rest
      exact ⟨.closed ⟨before, bare⟩ body enclosed p, by rw [Parts.chars, same]⟩
  · exact ⟨.last ⟨text, mem⟩, rfl⟩
termination_by text.length

theorem Halt.not_plain {c : Char} {t : List Char} (h : Halt (c :: t)) (quote : c ≠ '"')
    (backslash : c ≠ '\\') : False := by
  cases h with
  | backslash => exact backslash rfl
  | quote => exact quote rfl

theorem Halt.not_escape {c : Char} {t : List Char} : ¬ Halt ('\\' :: c :: t) :=
  nofun

theorem Enclosed.append_inj {b b' t t' : List Char} (h : Enclosed b) (h' : Enclosed b')
    (halt : Halt t) (halt' : Halt t') (same : b ++ t = b' ++ t') : b = b' ∧ t = t' := by
  induction h generalizing b' with
  | nil =>
    rw [List.nil_append] at same
    subst same
    cases h' with
    | nil => exact ⟨rfl, rfl⟩
    | plain quote backslash => exact (halt.not_plain quote backslash).elim
    | escape => exact (Halt.not_escape halt).elim
  | plain quote backslash _ ih =>
    cases h' with
    | nil =>
      rw [List.nil_append] at same
      subst same
      exact (halt'.not_plain quote backslash).elim
    | plain _ _ h' =>
      obtain ⟨rfl, behind⟩ := List.cons.inj same
      obtain ⟨rfl, rfl⟩ := ih h' behind
      exact ⟨rfl, rfl⟩
    | escape => exact absurd (List.cons.inj same).1 backslash
  | escape c _ ih =>
    cases h' with
    | nil =>
      rw [List.nil_append] at same
      subst same
      exact (Halt.not_escape halt').elim
    | plain _ backslash => exact absurd (List.cons.inj same).1.symm backslash
    | escape c' h' =>
      obtain ⟨_, escaped⟩ := List.cons.inj same
      obtain ⟨rfl, behind⟩ := List.cons.inj escaped
      obtain ⟨rfl, rfl⟩ := ih h' behind
      exact ⟨rfl, rfl⟩

theorem Unclosed.ne_append_quote {u b t : List Char} (h : Unclosed u) (h' : Enclosed b) :
    u ≠ b ++ '"' :: t := by
  intro same
  cases h with
  | whole h =>
    rw [← List.append_nil u] at same
    cases (h.append_inj h' .nil (.quote t) same).2
  | cut h => cases (h.append_inj h' .backslash (.quote t) same).2

namespace Gap

theorem ne_append_quote (g g' : Gap) (t : List Char) : g.chars ≠ g'.chars ++ '"' :: t := by
  intro same
  exact g.bare (by simp [same])

theorem append_quote_inj {g g' : Gap} {t t' : List Char}
    (same : g.chars ++ '"' :: t = g'.chars ++ '"' :: t') : g = g' ∧ t = t' := by
  obtain ⟨g, bare⟩ := g
  obtain ⟨g', bare'⟩ := g'
  dsimp only at same
  obtain ⟨a, rfl, rest⟩ | ⟨a, rfl, rest⟩ := List.append_eq_append_iff.1 same
  · cases a with
    | nil => exact ⟨by simp, (List.cons.inj rest).2⟩
    | cons c a =>
      obtain ⟨rfl, _⟩ := List.cons.inj rest
      exact absurd (by simp) bare'
  · cases a with
    | nil => exact ⟨by simp, (List.cons.inj rest).2.symm⟩
    | cons c a =>
      obtain ⟨rfl, _⟩ := List.cons.inj rest
      exact absurd (by simp) bare

end Gap

namespace Parts

theorem chars_inj {p q : Parts} (same : p.chars = q.chars) : p = q := by
  induction p generalizing q with
  | last g =>
    cases q with
    | last g' => exact congrArg last (by cases g; cases g'; cases same; rfl)
    | unclosed g' | closed g' => exact absurd same (g.ne_append_quote g' _)
  | unclosed g body ended =>
    cases q with
    | last g' => exact absurd same.symm (g'.ne_append_quote g _)
    | unclosed g' body' =>
      obtain ⟨rfl, rfl⟩ := Gap.append_quote_inj same
      rfl
    | closed g' body' enclosed =>
      obtain ⟨_, inside⟩ := Gap.append_quote_inj same
      exact absurd inside (ended.ne_append_quote enclosed)
  | closed g body enclosed rest ih =>
    cases q with
    | last g' => exact absurd same.symm (g'.ne_append_quote g _)
    | unclosed g' body' ended =>
      obtain ⟨_, inside⟩ := Gap.append_quote_inj same
      exact absurd inside.symm (ended.ne_append_quote enclosed)
    | closed g' body' enclosed' rest' =>
      obtain ⟨rfl, inside⟩ := Gap.append_quote_inj same
      obtain ⟨rfl, behind⟩ := enclosed.append_inj enclosed' (.quote _) (.quote _) inside
      obtain rfl := ih (List.cons.inj behind).2
      rfl

theorem areOf_chars (p : Parts) : p.AreOf p.chars :=
  fun _ => ⟨chars_inj, congrArg chars⟩

end Parts

end Herald.Text
