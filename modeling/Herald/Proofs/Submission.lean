import Herald.Document
import Herald.Proofs.Repair
import Herald.Proofs.Text.Utf8

/-!
What producers may send. Bytes make a document exactly when they are UTF-8 and, with every
apostrophe turned into a quote, spell a value in JSON with the three words for numbers that are not
finite; the document is then the canonical form of that value. Anything else is malformed.
-/
namespace Herald

open Json (Spells Value)

namespace Repair

def quoteChar (c : Char) : Char :=
  if c = '\'' then '"' else c

theorem utf8EncodeChar_quoteChar (c : Char) :
    String.utf8EncodeChar (quoteChar c) = quotes (String.utf8EncodeChar c) := by
  by_cases apostrophe : c = '\''
  · subst apostrophe
    decide
  · have other : ∀ b ∈ String.utf8EncodeChar c, quote b = b := by
      intro b hb
      refine if_neg ?_
      rintro rfl
      exact Text.not_mem_utf8EncodeChar apostrophe (by decide) hb
    rw [quoteChar, if_neg apostrophe, quotes, List.map_congr_left other, List.map_id']

theorem quotes_encode (s : String) :
    quotes (Text.encode s) = Text.encode (String.ofList (s.toList.map quoteChar)) := by
  rw [Text.encode_ofList, Text.encode_eq_flatMap]
  induction s.toList with
  | nil => rfl
  | cons c cs ih =>
    rw [List.map_cons, List.flatMap_cons, List.flatMap_cons, ← ih, utf8EncodeChar_quoteChar,
      quotes, List.map_append]
    rfl

end Repair

namespace Document

/-- The document that a producer's bytes mean, in the grammar with words for what is not finite. -/
def IsMeant (raw : List UInt8) (d : Document) : Prop :=
  ∃ s v, Text.decode? raw = some s ∧
    Spells Repair.nonFinite (Text.encode (String.ofList (s.toList.map Repair.quoteChar))) v ∧
    v.depth ≤ Json.maxDepth ∧ d = ofValue v

theorem normalize_eq_ok_iff {raw : List UInt8} {d : Document} :
    normalize raw = .ok d ↔ IsMeant raw d := by
  unfold normalize IsMeant Text.decode
  cases decoded : Text.decode? raw with
  | none => simp
  | some s =>
    obtain rfl : raw = Text.encode s := Text.decode?_eq_some_iff.1 decoded
    have spells (v : Value) : Json.parse (Repair.text (Text.encode s)) = .ok v ↔
        Spells Repair.nonFinite (Text.encode (String.ofList (s.toList.map Repair.quoteChar))) v ∧
          v.depth ≤ Json.maxDepth := by
      rw [Json.parse_eq_ok_iff, Repair.text, Repair.spells_words_iff, Repair.quotes_encode]
    dsimp only
    constructor
    · intro h
      split at h
      · contradiction
      · next v read =>
        cases h
        obtain ⟨spelled, shallow⟩ := (spells v).1 read
        exact ⟨s, v, rfl, spelled, shallow, rfl⟩
    · rintro ⟨s', v, same, spelled, shallow, rfl⟩
      cases same
      rw [(spells v).2 ⟨spelled, shallow⟩]

theorem submit_eq_ok_iff {raw : List UInt8} {d : Document} :
    submit raw = .ok d ↔ IsMeant raw d := by
  rw [← normalize_eq_ok_iff, submit]
  cases normalize raw with
  | ok e =>
    change Except.ok e = Except.ok d ↔ _
    simp only [Except.ok.injEq]
  | error _ => exact ⟨nofun, nofun⟩

/-- A producer's bytes are taken for the document they mean, and refused as malformed only if they
mean none. -/
theorem submit_exact (raw : List UInt8) :
    (∀ d, submit raw = .ok d ↔ IsMeant raw d) ∧
      ((∀ d, ¬IsMeant raw d) → ∃ message, submit raw = .error (.malformed message)) := by
  refine ⟨fun d => submit_eq_ok_iff, fun none => ?_⟩
  cases result : normalize raw with
  | ok d => exact absurd (normalize_eq_ok_iff.1 result) (none d)
  | error fault => exact ⟨fault.message, by rw [submit, result]; rfl⟩

end Document

end Herald
