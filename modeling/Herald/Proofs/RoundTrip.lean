import Herald.Document
import Herald.Proofs.Json.Numbers
import Herald.Proofs.Submission
import Mathlib.Data.List.Basic

/-!
Documents and their texts. A document that was read comes back from its text as it is, if only its
floats do: nothing that was accepted nests too deep or holds an integer that is not read back.
-/
namespace Herald.Document

open Json (Number Value)

/-- The document can be printed and read: it does not nest too deep, and its integers have 64 bits. -/
structure Legible (d : Document) : Prop where
  shallow : d.value.depth ≤ Json.maxDepth
  fits : ∀ n ∈ d.value.numbers, n.Fits

theorem legible_ofValue {words : List (List UInt8)} {t : List UInt8} {v : Value}
    (spelled : Json.Spells words t v) (shallow : v.depth ≤ Json.maxDepth) : (ofValue v).Legible := by
  obtain ⟨t₁, t₂, _, denotes, _⟩ := spelled
  refine ⟨Nat.le_trans (Value.depth_canonical_le v) shallow, ?_⟩
  intro n mem
  exact denotes.fits n (Value.mem_numbers_canonical v mem)

theorem legible_of_normalize {raw : List UInt8} {d : Document} (accepted : normalize raw = .ok d) :
    d.Legible := by
  obtain ⟨s, v, _, spelled, shallow, rfl⟩ := normalize_eq_ok_iff.1 accepted
  exact legible_ofValue spelled shallow

theorem legible_of_ofBytes {text : List UInt8} {d : Document} (accepted : ofBytes text = .ok d) :
    d.Legible := by
  unfold ofBytes at accepted
  cases read : Json.parse text with
  | error fault =>
    rw [read] at accepted
    contradiction
  | ok v =>
    rw [read] at accepted
    cases accepted
    obtain ⟨spelled, shallow⟩ := Json.parse_eq_ok_iff.1 read
    exact legible_ofValue spelled shallow

theorem Legible.ofBytes_iff {d d' : Document} (legible : d.Legible) :
    ofBytes d.bytes = .ok d' ↔ Json.Rereads d.value d'.value := by
  have reads (w : Value) : Json.parse d.bytes = .ok w ↔ Json.Rereads d.value w :=
    Json.parse_print_iff legible.shallow
  unfold ofBytes
  constructor
  · intro loaded
    cases read : Json.parse d.bytes with
    | error fault =>
      rw [read] at loaded
      contradiction
    | ok w =>
      rw [read] at loaded
      cases loaded
      have again := (reads w).1 read
      change Json.Rereads d.value w.canonical
      rw [Value.canonical_of_ordered w (again.ordered d.ordered)]
      exact again
  · intro again
    rw [(reads d'.value).2 again]
    exact congrArg Except.ok d'.ofValue_value

theorem Legible.returns_int {d : Document} (legible : d.Legible) {n : Int}
    (mem : .int n ∈ d.value.numbers) : Json.parse (Number.int n).print = .ok (.number (.int n)) :=
  Json.parse_int_print (legible.fits _ mem)

theorem Legible.ofBytes_self_iff {d : Document} (legible : d.Legible) : ofBytes d.bytes = .ok d ↔
    ∀ x : Float, .float x ∈ d.value.numbers →
      Json.parse (Number.float x).print = .ok (.number (.float x)) := by
  rw [legible.ofBytes_iff]
  constructor
  · exact fun again x => Json.of_rereads_self d.value again (.float x)
  · intro floats
    apply Json.rereads_self
    intro n mem
    cases n with
    | int n => exact legible.returns_int mem
    | float x => exact floats x mem

theorem Legible.bytes_iff {d : Document} (legible : d.Legible) :
    (∃ d', ofBytes d.bytes = .ok d' ∧ d'.bytes = d.bytes) ↔
      ∀ x : Float, .float x ∈ d.value.numbers → (Number.float x).Kept := by
  constructor
  · rintro ⟨d', loaded, same⟩ x
    exact (Json.print_eq_iff (legible.ofBytes_iff.1 loaded)).1 same (.float x)
  · intro floats
    have kept : ∀ n ∈ d.value.numbers, n.Kept := by
      intro n mem
      cases n with
      | int n => exact Json.kept_of_returns (legible.returns_int mem)
      | float x => exact floats x mem
    obtain ⟨w, again⟩ := Json.exists_rereads d.value fun n mem =>
      (kept n mem).elim fun w h => ⟨w, h.1⟩
    refine ⟨⟨w, again.ordered d.ordered⟩, legible.ofBytes_iff.2 again, ?_⟩
    exact (Json.print_eq_iff again).2 kept

/-- Printing and reading undo each other: a document that was accepted comes back from its own text,
if each of its floats comes back from its own. -/
theorem ofBytes_bytes {d : Document}
    (accepted : (∃ raw, normalize raw = .ok d) ∨ ∃ text, ofBytes text = .ok d)
    (floats : ∀ x : Float, .float x ∈ d.value.numbers →
      Json.parse (Number.float x).print = .ok (.number (.float x))) :
    ofBytes d.bytes = .ok d := by
  have legible : d.Legible := by
    obtain ⟨raw, normalized⟩ | ⟨text, read⟩ := accepted
    · exact legible_of_normalize normalized
    · exact legible_of_ofBytes read
  exact legible.ofBytes_self_iff.2 floats

def mixedText : List UInt8 :=
  Text.encode "\x7b\"b\": [1.5, -0.0, 1e300, -9223372036854775808], \"a\\n\": \"it's \\u0001\"\x7d"

def mixed : Document :=
  ofValue (.object [("b", .array [.number (.float 1.5), .number (.float (-0.0)),
    .number (.float 1e300), .number (.int (-9223372036854775808))]), ("a\n", .string "it's \x01")])

theorem ofBytes_bytes_mixed :
    ofBytes mixedText = .ok mixed ∧
      (∀ x : Float, .float x ∈ mixed.value.numbers →
        Json.parse (Number.float x).print = .ok (.number (.float x))) ∧
      ofBytes mixed.bytes = .ok mixed := by
  have read : ofBytes mixedText = .ok mixed := by decide +kernel
  have back : ∀ n ∈ mixed.value.numbers, Json.parse n.print = .ok (.number n) := by decide +kernel
  have floats : ∀ x : Float, .float x ∈ mixed.value.numbers →
      Json.parse (Number.float x).print = .ok (.number (.float x)) := fun x => back (.float x)
  exact ⟨read, floats, ofBytes_bytes (.inr ⟨mixedText, read⟩) floats⟩

end Herald.Document
