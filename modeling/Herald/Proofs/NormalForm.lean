import Herald.Document
import Herald.Proofs.Json.Path
import Herald.Proofs.Json.Rearranged
import Herald.Proofs.Json.ReadValue
import Herald.Proofs.Text.Order

/-!
The canonical form of a document. Its members stand in the order of the bytes of their names, its leaves
are those of the value that it was made of, and it is made of itself. Main statement: values whose
objects have no two members of one name make one document exactly when they differ only in the order
of members; where a text has several members of one name, the last counts.
-/
namespace Herald.Document

open Json (Value Spells valuesOf)
open Json.Value (Rearranged Within)

theorem ofValue_eq_iff {v w : Value} : ofValue v = ofValue w ↔ v.canonical = w.canonical :=
  ⟨congrArg Document.value, fun same => by simp only [ofValue, same]⟩

theorem pairwise_encode_of_within {v : Value} {ms : List (String × Value)}
    (within : Within (.object ms) (ofValue v).value) :
    (ms.map fun m => Text.encode m.1).Pairwise (· < ·) := by
  have names := List.pairwise_map.1 ((ofValue v).ordered.within within)
  exact List.pairwise_map.2 (names.imp Text.encode_lt_encode_iff.2)

theorem ofBytes_of_spells {t : List UInt8} {v : Value} (spells : Spells [] t v)
    (shallow : v.depth ≤ Json.maxDepth) : ofBytes t = .ok (ofValue v) := by
  rw [ofBytes, Json.parse_eq_ok_iff.2 ⟨spells, shallow⟩]
  rfl

theorem valuesOf_ofValue (ms : List (String × Value)) : ∃ ns, (ofValue (.object ms)).value = .object ns ∧
    ∀ name, valuesOf name ns = ((valuesOf name ms).getLast?.map Value.canonical).toList :=
  ⟨_, rfl, fun name => by
    rw [Value.valuesOf_sortMembers, Value.valuesOf_canonicalMembers, List.getLast?_map]⟩

/-- The parts are: the order of members, the leaves, that nothing changes a second time, which values
make one document, and what texts with several members of one name make. -/
theorem ofValue_normal :
    (∀ v ms, Within (.object ms) (ofValue v).value →
      (ms.map fun m => Text.encode m.1).Pairwise (· < ·)) ∧
    (∀ v path, (ofValue v).value.leafAt? path = v.leafAt? path ∧
      (ofValue v).value.at? path = (v.at? path).map Value.canonical) ∧
    (∀ v, ofValue (ofValue v).value = ofValue v) ∧
    (∀ v w, v.Distinct → w.Distinct → (ofValue v = ofValue w ↔ Rearranged v w)) ∧
    (∀ v w, v.Distinct → Rearranged v w →
      ofValue v = ofValue w ∧ (ofValue v).bytes = (ofValue w).bytes ∧ (ofValue v).id = (ofValue w).id) ∧
    (∀ t v, Spells [] t v → v.depth ≤ Json.maxDepth → ofBytes t = .ok (ofValue v)) ∧
    ∀ ms, ∃ ns, (ofValue (.object ms)).value = .object ns ∧
      ∀ name, valuesOf name ns = ((valuesOf name ms).getLast?.map Value.canonical).toList := by
  refine ⟨fun v ms => pairwise_encode_of_within,
    fun v path => ⟨v.leafAt?_canonical path, Value.at?_canonical path v⟩,
    fun v => (ofValue v).ofValue_value,
    fun v w distinct distinct' => ofValue_eq_iff.trans (Value.canonical_eq_iff distinct distinct'),
    fun v w distinct same => ?_, fun t v => ofBytes_of_spells, valuesOf_ofValue⟩
  have one := ofValue_eq_iff.2 (same.canonical_eq distinct)
  exact ⟨one, congrArg bytes one, congrArg id one⟩

/-- Members out of order at two depths, among them two whose names the units of UTF-16 would put the
other way round. -/
def crossed : Value :=
  .object [("b", .null), ("a", .object [("𝄞", .bool true), ("\uFFFF", .string "")])]

def straight : Value :=
  .object [("a", .object [("\uFFFF", .string ""), ("𝄞", .bool true)]), ("b", .null)]

def repeatingText : List UInt8 :=
  Text.encode "\x7b\"a\":true,\"b\":[null],\"a\":[]\x7d"

def repeating : Value :=
  .object [("a", .bool true), ("b", .array [.null]), ("a", .array [])]

theorem ofValue_normal_crossed :
    (crossed.Distinct ∧ Rearranged crossed straight ∧ ofValue crossed = ofValue straight ∧
      (ofValue crossed).id = (ofValue straight).id) ∧
    (Within (.object [("\uFFFF", .string ""), ("𝄞", .bool true)]) (ofValue crossed).value ∧
      [Text.encode "\uFFFF", Text.encode "𝄞"].Pairwise (· < ·)) ∧
    Spells [] repeatingText repeating ∧ ofBytes repeatingText = .ok (ofValue repeating) ∧
    (ofValue repeating).value.leafAt? [.member "a"] = some (.array []) := by
  obtain ⟨sorted, leaves, _, _, same, texts, _⟩ := ofValue_normal
  have distinct : crossed.Distinct := by simp [crossed, Value.Distinct, Value.DistinctMembers]
  have inner : Rearranged crossed (.object [("b", .null),
      ("a", .object [("\uFFFF", .string ""), ("𝄞", .bool true)])]) :=
    .member "a" [("b", .null)] [] (.members (.swap _ _ _))
  have rearranged : Rearranged crossed straight := inner.trans (.members (.swap _ _ _))
  have one := same _ _ distinct rearranged
  have outer : (ofValue crossed).value = straight := by decide +kernel
  have within : Within (.object [("\uFFFF", .string ""), ("𝄞", .bool true)])
      (ofValue crossed).value := by
    rw [outer]
    exact .member (.head _) .here
  have read : Json.parse repeatingText = .ok repeating := by decide +kernel
  obtain ⟨spells, shallow⟩ := Json.parse_eq_ok_iff.1 read
  refine ⟨⟨distinct, rearranged, one.1, one.2.2⟩, ⟨within, sorted _ _ within⟩, spells,
    texts _ _ spells shallow, ?_⟩
  rw [(leaves repeating _).1]
  rfl

end Herald.Document
