import Herald.ContentId
import Herald.Proofs.Text.Utf8
import Herald.Url
import Mathlib.Tactic.SplitIfs

/-!
Escaped texts. Escaping gives ASCII, and in it nothing that has to be escaped; what has no need of it is
left as it is, so a text is not escaped twice.
-/
namespace Herald

namespace Text.Percent

def isMark (c : Char) : Bool :=
  "%0123456789ABCDEF".toList.contains c

theorem isMark_digit (n : Fin 16) : isMark (Char.ofNat (digit n).toNat) = true ∧ digit n < 0x80 := by
  decide +revert

theorem mem_encode {special : UInt8 → Bool} {bytes : List UInt8} {b : UInt8}
    (mem : b ∈ encode special bytes) :
    (b ∈ bytes ∧ special b = false) ∨ (isMark (Char.ofNat b.toNat) = true ∧ b < 0x80) := by
  obtain ⟨a, here, mem⟩ := List.mem_flatMap.1 mem
  split_ifs at mem with kept
  · simp only [escape, List.mem_cons, List.not_mem_nil, or_false] at mem
    obtain rfl | rfl | rfl := mem
    · exact .inr (by decide)
    · exact .inr (isMark_digit ⟨a.toNat / 16, by have := a.toNat_lt; omega⟩)
    · exact .inr (isMark_digit ⟨a.toNat % 16, by omega⟩)
  · rw [List.mem_singleton] at mem
    subst mem
    exact .inl ⟨here, by simpa using kept⟩

theorem encode_eq_self {special : UInt8 → Bool} {bytes : List UInt8}
    (plain : ∀ b ∈ bytes, special b = false) : encode special bytes = bytes := by
  induction bytes with
  | nil => rfl
  | cons b bytes ih =>
    obtain ⟨here, later⟩ := List.forall_mem_cons.1 plain
    rw [encode, List.flatMap_cons, here, ← encode, ih later]
    rfl

end Text.Percent

namespace Url

/-- Stands for itself where the `special` bytes are escaped. -/
def Plain (special : UInt8 → Bool) (c : Char) : Prop :=
  c.toNat < 0x80 ∧ special (UInt8.ofNat c.toNat) = false

theorem escaped_eq_self {special : UInt8 → Bool} {cs : List Char} (plain : ∀ c ∈ cs, Plain special c) :
    escaped special cs = String.ofList cs := by
  have bytes := Text.encode_ofList_of_ascii fun c mem => (plain c mem).1
  have same : Text.Percent.encode special (Text.encode (String.ofList cs)) =
      Text.encode (String.ofList cs) := by
    refine Text.Percent.encode_eq_self fun b mem => ?_
    rw [bytes] at mem
    obtain ⟨c, here, rfl⟩ := List.mem_map.1 mem
    exact (plain c here).2
  rw [escaped, same, bytes, Text.ascii, List.map_map]
  congr 1
  refine (List.map_congr_left fun c mem => ?_).trans (List.map_id cs)
  have small : c.toNat < 256 := Nat.lt_trans (plain c mem).1 (by decide)
  rw [Function.comp_apply, UInt8.toNat_ofNat_of_lt' small, Char.ofNat_toNat, id_eq]

theorem mem_escaped {special : UInt8 → Bool} (covers : ∀ b, 0x80 ≤ b → special b = true) {cs : List Char}
    {c : Char} (mem : c ∈ (escaped special cs).toList) :
    (c ∈ cs ∧ Plain special c) ∨ Text.Percent.isMark c = true := by
  rw [escaped, Text.ascii, String.toList_ofList] at mem
  obtain ⟨b, written, rfl⟩ := List.mem_map.1 mem
  obtain ⟨here, plain⟩ | ⟨mark, _⟩ := Text.Percent.mem_encode written
  · have small : b < 0x80 := by
      rw [← UInt8.not_le]
      intro large
      rw [covers b large] at plain
      contradiction
    rw [Text.encode_ofList] at here
    obtain ⟨d, inside, bytes⟩ := List.mem_flatMap.1 here
    have value : d.toNat = b.toNat := Text.toNat_eq_of_mem_utf8EncodeChar bytes small
    rw [← value, Char.ofNat_toNat]
    refine .inl ⟨inside, ?_, ?_⟩
    · rw [value]
      exact small
    · rwa [value, UInt8.ofNat_toNat]
  · exact .inr mark

theorem formText_of_alphanumeric {s : String} (plain : ∀ c ∈ s.toList, isAlphanumeric c = true) :
    formText s = s := by
  have basic (c : Char) (letter : isAlphanumeric c = true) : Plain inForm c ∧ c ≠ ' ' := by
    have bound : c.toNat < 0x80 := Nat.lt_of_le_of_lt (ContentId.ascii_of_isAlphanumeric letter).2 (by decide)
    have known : isAlphanumeric c = true → inForm (UInt8.ofNat c.toNat) = false ∧ c ≠ ' ' :=
      Text.forall_ascii bound (by decide +kernel)
    exact ⟨⟨bound, (known letter).1⟩, (known letter).2⟩
  have kept : s.toList.map (fun c => if c = ' ' then '+' else c) = s.toList :=
    (List.map_congr_left fun c mem => if_neg (basic c (plain c mem)).2).trans (List.map_id' _)
  rw [formText, escaped_eq_self fun c mem => (basic c (plain c mem)).1, String.toList_ofList, kept,
    String.ofList_toList]

theorem formPair_pin : formPair "pin" "true" = "pin=true" := by
  decide +kernel

theorem formPair_arg (id : ContentId) : formPair "arg" id.text = "arg=" ++ id.text := by
  have name : formText "arg" = "arg" := by decide +kernel
  rw [formPair, name, formText_of_alphanumeric (List.all_eq_true.1 id.alphanumeric)]
  rfl

end Url

end Herald
