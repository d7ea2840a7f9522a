import Herald.Proofs.Text.Utf8
import Mathlib.Data.String.Basic

/-!
The order of texts. UTF-8 keeps the order of characters: a greater character has a greater lead byte,
or the same and greater bytes behind it. So texts are in the order of their bytes.
-/
namespace Herald.Text

theorem sixes_lt {m n : Nat} (less : m < n) :
    m / 64 / 64 / 64 < n / 64 / 64 / 64 ∨ m / 64 / 64 / 64 = n / 64 / 64 / 64 ∧
      (m / 64 / 64 % 64 < n / 64 / 64 % 64 ∨ m / 64 / 64 % 64 = n / 64 / 64 % 64 ∧
        (m / 64 % 64 < n / 64 % 64 ∨ m / 64 % 64 = n / 64 % 64 ∧ m % 64 < n % 64)) := by
  have last {m n : Nat} (less : m < n) : m / 64 < n / 64 ∨ m / 64 = n / 64 ∧ m % 64 < n % 64 := by omega
  obtain low | ⟨same, low⟩ := last less
  · obtain middle | ⟨same, middle⟩ := last low
    · obtain high | ⟨same, high⟩ := last middle
      · exact .inl high
      · exact .inr ⟨same, .inl high⟩
    · rw [same]
      exact .inr ⟨rfl, .inr ⟨rfl, .inl middle⟩⟩
  · rw [same]
    exact .inr ⟨rfl, .inr ⟨rfl, .inr ⟨rfl, low⟩⟩⟩

theorem utf8EncodeChar_append_lt {c d : Char} (less : c < d) (s t : List UInt8) :
    String.utf8EncodeChar c ++ s < String.utf8EncodeChar d ++ t := by
  have below : c.val.toNat < d.val.toNat := UInt32.lt_iff_toNat_lt.1 less
  have bound : d.val.toNat < 0x110000 := by
    obtain low | high := d.valid
    · exact Nat.lt_trans low (by decide)
    · exact high.2
  have byte {n : Nat} (small : n < 256) : (UInt8.ofNat n).toNat = n :=
    UInt8.toNat_ofNat_of_lt small
  have lead {n : Nat} (small : n < 0x110000) : n / 262144 % 8 = n / 262144 := by omega
  have sixes := sixes_lt below
  simp only [Nat.div_div_eq_div_mul, Nat.reduceMul] at sixes
  unfold String.utf8EncodeChar
  dsimp only
  split_ifs
  all_goals
    simp (disch := omega) only [List.cons_append, List.nil_append, List.cons_lt_cons_iff,
      UInt8.lt_iff_toNat_lt, ← UInt8.toNat_inj, byte, lead]
    omega

theorem flatMap_utf8EncodeChar_lt {cs ds : List Char} (less : cs < ds) :
    cs.flatMap String.utf8EncodeChar < ds.flatMap String.utf8EncodeChar := by
  induction less with
  | nil =>
    rename_i d ds
    obtain ⟨b, tail, bytes, _⟩ := exists_utf8EncodeChar d
    rw [List.flatMap_cons, bytes]
    exact .nil
  | cons _ ih =>
    rw [List.flatMap_cons, List.flatMap_cons]
    exact List.append_left_lt ih
  | rel first =>
    rw [List.flatMap_cons, List.flatMap_cons]
    exact utf8EncodeChar_append_lt first _ _

/-- Texts are in the order of their bytes. -/
theorem encode_lt_encode_iff {a b : String} : encode a < encode b ↔ a < b := by
  have keeps {a b : String} (less : a < b) : encode a < encode b := by
    rw [encode_eq_flatMap, encode_eq_flatMap]
    exact flatMap_utf8EncodeChar_lt (String.lt_iff_toList_lt.1 less)
  refine ⟨fun less => ?_, keeps⟩
  obtain before | rfl | behind := lt_trichotomy a b
  · exact before
  · exact absurd less (List.lt_irrefl _)
  · exact absurd less (List.lt_asymm (keeps behind))

end Herald.Text
