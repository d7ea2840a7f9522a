import Herald.Text.Utf8

/-!
UTF-8 by characters. A text is the bytes of its characters one after the other. A byte below 0x80 is
an ASCII character of its own wherever it stands, so ASCII can be searched for and replaced byte by
byte; and a text may be cut in front of every byte that does not continue a character.
-/
namespace Herald.Text

theorem decode?_eq_some_iff {bytes : List UInt8} {s : String} :
    decode? bytes = some s ↔ bytes = encode s :=
  ⟨fun h => (encode_of_decode? h).symm, fun h => h ▸ decode?_encode s⟩

theorem decode_eq_ok_iff {bytes : List UInt8} {s : String} : decode bytes = .ok s ↔ bytes = encode s := by
  rw [← decode?_eq_some_iff, decode]
  cases decode? bytes with
  | none => exact ⟨nofun, nofun⟩
  | some _ => rw [Except.ok.injEq, Option.some.injEq]

theorem encode_eq_flatMap (s : String) : encode s = s.toList.flatMap String.utf8EncodeChar := by
  have h := encode_ofList s.toList
  rwa [String.ofList_toList] at h

theorem toNat_eq_of_mem_utf8EncodeChar {b : UInt8} {c : Char} (h : b ∈ String.utf8EncodeChar c)
    (ascii : b < 0x80) : c.toNat = b.toNat := by
  have below : b.toNat < 0x80 := UInt8.lt_iff_toNat_lt.1 ascii
  unfold String.utf8EncodeChar at h
  dsimp only at h
  split at h
  · next small =>
    rw [List.mem_singleton] at h
    subst h
    have size : (UInt8.ofNat c.val.toNat).toNat = c.val.toNat := by
      rw [UInt8.toNat_ofNat']
      omega
    exact size.symm
  split at h
  · simp only [List.mem_cons, List.not_mem_nil, or_false] at h
    obtain rfl | rfl := h <;> rw [UInt8.toNat_ofNat'] at below <;> omega
  split at h
  · simp only [List.mem_cons, List.not_mem_nil, or_false] at h
    obtain rfl | rfl | rfl := h <;> rw [UInt8.toNat_ofNat'] at below <;> omega
  · simp only [List.mem_cons, List.not_mem_nil, or_false] at h
    obtain rfl | rfl | rfl | rfl := h <;> rw [UInt8.toNat_ofNat'] at below <;> omega

theorem not_mem_utf8EncodeChar {c d : Char} (other : c ≠ d) (ascii : d.toNat < 0x80) :
    UInt8.ofNat d.toNat ∉ String.utf8EncodeChar c := by
  intro mem
  have byte : (UInt8.ofNat d.toNat).toNat = d.toNat := by
    rw [UInt8.toNat_ofNat']
    omega
  have value := toNat_eq_of_mem_utf8EncodeChar mem (by rwa [UInt8.lt_iff_toNat_lt, byte])
  exact other (Char.toNat_inj.1 (value.trans byte))

def IsUtf8 (bytes : List UInt8) : Prop :=
  ∃ cs : List Char, bytes = cs.flatMap String.utf8EncodeChar

theorem isUtf8_iff {bytes : List UInt8} : IsUtf8 bytes ↔ ∃ s, decode? bytes = some s := by
  simp only [decode?_eq_some_iff]
  constructor
  · rintro ⟨cs, rfl⟩
    exact ⟨String.ofList cs, (encode_ofList cs).symm⟩
  · rintro ⟨s, rfl⟩
    exact ⟨s.toList, encode_eq_flatMap s⟩

theorem IsUtf8.nil : IsUtf8 [] :=
  ⟨[], rfl⟩

theorem IsUtf8.append {t u : List UInt8} (ht : IsUtf8 t) (hu : IsUtf8 u) : IsUtf8 (t ++ u) := by
  obtain ⟨cs, rfl⟩ := ht
  obtain ⟨ds, rfl⟩ := hu
  exact ⟨cs ++ ds, List.flatMap_append.symm⟩

theorem isUtf8_char (c : Char) : IsUtf8 (String.utf8EncodeChar c) :=
  ⟨[c], by simp⟩

theorem utf8EncodeChar_of_ascii {c : Char} (h : c.toNat < 0x80) :
    String.utf8EncodeChar c = [UInt8.ofNat c.toNat] := by
  have one := @encode_ofList_of_ascii [c] (by simpa using h)
  rw [encode_ofList] at one
  simpa using one

theorem utf8EncodeChar_ascii {b : UInt8} (h : b < 0x80) :
    String.utf8EncodeChar (Char.ofNat b.toNat) = [b] := by
  have value := toNat_ofNat_of_ascii h
  rw [utf8EncodeChar_of_ascii (by rwa [value]), value, UInt8.ofNat_toNat]

theorem IsUtf8.cons {b : UInt8} {t : List UInt8} (h : b < 0x80) (ht : IsUtf8 t) :
    IsUtf8 (b :: t) := by
  rw [← List.singleton_append, ← utf8EncodeChar_ascii h]
  exact (isUtf8_char _).append ht

theorem exists_utf8EncodeChar (c : Char) : ∃ b tail, String.utf8EncodeChar c = b :: tail ∧
    isTail b = false ∧ ∀ a ∈ tail, isTail a = true := by
  have tail (n : Nat) : isTail (UInt8.ofNat (n % 0x40 + 0x80)) = true := by
    simp only [isTail, Bool.and_eq_true, decide_eq_true_eq, UInt8.le_iff_toNat_le,
      UInt8.toNat_ofNat']
    constructor <;> simp only [UInt8.reduceToNat] <;> omega
  have head {n : Nat} (h : n < 0x80 ∨ 0xC0 ≤ n) (byte : n < 0x100) :
      isTail (UInt8.ofNat n) = false := by
    simp only [isTail, Bool.and_eq_false_iff, decide_eq_false_iff_not, UInt8.le_iff_toNat_le,
      UInt8.toNat_ofNat', UInt8.reduceToNat]
    omega
  unfold String.utf8EncodeChar
  dsimp only
  split
  · exact ⟨_, [], rfl, head (by omega) (by omega), by simp⟩
  split
  · refine ⟨_, _, rfl, head (by omega) (by omega), ?_⟩
    simp only [List.forall_mem_cons, tail, List.not_mem_nil, false_imp_iff, implies_true, and_self]
  split
  · refine ⟨_, _, rfl, head (by omega) (by omega), ?_⟩
    simp only [List.forall_mem_cons, tail, List.not_mem_nil, false_imp_iff, implies_true, and_self]
  · refine ⟨_, _, rfl, head (by omega) (by omega), ?_⟩
    simp only [List.forall_mem_cons, tail, List.not_mem_nil, false_imp_iff, implies_true, and_self]

theorem prefix_of_ascii_append {c d : Char} (ascii : c.toNat < 0x80) {t u : List UInt8}
    (h : String.utf8EncodeChar c ++ t <+: String.utf8EncodeChar d ++ u) : c = d ∧ t <+: u := by
  have same : c = d := by
    refine Decidable.byContradiction fun other => ?_
    obtain ⟨b, tail, shape, _⟩ := exists_utf8EncodeChar d
    rw [utf8EncodeChar_of_ascii ascii, shape, List.cons_append, List.cons_append,
      List.cons_prefix_cons] at h
    exact not_mem_utf8EncodeChar (Ne.symm other) ascii (by simp [shape, h.1])
  subst same
  exact ⟨rfl, (List.prefix_append_right_inj _).1 h⟩

theorem isUtf8_of_append_cons {t u : List UInt8} {b : UInt8} (h : IsUtf8 (t ++ b :: u))
    (head : isTail b = false) : IsUtf8 t ∧ IsUtf8 (b :: u) := by
  obtain ⟨cs, e⟩ := h
  induction cs generalizing t with
  | nil => simp at e
  | cons c cs ih =>
    rw [List.flatMap_cons] at e
    obtain ⟨a, first, rest⟩ | ⟨t', rfl, rest⟩ := List.append_eq_append_iff.1 e
    · cases t with
      | nil => exact ⟨.nil, c :: cs, by simpa using e⟩
      | cons d t =>
        cases a with
        | nil =>
          rw [List.append_nil] at first
          rw [List.nil_append] at rest
          exact ⟨first ▸ isUtf8_char c, cs, rest⟩
        | cons b' a =>
          obtain ⟨rfl, _⟩ := List.cons.inj rest
          obtain ⟨_, tail, shape, _, continued⟩ := exists_utf8EncodeChar c
          rw [shape, List.cons_append] at first
          have mem : b ∈ tail := by rw [(List.cons.inj first).2]; simp
          rw [continued b mem] at head
          contradiction
    · obtain ⟨ht, hu⟩ := ih rest.symm
      exact ⟨(isUtf8_char c).append ht, hu⟩

theorem isUtf8_iff_isValidUTF8 {bytes : List UInt8} :
    IsUtf8 bytes ↔ ByteArray.IsValidUTF8 bytes.toByteArray := by
  constructor
  · rintro ⟨cs, rfl⟩
    exact ⟨cs, rfl⟩
  · rintro ⟨cs, h⟩
    have same := congrArg (fun b => b.data.toList) h
    exact ⟨cs, by simpa [List.utf8Encode] using same⟩

theorem isUtf8_of_char_append {c : Char} {t : List UInt8}
    (h : IsUtf8 (String.utf8EncodeChar c ++ t)) : IsUtf8 t := by
  rw [isUtf8_iff_isValidUTF8, List.toByteArray_append, ← List.utf8Encode_singleton,
    ByteArray.isValidUTF8_utf8Encode_singleton_append_iff] at h
  exact isUtf8_iff_isValidUTF8.2 h

theorem isUtf8_of_append_char {c : Char} {t u : List UInt8}
    (h : IsUtf8 (t ++ (String.utf8EncodeChar c ++ u))) : IsUtf8 t ∧ IsUtf8 u := by
  obtain ⟨b, tail, shape, head, _⟩ := exists_utf8EncodeChar c
  rw [shape, List.cons_append] at h
  obtain ⟨ht, hu⟩ := isUtf8_of_append_cons h head
  rw [← List.cons_append, ← shape] at hu
  exact ⟨ht, isUtf8_of_char_append hu⟩

end Herald.Text
