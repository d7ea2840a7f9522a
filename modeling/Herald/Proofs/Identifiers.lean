import Herald.ContentId
import Herald.Proofs.Results
import Herald.Proofs.Text.Lowercase
import Herald.Proofs.Text.Utf8
import Herald.Topic
import Mathlib.Data.List.TakeWhile

/-!
Identifiers and topics in their written form. What an identifier or a topic is written as, as a text or
in hexadecimal, is read as just that; and the texts that are read as topics are those with four bytes of
hexadecimal digits.
-/
namespace Herald

theorem ContentId.not_isBlank_of_isAlphanumeric {c : Char} (h : isAlphanumeric c = true) :
    Text.isBlank c = false := by
  obtain ⟨low, high⟩ := ascii_of_isAlphanumeric h
  simp only [Text.isBlank, Bool.or_eq_false_iff, Bool.and_eq_false_iff, decide_eq_false_iff_not]
  omega

theorem Text.trimChars_of_solid {cs : List Char} (solid : ∀ c ∈ cs, isBlank c = false) :
    trimChars cs = cs := by
  have kept : ∀ cs : List Char, (∀ c ∈ cs, isBlank c = false) → cs.dropWhile isBlank = cs := by
    intro cs solid
    cases cs with
    | nil => rfl
    | cons c cs =>
      rw [List.dropWhile_cons_of_neg]
      simp [solid c]
  unfold trimChars
  rw [kept cs solid, kept cs.reverse fun c mem => solid c (List.mem_reverse.1 mem), List.reverse_reverse]

theorem Text.dropHexMark_of_isDigit {cs : List Char} (digits : ∀ c ∈ cs, Hex.isDigit c = true) :
    dropHexMark cs = cs := by
  unfold dropHexMark
  split
  · exact absurd (digits 'x' (by simp)) (by decide)
  · exact absurd (digits 'X' (by simp)) (by decide)
  · rfl

namespace Text.Hex

theorem not_isBlank_of_mem_encode {bytes : List UInt8} {c : Char} (mem : c ∈ (encode bytes).toList) :
    isBlank c = false :=
  ContentId.not_isBlank_of_isAlphanumeric (ContentId.isAlphanumeric_of_isDigit (isDigit_of_mem_encode mem))

theorem toList_marked (bytes : List UInt8) :
    ("0x" ++ encode bytes).toList = '0' :: 'x' :: (encode bytes).toList := by
  rw [String.toList_append]
  rfl

theorem toList_encode (bytes : List UInt8) :
    (encode bytes).toList = bytes.flatMap fun b =>
      [Nat.digitChar (b.toNat / 16), Nat.digitChar (b.toNat % 16)] := by
  have shown (n : Fin 16) : Char.ofNat (digit n).toNat = Nat.digitChar n := by decide +revert
  rw [encode, ascii, String.toList_ofList]
  induction bytes with
  | nil => rfl
  | cons b rest ih =>
    have bound := b.toNat_lt
    have high := shown ⟨b.toNat / 16, by omega⟩
    have low := shown ⟨b.toNat % 16, by omega⟩
    simp only at high low
    rw [encodeBytes, List.map_cons, List.map_cons, ih, high, low]
    rfl

theorem hexDigits_marked (bytes : List UInt8) : hexDigits ("0x" ++ encode bytes) = encode bytes := by
  have solid : ∀ c ∈ '0' :: 'x' :: (encode bytes).toList, isBlank c = false := by
    intro c mem
    rw [List.mem_cons, List.mem_cons] at mem
    obtain rfl | rfl | mem := mem
    · rfl
    · rfl
    · exact not_isBlank_of_mem_encode mem
  rw [hexDigits, toList_marked, trimChars_of_solid solid, dropHexMark, String.ofList_toList]

theorem digitValue?_isSome_iff {b : UInt8} :
    (digitValue? b).isSome = true ↔ b < 0x80 ∧ isDigit (Char.ofNat b.toNat) = true := by
  have all : ∀ n : Fin 256, (digitValue? (UInt8.ofNat n)).isSome = true ↔
      UInt8.ofNat n < 0x80 ∧ isDigit (Char.ofNat (UInt8.ofNat n).toNat) = true := by decide +kernel
  simpa using all ⟨b.toNat, b.toNat_lt⟩

theorem decodePairs_eq_ok {index : Nat} {text bytes : List UInt8}
    (decoded : decodePairs index text = .ok bytes) :
    text.length = 2 * bytes.length ∧ ∀ b ∈ text, (digitValue? b).isSome = true := by
  induction index, text using decodePairs.induct generalizing bytes with
  | case1 =>
    cases decoded
    exact ⟨rfl, by simp⟩
  | case2 => contradiction
  | case3 index high low rest h l hh hl ih =>
    rw [decodePairs, hh, hl] at decoded
    cases others : decodePairs (index + 2) rest with
    | error fault =>
      rw [others] at decoded
      contradiction
    | ok more =>
      rw [others] at decoded
      cases decoded
      obtain ⟨length, digits⟩ := ih others
      refine ⟨by simp only [List.length_cons]; omega, ?_⟩
      simp only [List.forall_mem_cons, hh, hl, Option.isSome_some, true_and]
      exact digits
  | case4 index high low rest none =>
    rw [decodePairs, none] at decoded
    contradiction
  | case5 index high low rest h none hh =>
    rw [decodePairs, hh, none] at decoded
    contradiction

theorem exists_decodePairs {text : List UInt8} (index : Nat) (even : text.length % 2 = 0)
    (digits : ∀ b ∈ text, (digitValue? b).isSome = true) :
    ∃ bytes, decodePairs index text = .ok bytes := by
  induction index, text using decodePairs.induct with
  | case1 => exact ⟨[], rfl⟩
  | case2 => contradiction
  | case3 index high low rest h l hh hl ih =>
    simp only [List.length_cons] at even
    obtain ⟨more, others⟩ := ih (by omega) fun b mem => digits b (by simp [mem])
    exact ⟨_, by rw [decodePairs, hh, hl, others]; rfl⟩
  | case4 index high low rest none =>
    have some := digits high (by simp)
    rw [none] at some
    contradiction
  | case5 index high low rest h none hh =>
    have some := digits low (by simp)
    rw [none] at some
    contradiction

theorem digitValue?_encode_iff {s : String} :
    (∀ b ∈ Text.encode s, (digitValue? b).isSome = true) ↔ ∀ c ∈ s.toList, isDigit c = true := by
  rw [encode_eq_flatMap]
  constructor
  · intro digits c mem
    obtain ⟨b, tail, bytes, _⟩ := exists_utf8EncodeChar c
    have first : b ∈ String.utf8EncodeChar c := by simp [bytes]
    obtain ⟨ascii, digit⟩ := digitValue?_isSome_iff.1 (digits b (List.mem_flatMap.2 ⟨c, mem, first⟩))
    rw [← toNat_eq_of_mem_utf8EncodeChar first ascii, Char.ofNat_toNat] at digit
    exact digit
  · intro digits b mem
    obtain ⟨c, inside, here⟩ := List.mem_flatMap.1 mem
    have digit := digits c inside
    have low := (ContentId.ascii_of_isAlphanumeric (ContentId.isAlphanumeric_of_isDigit digit)).2
    have small : UInt8.ofNat c.toNat < 0x80 := by
      rw [UInt8.lt_iff_toNat_lt, UInt8.toNat_ofNat']
      exact Nat.lt_of_le_of_lt (Nat.mod_le _ _) (Nat.lt_of_le_of_lt low (by decide))
    have value : (UInt8.ofNat c.toNat).toNat = c.toNat := by
      rw [UInt8.toNat_ofNat']
      omega
    have alone := utf8EncodeChar_ascii small
    rw [value, Char.ofNat_toNat] at alone
    rw [alone, List.mem_singleton] at here
    rw [here, digitValue?_isSome_iff, value, Char.ofNat_toNat]
    exact ⟨small, digit⟩

theorem length_encode_of_isDigit {s : String} (digits : ∀ c ∈ s.toList, isDigit c = true) :
    (Text.encode s).length = s.toList.length := by
  have bytes := @encode_ofList_of_ascii s.toList fun c mem =>
    Nat.lt_of_le_of_lt (ContentId.ascii_of_isAlphanumeric
      (ContentId.isAlphanumeric_of_isDigit (digits c mem))).2 (by decide)
  rw [String.ofList_toList] at bytes
  rw [bytes, List.length_map]

theorem digitValue?_lt {b : UInt8} {n : Nat} (value : digitValue? b = some n) : n < 16 := by
  have all : ∀ k : Fin 256, ∀ n, digitValue? (UInt8.ofNat k) = some n → n < 16 := by
    intro k n value
    have small : (digitValue? (UInt8.ofNat k)).all (· < 16) = true := by decide +revert +kernel
    rw [value] at small
    simpa using small
  exact all ⟨b.toNat, b.toNat_lt⟩ n (by simpa using value)

theorem digitValue?_eq_some_iff {c : Char} (ascii : c.toNat < 0x80) (n : Fin 16) :
    digitValue? (UInt8.ofNat c.toNat) = some n.val ↔ c.toLower = Char.ofNat (digit n).toNat := by
  have all : ∀ n : Fin 16, digitValue? (UInt8.ofNat c.toNat) = some n.val ↔
      c.toLower = Char.ofNat (digit n).toNat := forall_ascii ascii (by decide +kernel)
  exact all n

theorem decodePairs_cons_iff {index : Nat} {high low byte : UInt8} {rest more : List UInt8} :
    decodePairs index (high :: low :: rest) = .ok (byte :: more) ↔
      digitValue? high = some (byte.toNat / 16) ∧ digitValue? low = some (byte.toNat % 16) ∧
        decodePairs (index + 2) rest = .ok more := by
  rw [decodePairs]
  cases first : digitValue? high with
  | none => simp
  | some h =>
    cases second : digitValue? low with
    | none => simp
    | some l =>
      have bound := byte.toNat_lt
      have small := digitValue?_lt first
      have small' := digitValue?_lt second
      have parts : UInt8.ofNat (16 * h + l) = byte ↔ h = byte.toNat / 16 ∧ l = byte.toNat % 16 := by
        rw [← UInt8.toNat_inj, UInt8.toNat_ofNat']
        omega
      cases others : decodePairs (index + 2) rest with
      | error fault => simp [Functor.map, Except.map]
      | ok bytes =>
        change Except.ok (UInt8.ofNat (16 * h + l) :: bytes) = Except.ok (byte :: more) ↔ _
        simp only [Except.ok.injEq, List.cons.injEq, Option.some.injEq, parts, and_assoc]

theorem decodePairs_eq_ok_iff : (cs : List Char) → (∀ c ∈ cs, c.toNat < 0x80) →
    ∀ (index : Nat) (bytes : List UInt8),
      decodePairs index (cs.map fun c => UInt8.ofNat c.toNat) = .ok bytes ↔
        cs.map Char.toLower = (encodeBytes bytes).map fun b => Char.ofNat b.toNat
  | [], _, index, bytes => by cases bytes <;> simp [decodePairs, encodeBytes]
  | [c], _, index, bytes => by cases bytes <;> simp [decodePairs, encodeBytes]
  | a :: b :: rest, ascii, index, bytes => by
    simp only [List.forall_mem_cons] at ascii
    obtain ⟨high, low, ascii⟩ := ascii
    cases bytes with
    | nil =>
      refine ⟨fun decoded => ?_, fun same => by simp [encodeBytes] at same⟩
      have length := (decodePairs_eq_ok decoded).1
      simp at length
    | cons byte more =>
      have left := digitValue?_eq_some_iff high ⟨byte.toNat / 16, by have := byte.toNat_lt; omega⟩
      have right := digitValue?_eq_some_iff low ⟨byte.toNat % 16, by omega⟩
      simp only [List.map_cons, decodePairs_cons_iff, decodePairs_eq_ok_iff rest ascii, left, right,
        encodeBytes, List.cons.injEq]

theorem decode_eq_decodePairs {text : String} {bytes : List UInt8} :
    decode text = .ok bytes ↔ decodePairs 0 (Text.encode text) = .ok bytes := by
  unfold decode decodeBytes
  split
  · next odd =>
    refine ⟨nofun, fun decoded => ?_⟩
    have even := (decodePairs_eq_ok decoded).1
    omega
  · rfl

theorem isDigit_of_decode {text : String} {bytes : List UInt8} (decoded : decode text = .ok bytes) :
    ∀ c ∈ text.toList, isDigit c = true :=
  digitValue?_encode_iff.1 (decodePairs_eq_ok (decode_eq_decodePairs.1 decoded)).2

theorem isDigit_toLower (c : Char) : isDigit c.toLower = isDigit c := by
  by_cases basic : c.toNat < 0x80
  · exact forall_ascii basic (by decide +kernel)
  · rw [toLower_of_not_basic basic]

theorem decode_eq_ok_iff {text : String} {bytes : List UInt8} :
    decode text = .ok bytes ↔ lowerAscii text = encode bytes := by
  rw [decode_eq_decodePairs, lowerAscii, ← String.toList_inj, String.toList_ofList]
  by_cases digits : ∀ c ∈ text.toList, isDigit c = true
  · have basic : ∀ c ∈ text.toList, c.toNat < 0x80 := fun c mem =>
      Nat.lt_of_le_of_lt (ContentId.ascii_of_isAlphanumeric
        (ContentId.isAlphanumeric_of_isDigit (digits c mem))).2 (by decide)
    have chars := encode_ofList_of_ascii basic
    rw [String.ofList_toList] at chars
    rw [chars, decodePairs_eq_ok_iff text.toList basic, encode, ascii, String.toList_ofList]
  · constructor
    · intro decoded
      exact absurd (isDigit_of_decode (decode_eq_decodePairs.2 decoded)) digits
    · intro same
      refine absurd (fun c mem => ?_) digits
      have here := List.mem_map_of_mem (f := Char.toLower) mem
      rw [same] at here
      rw [← isDigit_toLower]
      exact isDigit_of_mem_encode here

end Text.Hex

/-- Reads a text as what it names, and calls each other text an invalid input. -/
structure ReadsExactly {α : Type} (read : String → Except Failure α) (names : String → α → Prop) :
    Prop where
  accepts : ∀ s a, read s = .ok a ↔ names s a
  refuses : ∀ s, (∀ a, ¬ names s a) → ∃ f, read s = .error f ∧ f.kind = .invalidInput

theorem ReadsExactly.of_parse {α ε : Type} {parse : String → Except ε α} {message : ε → String}
    {names : String → α → Prop} (accepts : ∀ s a, parse s = .ok a ↔ names s a) :
    ReadsExactly (fun s => (parse s).mapError fun e => .invalid (message e)) names where
  accepts s a := by rw [mapError_eq_ok_iff, accepts]
  refuses s nothing := by
    cases parsed : parse s with
    | ok a => exact absurd ((accepts s a).1 parsed) (nothing a)
    | error e => exact ⟨_, rfl, rfl⟩

namespace ContentId

theorem ne_of_isAlphanumeric {c d : Char} (h : isAlphanumeric c = true)
    (other : isAlphanumeric d = false) : c ≠ d := by
  rintro rfl
  rw [h] at other
  contradiction

theorem alphanumeric_of_mem (id : ContentId) {c : Char} (mem : c ∈ id.text.toList) :
    isAlphanumeric c = true :=
  List.all_eq_true.1 id.alphanumeric c mem

theorem trim_text (id : ContentId) : Text.trim id.text = id.text := by
  rw [Text.trim, Text.trimChars_of_solid, String.ofList_toList]
  exact fun c mem => not_isBlank_of_isAlphanumeric (id.alphanumeric_of_mem mem)

theorem parse_text (id : ContentId) : parse id.text = .ok id := by
  have short : id.text.utf8ByteSize ≤ maxLength := id.short
  simp only [parse, trim_text, dif_neg id.nonempty, dif_pos short, dif_pos id.alphanumeric]

theorem parse_eq_ok_iff {text : String} {id : ContentId} :
    parse text = .ok id ↔ id.text = Text.trim text := by
  constructor
  · intro read
    unfold parse at read
    dsimp only at read
    split_ifs at read
    cases read
    rfl
  · intro same
    have parsed := id.parse_text
    unfold parse at parsed ⊢
    simpa only [id.trim_text, ← same] using parsed

theorem eq_of_text {id other : ContentId} (same : id.text = other.text) : id = other := by
  cases id
  cases other
  cases same
  rfl

end ContentId

namespace Topic

theorem read_hex (t : Topic) : read t.hex = .ok t := by
  have size : (Text.Hex.encode t.bytes).utf8ByteSize = 8 := by
    rw [ContentId.utf8ByteSize_hex, t.size]
  have parsed : parse t.hex = .ok t := by
    simp only [parse, hex, Text.Hex.hexDigits_marked, size, Text.Hex.decode_encode, ne_eq,
      not_true_eq_false, if_false, dif_pos t.size]
  rw [read, parsed]
  rfl

/-- Four bytes in hexadecimal, with blanks around them and a mark in front or without. -/
structure IsFourBytes (s : String) : Prop where
  length : (Text.hexDigits s).toList.length = 8
  digits : ∀ c ∈ (Text.hexDigits s).toList, Text.Hex.isDigit c = true

theorem exists_read_iff {s : String} : (∃ t, read s = .ok t) ↔ IsFourBytes s := by
  constructor
  · rintro ⟨t, mapped⟩
    have parsed := mapError_eq_ok_iff.1 mapped
    unfold parse at parsed
    dsimp only at parsed
    split at parsed
    · cases parsed
    · next size =>
      split at parsed
      · cases parsed
      · next bytes decoded =>
        have digits := Text.Hex.isDigit_of_decode decoded
        refine ⟨?_, digits⟩
        rw [← Text.Hex.length_encode_of_isDigit digits]
        exact Decidable.not_not.1 size
  · intro four
    have length := Text.Hex.length_encode_of_isDigit four.digits
    rw [four.length] at length
    obtain ⟨bytes, decoded⟩ := Text.Hex.exists_decodePairs 0 (by rw [length])
      (Text.Hex.digitValue?_encode_iff.2 four.digits)
    have size : bytes.length = 4 := by
      have twice := (Text.Hex.decodePairs_eq_ok decoded).1
      omega
    have whole : Text.Hex.decode (Text.hexDigits s) = .ok bytes :=
      Text.Hex.decode_eq_decodePairs.2 decoded
    have eight : (Text.hexDigits s).utf8ByteSize = 8 := length
    refine ⟨⟨bytes, size⟩, ?_⟩
    simp only [read, parse, eight, whole, ne_eq, not_true_eq_false, if_false, dif_pos size]
    rfl

end Topic

def oneId : ContentId :=
  ⟨"Qm1", by decide, by decide, by decide⟩

def twoId : ContentId :=
  ⟨"Qm2", by decide, by decide, by decide⟩

end Herald
