import Herald.Proofs.Identifiers
import Herald.Proofs.Json.Record
import Herald.Wire

/-!
Payloads. A payload carries the identifier whose text its digits spell, two for each character: the
digits may be of either case, behind a mark or without one, and there may be blanks around them and
around the text. Main statement: whatever comes from a reader of identifiers or is made of data is a
short row of letters and digits, which survives the way into a payload and back in each spelling; and
a payload that carries no identifier is an invalid input.
-/
namespace Herald.ContentId

open Text (lowerAscii trim dropHexMark)

structure IsPlain (s : String) : Prop where
  nonempty : s ≠ ""
  short : s.length ≤ 128
  plain : ∀ c ∈ s.toList, ('0' ≤ c ∧ c ≤ '9') ∨ ('a' ≤ c ∧ c ≤ 'z') ∨ ('A' ≤ c ∧ c ≤ 'Z')

theorem utf8ByteSize_of_isAlphanumeric {s : String} (plain : ∀ c ∈ s.toList, isAlphanumeric c = true) :
    s.utf8ByteSize = s.length := by
  have bytes := @Text.encode_ofList_of_ascii s.toList fun c mem =>
    Nat.lt_of_le_of_lt (ascii_of_isAlphanumeric (plain c mem)).2 (by decide)
  rw [String.ofList_toList] at bytes
  rw [← Text.length_encode, bytes, List.length_map, String.length_toList]

theorem isPlain_text (id : ContentId) : IsPlain id.text where
  nonempty empty := id.nonempty (by rw [empty]; rfl)
  short := by
    rw [← utf8ByteSize_of_isAlphanumeric fun _ mem => id.alphanumeric_of_mem mem]
    exact id.short
  plain c mem := isAlphanumeric_iff.1 (id.alphanumeric_of_mem mem)

theorem exists_text_eq_iff {s : String} : (∃ id : ContentId, id.text = s) ↔ IsPlain s := by
  constructor
  · rintro ⟨id, rfl⟩
    exact id.isPlain_text
  · intro plain
    have letters : ∀ c ∈ s.toList, isAlphanumeric c = true := fun c mem =>
      isAlphanumeric_iff.2 (plain.plain c mem)
    refine ⟨⟨s, fun empty => plain.nonempty (by simpa using empty), ?_, List.all_eq_true.2 letters⟩, rfl⟩
    rw [utf8ByteSize_of_isAlphanumeric letters]
    exact plain.short

theorem readsExactly_read : ReadsExactly read fun s id => id.text = trim s :=
  .of_parse fun _ _ => parse_eq_ok_iff

theorem exists_read_iff {s : String} : (∃ id, read s = .ok id) ↔ IsPlain (trim s) := by
  simp only [readsExactly_read.accepts, exists_text_eq_iff]

theorem reader_eq_ok_iff {t u : List UInt8} {id : ContentId} :
    reader t = .ok (id, u) ↔
      ∃ t' s, Json.Blanks t t' ∧ Json.Denotes [] t' (.string s) u ∧ read s = .ok id := by
  rw [reader, Json.named_eq_ok_iff]
  simp only [Json.text_eq_ok_iff]
  constructor
  · rintro ⟨s, ⟨t', lead, denotes⟩, named⟩
    exact ⟨t', s, lead, denotes, named⟩
  · rintro ⟨t', s, lead, denotes, named⟩
    exact ⟨s, ⟨t', lead, denotes⟩, named⟩

/-- The digits, in either case, spell a text that names the identifier. The mark comes off first. -/
def Carries (payload : String) (id : ContentId) : Prop :=
  ∃ text, lowerAscii (trim (String.ofList (dropHexMark payload.toList))) =
    Text.Hex.encode (Text.encode text) ∧ id.text = trim text

theorem ofPayload_eq_ok_iff {p : String} {id : ContentId} : ofPayload p = .ok id ↔ Carries p id := by
  unfold ofPayload
  dsimp only
  constructor
  · intro read
    split at read
    · cases read
    · next bytes digits =>
      split at read
      · cases read
      · next text spelled =>
        split at read
        · cases read
        · next named =>
          cases read
          rw [Text.decode_eq_ok_iff.1 spelled] at digits
          exact ⟨text, Text.Hex.decode_eq_ok_iff.1 digits, parse_eq_ok_iff.1 named⟩
  · rintro ⟨text, digits, named⟩
    simp only [Text.Hex.decode_eq_ok_iff.2 digits, Text.decode_eq_ok_iff.2 rfl, parse_eq_ok_iff.2 named]

theorem readsExactly_readPayload : ReadsExactly readPayload Carries :=
  .of_parse fun _ _ => ofPayload_eq_ok_iff

/-- The digits of a text in either case, behind a mark or without one. -/
def Spelling (text payload : String) : Prop :=
  ∃ mark ∈ ["", "0x", "0X"], ∃ digits,
    payload = mark ++ digits ∧ lowerAscii digits = Text.Hex.encode (Text.encode text)

theorem Spelling.dropHexMark {text payload : String} (spelling : Spelling text payload) :
    lowerAscii (trim (String.ofList (dropHexMark payload.toList))) =
      Text.Hex.encode (Text.encode text) := by
  obtain ⟨mark, known, digits, rfl, same⟩ := spelling
  have solid := Text.Hex.isDigit_of_decode (Text.Hex.decode_eq_ok_iff.2 same)
  have rest : Text.dropHexMark (mark ++ digits).toList = digits.toList := by
    rw [String.toList_append]
    simp only [List.mem_cons, List.not_mem_nil, or_false] at known
    obtain rfl | rfl | rfl := known
    · exact Text.dropHexMark_of_isDigit solid
    · rfl
    · rfl
  rw [rest, String.ofList_toList, trim, Text.trimChars_of_solid, String.ofList_toList, same]
  exact fun c mem => not_isBlank_of_isAlphanumeric (isAlphanumeric_of_isDigit (solid c mem))

theorem readPayload_of_spelling {id : ContentId} {p : String} (spelling : Spelling id.text p) :
    readPayload p = .ok id :=
  (readsExactly_readPayload.accepts _ _).2 ⟨id.text, spelling.dropHexMark, id.trim_text.symm⟩

theorem spelling_payload (id : ContentId) : Spelling id.text id.payload :=
  ⟨"0x", by simp, _, rfl, Text.Hex.decode_eq_ok_iff.1 (Text.Hex.decode_encode _)⟩

theorem readPayload_payload (id : ContentId) : readPayload id.payload = .ok id :=
  readPayload_of_spelling id.spelling_payload

theorem payload_injective {id other : ContentId} (same : id.payload = other.payload) : id = other := by
  have read := other.readPayload_payload
  rw [← same, readPayload_payload] at read
  cases read
  rfl

theorem toList_payload (id : ContentId) :
    id.payload.toList = '0' :: 'x' :: id.text.toList.flatMap fun c =>
      [Nat.digitChar (c.toNat / 16), Nat.digitChar (c.toNat % 16)] := by
  have basic : ∀ c ∈ id.text.toList, c.toNat < 128 := fun c mem =>
    Nat.lt_of_le_of_lt (ascii_of_isAlphanumeric (id.alphanumeric_of_mem mem)).2 (by decide)
  have bytes := Text.encode_ofList_of_ascii basic
  rw [String.ofList_toList] at bytes
  rw [payload, Text.Hex.toList_marked, ContentId.bytes, bytes, Text.Hex.toList_encode, List.flatMap_map]
  congr 2
  refine List.flatMap_congr fun c mem => ?_
  have small := basic c mem
  rw [UInt8.toNat_ofNat', Nat.mod_eq_of_lt (by omega)]

/-- The parts are: what identifiers are, which texts are read as identifiers and which payloads, and
that each spelling of an identifier is read as it, among them the one that is written. -/
theorem payloads_exact :
    (∀ id : ContentId, IsPlain id.text ∧ read id.text = .ok id) ∧
    (∀ data, read (Text.Hex.encode (Digest.ofBytes data)) = .ok (ofData data)) ∧
    ReadsExactly read (fun s id => id.text = trim s) ∧
    (∀ s, (∃ id, read s = .ok id) ↔ IsPlain (trim s)) ∧
    (∀ t u id, reader t = .ok (id, u) ↔
      ∃ t' s, Json.Blanks t t' ∧ Json.Denotes [] t' (.string s) u ∧ read s = .ok id) ∧
    ReadsExactly readPayload Carries ∧
    (∀ (id : ContentId) p, Spelling id.text p → readPayload p = .ok id) ∧
    (∀ id : ContentId, Spelling id.text id.payload ∧ id.payload.toList = '0' :: 'x' ::
      id.text.toList.flatMap fun c => [Nat.digitChar (c.toNat / 16), Nat.digitChar (c.toNat % 16)]) ∧
    Function.Injective payload ∧
    ∀ p id, readPayload p = .ok id → (readPayload id.payload).map payload = .ok id.payload := by
  have named (id : ContentId) : read id.text = .ok id :=
    (readsExactly_read.accepts _ _).2 id.trim_text.symm
  refine ⟨fun id => ⟨id.isPlain_text, named id⟩, fun data => named (ofData data), readsExactly_read,
    fun s => exists_read_iff, fun t u id => reader_eq_ok_iff, readsExactly_readPayload,
    fun id p => readPayload_of_spelling, fun id => ⟨id.spelling_payload, id.toList_payload⟩,
    fun _ _ => payload_injective, fun p id _ => ?_⟩
  rw [readPayload_payload]
  rfl

theorem payloads_exact_marked :
    ∃ id : ContentId, id.text = "0xJz" ∧ read " 0xJz\n" = .ok id ∧
      Spelling id.text "0X30784A7a" ∧ readPayload "0X30784A7a" = .ok id ∧
      id.payload = "0x30784a7a" ∧ (readPayload id.payload).map payload = .ok id.payload ∧
      ∃ f, readPayload "0x0X30784A7a" = .error f ∧ f.kind = .invalidInput := by
  obtain ⟨_, _, texts, _, _, payloads, spelled, written, _, again⟩ := payloads_exact
  have spelling : Spelling "0xJz" "0X30784A7a" :=
    ⟨"0X", by decide, "30784A7a", by decide +kernel, by decide +kernel⟩
  have read := spelled ⟨"0xJz", by decide, by decide, by decide⟩ _ spelling
  refine ⟨_, rfl, (texts.accepts _ _).2 (by decide +kernel), spelling, read, ?_, again _ _ read,
    payloads.refuses _ ?_⟩
  · exact String.toList_inj.1 ((written _).2.trans (by decide +kernel))
  · rintro other ⟨text, digits, _⟩
    have solid := Text.Hex.isDigit_of_decode (Text.Hex.decode_eq_ok_iff.2 digits)
    exact absurd (solid 'X' (by decide +kernel)) (by decide)

end Herald.ContentId
