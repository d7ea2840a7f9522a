import Herald.Key
import Herald.Proofs.Identifiers

/-!
Topics and keys are named by hexadecimal digits. A text gives a row of digits if it is that row, behind a
mark or without one and with blanks around it. Main statement: the texts that are read are those that give
a row of the right length, in either case, and two of them name the same thing exactly if their rows differ
in nothing but case; what is written is the row in lower case, and it is read back.
-/
namespace Herald

open Text (hexDigits isBlank lowerAscii trimChars)

namespace Text

theorem exists_trimChars (cs : List Char) : ∃ before after,
    cs = before ++ trimChars cs ++ after ∧ ∀ c ∈ before ++ after, isBlank c = true := by
  have blank {l : List Char} {c : Char} (mem : c ∈ l.takeWhile isBlank) : isBlank c = true :=
    List.mem_takeWhile_imp mem
  have front := List.takeWhile_append_dropWhile (p := isBlank) (l := cs)
  have back := List.takeWhile_append_dropWhile (p := isBlank) (l := (cs.dropWhile isBlank).reverse)
  refine ⟨cs.takeWhile isBlank, ((cs.dropWhile isBlank).reverse.takeWhile isBlank).reverse, ?_, ?_⟩
  · rw [trimChars, List.append_assoc, ← List.reverse_append, back, List.reverse_reverse, front]
  · intro c mem
    rw [List.mem_append, List.mem_reverse] at mem
    exact mem.elim blank blank

theorem trimChars_around {before cs after : List Char} (blank : ∀ c ∈ before ++ after, isBlank c = true)
    (solid : ∀ c ∈ cs, isBlank c = false) : trimChars (before ++ cs ++ after) = cs := by
  have front : ∀ c ∈ before, isBlank c = true := fun c mem => blank c (List.mem_append_left _ mem)
  have back : ∀ c ∈ after.reverse, isBlank c = true := fun c mem =>
    blank c (List.mem_append_right _ (List.mem_reverse.1 mem))
  cases cs with
  | nil =>
    rw [List.append_nil, trimChars, List.dropWhile_eq_nil_iff.2 blank]
    rfl
  | cons c cs =>
    have kept : (c :: cs ++ after).dropWhile isBlank = c :: cs ++ after := by
      rw [List.cons_append, List.dropWhile_cons_of_neg (by simp [solid c])]
    -- Trimming in front stops at `c`; at the back it does what it would do without the blanks in front.
    have alone := trimChars_of_solid solid
    unfold trimChars at alone ⊢
    rw [List.dropWhile_cons_of_neg (by simp [solid c])] at alone
    rw [List.append_assoc, List.dropWhile_append_of_pos front, kept, List.reverse_append,
      List.dropWhile_append_of_pos back, alone]

def hexMarks : List String := ["", "0x", "0X"]

/-- The text is a row of digits behind a mark or without one, with blanks around it. -/
def Gives (s digits : String) : Prop :=
  (∃ before after mark, mark ∈ hexMarks ∧ s = before ++ (mark ++ digits) ++ after ∧
    ∀ c ∈ before.toList ++ after.toList, isBlank c = true) ∧
  ∀ c ∈ digits.toList, Hex.isDigit c = true

theorem not_isBlank_of_isDigit {c : Char} (digit : Hex.isDigit c = true) : isBlank c = false :=
  ContentId.not_isBlank_of_isAlphanumeric (ContentId.isAlphanumeric_of_isDigit digit)

theorem exists_dropHexMark (cs : List Char) : ∃ mark ∈ hexMarks, cs = mark.toList ++ dropHexMark cs := by
  unfold dropHexMark
  split
  · exact ⟨"0x", by decide, rfl⟩
  · exact ⟨"0X", by decide, rfl⟩
  · exact ⟨"", by decide, rfl⟩

theorem dropHexMark_marked {mark : String} (known : mark ∈ hexMarks) {cs : List Char}
    (digits : ∀ c ∈ cs, Hex.isDigit c = true) : dropHexMark (mark.toList ++ cs) = cs := by
  simp only [hexMarks, List.mem_cons, List.not_mem_nil, or_false] at known
  obtain rfl | rfl | rfl := known
  · exact dropHexMark_of_isDigit digits
  · rfl
  · rfl

theorem gives_iff {s digits : String} :
    Gives s digits ↔ hexDigits s = digits ∧ ∀ c ∈ digits.toList, Hex.isDigit c = true := by
  refine and_congr_left fun solid => ⟨?_, ?_⟩
  · rintro ⟨before, after, mark, known, rfl, blank⟩
    have marked : ∀ c ∈ (mark ++ digits).toList, isBlank c = false := by
      have none : ∀ m ∈ hexMarks, m.toList.any isBlank = false := by decide
      intro c mem
      rw [String.toList_append, List.mem_append] at mem
      obtain mem | mem := mem
      · exact Bool.eq_false_iff.2 (List.any_eq_false.1 (none mark known) c mem)
      · exact not_isBlank_of_isDigit (solid c mem)
    rw [hexDigits, String.toList_append, String.toList_append, trimChars_around blank marked,
      String.toList_append, dropHexMark_marked known solid, String.ofList_toList]
  · rintro rfl
    obtain ⟨before, after, whole, blank⟩ := exists_trimChars s.toList
    obtain ⟨mark, known, cut⟩ := exists_dropHexMark (trimChars s.toList)
    refine ⟨String.ofList before, String.ofList after, mark, known, ?_, by simpa using blank⟩
    rw [← String.toList_inj, hexDigits, String.toList_append, String.toList_append, String.toList_append,
      String.toList_ofList, String.toList_ofList, String.toList_ofList, ← cut, ← whole]

end Text

namespace Text.Hex

theorem exists_encode_iff {digits : String} (solid : ∀ c ∈ digits.toList, isDigit c = true) {n : Nat} :
    (∃ bytes : List UInt8, bytes.length = n ∧ encode bytes = lowerAscii digits) ↔
      digits.length = 2 * n := by
  have length := length_encode_of_isDigit solid
  rw [String.length_toList] at length
  constructor
  · rintro ⟨bytes, rfl, same⟩
    have decoded := decode_eq_decodePairs.1 (decode_eq_ok_iff.2 same.symm)
    rw [← length, (decodePairs_eq_ok decoded).1]
  · intro twice
    obtain ⟨bytes, decoded⟩ := exists_decodePairs 0 (by rw [length, twice, Nat.mul_mod_right])
      (digitValue?_encode_iff.2 solid)
    have size := (decodePairs_eq_ok decoded).1
    exact ⟨bytes, by omega, (decode_eq_ok_iff.1 (decode_eq_decodePairs.2 decoded)).symm⟩

theorem lowerAscii_encode (bytes : List UInt8) : lowerAscii (encode bytes) = encode bytes :=
  decode_eq_ok_iff.1 (decode_encode bytes)

theorem encode_injective {bytes other : List UInt8} (same : encode bytes = encode other) :
    bytes = other := by
  have decoded := decode_encode bytes
  rw [same, decode_encode] at decoded
  cases decoded
  rfl

theorem isDigit_of_lowerAscii {s digits : String} (solid : ∀ c ∈ digits.toList, isDigit c = true)
    (same : digits = lowerAscii s) : ∀ c ∈ s.toList, isDigit c = true := by
  intro c mem
  rw [← isDigit_toLower]
  refine solid _ ?_
  rw [same, lowerAscii, String.toList_ofList]
  exact List.mem_map_of_mem mem

end Text.Hex

open Text (Gives)

/-- `read` takes a text for what its row of digits names, if the row has a length that `counts`, and calls
every other text an invalid input; `write` writes the row behind `mark`. -/
structure NamedByDigits {α : Type} (read : String → Except Failure α) (write : α → String) (mark : String)
    (counts : Nat → Prop) : Prop where
  accepts : ∀ s, (∃ a, read s = .ok a) ↔ ∃ digits, Gives s digits ∧ counts digits.length
  refuses : ∀ s, (∀ a, read s ≠ .ok a) → ∃ f, read s = .error f ∧ f.kind = .invalidInput
  eq_iff : ∀ s t a b digits other, read s = .ok a → read t = .ok b → Gives s digits → Gives t other →
    (a = b ↔ lowerAscii digits = lowerAscii other)
  read_write : ∀ a, read (write a) = .ok a
  lowerAscii_write : ∀ a, lowerAscii (write a) = write a
  write_eq : ∀ s a digits, read s = .ok a → Gives s digits → write a = mark ++ lowerAscii digits

section

variable {α ε : Type} {parse : String → Except ε α} {message : ε → String} {write : α → String}
  {mark : String} {counts : Nat → Prop}

theorem lowerAscii_append (s t : String) : lowerAscii (s ++ t) = lowerAscii s ++ lowerAscii t := by
  rw [← String.toList_inj]
  simp [lowerAscii]

theorem gives_marked {row : String} (known : mark ∈ ["", "0x"])
    (solid : ∀ c ∈ row.toList, Text.Hex.isDigit c = true) : Gives (mark ++ row) row := by
  refine ⟨⟨"", "", mark, ?_, by simp, by simp⟩, solid⟩
  simp only [List.mem_cons, List.not_mem_nil, or_false] at known
  obtain rfl | rfl := known <;> decide

theorem NamedByDigits.of_row (row : α → String) (known : mark ∈ ["", "0x"])
    (accepts : ∀ s a, parse s = .ok a ↔ row a = lowerAscii (hexDigits s))
    (solid : ∀ a, ∀ c ∈ (row a).toList, Text.Hex.isDigit c = true)
    (lower : ∀ a, lowerAscii (row a) = row a) (injective : ∀ a b, row a = row b → a = b)
    (rows : ∀ digits : String, (∀ c ∈ digits.toList, Text.Hex.isDigit c = true) →
      ((∃ a, row a = lowerAscii digits) ↔ counts digits.length))
    (written : ∀ a, write a = mark ++ row a) :
    NamedByDigits (fun s => (parse s).mapError fun e => .invalid (message e)) write mark counts := by
  have named : ReadsExactly (fun s => (parse s).mapError fun e => .invalid (message e))
      fun s a => row a = lowerAscii (hexDigits s) := .of_parse accepts
  have row_eq {s digits : String} {a : α} (read : row a = lowerAscii (hexDigits s))
      (gives : Gives s digits) : row a = lowerAscii digits := by
    rw [read, (Text.gives_iff.1 gives).1]
  refine ⟨fun s => ⟨?_, ?_⟩, fun s nothing => ?_, fun s t a b digits other ha hb first second => ?_,
    fun a => ?_, fun a => ?_, fun s a digits read gives => ?_⟩
  · rintro ⟨a, read⟩
    have same := (named.accepts s a).1 read
    have digits := Text.Hex.isDigit_of_lowerAscii (solid a) same
    exact ⟨hexDigits s, Text.gives_iff.2 ⟨rfl, digits⟩, (rows _ digits).1 ⟨a, same⟩⟩
  · rintro ⟨digits, gives, count⟩
    obtain ⟨rfl, digits⟩ := Text.gives_iff.1 gives
    obtain ⟨a, same⟩ := (rows _ digits).2 count
    exact ⟨a, (named.accepts s a).2 same⟩
  · exact named.refuses s fun a same => nothing a ((named.accepts s a).2 same)
  · have left := row_eq ((named.accepts s a).1 ha) first
    have right := row_eq ((named.accepts t b).1 hb) second
    rw [← left, ← right]
    exact ⟨fun same => same ▸ rfl, injective a b⟩
  · have gives := gives_marked known (solid a)
    rw [← written] at gives
    exact (named.accepts _ a).2 (by rw [(Text.gives_iff.1 gives).1, lower])
  · have plain : ∀ m ∈ ["", "0x"], lowerAscii m = m := by decide
    rw [written, lowerAscii_append, plain mark known, lower]
  · rw [written, row_eq ((named.accepts s a).1 read) gives]

theorem NamedByDigits.of_bytes {bytes : α → List UInt8} (sizes : Nat → Prop)
    (accepts : ∀ s a, parse s = .ok a ↔ Text.Hex.decode (hexDigits s) = .ok (bytes a))
    (injective : Function.Injective bytes) (range : ∀ bs, (∃ a, bytes a = bs) ↔ sizes bs.length)
    (twice : ∀ n, counts n ↔ ∃ k, sizes k ∧ n = 2 * k)
    (written : ∀ a, write a = "0x" ++ Text.Hex.encode (bytes a)) :
    NamedByDigits (fun s => (parse s).mapError fun e => .invalid (message e)) write "0x" counts := by
  refine of_row (fun a => Text.Hex.encode (bytes a)) (by decide) (fun s a => ?_)
    (fun a _ => Text.Hex.isDigit_of_mem_encode) (fun a => Text.Hex.lowerAscii_encode (bytes a))
    (fun a b same => injective (Text.Hex.encode_injective same)) (fun digits solid => ?_) written
  · rw [accepts, Text.Hex.decode_eq_ok_iff, eq_comm]
  · simp only [twice, ← Text.Hex.exists_encode_iff solid]
    constructor
    · rintro ⟨a, same⟩
      exact ⟨_, (range _).1 ⟨a, rfl⟩, bytes a, rfl, same⟩
    · rintro ⟨k, size, bs, rfl, same⟩
      obtain ⟨a, rfl⟩ := (range bs).2 size
      exact ⟨a, same⟩

end

theorem Topic.parse_eq_ok_iff {s : String} {t : Topic} :
    parse s = .ok t ↔ Text.Hex.decode (hexDigits s) = .ok t.bytes := by
  unfold parse
  dsimp only
  constructor
  · intro read
    split at read
    · cases read
    · split at read
      · cases read
      · next bytes decoded =>
        split_ifs at read
        cases read
        exact decoded
  · intro decoded
    have size : (hexDigits s).utf8ByteSize = 8 := by
      have length := (Text.Hex.decodePairs_eq_ok (Text.Hex.decode_eq_decodePairs.1 decoded)).1
      rwa [t.size] at length
    simp only [size, decoded, dif_pos t.size, ne_eq, not_true_eq_false, if_false]

theorem Topic.namedByDigits : NamedByDigits read hex "0x" (· = 8) := by
  refine .of_bytes (· = 4) (fun _ _ => parse_eq_ok_iff) (fun t u same => ?_) (fun bs => ?_)
    (by simp) fun _ => rfl
  · cases t
    cases u
    cases same
    rfl
  · exact ⟨fun ⟨t, same⟩ => same ▸ t.size, fun size => ⟨⟨bs, size⟩, rfl⟩⟩

theorem PublicKey.parse_eq_ok_iff {s : String} {k : PublicKey} :
    parse s = .ok k ↔ Text.Hex.decode (hexDigits s) = .ok k.bytes := by
  unfold parse
  constructor
  · intro read
    split at read
    · cases read
    · next bytes decoded =>
      split_ifs at read
      cases read
      exact decoded
  · intro decoded
    simp only [decoded, dif_pos k.size]

theorem PublicKey.namedByDigits : NamedByDigits read hex "0x" fun n => n = 66 ∨ n = 130 := by
  refine .of_bytes (fun n => n = 33 ∨ n = 65) (fun _ _ => parse_eq_ok_iff) (fun k l same => ?_)
    (fun bs => ?_) (by simp [or_and_right, exists_or]) fun _ => rfl
  · cases k
    cases l
    cases same
    rfl
  · exact ⟨fun ⟨k, same⟩ => same ▸ k.size, fun size => ⟨⟨bs, size⟩, rfl⟩⟩

namespace KeyId

theorem isDigit_of_isKeyDigit {c : Char} (digit : isKeyDigit c = true) :
    Text.Hex.isDigit c = true ∧ c.toLower = c := by
  have bound : c.toNat < 0x80 := by
    simp only [isKeyDigit, Bool.or_eq_true, Bool.and_eq_true, decide_eq_true_eq] at digit
    obtain ⟨-, high⟩ | ⟨-, high⟩ := digit <;>
      exact Nat.lt_of_le_of_lt (UInt32.le_iff_toNat_le.1 high) (by decide)
  have known : isKeyDigit c = true → Text.Hex.isDigit c = true ∧ c.toLower = c :=
    Text.forall_ascii bound (by decide)
  exact known digit

theorem digit_of_mem (id : KeyId) {c : Char} (mem : c ∈ id.text.toList) :
    Text.Hex.isDigit c = true ∧ c.toLower = c :=
  isDigit_of_isKeyDigit (List.all_eq_true.1 id.digits c mem)

theorem parse_eq_ok_iff {s : String} {id : KeyId} :
    parse s = .ok id ↔ id.text = lowerAscii (hexDigits s) := by
  constructor
  · intro read
    unfold parse at read
    dsimp only at read
    split_ifs at read
    exact (congrArg KeyId.text (Except.ok.inj read)).symm
  · intro same
    have digits := Text.Hex.isDigit_of_lowerAscii (fun c mem => (id.digit_of_mem mem).1) same
    have nonempty : (hexDigits s).toList ≠ [] := by
      intro empty
      refine id.nonempty ?_
      rw [same, lowerAscii, empty]
      rfl
    unfold parse
    simp only [dif_neg nonempty, dif_pos (List.all_eq_true.2 digits), Except.ok.injEq]
    exact KeyId.ext same.symm

theorem exists_text_iff {digits : String} (solid : ∀ c ∈ digits.toList, Text.Hex.isDigit c = true) :
    (∃ id : KeyId, id.text = lowerAscii digits) ↔ 1 ≤ digits.length := by
  rw [Nat.one_le_iff_ne_zero, ← String.length_toList, Ne, List.length_eq_zero_iff]
  constructor
  · rintro ⟨id, same⟩ empty
    refine id.nonempty ?_
    rw [same, lowerAscii, empty]
    rfl
  · intro full
    refine ⟨⟨lowerAscii digits, ?_, ?_⟩, rfl⟩
    · simpa [lowerAscii] using full
    · simp only [lowerAscii, String.toList_ofList, List.all_map, List.all_eq_true, Function.comp_apply]
      exact fun c mem => isKeyDigit_toLower (solid c mem)

theorem namedByDigits : NamedByDigits read KeyId.text "" (1 ≤ ·) := by
  refine .of_row KeyId.text (by decide) (fun _ _ => parse_eq_ok_iff) (fun id c mem => (id.digit_of_mem mem).1)
    (fun id => ?_) (fun _ _ => KeyId.ext) (fun _ => exists_text_iff) fun id => ?_
  · rw [lowerAscii, List.map_congr_left fun c mem => (id.digit_of_mem mem).2, List.map_id',
      String.ofList_toList]
  · rw [String.empty_append]

end KeyId

/-- A topic has eight digits, a public key 66 or 130, and the identity of a key as many as it likes, but
one at least. -/
theorem named_by_digits :
    NamedByDigits Topic.read Topic.hex "0x" (· = 8) ∧
    NamedByDigits PublicKey.read PublicKey.hex "0x" (fun n => n = 66 ∨ n = 130) ∧
    NamedByDigits KeyId.read KeyId.text "" (1 ≤ ·) :=
  ⟨Topic.namedByDigits, PublicKey.namedByDigits, KeyId.namedByDigits⟩

theorem named_by_digits_spelled : ∃ a b : KeyId, KeyId.read "\t0XaB " = .ok a ∧ KeyId.read "Ab" = .ok b ∧
    a = b ∧ a.text = "ab" ∧ ∃ f, KeyId.read "0x0xab" = .error f ∧ f.kind = .invalidInput := by
  obtain ⟨-, -, keys⟩ := named_by_digits
  have first : Gives "\t0XaB " "aB" :=
    Text.gives_iff.2 ⟨by decide +kernel, List.all_eq_true.1 (by decide +kernel)⟩
  have second : Gives "Ab" "Ab" :=
    Text.gives_iff.2 ⟨by decide +kernel, List.all_eq_true.1 (by decide +kernel)⟩
  obtain ⟨a, ha⟩ := (keys.accepts _).2 ⟨_, first, by decide⟩
  obtain ⟨b, hb⟩ := (keys.accepts _).2 ⟨_, second, by decide⟩
  refine ⟨a, b, ha, hb, (keys.eq_iff _ _ a b _ _ ha hb first second).2 (by decide +kernel), ?_,
    keys.refuses _ fun c hc => ?_⟩
  · exact (keys.write_eq _ a _ ha first).trans (by decide +kernel)
  · obtain ⟨digits, gives, _⟩ := (keys.accepts _).1 ⟨c, hc⟩
    obtain ⟨rfl, solid⟩ := Text.gives_iff.1 gives
    exact absurd (solid 'x' (by decide +kernel)) (by decide)

end Herald
