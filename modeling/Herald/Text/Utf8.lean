/-!
Text as bytes. `encode` writes a string in UTF-8; `decode` reads one back or says where the first
sequence breaks, and whether it breaks off at the end of the input; `decodeLossy` puts U+FFFD in
the place of every broken sequence.
-/
namespace Herald.Text

inductive Utf8Fault where
  /-- No continuation can repair the `length` bytes from `index` on. -/
  | invalid (length index : Nat)
  /-- The input ends inside the sequence that starts at `index`. -/
  | incomplete (index : Nat)
deriving DecidableEq, Repr

namespace Utf8Fault

def message : Utf8Fault → String
  | .invalid length index => s!"invalid utf-8 sequence of {length} bytes from index {index}"
  | .incomplete index => s!"incomplete utf-8 byte sequence from index {index}"

def index : Utf8Fault → Nat
  | .invalid _ i => i
  | .incomplete i => i

end Utf8Fault

def encode (s : String) : List UInt8 :=
  s.toUTF8.data.toList

def decode? (bytes : List UInt8) : Option String :=
  String.fromUTF8? ⟨bytes.toArray⟩

def isTail (b : UInt8) : Bool :=
  0x80 ≤ b && b ≤ 0xBF

/-- The second byte after `lead` in a sequence of three: neither overlong nor a surrogate. -/
def isSecondOfThree (lead b : UInt8) : Bool :=
  if lead = 0xE0 then 0xA0 ≤ b && b ≤ 0xBF
  else if lead = 0xED then 0x80 ≤ b && b ≤ 0x9F
  else isTail b

/-- The second byte after `lead` in a sequence of four: neither overlong nor past U+10FFFF. -/
def isSecondOfFour (lead b : UInt8) : Bool :=
  if lead = 0xF0 then 0x90 ≤ b && b ≤ 0xBF
  else if lead = 0xF4 then 0x80 ≤ b && b ≤ 0x8F
  else isTail b

inductive Utf8Head where
  | whole (length : Nat)
  | broken (length : Nat)
  | cut
deriving DecidableEq

def utf8Head (lead : UInt8) (rest : List UInt8) : Utf8Head :=
  if lead < 0x80 then .whole 1
  else if 0xC2 ≤ lead && lead ≤ 0xDF then
    match rest with
    | [] => .cut
    | b :: _ => if isTail b then .whole 2 else .broken 1
  else if 0xE0 ≤ lead && lead ≤ 0xEF then
    match rest with
    | [] => .cut
    | b :: rest =>
      if !isSecondOfThree lead b then .broken 1 else
      match rest with
      | [] => .cut
      | c :: _ => if isTail c then .whole 3 else .broken 2
  else if 0xF0 ≤ lead && lead ≤ 0xF4 then
    match rest with
    | [] => .cut
    | b :: rest =>
      if !isSecondOfFour lead b then .broken 1 else
      match rest with
      | [] => .cut
      | c :: rest =>
        if !isTail c then .broken 2 else
        match rest with
        | [] => .cut
        | d :: _ => if isTail d then .whole 4 else .broken 3
  else .broken 1

/-- The first broken sequence, `skip` bytes of an earlier whole one still to pass. -/
def firstFault (index skip : Nat) : List UInt8 → Option Utf8Fault
  | [] => none
  | lead :: rest =>
    match skip with
    | skip + 1 => firstFault (index + 1) skip rest
    | 0 =>
      match utf8Head lead rest with
      | .whole length => firstFault (index + 1) (length - 1) rest
      | .broken length => some (.invalid length index)
      | .cut => some (.incomplete index)

def decode (bytes : List UInt8) : Except Utf8Fault String :=
  match decode? bytes with
  | some s => .ok s
  | none => .error ((firstFault 0 0 bytes).getD (.incomplete 0))

def validLength (bytes : List UInt8) : Nat :=
  match firstFault 0 0 bytes with
  | some fault => fault.index
  | none => bytes.length

/-- Every broken sequence replaced by the three bytes of U+FFFD; `keep` bytes of a whole sequence
are still to copy and `skip` bytes of a broken one still to pass. -/
def replaceBroken (keep skip : Nat) : List UInt8 → List UInt8
  | [] => []
  | lead :: rest =>
    match keep, skip with
    | keep + 1, skip => lead :: replaceBroken keep skip rest
    | 0, skip + 1 => replaceBroken 0 skip rest
    | 0, 0 =>
      match utf8Head lead rest with
      | .whole length => lead :: replaceBroken (length - 1) 0 rest
      | .broken length => 0xEF :: 0xBF :: 0xBD :: replaceBroken 0 (length - 1) rest
      | .cut => [0xEF, 0xBF, 0xBD]

def decodeLossy (bytes : List UInt8) : String :=
  (decode? (replaceBroken 0 0 bytes)).getD ""

def ascii (bytes : List UInt8) : String :=
  String.ofList (bytes.map fun b => Char.ofNat b.toNat)

@[elab_as_elim]
theorem forall_ascii {P : Char → Prop} {c : Char} (small : c.toNat < 0x80)
    (all : ∀ n : Fin 0x80, P (Char.ofNat n)) : P c := by
  have here := all ⟨c.toNat, small⟩
  rwa [Char.ofNat_toNat] at here

theorem encode_ofList (cs : List Char) :
    encode (String.ofList cs) = cs.flatMap String.utf8EncodeChar := by
  simp [encode, List.utf8Encode]

theorem length_encode (s : String) : (encode s).length = s.utf8ByteSize :=
  rfl

theorem encode_ofList_of_ascii {cs : List Char} (h : ∀ c ∈ cs, c.toNat < 128) :
    encode (String.ofList cs) = cs.map fun c => UInt8.ofNat c.toNat := by
  rw [encode_ofList]
  induction cs with
  | nil => rfl
  | cons c cs ih =>
    have small : c.toNat < 128 := h c (by simp)
    have size : c.utf8Size = 1 := Char.utf8Size_eq_one_iff.2 (by
      rw [UInt32.le_iff_toNat_le]; exact Nat.le_of_lt_succ small)
    simp only [List.flatMap_cons, ih fun d hd => h d (by simp [hd]),
      String.utf8EncodeChar_eq_singleton size, List.map_cons]
    rfl

theorem toNat_ofNat_of_ascii {b : UInt8} (h : b < 128) : (Char.ofNat b.toNat).toNat = b.toNat := by
  have small : b.toNat < 128 := h
  have valid : b.toNat.isValidChar := Or.inl (by omega)
  rw [Char.ofNat, dif_pos valid]
  rfl

theorem encode_ascii {bytes : List UInt8} (h : ∀ b ∈ bytes, b < 128) :
    encode (ascii bytes) = bytes := by
  rw [ascii, encode_ofList_of_ascii, List.map_map]
  · conv => rhs; rw [← List.map_id bytes]
    apply List.map_congr_left
    intro b hb
    simp [toNat_ofNat_of_ascii (h b hb)]
  · intro c hc
    obtain ⟨b, hb, rfl⟩ := List.mem_map.1 hc
    rw [toNat_ofNat_of_ascii (h b hb)]
    exact h b hb

theorem decode?_encode (s : String) : decode? (encode s) = some s := by
  simp only [decode?, encode, String.fromUTF8?, Array.toArray_toList, String.toUTF8_eq_toByteArray,
    Option.dite_none_right_eq_some]
  exact ⟨s.isValidUTF8, rfl⟩

theorem encode_of_decode? {bytes : List UInt8} {s : String} (h : decode? bytes = some s) :
    encode s = bytes := by
  unfold decode? String.fromUTF8? at h
  split at h
  · cases Option.some.inj h
    simp [encode, String.fromUTF8]
  · contradiction

end Herald.Text
