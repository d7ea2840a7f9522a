import Herald.Digest
import Herald.Failure
import Herald.Text.Blank
import Herald.Text.Hex

/-!
Content identifiers. An identifier is a short row of ASCII letters and digits, so it stands in a
path or a payload as it is. A payload carries the identifier's bytes in hexadecimal; the identifier
of a byte list is its digest.
-/
namespace Herald

def isAlphanumeric (c : Char) : Bool :=
  ('0' ≤ c && c ≤ '9') || ('a' ≤ c && c ≤ 'z') || ('A' ≤ c && c ≤ 'Z')

theorem isAlphanumeric_iff {c : Char} : isAlphanumeric c = true ↔
    ('0' ≤ c ∧ c ≤ '9') ∨ ('a' ≤ c ∧ c ≤ 'z') ∨ ('A' ≤ c ∧ c ≤ 'Z') := by
  simp only [isAlphanumeric, Bool.or_eq_true, Bool.and_eq_true, decide_eq_true_eq, or_assoc]

structure ContentId where
  text : String
  nonempty : text.toList ≠ []
  short : text.utf8ByteSize ≤ 128
  alphanumeric : text.toList.all isAlphanumeric = true
deriving DecidableEq

namespace ContentId

def maxLength : Nat := 128

/-- Why a text is no identifier; the first that applies is reported. -/
inductive Fault where
  | empty
  | tooLong (length : Nat)
  | notAlphanumeric (text : String)
deriving DecidableEq, Repr

def Fault.message : Fault → String
  | .empty => "content id must not be empty"
  | .tooLong length => s!"content id too long ({length} > {maxLength})"
  | .notAlphanumeric text =>
    s!"content id {Text.Quoted.ofString text} contains non-alphanumeric characters"

def parse (value : String) : Except Fault ContentId :=
  let text := Text.trim value
  if nonempty : text.toList = [] then .error .empty
  else if short : text.utf8ByteSize ≤ maxLength then
    if alphanumeric : text.toList.all isAlphanumeric = true then
      .ok ⟨text, nonempty, short, alphanumeric⟩
    else .error (.notAlphanumeric text)
  else .error (.tooLong text.utf8ByteSize)

theorem ascii_of_isAlphanumeric {c : Char} (h : isAlphanumeric c = true) :
    0x30 ≤ c.toNat ∧ c.toNat ≤ 0x7A := by
  have le {a b : Char} (le : a ≤ b) : a.toNat ≤ b.toNat := UInt32.le_iff_toNat_le.1 le
  obtain ⟨low, high⟩ | ⟨low, high⟩ | ⟨low, high⟩ := isAlphanumeric_iff.1 h
  · exact ⟨le low, Nat.le_trans (le high) (by decide)⟩
  · exact ⟨Nat.le_trans (by decide) (le low), le high⟩
  · exact ⟨Nat.le_trans (by decide) (le low), Nat.le_trans (le high) (by decide)⟩

theorem isAlphanumeric_of_isDigit {c : Char} (h : Text.Hex.isDigit c = true) :
    isAlphanumeric c = true := by
  simp only [Text.Hex.isDigit, isAlphanumeric, Bool.or_eq_true, Bool.and_eq_true,
    decide_eq_true_eq] at h ⊢
  have f : 'f' ≤ 'z' := by decide
  have F : 'F' ≤ 'Z' := by decide
  obtain (h | h) | h := h
  · exact .inl (.inl h)
  · exact .inl (.inr ⟨h.1, Char.le_trans h.2 f⟩)
  · exact .inr ⟨h.1, Char.le_trans h.2 F⟩

theorem utf8ByteSize_hex (bytes : List UInt8) :
    (Text.Hex.encode bytes).utf8ByteSize = 2 * bytes.length := by
  rw [← Text.length_encode, Text.Hex.encode_encode, Text.Hex.length_encodeBytes]

def ofData (data : List UInt8) : ContentId where
  text := Text.Hex.encode (Digest.ofBytes data)
  nonempty := by
    intro h
    have size := utf8ByteSize_hex (Digest.ofBytes data)
    rw [← String.ofList_toList (s := Text.Hex.encode (Digest.ofBytes data)), h] at size
    simp at size
  short := by simp [utf8ByteSize_hex]
  alphanumeric := by
    simp only [List.all_eq_true]
    exact fun c hc => isAlphanumeric_of_isDigit (Text.Hex.isDigit_of_mem_encode hc)

def bytes (id : ContentId) : List UInt8 :=
  Text.encode id.text

def payload (id : ContentId) : String :=
  "0x" ++ Text.Hex.encode id.bytes

inductive PayloadFault where
  | notHex (fault : Text.Hex.Fault)
  | notUtf8 (fault : Text.Utf8Fault)
  | notId (fault : Fault)
deriving DecidableEq, Repr

def PayloadFault.message : PayloadFault → String
  | .notHex fault => s!"payload is not hex: {fault.message}"
  | .notUtf8 fault => s!"payload is not UTF-8: {fault.message}"
  | .notId fault => fault.message

/-- The mark comes off first, then the blanks. -/
def ofPayload (payload : String) : Except PayloadFault ContentId :=
  let digits := Text.trim (String.ofList (Text.dropHexMark payload.toList))
  match Text.Hex.decode digits with
  | .error fault => .error (.notHex fault)
  | .ok bytes =>
    match Text.decode bytes with
    | .error fault => .error (.notUtf8 fault)
    | .ok text =>
      match parse text with
      | .error fault => .error (.notId fault)
      | .ok id => .ok id

def read (value : String) : Except Failure ContentId :=
  (parse value).mapError fun fault => .invalid fault.message

def readPayload (payload : String) : Except Failure ContentId :=
  (ofPayload payload).mapError fun fault => .invalid fault.message

end ContentId

end Herald
