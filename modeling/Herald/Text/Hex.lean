import Herald.Text.Quoted
import Herald.Text.Utf8

/-!
Hexadecimal text: two digits a byte, lower-case when written, either case when read. Reading what
was written gives the bytes back, so a written form names one byte list.
-/
namespace Herald.Text.Hex

inductive Fault where
  | oddLength
  | badDigit (byte : UInt8) (index : Nat)
deriving DecidableEq, Repr

def Fault.message : Fault → String
  | .oddLength => "Odd number of digits"
  | .badDigit byte index =>
    s!"Invalid character {Quoted.ofChar (Char.ofNat byte.toNat)} at position {index}"

def digit (n : Nat) : UInt8 :=
  if n < 10 then UInt8.ofNat (0x30 + n) else UInt8.ofNat (0x57 + n)

def digitValue? (b : UInt8) : Option Nat :=
  if 0x30 ≤ b && b ≤ 0x39 then some (b.toNat - 0x30)
  else if 0x61 ≤ b && b ≤ 0x66 then some (b.toNat - 0x57)
  else if 0x41 ≤ b && b ≤ 0x46 then some (b.toNat - 0x37)
  else none

def isDigit (c : Char) : Bool :=
  ('0' ≤ c && c ≤ '9') || ('a' ≤ c && c ≤ 'f') || ('A' ≤ c && c ≤ 'F')

def encodeBytes : List UInt8 → List UInt8
  | [] => []
  | b :: rest => digit (b.toNat / 16) :: digit (b.toNat % 16) :: encodeBytes rest

/-- Digits in pairs, the first of them at `index`. -/
def decodePairs (index : Nat) : List UInt8 → Except Fault (List UInt8)
  | [] => .ok []
  | [_] => .error .oddLength
  | high :: low :: rest =>
    match digitValue? high, digitValue? low with
    | some h, some l => (UInt8.ofNat (16 * h + l) :: ·) <$> decodePairs (index + 2) rest
    | none, _ => .error (.badDigit high index)
    | some _, none => .error (.badDigit low (index + 1))

def decodeBytes (text : List UInt8) : Except Fault (List UInt8) :=
  if text.length % 2 = 1 then .error .oddLength else decodePairs 0 text

def encode (bytes : List UInt8) : String :=
  ascii (encodeBytes bytes)

def decode (text : String) : Except Fault (List UInt8) :=
  decodeBytes (Text.encode text)

def ofNat (n : Nat) : String :=
  String.ofList (Nat.toDigits 16 n)

@[simp] theorem length_encodeBytes (bytes : List UInt8) :
    (encodeBytes bytes).length = 2 * bytes.length := by
  induction bytes with
  | nil => rfl
  | cons b rest ih => simp only [encodeBytes, List.length_cons, ih]; omega

theorem isDigit_digit (n : Fin 16) : isDigit (Char.ofNat (digit n).toNat) = true := by
  decide +revert

theorem digit_lt (n : Fin 16) : digit n < 128 := by
  decide +revert

theorem eq_digit_of_mem_encodeBytes {bytes : List UInt8} {b : UInt8} (h : b ∈ encodeBytes bytes) :
    ∃ n : Fin 16, b = digit n := by
  induction bytes with
  | nil => simp [encodeBytes] at h
  | cons a rest ih =>
    have small := a.toNat_lt
    simp only [encodeBytes, List.mem_cons] at h
    obtain rfl | rfl | h := h
    · exact ⟨⟨a.toNat / 16, by omega⟩, rfl⟩
    · exact ⟨⟨a.toNat % 16, by omega⟩, rfl⟩
    · exact ih h

theorem encode_encode (bytes : List UInt8) : Text.encode (encode bytes) = encodeBytes bytes :=
  encode_ascii fun _ h => by
    obtain ⟨n, rfl⟩ := eq_digit_of_mem_encodeBytes h
    exact digit_lt n

theorem isDigit_of_mem_encode {bytes : List UInt8} {c : Char} (h : c ∈ (encode bytes).toList) :
    isDigit c = true := by
  simp only [encode, ascii, String.toList_ofList, List.mem_map] at h
  obtain ⟨b, hb, rfl⟩ := h
  obtain ⟨n, rfl⟩ := eq_digit_of_mem_encodeBytes hb
  exact isDigit_digit n

theorem digitValue?_digit (n : Fin 16) : digitValue? (digit n) = some n.val := by
  decide +revert

theorem decodePairs_encodeBytes (index : Nat) (bytes : List UInt8) :
    decodePairs index (encodeBytes bytes) = .ok bytes := by
  induction bytes generalizing index with
  | nil => rfl
  | cons b rest ih =>
    have high := digitValue?_digit ⟨b.toNat / 16, by have := b.toNat_lt; omega⟩
    have low := digitValue?_digit ⟨b.toNat % 16, by omega⟩
    simp only at high low
    simp [encodeBytes, decodePairs, high, low, ih, Nat.div_add_mod, Functor.map, Except.map]

theorem decodeBytes_encodeBytes (bytes : List UInt8) :
    decodeBytes (encodeBytes bytes) = .ok bytes := by
  simp [decodeBytes, decodePairs_encodeBytes]

theorem decode_encode (bytes : List UInt8) : decode (encode bytes) = .ok bytes := by
  rw [decode, encode_encode, decodeBytes_encodeBytes]

end Herald.Text.Hex
