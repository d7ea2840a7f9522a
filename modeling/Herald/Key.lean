import Herald.Topic

/-!
Keys. A public key is a curve point of 33 or 65 bytes, the address of an announcement; a key
identity names the private key that a transport holds, in lower-case hexadecimal of any length.
-/
namespace Herald

structure PublicKey where
  bytes : List UInt8
  size : bytes.length = 33 ∨ bytes.length = 65
deriving DecidableEq

namespace PublicKey

inductive Fault where
  | notHex (fault : Text.Hex.Fault)
  | wrongLength (length : Nat)
deriving DecidableEq, Repr

def Fault.message : Fault → String
  | .notHex fault => s!"invalid public key hex: {fault.message}"
  | .wrongLength length => s!"public key must be 33 or 65 bytes, got {length}"

def hex (k : PublicKey) : String :=
  "0x" ++ Text.Hex.encode k.bytes

def parse (value : String) : Except Fault PublicKey :=
  match Text.Hex.decode (Text.hexDigits value) with
  | .error fault => .error (.notHex fault)
  | .ok bytes =>
    if size : bytes.length = 33 ∨ bytes.length = 65 then .ok ⟨bytes, size⟩
    else .error (.wrongLength bytes.length)

def read (value : String) : Except Failure PublicKey :=
  (parse value).mapError fun fault => .invalid fault.message

end PublicKey

def isKeyDigit (c : Char) : Bool :=
  ('0' ≤ c && c ≤ '9') || ('a' ≤ c && c ≤ 'f')

@[ext]
structure KeyId where
  text : String
  nonempty : text.toList ≠ []
  digits : text.toList.all isKeyDigit = true

namespace KeyId

instance : DecidableEq KeyId :=
  fun _ _ => decidable_of_iff _ KeyId.ext_iff.symm

structure Fault where
  text : String
deriving DecidableEq, Repr

def Fault.message (fault : Fault) : String :=
  s!"key identity {Text.Quoted.ofString fault.text} must be non-empty hex"

theorem isKeyDigit_toLower {c : Char} (h : Text.Hex.isDigit c = true) :
    isKeyDigit c.toLower = true := by
  have bound : c.toNat < 0x80 := by
    simp only [Text.Hex.isDigit, Bool.or_eq_true, Bool.and_eq_true, decide_eq_true_eq] at h
    obtain (⟨-, h⟩ | ⟨-, h⟩) | ⟨-, h⟩ := h <;>
      exact Nat.lt_of_le_of_lt (UInt32.le_iff_toNat_le.1 h) (by decide)
  have lowered : Text.Hex.isDigit c = true → isKeyDigit c.toLower = true :=
    Text.forall_ascii bound (by decide)
  exact lowered h

def parse (value : String) : Except Fault KeyId :=
  let digits := (Text.hexDigits value).toList
  if nonempty : digits = [] then .error ⟨value⟩
  else if hex : digits.all Text.Hex.isDigit = true then
    .ok {
      text := String.ofList (digits.map Char.toLower)
      nonempty := by simpa using nonempty
      digits := by
        simp only [String.toList_ofList, List.all_map, List.all_eq_true, Function.comp_apply]
        exact fun c hc => isKeyDigit_toLower (List.all_eq_true.1 hex c hc) }
  else .error ⟨value⟩

def read (value : String) : Except Failure KeyId :=
  (parse value).mapError fun fault => .invalid fault.message

end KeyId

end Herald
