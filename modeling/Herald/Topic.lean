import Herald.Failure
import Herald.Text.Blank
import Herald.Text.Hex

/-!
Topics: the four bytes under which announcements are published and filtered. A topic is written as
`0x` and eight lower-case digits; it is read in either case, with or without the mark, and blanks
around it are passed over.
-/
namespace Herald

structure Topic where
  bytes : List UInt8
  size : bytes.length = 4
deriving DecidableEq

namespace Topic

inductive Fault where
  | wrongLength (length : Nat)
  | notHex (fault : Text.Hex.Fault)
deriving DecidableEq, Repr

def Fault.message : Fault → String
  | .wrongLength length => s!"topic hex must be 8 characters, got {length}"
  | .notHex fault => s!"invalid topic hex: {fault.message}"

def hex (t : Topic) : String :=
  "0x" ++ Text.Hex.encode t.bytes

/-- The length counts bytes. -/
def parse (value : String) : Except Fault Topic :=
  let digits := Text.hexDigits value
  if digits.utf8ByteSize ≠ 8 then .error (.wrongLength digits.utf8ByteSize)
  else
    match Text.Hex.decode digits with
    | .error fault => .error (.notHex fault)
    | .ok bytes =>
      if size : bytes.length = 4 then .ok ⟨bytes, size⟩
      else .error (.wrongLength digits.utf8ByteSize)

def read (value : String) : Except Failure Topic :=
  (parse value).mapError fun fault => .invalid fault.message

end Topic

end Herald
