import Herald.Json.Value
import Herald.Number.Decimal
import Herald.Text.Utf8

/-!
The printer of JSON values: no blanks, members in the order in which they are held, and in strings
an escape only where the grammar asks for one.
-/
namespace Herald.Json

def hexDigit (n : Nat) : UInt8 :=
  if n < 10 then UInt8.ofNat (0x30 + n) else UInt8.ofNat (0x57 + n)

def escapeByte (b : UInt8) : List UInt8 :=
  if b = 0x22 then [0x5C, 0x22]
  else if b = 0x5C then [0x5C, 0x5C]
  else if b = 0x08 then [0x5C, 0x62]
  else if b = 0x0C then [0x5C, 0x66]
  else if b = 0x0A then [0x5C, 0x6E]
  else if b = 0x0D then [0x5C, 0x72]
  else if b = 0x09 then [0x5C, 0x74]
  else if b < 0x20 then [0x5C, 0x75, 0x30, 0x30, hexDigit (b.toNat / 16), hexDigit (b.toNat % 16)]
  else [b]

def printString (s : String) : List UInt8 :=
  0x22 :: (Text.encode s).flatMap escapeByte ++ [0x22]

def asciiBytes (cs : List Char) : List UInt8 :=
  cs.map fun c => UInt8.ofNat c.toNat

/-- Integers in decimal; a float that is not finite has no numeral. -/
def Number.print : Number → List UInt8
  | .int n => asciiBytes (if n < 0 then '-' :: Nat.toDigits 10 n.natAbs else Nat.toDigits 10 n.natAbs)
  | .float x =>
    if x.isFinite then asciiBytes (Number.compactChars x) else [0x6E, 0x75, 0x6C, 0x6C]

def commaSeparated : List (List UInt8) → List UInt8
  | [] => []
  | [text] => text
  | text :: rest => text ++ 0x2C :: commaSeparated rest

namespace Value

mutual

def print : Value → List UInt8
  | .null => [0x6E, 0x75, 0x6C, 0x6C]
  | .bool true => [0x74, 0x72, 0x75, 0x65]
  | .bool false => [0x66, 0x61, 0x6C, 0x73, 0x65]
  | .number n => n.print
  | .string s => printString s
  | .array items => 0x5B :: commaSeparated (printItems items) ++ [0x5D]
  | .object members => 0x7B :: commaSeparated (printMembers members) ++ [0x7D]

def printItems : List Value → List (List UInt8)
  | [] => []
  | v :: rest => v.print :: printItems rest

def printMembers : List (String × Value) → List (List UInt8)
  | [] => []
  | (name, v) :: rest => (printString name ++ 0x3A :: v.print) :: printMembers rest

end

end Value

end Herald.Json
