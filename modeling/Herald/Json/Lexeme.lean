import Herald.Json.Fault
import Herald.Text.Utf8

/-!
The smallest pieces of a JSON text: blanks, the three words, and strings with their escapes.
-/
namespace Herald.Json

def isSpace (b : UInt8) : Bool :=
  b = 0x20 || b = 0x0A || b = 0x09 || b = 0x0D

def skipSpace (bytes : List UInt8) : List UInt8 :=
  bytes.dropWhile isSpace

def isDigit (b : UInt8) : Bool :=
  0x30 ≤ b && b ≤ 0x39

/-- Reads the bytes of `word`; the first that differs is read too. -/
def word : List UInt8 → List UInt8 → Except Fault (List UInt8)
  | [], rest => .ok rest
  | _ :: _, [] => .error (.here .endOfValue [])
  | w :: ws, b :: rest => if b = w then word ws rest else .error (.here .expectedWord rest)

def hexValue? (b : UInt8) : Option Nat :=
  if 0x30 ≤ b && b ≤ 0x39 then some (b.toNat - 0x30)
  else if 0x41 ≤ b && b ≤ 0x46 then some (b.toNat - 0x37)
  else if 0x61 ≤ b && b ≤ 0x66 then some (b.toNat - 0x57)
  else none

def unit? (a b c d : UInt8) : Option Nat := do
  return 4096 * (← hexValue? a) + 256 * (← hexValue? b) + 16 * (← hexValue? c) + (← hexValue? d)

def isHighSurrogate (n : Nat) : Bool := 0xD800 ≤ n && n ≤ 0xDBFF

def isLowSurrogate (n : Nat) : Bool := 0xDC00 ≤ n && n ≤ 0xDFFF

def surrogatePair (high low : Nat) : Nat :=
  0x10000 + 1024 * (high - 0xD800) + (low - 0xDC00)

def shortEscape? (b : UInt8) : Option UInt8 :=
  if b = 0x22 || b = 0x5C || b = 0x2F then some b
  else if b = 0x62 then some 0x08
  else if b = 0x66 then some 0x0C
  else if b = 0x6E then some 0x0A
  else if b = 0x72 then some 0x0D
  else if b = 0x74 then some 0x09
  else none

def prepend (bytes : List UInt8) :
    Except Fault (List UInt8 × List UInt8) → Except Fault (List UInt8 × List UInt8)
  | .ok (more, rest) => .ok (bytes ++ more, rest)
  | .error fault => .error fault

def codePoint (n : Nat) : List UInt8 :=
  String.utf8EncodeChar (Char.ofNat n)

/-- The bytes of a string up to its closing quote, the escapes resolved. -/
def stringBytes : Reader (List UInt8)
  | [] => .error (.here .endOfString [])
  | b :: rest =>
    if b = 0x22 then .ok ([], rest)
    else if b = 0x5C then
      match rest with
      | [] => .error (.here .endOfString [])
      | e :: rest =>
        if e = 0x75 then
          match rest with
          | h₁ :: h₂ :: h₃ :: h₄ :: rest =>
            match unit? h₁ h₂ h₃ h₄ with
            | none => .error (.here .badEscape rest)
            | some n =>
              if isLowSurrogate n then .error (.here .loneSurrogate rest)
              else if isHighSurrogate n then
                match rest with
                | [] => .error (.here .endOfString [])
                | b :: rest =>
                  if b ≠ 0x5C then .error (.here .cutSurrogate rest) else
                  match rest with
                  | [] => .error (.here .endOfString [])
                  | e :: rest =>
                    if e ≠ 0x75 then .error (.here .cutSurrogate rest) else
                    match rest with
                    | l₁ :: l₂ :: l₃ :: l₄ :: rest =>
                      match unit? l₁ l₂ l₃ l₄ with
                      | none => .error (.here .badEscape rest)
                      | some m =>
                        if isLowSurrogate m then
                          prepend (codePoint (surrogatePair n m)) (stringBytes rest)
                        else .error (.here .loneSurrogate rest)
                    | _ => .error (.here .endOfString [])
              else prepend (codePoint n) (stringBytes rest)
          | _ => .error (.here .endOfString [])
        else
          match shortEscape? e with
          | some c => prepend [c] (stringBytes rest)
          | none => .error (.here .badEscape rest)
    else if b < 0x20 then .error (.here .controlCharacter rest)
    else prepend [b] (stringBytes rest)

def string : Reader String := fun input => do
  let (bytes, rest) ← stringBytes input
  match Text.decode? bytes with
  | some s => .ok (s, rest)
  | none => .error (.here (.badCodePoint (bytes.length - Text.validLength bytes)) rest)

end Herald.Json
