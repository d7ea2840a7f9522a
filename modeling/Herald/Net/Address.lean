import Herald.Text.Hex
import Herald.Text.Pieces

/-!
Internet addresses. An address of four bytes is written as four decimal numbers, one of sixteen
bytes as eight hexadecimal groups, of which the longest row of two zeros or more is left out; the
sixteen-byte form of a four-byte address keeps its decimal numbers.
-/
namespace Herald

inductive Address where
  | v4 (value : BitVec 32)
  | v6 (value : BitVec 128)
deriving DecidableEq

namespace Address

def digits (base count n : Nat) : List Nat :=
  (List.range count).reverse.map fun i => n / base.pow i % base

def ofDigits (base : Nat) (ds : List Nat) : Nat :=
  ds.foldl (fun n d => base * n + d) 0

def octets (value : BitVec 32) : List Nat :=
  digits 256 4 value.toNat

def groups (value : BitVec 128) : List Nat :=
  digits 65536 8 value.toNat

def dotted (octets : List Nat) : List Char :=
  ['.'].intercalate (octets.map (Nat.toDigits 10))

def colons (groups : List Nat) : List Char :=
  [':'].intercalate (groups.map (Nat.toDigits 16))

def leadingZeros (groups : List Nat) : Nat :=
  (groups.takeWhile (· = 0)).length

/-- Where the longest row of zeros starts, the first of equally long ones, and its length. -/
def longestGap : List Nat → Nat × Nat
  | [] => (0, 0)
  | g :: rest =>
    let (start, length) := longestGap rest
    let here := leadingZeros (g :: rest)
    if length ≤ here then (0, here) else (start + 1, length)

def compressed (groups : List Nat) : List Char :=
  let (start, length) := longestGap groups
  if length < 2 then colons groups
  else colons (groups.take start) ++ [':', ':'] ++ colons (groups.drop (start + length))

/-- The four-byte address that a sixteen-byte one stands for. -/
def mapped? (value : BitVec 128) : Option (BitVec 32) :=
  if value.toNat / UInt32.size = 0xFFFF then some (value.truncate 32) else none

def text : Address → String
  | .v4 value => String.ofList (dotted (octets value))
  | .v6 value =>
    match mapped? value with
    | some inner => "::ffff:" ++ String.ofList (dotted (octets inner))
    | none => String.ofList (compressed (groups value))

/-- With a port; the colons of a sixteen-byte address stand in brackets. -/
def withPort (a : Address) (port : Nat) : String :=
  match a with
  | .v4 _ => s!"{a.text}:{port}"
  | .v6 _ => s!"[{a.text}]:{port}"

def isUnspecified : Address → Bool
  | .v4 value => value = 0
  | .v6 value => value = 0

def decimal? (cs : List Char) : Option Nat :=
  if cs.all Char.isDigit then some (ofDigits 10 (cs.map fun c => c.toNat - 48)) else none

/-- A number up to 255 without needless zeros. -/
def octet? (cs : List Char) : Option Nat :=
  match cs with
  | [] => none
  | '0' :: _ :: _ => none
  | cs => if cs.length ≤ 3 then (decimal? cs).filter (· ≤ 255) else none

def readOctets? (cs : List Char) : Option (List Nat) :=
  match Text.pieces (· = '.') cs with
  | [a, b, c, d] => [a, b, c, d].mapM octet?
  | _ => none

def readV4? (cs : List Char) : Option (BitVec 32) :=
  (readOctets? cs).map fun octets => BitVec.ofNat 32 (ofDigits 256 octets)

def hexDigit? (c : Char) : Option Nat :=
  if c.toNat < 128 then Text.Hex.digitValue? (UInt8.ofNat c.toNat) else none

def group? (cs : List Char) : Option Nat :=
  if cs.isEmpty || 4 < cs.length then none
  else (cs.mapM hexDigit?).map (ofDigits 16)

/-- Groups between colons; the last one may be a four-byte address, which counts as two. -/
def groupsOf? (withDots : Bool) : List (List Char) → Option (List Nat)
  | [] => some []
  | [last] =>
    match withDots, readOctets? last with
    | true, some [a, b, c, d] => some [256 * a + b, 256 * c + d]
    | _, _ => (group? last).map ([·])
  | first :: rest => do return (← group? first) :: (← groupsOf? withDots rest)

def side? (withDots : Bool) (cs : List Char) : Option (List Nat) :=
  if cs.isEmpty then some [] else groupsOf? withDots (Text.pieces (· = ':') cs)

/-- A double colon stands for at least one group of zero. -/
def readGroups? (cs : List Char) : Option (List Nat) :=
  match Text.cutAtGap? cs with
  | none => (side? true cs).filter (·.length = 8)
  | some (before, after) => do
    let head ← side? false before
    let tail ← side? true after
    if head.length + tail.length < 8 then
      some (head ++ List.replicate (8 - head.length - tail.length) 0 ++ tail)
    else none

def readV6? (cs : List Char) : Option (BitVec 128) :=
  (readGroups? cs).map fun groups => BitVec.ofNat 128 (ofDigits 65536 groups)

def read? (s : String) : Option Address :=
  match readV4? s.toList with
  | some value => some (.v4 value)
  | none => (readV6? s.toList).map .v6

end Address

end Herald
