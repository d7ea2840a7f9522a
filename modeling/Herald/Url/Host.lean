import Herald.Net.Address
import Herald.Text.Percent
import Herald.Url.Domain

/-!
Hosts of URLs. Where the scheme has a host of the usual kind, a host is a domain name, an address in
brackets, or a name whose last part is a number and which must then be an address in one of the
older spellings; elsewhere it is any text without a few reserved characters.
-/
namespace Herald.Url

inductive Fault where
  | noBase
  | rootlessBase
  | emptyHost
  | badPort
  | badDomain
  | badHost
  | badV4
  | badV6
deriving DecidableEq, Repr

def Fault.message : Fault → String
  | .noBase => "relative URL without a base"
  | .rootlessBase => "relative URL with a cannot-be-a-base base"
  | .emptyHost => "empty host"
  | .badPort => "invalid port number"
  | .badDomain => "invalid international domain name"
  | .badHost => "invalid domain character"
  | .badV4 => "invalid IPv4 address"
  | .badV6 => "invalid IPv6 address"

inductive Host where
  | name (text : String)
  | address (address : Address)
deriving DecidableEq

namespace Host

/-- All groups of a sixteen-byte address are hexadecimal here. -/
def text : Host → String
  | .name s => s
  | .address (.v4 value) => String.ofList (Address.dotted (Address.octets value))
  | .address (.v6 value) =>
    "[" ++ String.ofList (Address.compressed (Address.groups value)) ++ "]"

def digitBelow? (base : Nat) (c : Char) : Option Nat :=
  (Address.hexDigit? c).filter (· < base)

/-- A number in base ten, in base eight after `0`, or in base sixteen after `0x`. -/
def number? (cs : List Char) : Option Nat :=
  let inBase (base : Nat) (digits : List Char) : Option Nat :=
    (digits.mapM (digitBelow? base)).map (Address.ofDigits base)
  match cs with
  | [] => none
  | ['0'] => some 0
  | '0' :: 'x' :: rest => inBase 16 rest
  | '0' :: 'X' :: rest => inBase 16 rest
  | '0' :: rest => inBase 8 rest
  | cs => inBase 10 cs

def parts (cs : List Char) : List (List Char) :=
  let ps := Text.pieces (· = '.') cs
  if ps.getLast? = some [] then ps.dropLast else ps

def endsInNumber (cs : List Char) : Bool :=
  match (parts cs).getLast? with
  | none => false
  | some last => (!last.isEmpty && last.all Char.isDigit) || (number? last).isSome

/-- The last number fills the bytes that the others leave. -/
def v4Value? (numbers : List Nat) : Option Nat :=
  match numbers.reverse with
  | [] => none
  | last :: before =>
    let bytes := before.length
    if bytes < 4 ∧ before.all (· ≤ 255) ∧ last < Nat.pow 256 (4 - bytes) then
      some (Address.ofDigits 256 before.reverse * Nat.pow 256 (4 - bytes) + last)
    else none

def readV4 (cs : List Char) : Except Fault Host :=
  match ((parts cs).mapM number?).bind v4Value? with
  | some n => .ok (.address (.v4 (BitVec.ofNat 32 n)))
  | none => .error .badV4

def readBracketed (rest : List Char) : Except Fault Host :=
  if rest.getLast? = some ']' then
    match Address.readV6? rest.dropLast with
    | some value => .ok (.address (.v6 value))
    | none => .error .badV6
  else .error .badV6

def read (cs : List Char) : Except Fault Host :=
  match cs with
  | '[' :: rest => readBracketed rest
  | cs =>
    match Domain.toAscii? (Text.Percent.decode (Text.encode (String.ofList cs))) with
    | none => .error .badDomain
    | some domain =>
      if domain.isEmpty then .error .emptyHost
      else if endsInNumber domain.toList then readV4 domain.toList
      else .ok (.name domain)

def isReserved (c : Char) : Bool :=
  "\x00\t\n\r #/:<>?@[\\]^|".toList.contains c

def isControl (b : UInt8) : Bool :=
  b < 0x20 || 0x7F ≤ b

def readPlain (cs : List Char) : Except Fault Host :=
  match cs with
  | '[' :: rest => readBracketed rest
  | cs =>
    if cs.any isReserved then .error .badHost
    else .ok (.name (Text.ascii (Text.Percent.encode isControl (Text.encode (String.ofList cs)))))

end Host

end Herald.Url
