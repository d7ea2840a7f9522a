import Herald.Net.Address
import Herald.Number.Literal
import Herald.Toml.Blank

/-!
Numbers in a TOML document. Underscores may stand between digits. An integer must fit into 64 bits
with a sign; it is decimal, or hexadecimal, octal or binary after a mark. A float has a point or an
exponent, or is one of the words for infinity and for the value that is no number.
-/
namespace Herald.Toml

def moreDigits (isDigit : Char → Bool) : List Char → Option (List Char × List Char)
  | [] => some ([], [])
  | '_' :: d :: rest =>
    if isDigit d then (moreDigits isDigit rest).map fun (ds, rest) => (d :: ds, rest) else none
  | d :: rest =>
    if isDigit d then (moreDigits isDigit rest).map fun (ds, rest) => (d :: ds, rest)
    else if d = '_' then none
    else some ([], d :: rest)

def digits (isDigit : Char → Bool) : Reader (List Char)
  | d :: rest =>
    if isDigit d then (moreDigits isDigit rest).map fun (ds, rest) => (d :: ds, rest) else none
  | [] => none

/-- A whole part does not start with a zero, unless it is one. -/
def whole : Reader (List Char)
  | '0' :: rest => some (['0'], rest)
  | cs => digits Char.isDigit cs

def sign : List Char → List Char × List Char
  | '+' :: rest => (['+'], rest)
  | '-' :: rest => (['-'], rest)
  | rest => ([], rest)

inductive Base where
  | hexadecimal
  | octal
  | binary
deriving DecidableEq, Repr

def Base.size : Base → Nat
  | .hexadecimal => 16
  | .octal => 8
  | .binary => 2

def Base.isDigit (b : Base) (c : Char) : Bool :=
  match Address.hexDigit? c with
  | some d => d < b.size
  | none => false

def isInteger (n : Int) : Bool :=
  -0x8000000000000000 ≤ n && n < 0x8000000000000000

def based (b : Base) : Reader Int := fun cs => do
  let (ds, rest) ← digits b.isDigit cs
  let n : Int := Address.ofDigits b.size (← ds.mapM Address.hexDigit?)
  if isInteger n then some (n, rest) else none

def integerOf (sign ds : List Char) : Option Int :=
  let n : Int := Number.natOf ds
  let n := if sign = ['-'] then -n else n
  if isInteger n then some n else none

def fraction : Reader (List Char)
  | '.' :: rest => (digits Char.isDigit rest).map fun (ds, rest) => ('.' :: ds, rest)
  | rest => some ([], rest)

def exponent : Reader (List Char)
  | [] => some ([], [])
  | c :: rest =>
    if c = 'e' || c = 'E' then
      let (sign, rest) := sign rest
      (digits Char.isDigit rest).map fun (ds, rest) => ('e' :: sign ++ ds, rest)
    else some ([], c :: rest)

/-- A float too large to be told from infinity is refused, unless it is negative. -/
def floatOf (text : List Char) : Option Float :=
  match Number.readFloat (String.ofList text) with
  | .ok x => if x == 1.0 / 0.0 then none else some x
  | .error _ => none

def word? (word : String) (cs : List Char) : Option (List Char) :=
  if word.toList.isPrefixOf cs then some (cs.drop word.length) else none

def special (sign : List Char) (cs : List Char) : Option (Float × List Char) :=
  let signed (x : Float) : Float := if sign = ['-'] then -x else x
  match word? "inf" cs with
  | some rest => some (signed (1.0 / 0.0), rest)
  | none => (word? "nan" cs).map fun rest => (signed (0.0 / 0.0), rest)

inductive Numeral where
  | int (n : Int)
  | float (x : Float)

def decimal : Reader Numeral := fun cs =>
  let (sign, rest) := sign cs
  match special sign rest with
  | some (x, rest) => some (.float x, rest)
  | none => do
    let (ds, rest) ← whole rest
    let (part, rest) ← fraction rest
    let (power, rest) ← exponent rest
    if part.isEmpty && power.isEmpty then return (.int (← integerOf sign ds), rest)
    else return (.float (← floatOf (sign ++ ds ++ part ++ power)), rest)

def numeral : Reader Numeral := fun cs =>
  let int (b : Base) (cs : List Char) : Option (Numeral × List Char) :=
    (based b cs).map fun (n, rest) => (.int n, rest)
  match cs with
  | '0' :: 'x' :: rest => int .hexadecimal rest
  | '0' :: 'o' :: rest => int .octal rest
  | '0' :: 'b' :: rest => int .binary rest
  | cs => decimal cs

end Herald.Toml
