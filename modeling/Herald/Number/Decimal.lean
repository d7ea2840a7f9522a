/-!
Floats as decimal text. `shortest` finds the fewest decimal digits that lie nearer to a float than
to any other one, and of two such decimals the nearer, the `Tie` between them decided by the format;
`plain` and `compactChars` write them, the first always positionally, the second with an exponent
for very large and very small magnitudes.
-/
namespace Herald.Number

structure Decimal where
  coefficient : Nat
  exponent : Int
deriving DecidableEq, Repr

/-- Which of two decimals is taken for a float in the middle between them. -/
inductive Tie where
  | above
  | even
deriving DecidableEq, Repr

/-- A finite magnitude `mantissa · 2 ^ exponent`; the float below it is at half the usual distance
when `atPower` holds. -/
structure Binary where
  mantissa : Nat
  exponent : Int
  atPower : Bool
deriving DecidableEq, Repr

namespace Binary

def ofFloat (x : Float) : Binary :=
  let bits : Nat := x.toBits.toNat
  let fraction : Nat := bits % Nat.pow 2 52
  let field : Nat := bits / Nat.pow 2 52 % Nat.pow 2 11
  if field = 0 then ⟨fraction, -1074, false⟩
  else ⟨Nat.pow 2 52 + fraction, (field : Int) - 1075, fraction = 0 && 1 < field⟩

/-- Quarters of the last place: the magnitude, and the ends of the interval of reals that round to
it, all over one common denominator. -/
structure Span where
  low : Nat
  middle : Nat
  high : Nat
  denominator : Nat
  closed : Bool

def span (b : Binary) : Span :=
  let low := 4 * b.mantissa - (if b.atPower then 1 else 2)
  let scale := Nat.pow 2 (b.exponent - 2).toNat
  { low := low * scale
    middle := 4 * b.mantissa * scale
    high := (4 * b.mantissa + 2) * scale
    denominator := Nat.pow 2 (2 - b.exponent).toNat
    closed := b.mantissa % 2 = 0 }

end Binary

namespace Binary.Span

def holds (s : Span) (d : Nat) (e : Int) : Bool :=
  let point := d * Nat.pow 10 e.toNat * s.denominator
  let scale := Nat.pow 10 (-e).toNat
  if s.closed then s.low * scale ≤ point && point ≤ s.high * scale
  else s.low * scale < point && point < s.high * scale

/-- The largest `e` with `10 ^ e` at most the magnitude. Every float is above `10 ^ -400`. -/
def magnitude (s : Span) : Int :=
  ((Nat.toDigits 10 (s.middle * Nat.pow 10 400 / s.denominator)).length : Int) - 401

/-- The magnitude is nearer to `below` steps than to one step more. -/
def isNearerBelow (tie : Tie) (top step below : Nat) : Bool :=
  let gap := top - below * step
  let gapAbove := (below + 1) * step - top
  gap < gapAbove || (gap = gapAbove && tie = .even && below % 2 = 0)

/-- The neighbour of the magnitude among the multiples of `10 ^ e` that lies in the interval, the
nearer one when both do. -/
def onGrid? (tie : Tie) (s : Span) (e : Int) : Option Nat :=
  let top := s.middle * Nat.pow 10 (-e).toNat
  let step := s.denominator * Nat.pow 10 e.toNat
  let below := top / step
  let above := below + 1
  match s.holds below e, s.holds above e with
  | true, true => if isNearerBelow tie top step below then some below else some above
  | true, false => some below
  | false, true => some above
  | false, false => none

/-- Grids of `digits` digits and more, `fuel` of them. -/
def search (tie : Tie) (s : Span) (digits : Nat) : Nat → Decimal
  | 0 => ⟨0, 0⟩
  | fuel + 1 =>
    let e := s.magnitude + 1 - digits
    match onGrid? tie s e with
    | some d => ⟨d, e⟩
    | none => search tie s (digits + 1) fuel

end Binary.Span

namespace Decimal

def strip (coefficient : Nat) (exponent : Int) : Nat → Decimal
  | 0 => ⟨coefficient, exponent⟩
  | fuel + 1 =>
    if coefficient ≠ 0 ∧ coefficient % 10 = 0 then strip (coefficient / 10) (exponent + 1) fuel
    else ⟨coefficient, exponent⟩

/-- Seventeen digits tell any two floats apart. -/
def shortest (tie : Tie) (x : Float) : Decimal :=
  let b := Binary.ofFloat x
  if b.mantissa = 0 then ⟨0, 0⟩
  else
    let d := Binary.Span.search tie b.span 1 17
    strip d.coefficient d.exponent 17

def digits (d : Decimal) : List Char :=
  Nat.toDigits 10 d.coefficient

def point (d : Decimal) : Int :=
  d.digits.length + d.exponent

def positional (tail : List Char) (d : Decimal) : List Char :=
  if 0 ≤ d.exponent then d.digits ++ List.replicate d.exponent.toNat '0' ++ tail
  else if 0 < d.point then
    d.digits.take d.point.toNat ++ '.' :: d.digits.drop d.point.toNat
  else ['0', '.'] ++ List.replicate (-d.point).toNat '0' ++ d.digits

def signed (e : Int) : List Char :=
  (if e < 0 then '-' else '+') :: Nat.toDigits 10 e.natAbs

/-- One digit, then the point and the others if there are any, then the exponent. -/
def scientific (d : Decimal) : List Char :=
  let exponent := 'e' :: signed (d.point - 1)
  match d.digits with
  | first :: second :: rest => first :: '.' :: second :: rest ++ exponent
  | ds => ds ++ exponent

end Decimal

def isNegative (x : Float) : Bool :=
  x.toBits ≥ 0x8000000000000000

def withSign (x : Float) (text : List Char) : List Char :=
  if isNegative x then '-' :: text else text

/-- Positional at every magnitude, a whole number without a point; a float in the middle between two
decimals is written as the one above. -/
def plain (x : Float) : String :=
  if x.isNaN then "NaN"
  else if x.isInf then String.ofList (withSign x ['i', 'n', 'f'])
  else String.ofList (withSign x ((Decimal.shortest .above x).positional []))

/-- Positional from `10 ^ -5` up to `10 ^ 16`, a whole number with `.0`; scientific elsewhere; a float
in the middle between two decimals is written as the one with the even coefficient. -/
def compactChars (x : Float) : List Char :=
  let d := Decimal.shortest .even x
  withSign x (if d.coefficient = 0 ∨ (-4 ≤ d.point ∧ d.point ≤ 16) then d.positional ['.', '0']
    else d.scientific)

end Herald.Number
