import Herald.Json.Lexeme
import Herald.Json.Value

/-!
Numbers in a JSON text. A numeral without point and exponent is an integer as long as it fits 64
bits. Every other one becomes a float from a 64-bit significand, digits beyond it cut off, and a
power of ten, with one multiplication or division; the result may miss the nearest float by a last
place, but never depends on more than these two.
-/
namespace Herald.Json

def wordLimit : Nat := UInt64.size

def digitValue (b : UInt8) : Nat :=
  b.toNat - 0x30

/-- Digits taken into a significand as long as it stays below the limit. -/
structure Taken where
  significand : Nat
  count : Nat
  rest : List UInt8

def takeDigits (limit significand count : Nat) : List UInt8 → Taken
  | [] => ⟨significand, count, []⟩
  | b :: rest =>
    if isDigit b && 10 * significand + digitValue b < limit then
      takeDigits limit (10 * significand + digitValue b) (count + 1) rest
    else ⟨significand, count, b :: rest⟩

def startsWithDigit : List UInt8 → Bool
  | b :: _ => isDigit b
  | [] => false

def powerOfTen (n : Nat) : Float :=
  Float.ofScientific 1 false n

/-- The exponent of the largest power of ten that is a float. -/
def topExponent : Nat := 308

/-- Divided by `10 ^ n`, by no larger power than there is at a time. -/
def shrink (x : Float) (n : Nat) : Float :=
  if n ≤ topExponent then x / powerOfTen n
  else if x == 0.0 then x
  else shrink (x / powerOfTen topExponent) (n - topExponent)
termination_by n
decreasing_by simp only [topExponent] at *; omega

/-- Nothing when the number is beyond the range of floats. -/
def ofParts (significand : Nat) (exponent : Int) : Option Float :=
  let x := (UInt64.ofNat significand).toFloat
  if exponent < 0 then some (shrink x exponent.natAbs)
  else if exponent ≤ topExponent then
    let y := x * powerOfTen exponent.toNat
    if y.isInf then none else some y
  else if x == 0.0 then some x
  else none

def signed (negative : Bool) (x : Float) : Float :=
  if negative then -x else x

def finish (negative : Bool) (significand : Nat) (exponent : Int) : Reader Number := fun rest =>
  match ofParts significand exponent with
  | some x => .ok (.float (signed negative x), rest)
  | none => .error (.here .outOfRange rest)

def exponentLimit : Nat := 0x80000000

def clampExponent (e : Int) : Int :=
  max (-(exponentLimit : Int)) (min e (exponentLimit - 1))

def exponentSign : List UInt8 → Bool × List UInt8
  | b :: rest => if b = 0x2B then (false, rest) else if b = 0x2D then (true, rest) else (false, b :: rest)
  | [] => (false, [])

/-- An exponent after its letter. One beyond 31 bits leaves nothing of the number but its sign. -/
def exponentPart (negative : Bool) (significand : Nat) (start : Int) : Reader Number := fun input =>
  let (down, input) := exponentSign input
  match input with
  | [] => .error (.here .endOfValue [])
  | b :: rest =>
    if !isDigit b then .error (.here .badNumber rest)
    else
      let taken := takeDigits exponentLimit (digitValue b) 0 rest
      if startsWithDigit taken.rest then
        if significand ≠ 0 && !down then .error (.here .outOfRange taken.rest.tail)
        else .ok (.float (signed negative 0.0), taken.rest.dropWhile isDigit)
      else
        let e : Int := if down then start - taken.significand else start + taken.significand
        finish negative significand (clampExponent e) taken.rest

def afterDigits (negative : Bool) (significand : Nat) (exponent : Int) : Reader Number
  | b :: rest =>
    if b = 0x65 || b = 0x45 then exponentPart negative significand exponent rest
    else finish negative significand exponent (b :: rest)
  | [] => finish negative significand exponent []

def fractionPart (negative : Bool) (significand : Nat) (exponent : Int) : Reader Number := fun input =>
  let taken := takeDigits wordLimit significand 0 input
  if startsWithDigit taken.rest then
    afterDigits negative taken.significand (exponent - taken.count) (taken.rest.dropWhile isDigit)
  else if taken.count = 0 then
    match taken.rest with
    | [] => .error (.here .endOfValue [])
    | rest => .error (.ahead .badNumber rest)
  else afterDigits negative taken.significand (exponent - taken.count) taken.rest

/-- A whole number that did not fit; `input` starts with the first digit left over. -/
def longInteger (negative : Bool) (significand : Nat) : Reader Number := fun input =>
  let dropped := (input.takeWhile isDigit).length
  match input.dropWhile isDigit with
  | b :: rest =>
    if b = 0x2E then fractionPart negative significand dropped rest
    else afterDigits negative significand dropped (b :: rest)
  | [] => finish negative significand dropped []

def integer (negative : Bool) (significand : Nat) : Number :=
  if !negative then .int significand
  else if 0 < significand ∧ significand ≤ 0x8000000000000000 then .int (-significand)
  else .float (-(UInt64.ofNat significand).toFloat)

def afterInteger (negative : Bool) (significand : Nat) : Reader Number
  | b :: rest =>
    if b = 0x2E then fractionPart negative significand 0 rest
    else if b = 0x65 || b = 0x45 then exponentPart negative significand 0 rest
    else .ok (integer negative significand, b :: rest)
  | [] => .ok (integer negative significand, [])

/-- A number after its minus sign, if it has one. -/
def numeral (negative : Bool) : Reader Number
  | [] => .error (.here .endOfValue [])
  | b :: rest =>
    if b = 0x30 then
      if startsWithDigit rest then .error (.ahead .badNumber rest)
      else afterInteger negative 0 rest
    else if isDigit b then
      let taken := takeDigits wordLimit (digitValue b) 0 rest
      if startsWithDigit taken.rest then longInteger negative taken.significand taken.rest
      else afterInteger negative taken.significand taken.rest
    else .error (.here .badNumber rest)

end Herald.Json
