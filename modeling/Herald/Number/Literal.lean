/-!
Numbers written as text by a person: unsigned integers with a bound, and floats. An integer is a
row of digits after an optional plus; a float is a decimal with an optional point and exponent, or
one of the words for infinity and for the value that is no number.
-/
namespace Herald.Number

inductive LiteralFault where
  | emptyInteger
  | badDigit
  | tooLarge
  | emptyFloat
  | badFloat
deriving DecidableEq, Repr

def LiteralFault.message : LiteralFault → String
  | .emptyInteger => "cannot parse integer from empty string"
  | .badDigit => "invalid digit found in string"
  | .tooLarge => "number too large to fit in target type"
  | .emptyFloat => "cannot parse float from empty string"
  | .badFloat => "invalid float literal"

def digit? (c : Char) : Option Nat :=
  if '0' ≤ c ∧ c ≤ '9' then some (c.toNat - 48) else none

def readDigits (bound acc : Nat) : List Char → Except LiteralFault Nat
  | [] => .ok acc
  | c :: rest =>
    match digit? c with
    | none => .error .badDigit
    | some d => if 10 * acc + d > bound then .error .tooLarge else readDigits bound (10 * acc + d) rest

def readNat (bound : Nat) (text : String) : Except LiteralFault Nat :=
  match text.toList with
  | [] => .error .emptyInteger
  | ['+'] => .error .badDigit
  | '+' :: rest => readDigits bound 0 rest
  | cs => readDigits bound 0 cs

/-- `mantissa · 10 ^ exponent`, rounded to the nearest float; the bounds keep the powers small. -/
def scaled (mantissa : Nat) (exponent : Int) : Float :=
  let magnitude := ((Nat.toDigits 10 mantissa).length : Int) + exponent
  if mantissa = 0 ∨ magnitude < -400 then 0.0
  else if 400 < magnitude then 1.0 / 0.0
  else Float.ofScientific mantissa (exponent < 0) exponent.natAbs

def takeDigits (cs : List Char) : List Char × List Char :=
  cs.span fun c => (digit? c).isSome

def natOf (digits : List Char) : Nat :=
  digits.foldl (fun n c => 10 * n + (digit? c).getD 0) 0

def readExponent (cs : List Char) : Option Int :=
  let signed (negative : Bool) (cs : List Char) : Option Int :=
    match takeDigits cs with
    | ([], _) => none
    | (_, _ :: _) => none
    | (digits, []) => some (if negative then -(natOf digits) else natOf digits)
  match cs with
  | '+' :: rest => signed false rest
  | '-' :: rest => signed true rest
  | cs => signed false cs

def readDecimal (cs : List Char) : Option Float :=
  let (whole, rest) := takeDigits cs
  let (part, rest) :=
    match rest with
    | '.' :: rest => takeDigits rest
    | rest => ([], rest)
  if whole.isEmpty ∧ part.isEmpty then none
  else
    let mantissa := natOf (whole ++ part)
    let shift : Int := -part.length
    match rest with
    | [] => some (scaled mantissa shift)
    | 'e' :: rest => (readExponent rest).map fun e => scaled mantissa (shift + e)
    | 'E' :: rest => (readExponent rest).map fun e => scaled mantissa (shift + e)
    | _ => none

def readMagnitude (cs : List Char) : Option Float :=
  let word := cs.map Char.toLower
  if word = "inf".toList ∨ word = "infinity".toList then some (1.0 / 0.0)
  else if word = "nan".toList then some (0.0 / 0.0)
  else readDecimal cs

def readFloat (text : String) : Except LiteralFault Float :=
  let result :=
    match text.toList with
    | '-' :: rest => (readMagnitude rest).map (-·)
    | '+' :: rest => readMagnitude rest
    | cs => readMagnitude cs
  match result with
  | some x => .ok x
  | none => .error (if text.isEmpty then .emptyFloat else .badFloat)

end Herald.Number
