import Herald.Json.Numeral

/-!
The grammar of JSON texts, written down without a reader. Each phrase relates a text to what is left
of it behind the phrase, so no phrase is longer than it has to be. A few `words` may be added to the
grammar, which stand for `null` wherever a value may stand; without any it is JSON itself.
-/
namespace Herald.Json

inductive Blanks : List UInt8 → List UInt8 → Prop
  | nil {t : List UInt8} : Blanks t t
  | cons {b : UInt8} {t u : List UInt8} : isSpace b = true → Blanks t u → Blanks (b :: t) u

/-- A string behind its opening quote: the bytes it stands for, and what follows its closing quote. -/
inductive StringText : List UInt8 → List UInt8 → List UInt8 → Prop
  | close {t : List UInt8} : StringText (0x22 :: t) [] t
  | plain {b : UInt8} {t s u : List UInt8} (printable : 0x20 ≤ b) (quote : b ≠ 0x22)
      (backslash : b ≠ 0x5C) : StringText t s u → StringText (b :: t) (b :: s) u
  | short {e c : UInt8} {t s u : List UInt8} : shortEscape? e = some c →
      StringText t s u → StringText (0x5C :: e :: t) (c :: s) u
  | unit {h₁ h₂ h₃ h₄ : UInt8} {n : Nat} {t s u : List UInt8} : unit? h₁ h₂ h₃ h₄ = some n →
      isLowSurrogate n = false → isHighSurrogate n = false → StringText t s u →
      StringText (0x5C :: 0x75 :: h₁ :: h₂ :: h₃ :: h₄ :: t) (codePoint n ++ s) u
  | pair {h₁ h₂ h₃ h₄ l₁ l₂ l₃ l₄ : UInt8} {n m : Nat} {t s u : List UInt8} :
      unit? h₁ h₂ h₃ h₄ = some n → isHighSurrogate n = true →
      unit? l₁ l₂ l₃ l₄ = some m → isLowSurrogate m = true → StringText t s u →
      StringText (0x5C :: 0x75 :: h₁ :: h₂ :: h₃ :: h₄ :: 0x5C :: 0x75 :: l₁ :: l₂ :: l₃ :: l₄ :: t)
        (codePoint (surrogatePair n m) ++ s) u

inductive Sign where
  | none
  | plus
  | minus
deriving DecidableEq

def Sign.text : Sign → List UInt8
  | .none => []
  | .plus => [0x2B]
  | .minus => [0x2D]

structure Exponent where
  capital : Bool
  sign : Sign
  digits : List UInt8
  isDigit_of_mem : ∀ b ∈ digits, isDigit b = true
  digits_ne_nil : digits ≠ []

/-- The parts of a number; no point is written in front of a fraction without digits. -/
structure Numeral where
  negative : Bool
  whole : List UInt8
  fraction : List UInt8
  exponent : Option Exponent
  isDigit_of_mem_whole : ∀ b ∈ whole, isDigit b = true
  isDigit_of_mem_fraction : ∀ b ∈ fraction, isDigit b = true
  whole_ne_nil : whole ≠ []
  no_leading_zero : ∀ rest, whole = 0x30 :: rest → rest = []

def Exponent.text (e : Exponent) : List UInt8 :=
  (if e.capital then 0x45 else 0x65) :: (e.sign.text ++ e.digits)

def exponentText : Option Exponent → List UInt8
  | none => []
  | some e => e.text

def fractionText (digits : List UInt8) : List UInt8 :=
  if digits = [] then [] else 0x2E :: digits

def Numeral.magnitude (x : Numeral) : List UInt8 :=
  x.whole ++ (fractionText x.fraction ++ exponentText x.exponent)

def Numeral.text (x : Numeral) : List UInt8 :=
  if x.negative then 0x2D :: x.magnitude else x.magnitude

def scaled? (negative : Bool) (significand : Nat) (exponent : Int) : Option Number :=
  (ofParts significand exponent).map fun x => .float (signed negative x)

def Exponent.number? (e : Exponent) (negative : Bool) (significand : Nat) (start : Int) :
    Option Number :=
  let taken := takeDigits exponentLimit 0 0 e.digits
  if taken.rest = [] then
    scaled? negative significand (clampExponent
      (if e.sign = .minus then start - taken.significand else start + taken.significand))
  else if significand ≠ 0 ∧ e.sign ≠ .minus then none
  else some (.float (signed negative 0.0))

def powered? (negative : Bool) (significand : Nat) (start : Int) : Option Exponent → Option Number
  | none => scaled? negative significand start
  | some e => e.number? negative significand start

/-- What whole digits stand for together with a fraction and an exponent. The significand takes
digits as long as it fits a word; whole digits left over count as powers of ten. -/
def Taken.number? (whole : Taken) (negative : Bool) (fraction : List UInt8)
    (exponent : Option Exponent) : Option Number :=
  let part := takeDigits wordLimit whole.significand 0 fraction
  if fraction = [] ∧ exponent = none ∧ whole.rest = [] then
    some (integer negative whole.significand)
  else powered? negative part.significand (whole.rest.length - part.count) exponent

/-- A numeral out of range stands for no number. -/
def Numeral.number? (x : Numeral) : Option Number :=
  (takeDigits wordLimit 0 0 x.whole).number? x.negative x.fraction x.exponent

inductive NameText : List UInt8 → String → List UInt8 → Prop
  | mk {t t₁ t₂ u bytes : List UInt8} {name : String} : Blanks t (0x22 :: t₁) →
      StringText t₁ bytes t₂ → Text.decode? bytes = some name → Blanks t₂ (0x3A :: u) →
      NameText t name u

mutual

inductive Denotes (words : List (List UInt8)) : List UInt8 → Value → List UInt8 → Prop
  | null {t : List UInt8} : Denotes words (0x6E :: 0x75 :: 0x6C :: 0x6C :: t) .null t
  | word {w t : List UInt8} : w ∈ words → Denotes words (w ++ t) .null t
  | true {t : List UInt8} : Denotes words (0x74 :: 0x72 :: 0x75 :: 0x65 :: t) (.bool true) t
  | false {t : List UInt8} :
      Denotes words (0x66 :: 0x61 :: 0x6C :: 0x73 :: 0x65 :: t) (.bool false) t
  | number {x : Numeral} {n : Number} {t : List UInt8} : x.number? = some n →
      Denotes words (x.text ++ t) (.number n) t
  | string {t bytes u : List UInt8} {s : String} : StringText t bytes u →
      Text.decode? bytes = some s → Denotes words (0x22 :: t) (.string s) u
  | emptyList {t u : List UInt8} : Blanks t (0x5D :: u) → Denotes words (0x5B :: t) (.array []) u
  | list {t u : List UInt8} {vs : List Value} : DenotesItems words t vs u →
      Denotes words (0x5B :: t) (.array vs) u
  | emptyObject {t u : List UInt8} : Blanks t (0x7D :: u) →
      Denotes words (0x7B :: t) (.object []) u
  | object {t u : List UInt8} {ms : List (String × Value)} : DenotesMembers words t ms u →
      Denotes words (0x7B :: t) (.object ms) u

inductive DenotesItems (words : List (List UInt8)) : List UInt8 → List Value → List UInt8 → Prop
  | last {t t₁ t₂ u : List UInt8} {v : Value} : Blanks t t₁ → Denotes words t₁ v t₂ →
      Blanks t₂ (0x5D :: u) → DenotesItems words t [v] u
  | next {t t₁ t₂ t₃ u : List UInt8} {v : Value} {vs : List Value} : Blanks t t₁ →
      Denotes words t₁ v t₂ → Blanks t₂ (0x2C :: t₃) → DenotesItems words t₃ vs u →
      DenotesItems words t (v :: vs) u

inductive DenotesMembers (words : List (List UInt8)) :
    List UInt8 → List (String × Value) → List UInt8 → Prop
  | last {t t₀ t₁ t₂ u : List UInt8} {name : String} {v : Value} : NameText t name t₀ →
      Blanks t₀ t₁ → Denotes words t₁ v t₂ → Blanks t₂ (0x7D :: u) →
      DenotesMembers words t [(name, v)] u
  | next {t t₀ t₁ t₂ t₃ u : List UInt8} {name : String} {v : Value} {ms : List (String × Value)} :
      NameText t name t₀ → Blanks t₀ t₁ → Denotes words t₁ v t₂ → Blanks t₂ (0x2C :: t₃) →
      DenotesMembers words t₃ ms u → DenotesMembers words t ((name, v) :: ms) u

end

/-- A whole text that spells a value, with blanks around it. -/
def Spells (words : List (List UInt8)) (t : List UInt8) (v : Value) : Prop :=
  ∃ t₁ t₂, Blanks t t₁ ∧ Denotes words t₁ v t₂ ∧ Blanks t₂ []

namespace Value

mutual

def depth : Value → Nat
  | .array vs => depthItems vs + 1
  | .object ms => depthMembers ms + 1
  | _ => 0

def depthItems : List Value → Nat
  | [] => 0
  | v :: rest => max v.depth (depthItems rest)

def depthMembers : List (String × Value) → Nat
  | [] => 0
  | (_, v) :: rest => max v.depth (depthMembers rest)

end

end Value

end Herald.Json
