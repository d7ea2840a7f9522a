import Herald.Json.Reader

/-!
Passing over a value that nobody asked for. Brackets and commas have to match as they do in a value
that is read, but numbers are not evaluated, escapes not resolved and nesting not limited.
-/
namespace Herald.Json

/-- A string after its opening quote; `\u` takes four digits, in a pair or not. -/
def skipString : List UInt8 → Except Fault (List UInt8)
  | [] => .error (.here .endOfString [])
  | b :: rest =>
    if b = 0x22 then .ok rest
    else if b = 0x5C then
      match rest with
      | [] => .error (.here .endOfString [])
      | e :: rest =>
        if e = 0x75 then
          match rest with
          | h₁ :: h₂ :: h₃ :: h₄ :: rest =>
            if (unit? h₁ h₂ h₃ h₄).isSome then skipString rest else .error (.here .badEscape rest)
          | _ => .error (.here .endOfString [])
        else if (shortEscape? e).isSome then skipString rest
        else .error (.here .badEscape rest)
    else if b < 0x20 then .error (.here .controlCharacter (b :: rest))
    else skipString rest

def skipExponent (input : List UInt8) : Except Fault (List UInt8) :=
  match (exponentSign input).2 with
  | [] => .error (.here .badNumber [])
  | b :: rest => if isDigit b then .ok (rest.dropWhile isDigit) else .error (.here .badNumber rest)

def skipFraction (input : List UInt8) : Except Fault (List UInt8) :=
  if startsWithDigit input then
    match input.dropWhile isDigit with
    | b :: rest => if b = 0x65 || b = 0x45 then skipExponent rest else .ok (b :: rest)
    | [] => .ok []
  else .error (.ahead .badNumber input)

def skipNumeral : List UInt8 → Except Fault (List UInt8)
  | [] => .error (.here .badNumber [])
  | b :: rest =>
    if !isDigit b then .error (.here .badNumber rest)
    else if b = 0x30 && startsWithDigit rest then .error (.ahead .badNumber rest)
    else
      match rest.dropWhile isDigit with
      | c :: rest =>
        if c = 0x2E then skipFraction rest
        else if c = 0x65 || c = 0x45 then skipExponent rest
        else .ok (c :: rest)
      | [] => .ok []

inductive Bracket where
  | list
  | object
deriving DecidableEq

namespace Bracket

def close : Bracket → UInt8
  | .list => 0x5D
  | .object => 0x7D

def unclosed : Bracket → Cause
  | .list => .endOfList
  | .object => .endOfObject

def noComma : Bracket → Cause
  | .list => .expectedListComma
  | .object => .expectedObjectComma

def lead : Bracket → List UInt8 → Except Fault (List UInt8)
  | .list, input => .ok input
  | .object, input =>
    match skipSpace input with
    | [] => .error (.here .endOfObject [])
    | b :: rest => if b = 0x22 then skipString rest >>= colon else .error (.ahead .keyNotString (b :: rest))

end Bracket

/-- What comes next: a value, or the comma or closing of the innermost bracket, where `comma` says
whether a comma may stand. -/
inductive Turn where
  | value
  | next (comma : Bool)

/-- Passes over what is left of a value inside `brackets`. Every second step takes a byte, so twice
the length of the input is fuel enough. -/
def skipIn : Nat → List Bracket → Turn → List UInt8 → Except Fault (List UInt8)
  | 0, _, _, input => .error (.here .endOfValue input)
  | fuel + 1, brackets, .value, input =>
    let scalar (result : Except Fault (List UInt8)) : Except Fault (List UInt8) := do
      skipIn fuel brackets (.next true) (← result)
    match skipSpace input with
    | [] => .error (.here .endOfValue [])
    | b :: rest =>
      if b = 0x6E then scalar (word [0x75, 0x6C, 0x6C] rest)
      else if b = 0x74 then scalar (word [0x72, 0x75, 0x65] rest)
      else if b = 0x66 then scalar (word [0x61, 0x6C, 0x73, 0x65] rest)
      else if b = 0x2D then scalar (skipNumeral rest)
      else if isDigit b then scalar (skipNumeral (b :: rest))
      else if b = 0x22 then scalar (skipString rest)
      else if b = 0x5B then skipIn fuel (.list :: brackets) (.next false) rest
      else if b = 0x7B then skipIn fuel (.object :: brackets) (.next false) rest
      else .error (.ahead .expectedValue (b :: rest))
  | _ + 1, [], .next _, input => .ok input
  | fuel + 1, bracket :: outer, .next comma, input =>
    match skipSpace input with
    | [] => .error (.here bracket.unclosed [])
    | b :: rest =>
      if b = bracket.close then skipIn fuel outer (.next true) rest
      else if comma then
        if b = 0x2C then do skipIn fuel (bracket :: outer) .value (← bracket.lead rest)
        else .error (.ahead bracket.noComma (b :: rest))
      else do skipIn fuel (bracket :: outer) .value (← bracket.lead (b :: rest))

def skip (input : List UInt8) : Except Fault (List UInt8) :=
  skipIn (2 * input.length + 2) [] .value input

end Herald.Json
