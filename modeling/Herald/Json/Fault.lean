import Herald.Number.Decimal
import Herald.Text.Quoted

/-!
What is wrong with a JSON text, and where. A fault keeps the input that was still unread when it
arose; its line and column are counted from the rest of the text only when a message is wanted.
-/
namespace Herald.Json

inductive Seen where
  | null
  | bool (b : Bool)
  | int (n : Int)
  | float (x : Float)
  | string (s : String)
  | list
  | object
deriving DecidableEq

def Seen.text : Seen → String
  | .null => "null"
  | .bool b => s!"boolean `{b}`"
  | .int n => s!"integer `{n}`"
  | .float x => s!"floating point `{String.ofList (Number.compactChars x)}`"
  | .string s => s!"string {Text.Quoted.ofString s}"
  | .list => "sequence"
  | .object => "map"

inductive Cause where
  | endOfValue
  | endOfList
  | endOfObject
  | endOfString
  | expectedValue
  | expectedWord
  | expectedColon
  | expectedListComma
  | expectedObjectComma
  | trailingComma
  | trailingCharacters
  | keyNotString
  | tooDeep
  | badNumber
  | outOfRange
  | badEscape
  | controlCharacter
  | loneSurrogate
  | cutSurrogate
  /-- A string is not UTF-8: its last `back` bytes follow a broken sequence. -/
  | badCodePoint (back : Nat)
  | wrongKind (seen : Seen) (wanted : String)
  | wrongValue (seen : Seen) (wanted : String)
  | wrongLength (length : Nat) (wanted : String)
  | missingField (name : String)
  | duplicateField (name : String)
  | refused (message : String)
deriving DecidableEq

def Cause.text : Cause → String
  | .endOfValue => "EOF while parsing a value"
  | .endOfList => "EOF while parsing a list"
  | .endOfObject => "EOF while parsing an object"
  | .endOfString => "EOF while parsing a string"
  | .expectedValue => "expected value"
  | .expectedWord => "expected ident"
  | .expectedColon => "expected `:`"
  | .expectedListComma => "expected `,` or `]`"
  | .expectedObjectComma => "expected `,` or `\x7d`"
  | .trailingComma => "trailing comma"
  | .trailingCharacters => "trailing characters"
  | .keyNotString => "key must be a string"
  | .tooDeep => "recursion limit exceeded"
  | .badNumber => "invalid number"
  | .outOfRange => "number out of range"
  | .badEscape => "invalid escape"
  | .controlCharacter => "control character (\\u0000-\\u001F) found while parsing a string"
  | .loneSurrogate => "lone leading surrogate in hex escape"
  | .cutSurrogate => "unexpected end of hex escape"
  | .badCodePoint _ => "invalid unicode code point"
  | .wrongKind seen wanted => s!"invalid type: {seen.text}, expected {wanted}"
  | .wrongValue seen wanted => s!"invalid value: {seen.text}, expected {wanted}"
  | .wrongLength length wanted => s!"invalid length {length}, expected {wanted}"
  | .missingField name => s!"missing field `{name}`"
  | .duplicateField name => s!"duplicate field `{name}`"
  | .refused message => message

/-- A fault is placed once the text around it has been looked at; only then has it a position. -/
structure Fault where
  cause : Cause
  rest : List UInt8
  placed : Bool
deriving DecidableEq

namespace Fault

def here (cause : Cause) (rest : List UInt8) : Fault :=
  ⟨cause, rest, true⟩

def ahead (cause : Cause) (rest : List UInt8) : Fault :=
  ⟨cause, rest.tail, true⟩

def loose (cause : Cause) (rest : List UInt8) : Fault :=
  ⟨cause, rest, false⟩

/-- A fault without a place takes the one that reading has come to. -/
def place (fault : Fault) : Fault :=
  { fault with placed := true }

end Fault

structure Position where
  line : Nat
  column : Nat
deriving DecidableEq, Repr

/-- The position after `bytes`: lines from one, columns from the last line break. -/
def Position.after (bytes : List UInt8) : Position :=
  bytes.foldl (fun p b => if b = 0x0A then ⟨p.line + 1, 0⟩ else ⟨p.line, p.column + 1⟩) ⟨1, 0⟩

namespace Fault

def position (input : List UInt8) (fault : Fault) : Position :=
  let p := Position.after (input.take (input.length - fault.rest.length))
  match fault.cause with
  | .badCodePoint back => ⟨p.line, p.column - back⟩
  | _ => p

def message (input : List UInt8) (fault : Fault) : String :=
  if fault.placed then
    let p := fault.position input
    s!"{fault.cause.text} at line {p.line} column {p.column}"
  else fault.cause.text

end Fault

/-- A reader takes its value from the front of the input and gives back what comes after it. -/
abbrev Reader (α : Type) := List UInt8 → Except Fault (α × List UInt8)

end Herald.Json
