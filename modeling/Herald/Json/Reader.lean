import Herald.Json.Numeral

/-!
The reader of JSON values. It takes the longest value from the front of a byte list and keeps its
members in the order in which they stand. Lists and objects nest up to `maxDepth`; the reader of a
list is given the reader of its items, so nesting is plain recursion on the depth that is left.
-/
namespace Herald.Json

def maxDepth : Nat := 127

/-- Whether another item follows in a list, and the input from that item or from the bracket on. -/
def itemTurn (first : Bool) : Reader Bool := fun input =>
  match skipSpace input with
  | [] => .error (.here .endOfList [])
  | b :: rest =>
    if b = 0x5D then .ok (false, b :: rest)
    else if first then .ok (true, b :: rest)
    else if b = 0x2C then
      match skipSpace rest with
      | [] => .error (.here .endOfValue [])
      | c :: rest =>
        if c = 0x5D then .error (.ahead .trailingComma (c :: rest)) else .ok (true, c :: rest)
    else .error (.ahead .expectedListComma (b :: rest))

/-- Whether another member follows in an object, and the input from its name or from the brace on. -/
def memberTurn (first : Bool) : Reader Bool := fun input =>
  match skipSpace input with
  | [] => .error (.here .endOfObject [])
  | b :: rest =>
    if b = 0x7D then .ok (false, b :: rest)
    else if first then
      if b = 0x22 then .ok (true, b :: rest) else .error (.ahead .keyNotString (b :: rest))
    else if b = 0x2C then
      match skipSpace rest with
      | [] => .error (.here .endOfValue [])
      | c :: rest =>
        if c = 0x22 then .ok (true, c :: rest)
        else if c = 0x7D then .error (.ahead .trailingComma (c :: rest))
        else .error (.ahead .keyNotString (c :: rest))
    else .error (.ahead .expectedObjectComma (b :: rest))

def listEnd (input : List UInt8) : Except Fault (List UInt8) :=
  match skipSpace input with
  | [] => .error (.here .endOfList [])
  | b :: rest =>
    if b = 0x5D then .ok rest
    else if b = 0x2C then
      match skipSpace rest with
      | c :: rest =>
        if c = 0x5D then .error (.ahead .trailingComma (c :: rest))
        else .error (.ahead .trailingCharacters (c :: rest))
      | [] => .error (.here .trailingCharacters [])
    else .error (.ahead .trailingCharacters (b :: rest))

def objectEnd (input : List UInt8) : Except Fault (List UInt8) :=
  match skipSpace input with
  | [] => .error (.here .endOfObject [])
  | b :: rest =>
    if b = 0x7D then .ok rest
    else if b = 0x2C then .error (.ahead .trailingComma (b :: rest))
    else .error (.ahead .trailingCharacters (b :: rest))

def memberName : Reader String
  | _ :: rest => string rest
  | [] => .error (.here .endOfObject [])

def colon (input : List UInt8) : Except Fault (List UInt8) :=
  match skipSpace input with
  | [] => .error (.here .endOfObject [])
  | b :: rest => if b = 0x3A then .ok rest else .error (.ahead .expectedColon (b :: rest))

/-- The items of a list up to its bracket; each takes a byte at least, so `fuel` bytes suffice. -/
def items (item : Reader Value) (first : Bool) : Nat → Reader (List Value)
  | 0, input => .error (.here .endOfList input)
  | fuel + 1, input => do
    let (more, input) ← itemTurn first input
    if more then
      let (v, input) ← item input
      let (vs, input) ← items item false fuel input
      return (v :: vs, input)
    else return ([], input)

def members (item : Reader Value) (first : Bool) : Nat → Reader (List (String × Value))
  | 0, input => .error (.here .endOfObject input)
  | fuel + 1, input => do
    let (more, input) ← memberTurn first input
    if more then
      let (name, input) ← memberName input
      let input ← colon input
      let (v, input) ← item input
      let (ms, input) ← members item false fuel input
      return ((name, v) :: ms, input)
    else return ([], input)

def list (item : Reader Value) : Reader Value := fun input => do
  let (vs, input) ← items item true (input.length + 1) input
  let input ← listEnd input
  return (.array vs, input)

def object (item : Reader Value) : Reader Value := fun input => do
  let (ms, input) ← members item true (input.length + 1) input
  let input ← objectEnd input
  return (.object ms, input)

/-- One value, whose parts are read by `part?`; without it nothing may nest any deeper. -/
def node (part? : Option (Reader Value)) : Reader Value := fun input =>
  match skipSpace input with
  | [] => .error (.here .endOfValue [])
  | b :: rest =>
    if b = 0x6E then do return (.null, ← word [0x75, 0x6C, 0x6C] rest)
    else if b = 0x74 then do return (.bool true, ← word [0x72, 0x75, 0x65] rest)
    else if b = 0x66 then do return (.bool false, ← word [0x61, 0x6C, 0x73, 0x65] rest)
    else if b = 0x2D then do
      let (n, rest) ← numeral true rest
      return (.number n, rest)
    else if isDigit b then do
      let (n, rest) ← numeral false (b :: rest)
      return (.number n, rest)
    else if b = 0x22 then do
      let (s, rest) ← string rest
      return (.string s, rest)
    else if b = 0x5B then
      match part? with
      | some part => list part rest
      | none => .error (.ahead .tooDeep (b :: rest))
    else if b = 0x7B then
      match part? with
      | some part => object part rest
      | none => .error (.ahead .tooDeep (b :: rest))
    else .error (.ahead .expectedValue (b :: rest))

def value : Nat → Reader Value
  | 0 => node none
  | depth + 1 => node (some (value depth))

def whole {α : Type} (read : Reader α) (input : List UInt8) : Except Fault α := do
  let (a, rest) ← read input
  match skipSpace rest with
  | [] => .ok a
  | rest => .error (.ahead .trailingCharacters rest)

def parse (input : List UInt8) : Except Fault Value :=
  whole (value maxDepth) input

end Herald.Json
