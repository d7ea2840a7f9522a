import Herald.Json.Skip

/-!
Readers for values of a known kind. A record is read from an object, whose other members are passed
over, or from a list that holds its fields in order; it is filled field by field and built at the
end. A fault without a place of its own gets one when the closing bracket has been looked for.
-/
namespace Herald.Json

def mismatch (wanted : String) : List UInt8 → Fault
  | [] => .here .endOfValue []
  | b :: rest =>
    let seen (s : Seen) (result : Except Fault (List UInt8)) : Fault :=
      match result with
      | .ok rest => .here (.wrongKind s wanted) rest
      | .error fault => fault
    let number (result : Except Fault (Number × List UInt8)) : Fault :=
      match result with
      | .ok (.int n, rest) => .here (.wrongKind (.int n) wanted) rest
      | .ok (.float x, rest) => .here (.wrongKind (.float x) wanted) rest
      | .error fault => fault
    if b = 0x6E then seen .null (word [0x75, 0x6C, 0x6C] rest)
    else if b = 0x74 then seen (.bool true) (word [0x72, 0x75, 0x65] rest)
    else if b = 0x66 then seen (.bool false) (word [0x61, 0x6C, 0x73, 0x65] rest)
    else if b = 0x2D then number (numeral true rest)
    else if isDigit b then number (numeral false (b :: rest))
    else if b = 0x22 then
      match string rest with
      | .ok (s, rest) => .here (.wrongKind (.string s) wanted) rest
      | .error fault => fault
    else if b = 0x5B then .here (.wrongKind .list wanted) (b :: rest)
    else if b = 0x7B then .here (.wrongKind .object wanted) (b :: rest)
    else .ahead .expectedValue (b :: rest)

def text : Reader String := fun input =>
  match skipSpace input with
  | [] => .error (.here .endOfValue [])
  | b :: rest => if b = 0x22 then string rest else .error (mismatch "a string" (b :: rest))

def numberOf {α : Type} (wanted : String) (convert : Number → Except Cause α) : Reader α := fun input =>
  let converted (result : Except Fault (Number × List UInt8)) : Except Fault (α × List UInt8) := do
    let (n, rest) ← result
    match convert n with
    | .ok a => .ok (a, rest)
    | .error cause => .error (.here cause rest)
  match skipSpace input with
  | [] => .error (.here .endOfValue [])
  | b :: rest =>
    if b = 0x2D then converted (numeral true rest)
    else if isDigit b then converted (numeral false (b :: rest))
    else .error (mismatch wanted (b :: rest))

def intBetween (wanted : String) (low high : Int) : Reader Int :=
  numberOf wanted fun
    | .int n => if low ≤ n ∧ n ≤ high then .ok n else .error (.wrongValue (.int n) wanted)
    | .float x => .error (.wrongKind (.float x) wanted)

def natBelow (wanted : String) (limit : Nat) : Reader Nat := fun input => do
  let (n, rest) ← intBetween wanted 0 (limit - 1) input
  return (n.toNat, rest)

def Number.toFloat : Number → Float
  | .int n => if n < 0 then -(UInt64.ofNat n.natAbs).toFloat else (UInt64.ofNat n.natAbs).toFloat
  | .float x => x

def float : Reader Float :=
  numberOf "f64" fun n => .ok n.toFloat

def named {α ε : Type} (read : String → Except ε α) (message : ε → String) : Reader α := fun input => do
  let (s, rest) ← text input
  match read s with
  | .ok a => .ok (a, rest)
  | .error e => .error (.loose (.refused (message e)) rest)

def optional {α : Type} (read : Reader α) : Reader (Option α) := fun input =>
  match skipSpace input with
  | b :: rest =>
    if b = 0x6E then do return (none, ← word [0x75, 0x6C, 0x6C] rest)
    else do
      let (a, rest) ← read (b :: rest)
      return (some a, rest)
  | [] => do
    let (a, rest) ← read []
    return (some a, rest)

def settleObject (input : List UInt8) : List UInt8 :=
  match skipSpace input with
  | b :: rest => if b = 0x7D then rest else b :: rest
  | [] => []

def settleList (input : List UInt8) : List UInt8 :=
  match skipSpace input with
  | b :: rest => if b = 0x5D then rest else if b = 0x2C then skipSpace rest else b :: rest
  | [] => []

def closed {α : Type} (close : List UInt8 → Except Fault (List UInt8)) (settle : List UInt8 → List UInt8) :
    Except Fault (α × List UInt8) → Except Fault (α × List UInt8)
  | .ok (a, rest) => do return (a, ← close rest)
  | .error fault =>
    .error (if fault.placed then fault else .here fault.cause (settle fault.rest))

def listItems {α : Type} (item : Reader α) (first : Bool) : Nat → Reader (List α)
  | 0, input => .error (.here .endOfList input)
  | fuel + 1, input => do
    let (more, input) ← itemTurn first input
    if more then
      let (a, input) ← item input
      let (as, input) ← listItems item false fuel input
      return (a :: as, input)
    else return ([], input)

def listOf {α : Type} (item : Reader α) : Reader (List α) := fun input =>
  match skipSpace input with
  | [] => .error (.here .endOfValue [])
  | b :: rest =>
    if b = 0x5B then closed listEnd settleList (listItems item true (rest.length + 1) rest)
    else .error (mismatch "a sequence" (b :: rest))

/-- A field of a record whose draft is a `δ`. A field that may be absent needs no place in a list. -/
structure Field (δ : Type) where
  name : String
  filled : δ → Bool
  fill : δ → Reader δ
  mayLack : Bool

def Field.of {δ α : Type} (name : String) (get : δ → Option α) (set : δ → α → δ) (read : Reader α)
    (mayLack : Bool) : Field δ where
  name := name
  filled d := (get d).isSome
  fill d input := do
    let (a, rest) ← read input
    return (set d a, rest)
  mayLack := mayLack

structure Shape (δ α : Type) where
  title : String
  fields : List (Field δ)
  draft : δ
  build : δ → Except Cause α

def need {α : Type} (name : String) : Option α → Except Cause α
  | some a => .ok a
  | none => .error (.missingField name)

namespace Shape

variable {δ α : Type}

def wantedLength (s : Shape δ α) : String :=
  let plural := if s.fields.length = 1 then "" else "s"
  s!"{s.title} with {s.fields.length} element{plural}"

def finish (s : Shape δ α) (d : δ) : Reader α := fun input =>
  match s.build d with
  | .ok a => .ok (a, input)
  | .error cause => .error (.loose cause input)

def ofMembers (s : Shape δ α) (first : Bool) : Nat → δ → Reader α
  | 0, _, input => .error (.here .endOfObject input)
  | fuel + 1, d, input => do
    let (more, input) ← memberTurn first input
    if more then
      let (name, input) ← memberName input
      match s.fields.find? (·.name = name) with
      | some field =>
        if field.filled d then .error (.loose (.duplicateField name) input)
        else
          let (d, input) ← field.fill d (← colon input)
          ofMembers s false fuel d input
      | none => ofMembers s false fuel d (← skip (← colon input))
    else s.finish d input

/-- The fields of a list after its bracket, `index` of them read. -/
def ofItems (s : Shape δ α) (index : Nat) : List (Field δ) → δ → Reader α
  | [], d, input => s.finish d input
  | field :: fields, d, input => do
    let (more, input) ← itemTurn (index = 0) input
    if more then
      let (d, input) ← field.fill d input
      ofItems s (index + 1) fields d input
    else if field.mayLack then ofItems s index fields d input
    else .error (.loose (.wrongLength index s.wantedLength) input)

def read (s : Shape δ α) : Reader α := fun input =>
  match skipSpace input with
  | [] => .error (.here .endOfValue [])
  | b :: rest =>
    if b = 0x7B then
      closed objectEnd settleObject (s.ofMembers true (rest.length + 1) s.draft rest)
    else if b = 0x5B then closed listEnd settleList (s.ofItems 0 s.fields s.draft rest)
    else .error (mismatch s.title (b :: rest))

end Shape

end Herald.Json
