import Herald.Toml.Moment
import Herald.Toml.Number
import Herald.Toml.Quoted
import Herald.Toml.Tree

/-!
TOML documents. Lists and inline tables nest up to `maxDepth`; a date or a time is read as its text.
-/
namespace Herald.Toml

open Config (Value)

/-- The items of a list, after its bracket; a comma may stand behind the last. -/
def items (item : Reader Value) (cs : List Char) : Option (List Value × List Char) :=
  match skipGaps false cs with
  | ']' :: rest => some ([], rest)
  | start =>
    match item start with
    | none => none
    | some (v, rest) =>
      match skipGaps false rest with
      | ',' :: more =>
        if more.length < cs.length then (items item more).map fun (vs, rest) => (v :: vs, rest)
        else none
      | ']' :: rest => some ([v], rest)
      | _ => none
termination_by cs.length

def pair (item : Reader Value) : Reader (List String × Value) := fun cs => do
  let (key, rest) ← key cs
  let rest ← symbol? '=' rest
  let (v, rest) ← item (skipSpace rest)
  return ((key, v), skipSpace rest)

def pairs (item : Reader Value) (cs : List Char) : Option (List (List String × Value) × List Char) :=
  match pair item cs with
  | none => none
  | some (entry, rest) =>
    match rest with
    | ',' :: more =>
      if more.length < cs.length then
        (pairs item more).map fun (entries, rest) => (entry :: entries, rest)
      else none
    | '}' :: rest => some ([entry], rest)
    | _ => none
termination_by cs.length

def inline (item : Reader Value) : Reader Value := fun cs =>
  match skipSpace cs with
  | '}' :: rest => some (.table [], rest)
  | start => do
    let (entries, rest) ← pairs item start
    return (.table (toValues (← ofEntries entries)), rest)

def truth : Reader Value := fun cs =>
  match word? "true" cs with
  | some rest => some (.bool true, rest)
  | none => (word? "false" cs).map fun rest => (.bool false, rest)

def numberOrMoment : Reader Value := fun cs =>
  match Moment.read cs with
  | some (m, rest) => some (.text m.text, rest)
  | none => (numeral cs).map fun (n, rest) =>
    match n with
    | .int n => (.int n, rest)
    | .float x => (.float x, rest)

/-- One value, whose parts are read by `part?`; without it nothing may nest any deeper. -/
def node (part? : Option (Reader Value)) : Reader Value := fun cs =>
  match cs with
  | [] => none
  | '[' :: rest => part?.bind fun part => (items part rest).map fun (vs, rest) => (.ofList vs, rest)
  | '\x7b' :: rest => part?.bind fun part => inline part rest
  | '"' :: _ => (string cs).map fun (s, rest) => (.text s, rest)
  | '\'' :: _ => (string cs).map fun (s, rest) => (.text s, rest)
  | 't' :: _ => truth cs
  | 'f' :: _ => truth cs
  | _ => numberOrMoment cs

def value : Nat → Reader Value
  | 0 => node none
  | depth + 1 => node (some (value depth))

def header (closing : List Char) : Reader (List String) := fun cs => do
  let (path, rest) ← key cs
  if closing.isPrefixOf rest then return (path, ← lineEnd? (rest.drop closing.length)) else none

def statement : Reader Line := fun cs =>
  match cs with
  | '[' :: '[' :: rest => (header [']', ']'] rest).map fun (path, rest) => (.next path, rest)
  | '[' :: rest => (header [']'] rest).map fun (path, rest) => (.table path, rest)
  | cs => do
    let ((key, v), rest) ← pair (value maxDepth) cs
    return (.entry key v, ← lineEnd? rest)

def line : Reader Line := fun cs =>
  let start := skipSpace cs
  match lineEnd? start with
  | some rest => some (.blank, rest)
  | none => statement start

def lines (cs : List Char) : Option (List Line) :=
  if cs.isEmpty then some []
  else
    match line cs with
    | none => none
    | some (first, rest) =>
      if rest.length < cs.length then (lines rest).map (first :: ·) else none
termination_by cs.length

def dropMark : List Char → List Char
  | '\uFEFF' :: rest => rest
  | cs => cs

def read? (text : String) : Option (List (String × Value)) := do
  return toValues (← ofLines (← lines (dropMark text.toList)))

end Herald.Toml
