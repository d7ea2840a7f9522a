import Herald.Json.Value
import Herald.Number.Decimal
import Herald.Text.Lowercase

/-!
Configuration values. Every scalar can be read as text, most of them as a yes or a no; a list, a
table and the empty value can be read as neither. A table keeps one entry for a name, a list one item
for a place, and the law `lookup_assign` says what setting one of them does.
-/
namespace Herald.Config

inductive Value where
  | null
  | bool (b : Bool)
  | int (n : Int)
  | float (x : Float)
  | text (s : String)
  /-- The places without an item are empty. -/
  | list (size : Nat) (items : List (Nat × Value))
  | table (entries : List (String × Value))
deriving Inhabited

namespace Value

def text? : Value → Option String
  | .bool b => some (if b then "true" else "false")
  | .int n => some (toString n)
  | .float x => some (Number.plain x)
  | .text s => some s
  | .null | .list .. | .table _ => none

def truthOfWord? (word : String) : Option Bool :=
  let word := Text.lower word
  if ["1", "true", "on", "yes"].contains word then some true
  else if ["0", "false", "off", "no"].contains word then some false
  else none

def truth? : Value → Option Bool
  | .bool b => some b
  | .int n => some (n ≠ 0)
  | .float x => some (x != 0.0)
  | .text s => truthOfWord? s
  | .null | .list .. | .table _ => none

def ofList (items : List Value) : Value :=
  .list items.length (items.zipIdx.map fun (item, place) => (place, item))

/-- Integers that do not fit into 64 bits with a sign are floats. -/
def ofNumber : Json.Number → Value
  | .int n => if n < 0x8000000000000000 then .int n else .float (Float.ofInt n)
  | .float x => .float x

mutual

def ofJson : Json.Value → Value
  | .null => .null
  | .bool b => .bool b
  | .number n => ofNumber n
  | .string s => .text s
  | .array items => ofList (ofItems items)
  | .object members => .table (ofMembers members)

def ofItems : List Json.Value → List Value
  | [] => []
  | v :: rest => ofJson v :: ofItems rest

def ofMembers : List (String × Json.Value) → List (String × Value)
  | [] => []
  | (name, v) :: rest => (name, ofJson v) :: ofMembers rest

end

def entries : Value → List (String × Value)
  | .table es => es
  | _ => []

def child? (name : String) (v : Value) : Option Value :=
  v.entries.lookup name

def size : Value → Nat
  | .list size _ => size
  | _ => 0

def items : Value → List (Nat × Value)
  | .list _ items => items
  | _ => []

def item? (place : Nat) (v : Value) : Option Value :=
  v.items.lookup place

end Value

/-- The entries of a JSON object; of one name the last counts. -/
def ofJson? (v : Json.Value) : Option (List (String × Value)) :=
  match v.canonical with
  | .object members => some (Value.ofMembers members)
  | _ => none

variable {κ : Type} [DecidableEq κ]

/-- Puts the value in the place of the entry of that name, at the end when there is none. -/
def assign (key : κ) (value : Value) : List (κ × Value) → List (κ × Value)
  | [] => [(key, value)]
  | (k, v) :: rest => if key = k then (key, value) :: rest else (k, v) :: assign key value rest

theorem lookup_assign (key other : κ) (value : Value) (es : List (κ × Value)) :
    (assign key value es).lookup other = if other = key then some value else es.lookup other := by
  have lookup_cons (k : κ) (v : Value) (rest : List (κ × Value)) :
      ((k, v) :: rest).lookup other = if other = k then some v else rest.lookup other := by
    by_cases h : other = k
    · simp [h]
    · simp [List.lookup_cons, beq_eq_false_iff_ne.2 h, h]
  induction es with
  | nil => exact lookup_cons key value []
  | cons e rest ih =>
    obtain ⟨k, v⟩ := e
    by_cases hk : key = k
    · subst hk
      simp only [assign, if_true, lookup_cons]
      split <;> rfl
    · simp only [assign, hk, if_false, lookup_cons, ih]
      by_cases h : other = k
      · subst h
        simp [Ne.symm hk]
      · simp [h]

end Herald.Config
