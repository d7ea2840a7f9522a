import Herald.Config.Value
import Herald.Text.Pieces

/-!
Configuration from several layers. A later layer is laid over an earlier one: tables are merged
entry by entry, anything else takes the place of what was there. Names do not depend on case. At the
top of a layer a name may be a path: `store.mode` is the entry `mode` of the table `store`, and
`peers[0]` the first item of the list `peers`.
-/
namespace Herald.Config

namespace Value

/-- With an entry set; what was no table becomes one. -/
def withEntry (v : Value) (name : String) (entry : Value) : Value :=
  .table (assign name entry v.entries)

theorem child?_withEntry (v entry : Value) (name other : String) :
    (v.withEntry name entry).child? other = if other = name then some entry else v.child? other :=
  lookup_assign name other entry v.entries

mutual

def lay (name : String) : Value → Value → Value
  | .table more, root =>
    root.withEntry name (merge more ((root.child? name).getD (.table [])))
  | v, root => root.withEntry name v

/-- Without entries to lay over it, even what is no table stays as it is. -/
def merge : List (String × Value) → Value → Value
  | [], root => root
  | (name, v) :: rest, root => merge rest (lay (Text.lower name) v root)

end

def withItem (v : Value) (place : Nat) (item : Value) : Value :=
  .list (max v.size (place + 1)) (assign place item v.items)

end Value

/-- A step on the way to a value: to an entry of a table, or to an item of a list, which a negative
place counts from the end. -/
inductive PathStep where
  | entry (name : String)
  | item (place : Int)
deriving DecidableEq, Repr

/-- A place that no list has: one before the first item, or one too far away from the items. -/
inductive Fault where
  | beforeFirst
  | outOfReach
deriving DecidableEq, Repr

def unreachedSize : Nat := 0x100000000000000

def placeIn (size : Nat) (place : Int) : Except Fault Nat :=
  if 0 ≤ place then if place < unreachedSize then .ok place.toNat else .error .outOfReach
  else if place.natAbs ≤ size then .ok (size - place.natAbs)
  else if place.natAbs = size + 1 then .error .beforeFirst
  else .error .outOfReach

/-- Lays a value over the one at the end of a path. What is no table or no list on the way becomes
one; an item is replaced and never merged. -/
def Value.layAt : List PathStep → Value → Value → Except Fault Value
  | [], v, _ => .ok v
  | [.entry name], v, root => .ok (lay name v root)
  | .entry name :: rest, v, root => do
    return root.withEntry name (← layAt rest v ((root.child? name).getD .null))
  | .item place :: rest, v, root => do
    let place ← placeIn root.size place
    return root.withItem place (← layAt rest v ((root.item? place).getD .null))

def isNameChar (c : Char) : Bool :=
  c.isAlphanum || c = '_' || c = '-' || c = ' '

def place? (cs : List Char) : Option Int :=
  let isGap (c : Char) : Bool := c = ' ' || c = '\t'
  let number (digits : List Char) : Option Nat :=
    if !digits.isEmpty && digits.all Char.isDigit then
      some (digits.foldl (fun n c => 10 * n + (c.toNat - 0x30)) 0)
    else none
  match (((cs.dropWhile isGap).reverse.dropWhile isGap).reverse) with
  | '-' :: digits => ((number digits).filter (· ≤ 0x8000000000000000)).map fun n => -(n : Int)
  | digits => ((number digits).filter (· < 0x8000000000000000)).map fun n => (n : Int)

def subscript? : List Char → Option PathStep
  | '[' :: cs => (place? cs).map .item
  | _ => none

/-- One part of a path: a name, and places in the lists behind it. -/
def part? (cs : List Char) : Option (List PathStep) :=
  let (name, rest) := cs.span isNameChar
  if name.isEmpty then none
  else
    match (Text.pieces (· = ']') rest).reverse with
    | [] :: subscripts =>
      (subscripts.reverse.mapM subscript?).map
        (.entry (Text.lower (String.ofList name)) :: ·)
    | _ => none

/-- Where a top entry goes. A key that is no path is one name. -/
def pathOf (key : String) : List PathStep :=
  match (Text.pieces (· = '.') key.toList).mapM part? with
  | some parts => parts.flatten
  | none => [.entry (Text.lower key)]

def layOver (root : Value) (layer : List (String × Value)) : Except Fault Value :=
  layer.foldlM (fun root e => Value.layAt (pathOf e.1) e.2 root) root

/-- The layers from the lowest to the highest. -/
def ofLayers (layers : List (List (String × Value))) : Except Fault Value :=
  layers.foldlM layOver (.table [])

end Herald.Config
