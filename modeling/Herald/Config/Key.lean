import Herald.Config.Layers
import Herald.Text.Blank

/-!
Where a setting stands. Each setting has a place in a table, `[ingest] port`, and a flat name at the
top, `ingest_port`; the flat one is asked first, and a blank or unusable value counts as none.
-/
namespace Herald.Config

structure Key where
  table : String
  name : String
deriving DecidableEq, Repr

namespace Key

def flat (k : Key) : String :=
  k.table ++ "_" ++ k.name

def path (k : Key) : String :=
  k.table ++ "." ++ k.name

def flat? (k : Key) (root : Value) : Option Value :=
  root.child? k.flat

def nested? (k : Key) (root : Value) : Option Value :=
  (root.child? k.table).bind (·.child? k.name)

/-- What the flat value is good for, or else the nested one. -/
def find? {α : Type} (k : Key) (root : Value) (use : Value → Option α) : Option α :=
  ((k.flat? root).bind use).or ((k.nested? root).bind use)

def trimmedText? (v : Value) : Option String :=
  (v.text?.map Text.trim).filter (· ≠ "")

def text? (k : Key) (root : Value) : Option String :=
  k.find? root trimmedText?

/-- A value that is no word for yes or no may still be `true` or `false` between blanks. -/
def looseTruth? (v : Value) : Option Bool :=
  v.truth?.or
    (match v.text?.map Text.trim with
    | some "true" => some true
    | some "false" => some false
    | _ => none)

def truth? (k : Key) (root : Value) : Option Bool :=
  k.find? root looseTruth?

end Key

end Herald.Config
