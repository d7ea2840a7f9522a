import Herald.Text.Pieces

/-!
Tables of characters. A short one is a list of ranges. A long one is written as text: its words are
its rows, and a row has hexadecimal code points with points between them. The first one, or the
range `first-last`, is what the row is about; the others are what it says.
-/
namespace Herald.Text

def inRanges (ranges : List (Nat × Nat)) (c : Char) : Bool :=
  ranges.any fun r => r.1 ≤ c.toNat && c.toNat ≤ r.2

/-- The code points from `first` to `last`, and what the table says of them. -/
structure Row where
  first : Nat
  last : Nat
  values : List Nat
deriving Repr

def Row.holds (r : Row) (c : Char) : Bool :=
  r.first ≤ c.toNat && c.toNat ≤ r.last

namespace Table

def digit (c : Char) : Nat :=
  if c.isDigit then c.toNat - 0x30 else c.toNat - 0x37

def number (digits : List Char) : Nat :=
  digits.foldl (fun n c => 16 * n + digit c) 0

def row (word : List Char) : Row :=
  let fields := pieces (· = '.') word
  let ends := (pieces (· = '-') (fields.headD [])).map number
  ⟨ends.headD 0, ends.getLastD 0, fields.tail.map number⟩

def read (lines : List String) : List Row :=
  lines.flatMap fun line => (pieces (· = ' ') line.toList).map row

/-- What the table says of `c`; none of its rows begins below `0x80`. -/
def find? (table : List Row) (c : Char) : Option Row :=
  if c.toNat < 0x80 then none else table.find? (·.holds c)

def mentions (table : List Row) (c : Char) : Bool :=
  (find? table c).isSome

end Table

end Herald.Text
