/-!
Repair of what producers send for JSON. Single quotes become double ones wherever they stand; after
that, the words for numbers that are not finite become `null`, but only outside strings.
-/
namespace Herald.Repair

def quote (b : UInt8) : UInt8 :=
  if b = 0x27 then 0x22 else b

def quotes (text : List UInt8) : List UInt8 :=
  text.map quote

def nonFinite : List (List UInt8) :=
  [[0x2D, 0x49, 0x6E, 0x66, 0x69, 0x6E, 0x69, 0x74, 0x79],
   [0x49, 0x6E, 0x66, 0x69, 0x6E, 0x69, 0x74, 0x79],
   [0x4E, 0x61, 0x4E]]

def null : List UInt8 :=
  [0x6E, 0x75, 0x6C, 0x6C]

/-- Where a byte stands: between strings, in one, or in one right after a backslash. -/
inductive Place where
  | outside
  | inside
  | escaped
deriving DecidableEq, Repr

def Place.next (p : Place) (b : UInt8) : Place :=
  match p with
  | .outside => if b = 0x22 then .inside else .outside
  | .inside => if b = 0x5C then .escaped else if b = 0x22 then .outside else .inside
  | .escaped => .inside

def word? (text : List UInt8) : Option (List UInt8) :=
  nonFinite.find? (·.isPrefixOf text)

/-- Writes `null` for each word outside strings; `skip` bytes of a word are still to pass. -/
def words (p : Place) (skip : Nat) : List UInt8 → List UInt8
  | [] => []
  | b :: rest =>
    match skip with
    | skip + 1 => words p skip rest
    | 0 =>
      match p, word? (b :: rest) with
      | .outside, some w => null ++ words .outside (w.length - 1) rest
      | p, _ => b :: words (p.next b) 0 rest

def text (bytes : List UInt8) : List UInt8 :=
  words .outside 0 (quotes bytes)

end Herald.Repair
