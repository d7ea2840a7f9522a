import Herald.Text.Decomposition

/-!
Composed text. Texts that are the same but for the order of marks that do not touch, and for
characters written as their parts, have one composed form.
-/
namespace Herald.Text

/-- Puts `c` in front, behind the marks of a lower class. -/
def insertMark (c : Char) : List Char → List Char
  | [] => [c]
  | d :: rest =>
    if 0 < combiningClass d ∧ combiningClass d < combiningClass c then d :: insertMark c rest
    else c :: d :: rest

def sortMarks (cs : List Char) : List Char :=
  cs.foldr insertMark []

def join? (c d : Char) : Option Char :=
  if c.toNat < 0x80 ∧ d.toNat < 0x80 then none
  else
    match Hangul.join? c d with
    | some syllable => some syllable
    | none => (composedRows.find? (·.values = [c.toNat, d.toNat])).map fun r => Char.ofNat r.first

/-- Joins what follows to `base`; the marks that stay are in `kept`, the last one first. A mark is
kept from the base by another one of its class. -/
def joinTo (base : Char) (kept : List Char) : List Char → List Char
  | [] => base :: kept.reverse
  | c :: rest =>
    let isNext := match kept with
      | [] => true
      | d :: _ => combiningClass d < combiningClass c
    match if isNext then join? base c else none with
    | some joined => joinTo joined kept rest
    | none =>
      if combiningClass c = 0 then base :: kept.reverse ++ joinTo c [] rest
      else joinTo base (c :: kept) rest

def joinParts : List Char → List Char
  | [] => []
  | c :: rest => joinTo c [] rest

def compose (cs : List Char) : List Char :=
  joinParts (sortMarks (cs.flatMap decompose))

end Herald.Text
