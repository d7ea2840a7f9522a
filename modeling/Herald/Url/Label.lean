import Herald.Text.Direction
import Herald.Text.Joining
import Herald.Url.Folding
import Herald.Url.Punycode

/-!
Labels of a domain name, the parts between its points. A label that needs more than ASCII is written
in Punycode behind `xn--`, and stands for the characters that are written so.
-/
namespace Herald.Url

/-- A label as it is written, and the characters that it stands for. -/
structure Label where
  written : List Char
  meaning : List Char
deriving DecidableEq, Repr

namespace Label

def isForbidden (c : Char) : Bool :=
  c.toNat ≤ 0x20 || c.toNat = 0x7F || "%#/:<>?@[\\]^|".toList.contains c

def isJoiner (c : Char) : Bool :=
  c = '\u200C' || c = '\u200D'

/-- The nearest character that is no mark within a word joins in this direction. -/
def meetsJoin (joins : Char → Bool) (cs : List Char) : Bool :=
  match cs.dropWhile Text.isPassedByJoins with
  | c :: _ => joins c
  | [] => false

/-- A joiner has its place behind a virama. One that keeps letters apart has its place also between
letters that would join. `before` holds the characters before it, the nearest first. -/
def hasPlace (before : List Char) (joiner : Char) (rest : List Char) : Bool :=
  match before with
  | [] => false
  | c :: _ =>
    Text.isVirama c ||
      (joiner = '\u200C' && meetsJoin Text.joinsNext before && meetsJoin Text.joinsPrevious rest)

def joinersHavePlaces (before : List Char) : List Char → Bool
  | [] => true
  | c :: rest => (!isJoiner c || hasPlace before c rest) && joinersHavePlaces (c :: before) rest

def isFromRight (label : Label) : Bool :=
  label.meaning.any fun c =>
    Text.direction c = .right || Text.direction c = .arabicNumber

/-- The directions of a label, without marks at its end, form one run: it begins with a letter, ends
with a letter of the same direction or a number, and holds no letter of the other direction. From
the right it has digits of one kind only. -/
def isOneRun (label : Label) : Bool :=
  match label.meaning.map Text.direction with
  | [] => true
  | first :: rest =>
    let inner := rest.reverse.dropWhile (· = .mark)
    let last := inner.headD first
    match first with
    | .left =>
      (last = .left || last = .number) && !inner.contains .right && !inner.contains .arabicNumber
    | .right =>
      (last = .right || last = .number || last = .arabicNumber) && !inner.contains .left &&
        !(inner.contains .number && inner.contains .arabicNumber)
    | _ => false

def isAscii (cs : List Char) : Bool :=
  cs.all fun c => c.toNat < 0x80

def beginsWithMark : List Char → Bool
  | [] => false
  | c :: _ => Text.isMark c

def isSound (cs : List Char) : Bool :=
  !cs.any isForbidden && !beginsWithMark cs && joinersHavePlaces [] cs &&
    (isAscii cs || cs.length ≤ 1000)

def ofDigits? (digits : List Char) : Option Label := do
  guard (digits.length ≤ 2000)
  let meaning ← Punycode.decode? digits
  guard (!isAscii meaning && Folding.normal? meaning = some meaning && isSound meaning)
  return ⟨"xn--".toList ++ digits, meaning⟩

def ofChars? (cs : List Char) : Option Label :=
  match cs with
  | 'x' :: 'n' :: '-' :: '-' :: digits => ofDigits? digits
  | cs =>
    if !isSound cs then none
    else if isAscii cs then some ⟨cs, cs⟩
    else some ⟨"xn--".toList ++ Punycode.encode cs, cs⟩

end Label

end Herald.Url
