import Herald.Number.Literal
import Herald.Toml.Blank

/-!
Dates and times in a TOML document: a date, a time, or both, and with both the distance from
universal time. Written again, they show a `T` between date and time, and no zeros at the end of a
fraction of a second, of which nine digits count.
-/
namespace Herald.Toml

structure Date where
  year : Nat
  month : Nat
  day : Nat
deriving DecidableEq, Repr

structure Time where
  hour : Nat
  minute : Nat
  second : Nat
  nanosecond : Nat
deriving DecidableEq, Repr

inductive Zone where
  | universal
  /-- Minutes ahead of universal time. -/
  | ahead (minutes : Int)
deriving DecidableEq, Repr

structure Moment where
  date : Option Date
  time : Option Time
  zone : Option Zone
deriving DecidableEq, Repr

def padded (width n : Nat) : List Char :=
  let ds := Nat.toDigits 10 n
  List.replicate (width - ds.length) '0' ++ ds

def Date.text (d : Date) : List Char :=
  padded 4 d.year ++ '-' :: padded 2 d.month ++ '-' :: padded 2 d.day

def Time.text (t : Time) : List Char :=
  let fraction := ((padded 9 t.nanosecond).reverse.dropWhile (· = '0')).reverse
  padded 2 t.hour ++ ':' :: padded 2 t.minute ++ ':' :: padded 2 t.second ++
    if fraction.isEmpty then [] else '.' :: fraction

def Zone.text : Zone → List Char
  | .universal => ['Z']
  | .ahead minutes =>
    (if minutes < 0 then '-' else '+') :: padded 2 (minutes.natAbs / 60) ++
      ':' :: padded 2 (minutes.natAbs % 60)

def Moment.text (m : Moment) : String :=
  let date := (m.date.map Date.text).getD []
  let time := (m.time.map Time.text).getD []
  let mark := if m.date.isSome && m.time.isSome then ['T'] else []
  String.ofList (date ++ mark ++ time ++ (m.zone.map Zone.text).getD [])

def counted (count low high : Nat) : Reader Nat := fun cs =>
  let ds := cs.take count
  let n := Number.natOf ds
  if ds.length = count && ds.all Char.isDigit && low ≤ n && n ≤ high then some (n, cs.drop count)
  else none

def symbol? (c : Char) : List Char → Option (List Char)
  | d :: rest => if c = d then some rest else none
  | [] => none

def isLeap (year : Nat) : Bool :=
  year % 4 = 0 && (year % 100 ≠ 0 || year % 400 = 0)

def daysIn (year month : Nat) : Nat :=
  if month = 2 then if isLeap year then 29 else 28
  else if month = 4 || month = 6 || month = 9 || month = 11 then 30
  else 31

def Date.read : Reader Date := fun cs => do
  let (year, cs) ← counted 4 0 9999 cs
  let cs ← symbol? '-' cs
  let (month, cs) ← counted 2 1 12 cs
  let cs ← symbol? '-' cs
  let (day, cs) ← counted 2 1 (daysIn year month) cs
  return (⟨year, month, day⟩, cs)

/-- Digits after the ninth are cut off. -/
def nanoseconds (ds : List Char) : Nat :=
  let ds := ds.take 9
  Number.natOf ds * Nat.pow 10 (9 - ds.length)

def Time.read : Reader Time := fun cs => do
  let (hour, cs) ← counted 2 0 23 cs
  let cs ← symbol? ':' cs
  let (minute, cs) ← counted 2 0 59 cs
  let cs ← symbol? ':' cs
  let (second, cs) ← counted 2 0 60 cs
  match cs with
  | '.' :: rest =>
    match rest.span Char.isDigit with
    | ([], _) => none
    | (ds, rest) => return (⟨hour, minute, second, nanoseconds ds⟩, rest)
  | cs => return (⟨hour, minute, second, 0⟩, cs)

def distance (negative : Bool) (cs : List Char) : Option (Zone × List Char) := do
  let (hours, cs) ← counted 2 0 23 cs
  let cs ← symbol? ':' cs
  let (minutes, cs) ← counted 2 0 59 cs
  let total : Int := 60 * hours + minutes
  return (.ahead (if negative then -total else total), cs)

def Zone.read : List Char → Option (Option Zone × List Char)
  | 'Z' :: rest => some (some .universal, rest)
  | 'z' :: rest => some (some .universal, rest)
  | '+' :: rest => (distance false rest).map fun (zone, rest) => (some zone, rest)
  | '-' :: rest => (distance true rest).map fun (zone, rest) => (some zone, rest)
  | rest => some (none, rest)

/-- A time and its zone after a date, and the mark or blank between. -/
def timeOfDay? : List Char → Option ((Time × Option Zone) × List Char)
  | c :: rest =>
    if c = 'T' || c = 't' || c = ' ' then do
      let (time, rest) ← Time.read rest
      let (zone, rest) ← Zone.read rest
      return ((time, zone), rest)
    else none
  | [] => none

def Moment.read : Reader Moment := fun cs =>
  match Date.read cs with
  | some (date, rest) =>
    match timeOfDay? rest with
    | some ((time, zone), rest) => some (⟨some date, some time, zone⟩, rest)
    | none => some (⟨some date, none, none⟩, rest)
  | none => (Time.read cs).map fun (time, rest) => (⟨none, some time, none⟩, rest)

end Herald.Toml
