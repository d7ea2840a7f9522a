/-!
Punycode: code points outside ASCII written as increments in a number system of mixed base whose
digits are letters and decimal digits.
-/
namespace Herald.Url.Punycode

def digit (n : Nat) : Char :=
  if n < 26 then Char.ofNat (0x61 + n) else Char.ofNat (0x30 + n - 26)

def digitValue? (c : Char) : Option Nat :=
  if 'a' ≤ c ∧ c ≤ 'z' then some (c.toNat - 0x61)
  else if 'A' ≤ c ∧ c ≤ 'Z' then some (c.toNat - 0x41)
  else if '0' ≤ c ∧ c ≤ '9' then some (c.toNat - 0x30 + 26)
  else none

/-- The weight of a digit, `k` being 36 for the first one. -/
def threshold (bias k : Nat) : Nat :=
  if k ≤ bias then 1 else if bias + 26 ≤ k then 26 else k - bias

theorem threshold_bounds (bias k : Nat) : 1 ≤ threshold bias k ∧ threshold bias k ≤ 26 := by
  unfold threshold
  split
  · omega
  · split <;> omega

def settle (delta k : Nat) : Nat :=
  if 455 < delta then settle (delta / 35) (k + 36) else k + 36 * delta / (delta + 38)
termination_by delta
decreasing_by exact Nat.div_lt_self (by omega) (by omega)

/-- The bias after an increment, `count` code points being written. -/
def adapt (delta count : Nat) (first : Bool) : Nat :=
  let delta := if first then delta / 700 else delta / 2
  settle (delta + delta / count) 0

def increment (bias k n : Nat) : List Char :=
  let t := threshold bias k
  if n < t then [digit n]
  else digit (t + (n - t) % (36 - t)) :: increment bias (k + 36) ((n - t) / (36 - t))
termination_by n
decreasing_by
  have bounds := threshold_bounds bias k
  exact Nat.lt_of_le_of_lt (Nat.div_le_self _ _) (by omega)

structure Writing where
  out : List Char
  delta : Nat
  bias : Nat
  count : Nat

def Writing.pass (basic code : Nat) (w : Writing) (c : Char) : Writing :=
  if c.toNat < code then { w with delta := w.delta + 1 }
  else if c.toNat = code then
    { out := w.out ++ increment w.bias 36 w.delta
      delta := 0
      bias := adapt w.delta (w.count + 1) (w.count = basic)
      count := w.count + 1 }
  else w

/-- Writes the code points of `codes`, in ascending order, from `code` on. -/
def writeCodes (cs : List Char) (basic : Nat) : List Nat → Nat → Writing → Writing
  | [], _, w => w
  | next :: codes, code, w =>
    let w := { w with delta := w.delta + (next - code) * (w.count + 1) }
    let w := cs.foldl (Writing.pass basic next) w
    writeCodes cs basic codes (next + 1) { w with delta := w.delta + 1 }

def insertCode (n : Nat) : List Nat → List Nat
  | [] => [n]
  | m :: rest => if n < m then n :: m :: rest else if n = m then m :: rest else m :: insertCode n rest

def encode (cs : List Char) : List Char :=
  let plain := cs.filter fun c => c.toNat < 0x80
  let codes := (cs.filter fun c => 0x80 ≤ c.toNat).foldr (fun c codes => insertCode c.toNat codes) []
  let w := writeCodes cs plain.length codes 0x80 ⟨[], 0, 72, plain.length⟩
  (if plain.isEmpty then [] else plain ++ ['-']) ++ w.out

/-- The increment at the front, added to `n`. Both it and the weight of every digit before the next
one are below `2 ^ 32`. -/
def readIncrement? (bias : Nat) : List Char → (k weight n : Nat) → Option (Nat × List Char)
  | [], _, _, _ => none
  | c :: rest, k, weight, n =>
    match digitValue? c with
    | none => none
    | some d =>
      let t := threshold bias k
      let n := n + d * weight
      if UInt32.size ≤ n then none
      else if d < t then some (n, rest)
      else if UInt32.size ≤ weight * (36 - t) then none
      else readIncrement? bias rest (k + 36) (weight * (36 - t)) n

/-- Inserts one character for each increment; every increment takes at least one unit of `fuel`. -/
def readCodes? : (fuel : Nat) → (digits : List Char) → (code index bias : Nat) → (out : List Char) →
    Option (List Char)
  | _, [], _, _, _, out => some out
  | 0, _ :: _, _, _, _, _ => none
  | fuel + 1, digits, code, index, bias, out => do
    let (next, rest) ← readIncrement? bias digits 36 1 index
    let count := out.length + 1
    let code := code + next / count
    let place := next % count
    if code < 0xD800 ∨ (0xE000 ≤ code ∧ code < 0x110000) then
      readCodes? fuel rest code (place + 1) (adapt (next - index) count (index = 0))
        (out.take place ++ Char.ofNat code :: out.drop place)
    else none

/-- What stands before the last hyphen is plain, the rest are increments. Without plain characters
there is no hyphen. -/
def decode? (cs : List Char) : Option (List Char) :=
  let digits := (cs.reverse.takeWhile (· ≠ '-')).reverse
  let plain := cs.take (cs.length - digits.length - 1)
  if plain.isEmpty && digits.length < cs.length then none
  else if plain.all fun c => c.toNat < 0x80 then readCodes? cs.length digits 0x80 0 72 plain
  else none

end Herald.Url.Punycode
