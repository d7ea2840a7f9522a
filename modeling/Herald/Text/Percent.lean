import Herald.Text.Hex

/-!
Percent escapes. A byte that may not stand for itself is written as `%` and two upper-case digits;
`decode` puts the byte back. A `%` that lacks its digits stands for itself.
-/
namespace Herald.Text.Percent

def digit (n : Nat) : UInt8 :=
  if n < 10 then UInt8.ofNat (0x30 + n) else UInt8.ofNat (0x37 + n)

def escape (b : UInt8) : List UInt8 :=
  [0x25, digit (b.toNat / 16), digit (b.toNat % 16)]

def encode (special : UInt8 → Bool) (bytes : List UInt8) : List UInt8 :=
  bytes.flatMap fun b => if special b then escape b else [b]

def byte? (high low : UInt8) : Option UInt8 :=
  match Hex.digitValue? high, Hex.digitValue? low with
  | some h, some l => some (UInt8.ofNat (16 * h + l))
  | _, _ => none

def escaped? : List UInt8 → Option UInt8
  | mark :: high :: low :: _ => if mark = 0x25 then byte? high low else none
  | _ => none

/-- `skip` bytes of an escape are still to pass. -/
def decodeFrom (skip : Nat) : List UInt8 → List UInt8
  | [] => []
  | b :: rest =>
    match skip with
    | skip + 1 => decodeFrom skip rest
    | 0 =>
      match escaped? (b :: rest) with
      | some d => d :: decodeFrom 2 rest
      | none => b :: decodeFrom 0 rest

def decode (bytes : List UInt8) : List UInt8 :=
  decodeFrom 0 bytes

theorem decode_eq_self {bytes : List UInt8} (h : ∀ b ∈ bytes, b ≠ 0x25) : decode bytes = bytes := by
  induction bytes with
  | nil => rfl
  | cons b rest ih =>
    have head : escaped? (b :: rest) = none := by
      unfold escaped?
      split
      · next eq => simp_all
      · rfl
    simp only [decode, decodeFrom, head, List.cons.injEq, true_and]
    exact ih fun c hc => h c (by simp [hc])

end Herald.Text.Percent
