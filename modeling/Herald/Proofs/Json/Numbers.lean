import Herald.Proofs.Json.Reread
import Mathlib.Algebra.Group.Int.Defs

/-!
The numbers in a value. Integers of 64 bits are read back from their digits, and the reader makes no
others; so a value that was read comes back from its print exactly when its floats do, and its print
comes back exactly when those of its floats do.
-/
namespace Herald.Json

namespace Value

mutual

def numbers : Value → List Number
  | .number n => [n]
  | .array vs => numbersItems vs
  | .object ms => numbersMembers ms
  | _ => []

def numbersItems : List Value → List Number
  | [] => []
  | v :: rest => v.numbers ++ numbersItems rest

def numbersMembers : List (String × Value) → List Number
  | [] => []
  | (_, v) :: rest => v.numbers ++ numbersMembers rest

end

theorem mem_numbersMembers {n : Number} {ms : List (String × Value)} :
    n ∈ numbersMembers ms ↔ ∃ m ∈ ms, n ∈ m.2.numbers := by
  induction ms with
  | nil => simp [numbersMembers]
  | cons m rest ih => simp only [numbersMembers, List.mem_append, ih, List.mem_cons, exists_eq_or_imp]

theorem depthMembers_le_iff {limit : Nat} {ms : List (String × Value)} :
    depthMembers ms ≤ limit ↔ ∀ m ∈ ms, m.2.depth ≤ limit := by
  induction ms with
  | nil => simp [depthMembers]
  | cons m rest ih =>
    rw [List.forall_mem_cons, ← ih]
    exact Nat.max_le

theorem mem_numbers_sortMembers {n : Number} {ms : List (String × Value)}
    (h : n ∈ numbersMembers (sortMembers ms)) : n ∈ numbersMembers ms := by
  obtain ⟨m, sorted, mem⟩ := mem_numbersMembers.1 h
  exact mem_numbersMembers.2 ⟨m, mem_sortMembers sorted, mem⟩

theorem depthMembers_sortMembers_le (ms : List (String × Value)) :
    depthMembers (sortMembers ms) ≤ depthMembers ms :=
  depthMembers_le_iff.2 fun m sorted => depthMembers_le_iff.1 (Nat.le_refl _) m (mem_sortMembers sorted)

mutual

theorem mem_numbers_canonical {n : Number} : (v : Value) → n ∈ v.canonical.numbers → n ∈ v.numbers
  | .null, h | .bool _, h | .number _, h | .string _, h => h
  | .array vs, h => mem_numbers_canonicalItems vs h
  | .object ms, h => mem_numbers_canonicalMembers ms (mem_numbers_sortMembers h)

theorem mem_numbers_canonicalItems {n : Number} : (vs : List Value) →
    n ∈ numbersItems (canonicalItems vs) → n ∈ numbersItems vs
  | [], h => h
  | v :: rest, h =>
    List.mem_append.2 ((List.mem_append.1 h).imp (mem_numbers_canonical v)
      (mem_numbers_canonicalItems rest))

theorem mem_numbers_canonicalMembers {n : Number} : (ms : List (String × Value)) →
    n ∈ numbersMembers (canonicalMembers ms) → n ∈ numbersMembers ms
  | [], h => h
  | (_, v) :: rest, h =>
    List.mem_append.2 ((List.mem_append.1 h).imp (mem_numbers_canonical v)
      (mem_numbers_canonicalMembers rest))

end

mutual

theorem depth_canonical_le : (v : Value) → v.canonical.depth ≤ v.depth
  | .null | .bool _ | .number _ | .string _ => Nat.le_refl _
  | .array vs => Nat.succ_le_succ (depthItems_canonicalItems_le vs)
  | .object ms =>
    Nat.succ_le_succ (Nat.le_trans (depthMembers_sortMembers_le _) (depthMembers_canonicalMembers_le ms))

theorem depthItems_canonicalItems_le : (vs : List Value) →
    depthItems (canonicalItems vs) ≤ depthItems vs
  | [] => Nat.le_refl _
  | v :: rest => by
    have first := depth_canonical_le v
    have others := depthItems_canonicalItems_le rest
    simp only [canonicalItems, depthItems]
    omega

theorem depthMembers_canonicalMembers_le : (ms : List (String × Value)) →
    depthMembers (canonicalMembers ms) ≤ depthMembers ms
  | [] => Nat.le_refl _
  | (_, v) :: rest => by
    have first := depth_canonical_le v
    have others := depthMembers_canonicalMembers_le rest
    simp only [canonicalMembers, depthMembers]
    omega

end

end Value

def Number.Fits : Number → Prop
  | .int n => -2 ^ 63 ≤ n ∧ n < 2 ^ 64
  | .float _ => True

theorem significand_lt {limit s c : Nat} (h : s < limit) (ds : List UInt8) :
    (takeDigits limit s c ds).significand < limit := by
  induction ds generalizing s c with
  | nil => exact h
  | cons d ds ih =>
    unfold takeDigits
    split
    · next fits =>
      simp only [Bool.and_eq_true, decide_eq_true_eq] at fits
      exact ih fits.2
    · exact h

theorem fits_integer {negative : Bool} {s : Nat} (h : s < wordLimit) : (integer negative s).Fits := by
  have small : s < 2 ^ 64 := h
  unfold integer
  split
  · simp only [Number.Fits]
    omega
  split
  · simp only [Number.Fits]
    omega
  · trivial

theorem fits_of_scaled? {negative : Bool} {s : Nat} {e : Int} {n : Number}
    (h : scaled? negative s e = some n) : n.Fits := by
  obtain ⟨x, _, rfl⟩ := Option.map_eq_some_iff.1 h
  trivial

theorem fits_of_powered? {negative : Bool} {s : Nat} {start : Int} {o : Option Exponent} {n : Number}
    (h : powered? negative s start o = some n) : n.Fits := by
  cases o with
  | none => exact fits_of_scaled? h
  | some e =>
    simp only [powered?, Exponent.number?] at h
    split at h
    · exact fits_of_scaled? h
    split at h
    · contradiction
    · cases h
      trivial

theorem fits_of_number? {x : Numeral} {n : Number} (h : x.number? = some n) : n.Fits := by
  simp only [Numeral.number?, Taken.number?] at h
  split at h
  · cases h
    exact fits_integer (significand_lt (by decide) _)
  · exact fits_of_powered? h

section

variable {words : List (List UInt8)}

mutual

theorem Denotes.fits : {t : List UInt8} → {v : Value} → {u : List UInt8} → Denotes words t v u →
    ∀ n ∈ v.numbers, n.Fits
  | _, _, _, .null | _, _, _, .word _ | _, _, _, .true | _, _, _, .false | _, _, _, .string _ _
  | _, _, _, .emptyList _ | _, _, _, .emptyObject _ => fun _ h => absurd h List.not_mem_nil
  | _, _, _, .number number => fun _ h => List.mem_singleton.1 h ▸ fits_of_number? number
  | _, _, _, .list items => items.fits
  | _, _, _, .object members => members.fits

theorem DenotesItems.fits : {t : List UInt8} → {vs : List Value} → {u : List UInt8} →
    DenotesItems words t vs u → ∀ n ∈ Value.numbersItems vs, n.Fits
  | _, _, _, .last _ value _ => fun n h =>
    (List.mem_append.1 h).elim (value.fits n) fun none => absurd none List.not_mem_nil
  | _, _, _, .next _ value _ items => fun n h =>
    (List.mem_append.1 h).elim (value.fits n) (items.fits n)

theorem DenotesMembers.fits : {t : List UInt8} → {ms : List (String × Value)} → {u : List UInt8} →
    DenotesMembers words t ms u → ∀ n ∈ Value.numbersMembers ms, n.Fits
  | _, _, _, .last _ _ value _ => fun n h =>
    (List.mem_append.1 h).elim (value.fits n) fun none => absurd none List.not_mem_nil
  | _, _, _, .next _ _ value _ members => fun n h =>
    (List.mem_append.1 h).elim (value.fits n) (members.fits n)

end

end

theorem digitValue_ascii {c : Char} (h : c.isDigit = true) :
    digitValue (UInt8.ofNat c.toNat) = c.toNat - '0'.toNat := by
  have bounds := bounds_of_isDigit h
  have zero : '0'.toNat = 0x30 := rfl
  rw [digitValue, UInt8.toNat_ofNat', zero]
  omega

theorem le_ofDigitChars (cs : List Char) (s : Nat) : s ≤ Nat.ofDigitChars 10 cs s := by
  induction cs generalizing s with
  | nil => exact Nat.le_refl _
  | cons c cs ih =>
    rw [Nat.ofDigitChars_cons]
    have := ih (10 * s + (c.toNat - '0'.toNat))
    omega

theorem takeDigits_ascii {limit s c : Nat} {cs : List Char} (digits : ∀ d ∈ cs, d.isDigit = true)
    (fits : Nat.ofDigitChars 10 cs s < limit) :
    takeDigits limit s c (asciiBytes cs) = ⟨Nat.ofDigitChars 10 cs s, c + cs.length, []⟩ := by
  induction cs generalizing s c with
  | nil => rfl
  | cons d cs ih =>
    have value := digitValue_ascii (digits d (by simp))
    have digit := isDigit_ascii (digits d (by simp))
    rw [Nat.ofDigitChars_cons] at fits ⊢
    have first := Nat.lt_of_le_of_lt (le_ofDigitChars cs _) fits
    have rest := ih (s := 10 * s + (d.toNat - '0'.toNat)) (c := c + 1)
      (fun e he => digits e (by simp [he])) fits
    rw [← value] at first rest ⊢
    simp only [asciiBytes, List.map_cons, takeDigits, digit, Bool.true_and, decide_eq_true_eq, first,
      if_true] at rest ⊢
    rw [rest, List.length_cons, Nat.add_assoc, Nat.add_comm 1]

theorem toDigits_head {n : Nat} (pos : 0 < n) :
    ∃ c cs, Nat.toDigits 10 n = c :: cs ∧ c ≠ '0' := by
  induction n using Nat.strongRecOn with
  | _ n ih =>
    by_cases small : n < 10
    · refine ⟨n.digitChar, [], Nat.toDigits_of_lt_base small, ?_⟩
      have nonzero : ∀ k < 10, 0 < k → k.digitChar ≠ '0' := by decide
      exact nonzero n small pos
    · obtain ⟨c, cs, first, nonzero⟩ := ih (n / 10) (by omega) (by omega)
      refine ⟨c, cs ++ [(n % 10).digitChar], ?_, nonzero⟩
      rw [Nat.toDigits_of_base_le (by decide) (by omega), first, List.cons_append]

theorem isDigit_of_mem_digits (n : Nat) :
    ∀ b ∈ asciiBytes (Nat.toDigits 10 n), isDigit b = true := by
  intro b hb
  obtain ⟨c, hc, rfl⟩ := List.mem_map.1 hb
  exact isDigit_ascii (Nat.isDigit_of_mem_toDigits (by decide) (by decide) hc)

theorem digits_no_leading_zero (n : Nat) :
    ∀ rest, asciiBytes (Nat.toDigits 10 n) = 0x30 :: rest → rest = [] := by
  intro rest zero
  by_cases pos : 0 < n
  · obtain ⟨c, cs, digits, nonzero⟩ := toDigits_head pos
    have mem : c ∈ Nat.toDigits 10 n := by simp [digits]
    have bounds := bounds_of_isDigit (Nat.isDigit_of_mem_toDigits (by decide) (by decide) mem)
    rw [digits] at zero
    have first := congrArg UInt8.toNat (List.cons.inj zero).1
    have byte : (0x30 : UInt8).toNat = 0x30 := rfl
    rw [UInt8.toNat_ofNat', byte] at first
    refine absurd (Char.toNat_inj.1 ?_) nonzero
    change c.toNat = 0x30
    omega
  · have none : n = 0 := by omega
    rw [none] at zero
    exact (List.cons.inj zero).2.symm

def wholeNumeral (n : Int) : Numeral where
  negative := decide (n < 0)
  whole := asciiBytes (Nat.toDigits 10 n.natAbs)
  fraction := []
  exponent := none
  isDigit_of_mem_whole := isDigit_of_mem_digits n.natAbs
  isDigit_of_mem_fraction := by simp
  whole_ne_nil := by simp [asciiBytes]
  no_leading_zero := digits_no_leading_zero n.natAbs

theorem text_wholeNumeral (n : Int) : (wholeNumeral n).text = (Number.int n).print := by
  simp only [Numeral.text, Numeral.magnitude, wholeNumeral, fractionText, exponentText, Number.print,
    if_true, List.append_nil, decide_eq_true_eq]
  split <;> rfl

theorem number?_wholeNumeral {n : Int} (fits : (Number.int n).Fits) :
    (wholeNumeral n).number? = some (.int n) := by
  obtain ⟨low, high⟩ := fits
  have value : Nat.ofDigitChars 10 (Nat.toDigits 10 n.natAbs) 0 = n.natAbs :=
    Nat.ofDigitChars_ten_toDigits
  have small : n.natAbs < wordLimit := by
    have limit : wordLimit = 2 ^ 64 := rfl
    omega
  have digits : ∀ c ∈ Nat.toDigits 10 n.natAbs, c.isDigit = true := fun _ hc =>
    Nat.isDigit_of_mem_toDigits (by decide) (by decide) hc
  rw [← value] at small
  have taken := @takeDigits_ascii wordLimit 0 0 _ digits small
  rw [value] at taken
  simp only [Numeral.number?, wholeNumeral, taken, Taken.number?, and_self, if_true, Option.some.injEq,
    integer]
  by_cases negative : n < 0
  · have within : 0 < n.natAbs ∧ n.natAbs ≤ 0x8000000000000000 := by omega
    simp only [negative, decide_true, Bool.not_true, Bool.false_eq_true, if_false, within, and_self,
      if_true, Number.int.injEq]
    omega
  · simp only [negative, decide_false, Bool.not_false, if_true, Number.int.injEq]
    omega

theorem parse_int_print {n : Int} (fits : (Number.int n).Fits) :
    parse (Number.int n).print = .ok (.number (.int n)) := by
  have denotes : Denotes [] ((wholeNumeral n).text ++ []) (.number (.int n)) [] :=
    .number (number?_wholeNumeral fits)
  rw [List.append_nil, text_wholeNumeral] at denotes
  exact parse_of_denotes denotes rfl

mutual

theorem rereads_self : (v : Value) → (∀ n ∈ v.numbers, parse n.print = .ok (.number n)) → Rereads v v
  | .null, _ => .null
  | .bool b, _ => .bool b
  | .number n, back => .number (back n (List.mem_singleton.2 rfl))
  | .string s, _ => .string s
  | .array vs, back => .array (rereadsItems_self vs back)
  | .object ms, back => .object (rereadsMembers_self ms back)

theorem rereadsItems_self : (vs : List Value) →
    (∀ n ∈ Value.numbersItems vs, parse n.print = .ok (.number n)) → RereadsItems vs vs
  | [], _ => .nil
  | v :: rest, back =>
    .cons (rereads_self v fun n h => back n (List.mem_append_left _ h))
      (rereadsItems_self rest fun n h => back n (List.mem_append_right _ h))

theorem rereadsMembers_self : (ms : List (String × Value)) →
    (∀ n ∈ Value.numbersMembers ms, parse n.print = .ok (.number n)) → RereadsMembers ms ms
  | [], _ => .nil
  | (_, v) :: rest, back =>
    .cons (rereads_self v fun n h => back n (List.mem_append_left _ h))
      (rereadsMembers_self rest fun n h => back n (List.mem_append_right _ h))

end

mutual

theorem exists_rereads : (v : Value) → (∀ n ∈ v.numbers, ∃ w, parse n.print = .ok w) →
    ∃ w, Rereads v w
  | .null, _ => ⟨_, .null⟩
  | .bool b, _ => ⟨_, .bool b⟩
  | .number n, read => (read n (List.mem_singleton.2 rfl)).imp fun _ => .number
  | .string s, _ => ⟨_, .string s⟩
  | .array vs, read => (exists_rereadsItems vs read).elim fun ws items => ⟨.array ws, .array items⟩
  | .object ms, read =>
    (exists_rereadsMembers ms read).elim fun ns members => ⟨.object ns, .object members⟩

theorem exists_rereadsItems : (vs : List Value) →
    (∀ n ∈ Value.numbersItems vs, ∃ w, parse n.print = .ok w) → ∃ ws, RereadsItems vs ws
  | [], _ => ⟨[], .nil⟩
  | v :: rest, read => by
    obtain ⟨w, first⟩ := exists_rereads v fun n h => read n (List.mem_append_left _ h)
    obtain ⟨ws, others⟩ := exists_rereadsItems rest fun n h => read n (List.mem_append_right _ h)
    exact ⟨w :: ws, .cons first others⟩

theorem exists_rereadsMembers : (ms : List (String × Value)) →
    (∀ n ∈ Value.numbersMembers ms, ∃ w, parse n.print = .ok w) → ∃ ns, RereadsMembers ms ns
  | [], _ => ⟨[], .nil⟩
  | (name, v) :: rest, read => by
    obtain ⟨w, first⟩ := exists_rereads v fun n h => read n (List.mem_append_left _ h)
    obtain ⟨ns, others⟩ := exists_rereadsMembers rest fun n h => read n (List.mem_append_right _ h)
    exact ⟨(name, w) :: ns, .cons first others⟩

end

mutual

theorem of_rereads_self : (v : Value) → Rereads v v → ∀ n ∈ v.numbers, parse n.print = .ok (.number n)
  | .null, _ | .bool _, _ | .string _, _ => fun _ h => absurd h List.not_mem_nil
  | .number _, .number read => fun _ h => List.mem_singleton.1 h ▸ read
  | .array vs, .array items => of_rereadsItems_self vs items
  | .object ms, .object members => of_rereadsMembers_self ms members

theorem of_rereadsItems_self : (vs : List Value) → RereadsItems vs vs →
    ∀ n ∈ Value.numbersItems vs, parse n.print = .ok (.number n)
  | [], _ => fun _ h => absurd h List.not_mem_nil
  | v :: rest, .cons first others => fun n h =>
    (List.mem_append.1 h).elim (of_rereads_self v first n) (of_rereadsItems_self rest others n)

theorem of_rereadsMembers_self : (ms : List (String × Value)) → RereadsMembers ms ms →
    ∀ n ∈ Value.numbersMembers ms, parse n.print = .ok (.number n)
  | [], _ => fun _ h => absurd h List.not_mem_nil
  | (_, v) :: rest, .cons first others => fun n h =>
    (List.mem_append.1 h).elim (of_rereads_self v first n) (of_rereadsMembers_self rest others n)

end

/-- The number is read as something that has the same text. -/
def Number.Kept (n : Number) : Prop :=
  ∃ w, parse n.print = .ok w ∧ w.print = n.print

theorem kept_of_returns {n : Number} (back : parse n.print = .ok (.number n)) : n.Kept :=
  ⟨.number n, back, by rw [Value.print]⟩

mutual

theorem print_of_kept : {v w : Value} → Rereads v w → (∀ n ∈ v.numbers, n.Kept) → w.print = v.print
  | _, _, .null, _ | _, _, .bool _, _ | _, _, .string _, _ => rfl
  | .number n, w, .number read, kept => by
    obtain ⟨w', read', same⟩ := kept n (List.mem_singleton.2 rfl)
    cases read.symm.trans read'
    rw [same, Value.print]
  | _, _, .array items, kept => by
    rw [Value.print, Value.print, printItems_of_kept items kept]
  | _, _, .object members, kept => by
    rw [Value.print, Value.print, printMembers_of_kept members kept]

theorem printItems_of_kept : {vs ws : List Value} → RereadsItems vs ws →
    (∀ n ∈ Value.numbersItems vs, n.Kept) → Value.printItems ws = Value.printItems vs
  | _, _, .nil, _ => rfl
  | _, _, .cons first others, kept => by
    rw [Value.printItems, Value.printItems,
      print_of_kept first fun n h => kept n (List.mem_append_left _ h),
      printItems_of_kept others fun n h => kept n (List.mem_append_right _ h)]

theorem printMembers_of_kept : {ms ns : List (String × Value)} → RereadsMembers ms ns →
    (∀ n ∈ Value.numbersMembers ms, n.Kept) → Value.printMembers ns = Value.printMembers ms
  | _, _, .nil, _ => rfl
  | _, _, .cons first others, kept => by
    rw [Value.printMembers, Value.printMembers,
      print_of_kept first fun n h => kept n (List.mem_append_left _ h),
      printMembers_of_kept others fun n h => kept n (List.mem_append_right _ h)]

end

theorem print_cancel {v w : Value} (reads : Rereads v w) {u u' : List UInt8} (stops : Stops u)
    (stops' : Stops u') (same : w.print ++ u = v.print ++ u') : w.print = v.print ∧ u = u' := by
  have denotes := denotes_print reads u'
  rw [← same] at denotes
  obtain ⟨_, rfl⟩ := rereads_of_print w stops stops' denotes
  exact ⟨List.append_cancel_right same, rfl⟩

theorem RereadsItems.print_eq_nil {vs ws : List Value} (items : RereadsItems vs ws) :
    Value.printItems ws = [] ↔ Value.printItems vs = [] := by
  cases items <;> simp [Value.printItems]

theorem RereadsMembers.print_eq_nil {ms ns : List (String × Value)} (members : RereadsMembers ms ns) :
    Value.printMembers ns = [] ↔ Value.printMembers ms = [] := by
  cases members <;> simp [Value.printMembers]

theorem afterComma_cancel {b : UInt8} {ts ts' : List (List UInt8)} {u : List UInt8}
    (empty : ts = [] ↔ ts' = []) (same : afterComma b ts u = afterComma b ts' u) :
    commaSeparated ts ++ b :: u = commaSeparated ts' ++ b :: u := by
  unfold afterComma at same
  by_cases none : ts = []
  · rw [none, empty.1 none]
  · rw [if_neg none, if_neg (mt empty.2 none)] at same
    exact (List.cons.inj same).2

mutual

theorem kept_of_print : {v w : Value} → Rereads v w → w.print = v.print → ∀ n ∈ v.numbers, n.Kept
  | _, _, .null, _ | _, _, .bool _, _ | _, _, .string _, _ => fun _ h => absurd h List.not_mem_nil
  | .number n, w, .number read, same => by
    intro m h
    rw [List.mem_singleton.1 h]
    rw [Value.print] at same
    exact ⟨w, read, same⟩
  | .array vs, .array ws, .array items, same => by
    have whole := congrArg (· ++ []) same
    simp only [print_array_append] at whole
    exact keptItems_of_print items (List.cons.inj whole).2
  | .object ms, .object ns, .object members, same => by
    have whole := congrArg (· ++ []) same
    simp only [print_object_append] at whole
    exact keptMembers_of_print members (List.cons.inj whole).2

-- The texts are compared up to the closing bracket, as two first values may end at different places.
theorem keptItems_of_print : {vs ws : List Value} → RereadsItems vs ws →
    commaSeparated (Value.printItems ws) ++ [0x5D] = commaSeparated (Value.printItems vs) ++ [0x5D] →
    ∀ n ∈ Value.numbersItems vs, n.Kept
  | _, _, .nil, _ => fun _ h => absurd h List.not_mem_nil
  | _, _, .cons first others, same => by
    rw [Value.printItems, Value.printItems, commaSeparated_cons, commaSeparated_cons] at same
    obtain ⟨print, rest⟩ := print_cancel first (stops_afterComma rfl _ _) (stops_afterComma rfl _ _) same
    have empty := others.print_eq_nil
    intro n h
    obtain h | h := List.mem_append.1 h
    · exact kept_of_print first print n h
    · exact keptItems_of_print others (afterComma_cancel empty rest) n h

theorem keptMembers_of_print : {ms ns : List (String × Value)} → RereadsMembers ms ns →
    commaSeparated (Value.printMembers ns) ++ [0x7D] =
      commaSeparated (Value.printMembers ms) ++ [0x7D] →
    ∀ n ∈ Value.numbersMembers ms, n.Kept
  | _, _, .nil, _ => fun _ h => absurd h List.not_mem_nil
  | _, _, .cons first others, same => by
    rw [Value.printMembers, Value.printMembers, commaSeparated_cons, commaSeparated_cons,
      List.append_assoc, List.append_assoc] at same
    have values := (List.cons.inj (List.append_cancel_left same)).2
    obtain ⟨print, rest⟩ := print_cancel first (stops_afterComma rfl _ _) (stops_afterComma rfl _ _) values
    have empty := others.print_eq_nil
    intro n h
    obtain h | h := List.mem_append.1 h
    · exact kept_of_print first print n h
    · exact keptMembers_of_print others (afterComma_cancel empty rest) n h

end

theorem print_eq_iff {v w : Value} (reads : Rereads v w) :
    w.print = v.print ↔ ∀ n ∈ v.numbers, n.Kept :=
  ⟨kept_of_print reads, print_of_kept reads⟩

end Herald.Json
