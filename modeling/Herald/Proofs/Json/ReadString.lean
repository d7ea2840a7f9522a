import Herald.Proofs.Json.Grammar
import Herald.Proofs.Results

/-!
The readers of words and strings. A word is read where it stands, and a string is read exactly as
the grammar spells it: escape by escape, up to the quote that closes it.
-/
namespace Herald.Json

theorem word_eq_ok_iff {w t u : List UInt8} : word w t = .ok u ↔ t = w ++ u := by
  induction w generalizing t with
  | nil => simp [word]
  | cons b w ih =>
    cases t with
    | nil => simp [word]
    | cons c t =>
      by_cases same : c = b
      · simp [word, same, ih]
      · simp [word, same]

theorem prepend_eq_ok {bytes s u : List UInt8} {result : Except Fault (List UInt8 × List UInt8)}
    (h : prepend bytes result = .ok (s, u)) : ∃ more, result = .ok (more, u) ∧ s = bytes ++ more := by
  cases result with
  | error fault => contradiction
  | ok r =>
    obtain ⟨more, rest⟩ := r
    simp only [prepend, Except.ok.injEq, Prod.mk.injEq] at h
    exact ⟨more, by rw [h.2], h.1.symm⟩

theorem stringBytes_sound {t s u : List UInt8} (h : stringBytes t = .ok (s, u)) :
    StringText t s u := by
  fun_induction stringBytes t generalizing s with
  | case2 rest =>
    cases h
    exact .close
  | case11 h₁ h₂ h₃ h₄ n first not_low high b hb e he l₁ l₂ l₃ l₄ rest m second low _ ih =>
    obtain ⟨more, read, same⟩ := prepend_eq_ok h
    rw [Decidable.not_not.1 hb, Decidable.not_not.1 he, same]
    exact .pair first high second low (ih read)
  | case14 h₁ h₂ h₃ h₄ rest n digits not_low not_high _ ih =>
    obtain ⟨more, read, rfl⟩ := prepend_eq_ok h
    exact .unit digits (by simpa using not_low) (by simpa using not_high) (ih read)
  | case16 e rest hu c short _ ih =>
    obtain ⟨more, read, rfl⟩ := prepend_eq_ok h
    exact .short short (ih read)
  | case19 b rest quote backslash control ih =>
    obtain ⟨more, read, rfl⟩ := prepend_eq_ok h
    exact .plain (UInt8.not_lt.1 control) quote backslash (ih read)
  | _ => contradiction

theorem shortEscape?_unit : shortEscape? 0x75 = none := by
  decide

theorem not_isLowSurrogate_of_isHighSurrogate {n : Nat} (h : isHighSurrogate n = true) :
    isLowSurrogate n = false := by
  simp only [isHighSurrogate, isLowSurrogate, Bool.and_eq_true, decide_eq_true_eq,
    Bool.and_eq_false_iff, decide_eq_false_iff_not] at h ⊢
  omega

theorem stringBytes_complete {t s u : List UInt8} (h : StringText t s u) :
    stringBytes t = .ok (s, u) := by
  induction h with
  | close =>
    rw [stringBytes.eq_def]
    rfl
  | plain printable quote backslash _ ih =>
    rw [stringBytes.eq_def]
    simp [quote, backslash, UInt8.not_lt.2 printable, ih, prepend]
  | @short e c t s u short _ ih =>
    have not_unit : e ≠ 0x75 := by
      rintro rfl
      rw [shortEscape?_unit] at short
      contradiction
    rw [stringBytes.eq_def]
    simp [not_unit, short, ih, prepend]
  | unit digits not_low not_high _ ih =>
    rw [stringBytes.eq_def]
    simp [digits, not_low, not_high, ih, prepend]
  | pair first high second low _ ih =>
    have not_low := not_isLowSurrogate_of_isHighSurrogate high
    rw [stringBytes.eq_def]
    simp only [first, not_low, high, second, low, ih, prepend]
    rfl

theorem string_eq_ok_iff {t u : List UInt8} {s : String} :
    string t = .ok (s, u) ↔ ∃ bytes, StringText t bytes u ∧ Text.decode? bytes = some s := by
  unfold string
  simp only [bind_eq_ok_iff, Prod.exists]
  constructor
  · rintro ⟨bytes, rest, read, h⟩
    cases decoded : Text.decode? bytes with
    | none => rw [decoded] at h; contradiction
    | some s' =>
      rw [decoded] at h
      cases h
      exact ⟨bytes, stringBytes_sound read, decoded⟩
  · rintro ⟨bytes, text, decoded⟩
    exact ⟨bytes, u, stringBytes_complete text, by rw [decoded]⟩

end Herald.Json
