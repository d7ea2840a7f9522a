import Herald.Proofs.Json.Printed
import Herald.Proofs.Text.Pieces
import Herald.Proofs.Values
import Herald.Settings.Plan
import Mathlib.Data.List.TakeWhile

/-!
When a node is open to all origins: exactly when its configuration gives it no list of them, or a list
with nothing in it but commas and blanks.
-/
namespace Herald

namespace Text

theorem mem_dropWhile_isBlank {c : Char} {cs : List Char} (solid : isBlank c = false) :
    c ∈ cs.dropWhile isBlank ↔ c ∈ cs := by
  constructor
  · exact fun mem => (List.dropWhile_sublist _).subset mem
  · intro mem
    rw [← List.takeWhile_append_dropWhile (p := isBlank) (l := cs), List.mem_append] at mem
    refine mem.resolve_left fun blank => ?_
    rw [List.mem_takeWhile_imp blank] at solid
    contradiction

theorem mem_trimChars {c : Char} {cs : List Char} (solid : isBlank c = false) :
    c ∈ trimChars cs ↔ c ∈ cs := by
  rw [trimChars, List.mem_reverse, mem_dropWhile_isBlank solid, List.mem_reverse,
    mem_dropWhile_isBlank solid]

theorem trimChars_eq_nil_iff {cs : List Char} : trimChars cs = [] ↔ ∀ c ∈ cs, isBlank c = true := by
  constructor
  · intro none c mem
    cases solid : isBlank c with
    | true => rfl
    | false =>
      have kept := (mem_trimChars solid).2 mem
      rw [none] at kept
      contradiction
  · intro blank
    rw [trimChars, List.dropWhile_eq_nil_iff.2 blank]
    rfl

theorem trim_eq_empty_iff {s : String} : trim s = "" ↔ ∀ c ∈ s.toList, isBlank c = true := by
  rw [trim, String.ofList_eq_empty_iff, trimChars_eq_nil_iff]

end Text

namespace Config

def Value.isBlank : Value → Bool
  | .null => true
  | .text s => s.toList.all Text.isBlank
  | _ => false

def Value.isScalar : Value → Bool
  | .list .. | .table _ => false
  | _ => true

/-- A text with nothing but commas and blanks. -/
def Value.isEmptyList : Value → Bool
  | .text s => s.toList.all fun c => c = ',' || Text.isBlank c
  | _ => false

def Value.said? (v : Value) : Option Value :=
  if v.isBlank then none else some v

/-- The value that a setting is given: the flat one, unless it says nothing, and then the nested one. -/
def Key.given? (k : Key) (root : Value) : Option Value :=
  k.find? root Value.said?

theorem exists_solid_of_numeral {cs : List Char} (nonempty : cs ≠ [])
    (numeral : ∀ c ∈ cs, Json.isNumeralChar c = true) :
    ∃ c ∈ cs, c ≠ ',' ∧ Text.isBlank c = false := by
  obtain ⟨c, mem⟩ := List.exists_mem_of_ne_nil cs nonempty
  refine ⟨c, mem, ?_⟩
  have kind := numeral c mem
  simp only [Json.isNumeralChar, Bool.or_eq_true, decide_eq_true_eq] at kind
  obtain (((digit | rfl) | rfl) | rfl) | rfl := kind
  · have bounds := Json.bounds_of_isDigit digit
    refine ⟨?_, ?_⟩
    · rintro rfl
      contradiction
    · simp only [Text.isBlank, Bool.or_eq_false_iff, Bool.and_eq_false_iff, decide_eq_false_iff_not]
      omega
  all_goals decide

theorem exists_solid_int (n : Int) : ∃ c ∈ (toString n).toList, c ≠ ',' ∧ Text.isBlank c = false := by
  have digits (n : Nat) : ∃ c ∈ n.repr.toList, c ≠ ',' ∧ Text.isBlank c = false := by
    rw [Nat.toList_repr]
    exact exists_solid_of_numeral Nat.toDigits_ne_nil Json.isNumeralChar_of_mem_toDigits
  cases n with
  | ofNat n => exact digits n
  | negSucc n => exact ⟨'-', by simp [toString, Int.repr], by decide⟩

theorem exists_solid_float (x : Float) :
    ∃ c ∈ (Number.plain x).toList, c ≠ ',' ∧ Text.isBlank c = false := by
  have signed {cs : List Char} (here : ∃ c ∈ cs, c ≠ ',' ∧ Text.isBlank c = false) :
      ∃ c ∈ Number.withSign x cs, c ≠ ',' ∧ Text.isBlank c = false := by
    obtain ⟨c, mem, solid⟩ := here
    refine ⟨c, ?_, solid⟩
    unfold Number.withSign
    split
    · exact List.mem_cons_of_mem _ mem
    · exact mem
  unfold Number.plain
  split
  · exact ⟨'N', by decide, by decide⟩
  · split
    · rw [String.toList_ofList]
      exact signed ⟨'i', by decide, by decide⟩
    · rw [String.toList_ofList]
      apply signed
      exact exists_solid_of_numeral (Json.positional_ne_nil _ _) (Json.isNumeralChar_of_mem_positional nofun)

theorem trimmedText?_of_isBlank {v : Value} (blank : v.isBlank = true) :
    Key.trimmedText? v = none := by
  cases v with
  | null => rfl
  | text s =>
    have none : Text.trim s = "" := Text.trim_eq_empty_iff.2 (List.all_eq_true.1 blank)
    simp [Key.trimmedText?, Value.text?, none]
  | _ => contradiction

theorem exists_text_of_isScalar {v : Value} (scalar : v.isScalar = true) (full : v.isBlank = false) :
    ∃ text, v.text? = some text ∧ (∃ c ∈ text.toList, Text.isBlank c = false) ∧
      (v.isEmptyList = true ↔ ∀ c ∈ text.toList, c = ',' ∨ Text.isBlank c = true) := by
  have named {w : Value} {text : String} (none : w.isEmptyList = false)
      (here : ∃ c ∈ text.toList, c ≠ ',' ∧ Text.isBlank c = false) :
      (∃ c ∈ text.toList, Text.isBlank c = false) ∧
        (w.isEmptyList = true ↔ ∀ c ∈ text.toList, c = ',' ∨ Text.isBlank c = true) := by
    obtain ⟨c, mem, other, solid⟩ := here
    refine ⟨⟨c, mem, solid⟩, ?_⟩
    rw [none]
    refine ⟨nofun, fun empty => ?_⟩
    obtain comma | blank := empty c mem
    · exact absurd comma other
    · rw [solid] at blank
      contradiction
  cases v with
  | null => contradiction
  | bool b =>
    refine ⟨_, rfl, named rfl ?_⟩
    cases b
    · exact ⟨'f', by decide, by decide⟩
    · exact ⟨'t', by decide, by decide⟩
  | int n => exact ⟨_, rfl, named rfl (exists_solid_int n)⟩
  | float x => exact ⟨_, rfl, named rfl (exists_solid_float x)⟩
  | text s =>
    refine ⟨s, rfl, ?_, ?_⟩
    · simpa [Value.isBlank] using full
    · simp [Value.isEmptyList]
  | list size items => contradiction
  | table entries => contradiction

variable {k : Key} {root v : Value}

theorem trimmedText?_of_isScalar (scalar : v.isScalar = true) (full : v.isBlank = false) :
    ∃ text, v.text? = some text ∧ Key.trimmedText? v = some (Text.trim text) ∧
      (v.isEmptyList = true ↔ ∀ c ∈ text.toList, c = ',' ∨ Text.isBlank c = true) := by
  obtain ⟨text, read, ⟨c, mem, solid⟩, empty⟩ := exists_text_of_isScalar scalar full
  refine ⟨text, read, ?_, empty⟩
  have nonempty : Text.trim text ≠ "" := by
    intro empty
    have blank := Text.trim_eq_empty_iff.1 empty c mem
    rw [solid] at blank
    contradiction
  simp [Key.trimmedText?, read, nonempty]

theorem said?_eq_some {v w : Value} (said : v.said? = some w) : v = w ∧ w.isBlank = false := by
  unfold Value.said? at said
  split at said
  · contradiction
  · next full =>
    cases said
    exact ⟨rfl, by simpa using full⟩

theorem bind_trimmedText?_of_none {found : Option Value} (unset : found.bind Value.said? = none) :
    found.bind Key.trimmedText? = none := by
  rw [Option.bind_eq_none_iff] at unset ⊢
  intro v here
  have silent := unset v here
  unfold Value.said? at silent
  split at silent
  · next blank => exact trimmedText?_of_isBlank blank
  · contradiction

theorem text?_of_given_none (unset : k.given? root = none) : k.text? root = none := by
  unfold Key.given? Key.find? at unset
  rw [Option.or_eq_none_iff] at unset
  unfold Key.text? Key.find?
  rw [bind_trimmedText?_of_none unset.1, bind_trimmedText?_of_none unset.2]
  rfl

theorem text?_of_given_some (given : k.given? root = some v) (scalar : v.isScalar = true) :
    ∃ text, k.text? root = some (Text.trim text) ∧
      (v.isEmptyList = true ↔ ∀ c ∈ text.toList, c = ',' ∨ Text.isBlank c = true) := by
  have used {found : Option Value} (here : found.bind Value.said? = some v) :
      v.isBlank = false ∧ found = some v := by
    obtain ⟨w, there, said⟩ := Option.bind_eq_some_iff.1 here
    obtain ⟨rfl, full⟩ := said?_eq_some said
    exact ⟨full, there⟩
  unfold Key.given? Key.find? at given
  rw [Option.or_eq_some_iff] at given
  unfold Key.text? Key.find?
  obtain flat | ⟨unset, nested⟩ := given
  · obtain ⟨full, here⟩ := used flat
    obtain ⟨text, _, trimmed, empty⟩ := trimmedText?_of_isScalar scalar full
    refine ⟨text, ?_, empty⟩
    rw [here, Option.bind_some, trimmed]
    rfl
  · obtain ⟨full, here⟩ := used nested
    obtain ⟨text, _, trimmed, empty⟩ := trimmedText?_of_isScalar scalar full
    refine ⟨text, ?_, empty⟩
    rw [bind_trimmedText?_of_none unset, here, Option.bind_some, trimmed]
    rfl

end Config

namespace Settings

open Config (Key Value)
open Text (isBlank)

theorem readOrigins_eq_nil_iff {text : String} :
    readOrigins text = [] ↔ ∀ c ∈ text.toList, c = ',' ∨ isBlank c = true := by
  have blank (piece : List Char) : String.ofList (Text.trimChars piece) = "" ↔
      ∀ c ∈ piece, isBlank c = true := by
    rw [← Text.trimChars_eq_nil_iff, String.ofList_eq_empty_iff]
  have inside (c : Char) : c ∈ (Text.pieces (· = ',') text.toList).flatten ↔
      c ∈ text.toList ∧ c ≠ ',' := by
    rw [Text.flatten_pieces]
    simp
  simp only [readOrigins, List.filter_eq_nil_iff, List.forall_mem_map, decide_eq_true_eq, ne_eq,
    Decidable.not_not, blank]
  constructor
  · intro none c mem
    by_cases comma : c = ','
    · exact .inl comma
    · obtain ⟨piece, cut, held⟩ := List.mem_flatten.1 ((inside c).2 ⟨mem, comma⟩)
      exact .inr (none piece cut c held)
  · intro none piece cut c held
    obtain ⟨mem, comma⟩ := (inside c).1 (List.mem_flatten.2 ⟨piece, cut, held⟩)
    exact (none c mem).resolve_left comma

theorem readOrigins_trim_eq_nil_iff {text : String} : readOrigins (Text.trim text) = [] ↔
    ∀ c ∈ text.toList, c = ',' ∨ isBlank c = true := by
  rw [readOrigins_eq_nil_iff, Text.trim, String.toList_ofList]
  constructor
  · intro empty c mem
    cases solid : isBlank c with
    | true => exact .inr rfl
    | false =>
      have kind := empty c ((Text.mem_trimChars solid).2 mem)
      rwa [solid] at kind
  · intro empty c mem
    cases solid : isBlank c with
    | true => exact .inr rfl
    | false =>
      have kind := empty c ((Text.mem_trimChars solid).1 mem)
      rwa [solid] at kind

theorem anyOrigin_iff {origins : List String} :
    Http.Cors.ofOrigins origins = .ok .anyOrigin ↔ origins = [] := by
  constructor
  · intro made
    unfold Http.Cors.ofOrigins at made
    split at made
    · next empty => exact List.isEmpty_iff.1 empty
    · dsimp only at made
      split at made
      · contradiction
      · cases made
  · rintro rfl
    rfl

/-- A node is open to all origins exactly if its configuration gives no list of them, or one with nothing
in it but commas and blanks. Other scalars are lists as well, of themselves. -/
theorem permissive_iff {root : Value} {s : Settings} (read : ofConfig root = .ok s)
    (scalar : ∀ v, originsKey.given? root = some v → v.isScalar = true) :
    (s.origins = [] ↔ ∀ v, originsKey.given? root = some v → v.isEmptyList = true) ∧
    ∀ service, s.service = .ok service → (Http.Cors.ofOrigins service.origins = .ok .anyOrigin ↔
      ∀ v, originsKey.given? root = some v → v.isEmptyList = true) := by
  have unlisted : s.origins = [] ↔
      ∀ v, originsKey.given? root = some v → v.isEmptyList = true := by
    rw [(ofConfig_eq_ok_iff.1 read).origins]
    cases given : originsKey.given? root with
    | none =>
      rw [Config.text?_of_given_none given]
      exact ⟨fun _ => nofun, fun _ => rfl⟩
    | some v =>
      obtain ⟨text, told, empty⟩ := Config.text?_of_given_some given (scalar v given)
      rw [told, Option.getD_some, readOrigins_trim_eq_nil_iff, ← empty]
      simp
  refine ⟨unlisted, ?_⟩
  intro service made
  have same : service.origins = s.origins := by
    obtain ⟨_, _, same⟩ := bind_eq_ok_iff.1 made
    cases same
    rfl
  rw [anyOrigin_iff, same, unlisted]

def listedRoot : Value :=
  .table [("http_allowed_origins", .text " "), ("http", .table [("allowed_origins", .text "http://a.local")])]

theorem permissive_iff_listed : ∃ s service, ofConfig listedRoot = .ok s ∧ s.service = .ok service ∧
    Http.Cors.ofOrigins service.origins ≠ .ok .anyOrigin := by
  obtain ⟨s, service, read, made⟩ : ∃ s service, ofConfig listedRoot = .ok s ∧
      s.service = .ok service := ⟨_, _, rfl, rfl⟩
  have given : originsKey.given? listedRoot = some (.text "http://a.local") :=
    rfl
  have scalar : ∀ v, originsKey.given? listedRoot = some v → v.isScalar = true := by
    intro v same
    rw [given] at same
    cases same
    rfl
  refine ⟨s, service, read, made, ?_⟩
  intro permissive
  have empty := ((permissive_iff read scalar).2 service made).1 permissive _ given
  contradiction

def commaRoot : Value :=
  .table [("http", .table [("allowed_origins", .text ",")])]

theorem permissive_comma : originsKey.given? commaRoot = some (.text ",") ∧
    ∃ s service, ofConfig commaRoot = .ok s ∧ s.origins = [] ∧ s.service = .ok service ∧
      Http.Cors.ofOrigins service.origins = .ok .anyOrigin := by
  refine ⟨rfl, ?_⟩
  exact ⟨_, _, rfl, rfl, rfl, rfl⟩

end Settings

end Herald
