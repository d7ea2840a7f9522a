import Herald.Meter
import Herald.Proofs.Hub
import Herald.Proofs.Text.Pieces

/-!
What the exposition of the counters tells of requests: a line for each label under which one was counted,
with the number of them, and no other line that looks like it.
-/
namespace Herald

open Http (Endpoint)

theorem Http.Endpoint.label_injective : ∀ e e' : Endpoint, e.label = e'.label → e = e' := by
  rintro (_ | _ | _ | _ | _) (_ | _ | _ | _ | _) <;> decide

namespace Meter

/-- A counter that was incremented so many times more. -/
def raised (told : Option UInt64) (n : Nat) : Option UInt64 :=
  if n = 0 then told else some (told.getD 0 + .ofNat n)

theorem getD_raised (told : Option UInt64) (n : Nat) :
    (raised told n).getD 0 = told.getD 0 + .ofNat n := by
  unfold raised
  split
  · next none => simp [none]
  · rfl

theorem raised_raised (told : Option UInt64) (n n' : Nat) :
    raised (raised told n) n' = raised told (n + n') := by
  by_cases none : n' = 0
  · simp [none, raised]
  · have some : n + n' ≠ 0 := by omega
    rw [raised, if_neg none, getD_raised, raised, if_neg some, UInt64.ofNat_add, UInt64.add_assoc]

/-- What the counters of the endpoints add up to, in 64 bits. -/
def requestTotal (m : Meter) : UInt64 :=
  Endpoint.all.foldr (fun e total => m.count (.requests e) + total) 0

def requestLine (label : String) (n : Nat) : String :=
  "relay_http_requests_total" ++ ("\x7bendpoint=\"" ++ label ++ "\"\x7d") ++ " " ++ n.repr

theorem eq_of_quoted {front mid back gap label label' digits digits' : String} {rest : List Char}
    (marked : back.toList = '"' :: rest) (plain : ∀ c ∈ label.toList, decide (c = '"') = false)
    (plain' : ∀ c ∈ label'.toList, decide (c = '"') = false)
    (same : front ++ (mid ++ label ++ back) ++ gap ++ digits =
      front ++ (mid ++ label' ++ back) ++ gap ++ digits') : label = label' ∧ digits = digits' := by
  have chars : label.toList ++ '"' :: (rest ++ gap.toList ++ digits.toList) =
      label'.toList ++ '"' :: (rest ++ gap.toList ++ digits'.toList) := by
    simpa [marked] using congrArg String.toList same
  have pieces := congrArg (Text.pieces (· = '"')) chars
  rw [Text.pieces_append plain (by decide), Text.pieces_append plain' (by decide)] at pieces
  obtain ⟨label, _⟩ := List.cons.inj pieces
  rw [label] at chars
  exact ⟨String.toList_inj.1 label, String.toList_inj.1 (by simpa using chars)⟩

theorem requestLine_injective {e e' : Endpoint} {n n' : Nat}
    (same : requestLine e.label n = requestLine e'.label n') : e = e' ∧ n = n' := by
  have plain (e : Endpoint) : ∀ c ∈ e.label.toList, decide (c = '"') = false := by
    cases e <;> simp [Endpoint.label]
  have marked : "\"\x7d".toList = '"' :: ['\x7d'] := by decide +kernel
  obtain ⟨label, digits⟩ := eq_of_quoted marked (plain e) (plain e') same
  exact ⟨Endpoint.label_injective _ _ label, Hub.eq_of_repr digits⟩

theorem getElem?_line {front mid gap digits : String} {i : Nat} (short : i < front.toList.length) :
    (front ++ mid ++ gap ++ digits).toList[i]? = front.toList[i]? := by
  simp [String.toList_append, List.getElem?_append_left short]

theorem mem_lines {m : Meter} {f : Family} {line : String} (mem : line ∈ m.lines f) :
    line = "# TYPE " ++ f.name ++ " counter" ∨ line = "" ∨
      ∃ member ∈ f.members, m.line? f.name member = some line := by
  unfold lines at mem
  split at mem
  · contradiction
  · next counts _ =>
    simp only [List.cons_append, List.mem_cons, List.mem_append, List.not_mem_nil, or_false] at mem
    obtain rfl | mem | rfl := mem
    · exact .inl rfl
    · exact .inr (.inr (List.mem_filterMap.1 mem))
    · exact .inr (.inl rfl)

theorem mem_lines_of_line? {m : Meter} {f : Family} {member : Counter × String} {line : String}
    (known : member ∈ f.members) (told : m.line? f.name member = some line) : line ∈ m.lines f := by
  have mem : line ∈ f.members.filterMap (m.line? f.name) := List.mem_filterMap.2 ⟨member, known, told⟩
  unfold lines
  split
  · next none =>
    rw [none] at mem
    contradiction
  · exact List.mem_cons_of_mem _ (List.mem_append_left _ mem)

theorem requestLine_mem_shown_iff {m : Meter} {e : Endpoint} {n : Nat} :
    requestLine e.label n ∈ m.shown ↔ ∃ count, m.find? (.requests e) = some count ∧ n = count.toNat := by
  have line (e : Endpoint) : m.line? requests.name
      (.requests e, "\x7bendpoint=\"" ++ e.label ++ "\"\x7d") =
        (m.find? (.requests e)).map fun count => requestLine e.label count.toNat := rfl
  constructor
  · intro mem
    obtain ⟨f, known, mem⟩ := List.mem_flatMap.1 mem
    -- Only the lines for requests have this letter in this place.
    have letter : (requestLine e.label n).toList[6]? = some 'h' :=
      (getElem?_line (by decide +kernel)).trans (by decide +kernel)
    obtain title | none | ⟨member, there, told⟩ := mem_lines mem
    · rw [title, ← String.append_empty (s := _ ++ " counter"), getElem?_line (by decide +kernel)] at letter
      contradiction
    · rw [none] at letter
      contradiction
    · simp only [List.mem_cons, List.not_mem_nil, or_false] at known
      obtain rfl | other := known
      · obtain ⟨e', _, rfl⟩ := List.mem_map.1 there
        rw [line, Option.map_eq_some_iff] at told
        obtain ⟨count, found, same⟩ := told
        obtain ⟨rfl, rfl⟩ := requestLine_injective same
        exact ⟨count, found, rfl⟩
      · obtain ⟨count, _, same⟩ := Option.map_eq_some_iff.1 told
        obtain rfl | rfl := other
        all_goals
          rw [← same, getElem?_line (by decide +kernel)] at letter
          contradiction
  · rintro ⟨count, found, rfl⟩
    have known : (Counter.requests e, "\x7bendpoint=\"" ++ e.label ++ "\"\x7d") ∈ requests.members :=
      List.mem_map_of_mem (by cases e <;> decide)
    have told := line e
    rw [found] at told
    exact List.mem_flatMap.2 ⟨requests, .head _, mem_lines_of_line? known told⟩

end Meter

end Herald
