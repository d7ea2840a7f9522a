import Herald.Proofs.Permissive
import Herald.Proofs.Requests
import Herald.Proofs.Startup

/-!
When a service opens. Its settings may be sound, and yet it does not open if its list of origins names the
wildcard, which no list may name; nothing else in the list keeps it from opening.
-/
namespace Herald

namespace Http.Cors

theorem ofOrigins_of_wildcard {origins : List String} (wildcard : "*" ∈ origins) :
    ofOrigins origins = .error .wildcard := by
  cases made : ofOrigins origins with
  | ok rules => exact absurd wildcard (exists_ofOrigins_iff.1 ⟨rules, made⟩)
  | error fault => rfl

end Http.Cors

namespace Settings

open Config (Value)

/-- The list of origins has the wildcard as an entry of its own, with nothing but blanks around it. -/
def NamesWildcard (root : Value) : Prop :=
  ∃ text, originsKey.text? root = some text ∧
    ∃ entry ∈ Text.pieces (· = ',') text.toList, Text.trimChars entry = ['*']

theorem wildcard_mem_readOrigins_iff {text : String} : "*" ∈ readOrigins text ↔
    ∃ entry ∈ Text.pieces (· = ',') text.toList, Text.trimChars entry = ['*'] := by
  have star (cs : List Char) : String.ofList cs = "*" ↔ cs = ['*'] := by
    rw [← String.toList_inj, String.toList_ofList]
    rfl
  simp [readOrigins, star]

theorem wildcard_mem_origins_iff {root : Value} {s : Settings} (read : ofConfig root = .ok s) :
    "*" ∈ s.origins ↔ NamesWildcard root := by
  rw [(ofConfig_eq_ok_iff.1 read).origins, wildcard_mem_readOrigins_iff, NamesWildcard]
  cases originsKey.text? root with
  | none => simp [Text.pieces, Text.trimChars]
  | some text => simp

theorem request_of_wildcard {r : Relay} (wildcard : "*" ∈ r.origins) (now : Nat) (q : Http.Request) :
    r.step now (.request q) = (.error (.closed .wildcard), r) := by
  rw [Relay.step, Relay.request, Relay.serviceRules, Http.Cors.ofOrigins_of_wildcard wildcard]

theorem request_of_plain {r : Relay} (plain : "*" ∉ r.origins) (now : Nat) (q : Http.Request) :
    ∃ response, (r.step now (.request q)).1 = .ok (.response response) := by
  obtain ⟨rules, opens⟩ := Relay.exists_rules plain
  refine ⟨(r.respond now rules q).1, ?_⟩
  rw [Relay.step, Relay.request, opens]

/-- With accepted settings the service opens, for a relay with their origins, exactly if the list of origins
does not name the wildcard. Every request is answered then; if the list names it, none is. -/
theorem opens_iff_plain {root : Value} {s : Settings} (read : ofConfig root = .ok s)
    (valid : s.validate = .ok ()) : ∃ service, s.service = .ok service ∧
      ∀ r : Relay, r.origins = service.origins →
        ((∃ rules, r.serviceRules = .ok rules) ↔ ¬ NamesWildcard root) ∧
        (¬ NamesWildcard root →
          ∀ now q, ∃ response, (r.step now (.request q)).1 = .ok (.response response)) ∧
        (NamesWildcard root → ∀ now q, r.step now (.request q) = (.error (.closed .wildcard), r)) := by
  obtain ⟨service, serves⟩ := (startable_iff.1 valid).service
  obtain ⟨_, _, rfl⟩ := service_eq_ok_iff.1 serves
  refine ⟨_, serves, fun r same => ?_⟩
  have wildcard : "*" ∈ r.origins ↔ NamesWildcard root := by
    rw [← wildcard_mem_origins_iff read, same]
  rw [← wildcard]
  exact ⟨Http.Cors.exists_ofOrigins_iff, request_of_plain, request_of_wildcard⟩

def starredRoot : Value :=
  .table [("http_allowed_origins", .text "http://a.local, http://b.local/*,,")]

theorem opens_iff_plain_starred : ∃ s service, ofConfig starredRoot = .ok s ∧ s.validate = .ok () ∧
    s.service = .ok service ∧ ¬ NamesWildcard starredRoot ∧ ∀ r : Relay, r.origins = service.origins →
      ∃ rules, r.serviceRules = .ok rules := by
  obtain ⟨s, read, valid, plain⟩ : ∃ s, ofConfig starredRoot = .ok s ∧ s.validate = .ok () ∧
      "*" ∉ s.origins := ⟨_, rfl, by decide +kernel, by decide +kernel⟩
  rw [wildcard_mem_origins_iff read] at plain
  obtain ⟨service, serves, opens⟩ := opens_iff_plain read valid
  exact ⟨s, service, read, valid, serves, plain, fun r same => (opens r same).1.2 plain⟩

def wildcardRoot : Value :=
  .table [("http", .table [("allowed_origins", .text "*")])]

/-- The settings are accepted, and yet no request is ever answered. -/
theorem closed_with_wildcard : ∃ s service, ofConfig wildcardRoot = .ok s ∧ s.validate = .ok () ∧
    s.service = .ok service ∧ ∀ r : Relay, r.origins = service.origins →
      r.serviceRules = .error .wildcard ∧
      ∀ now q, r.step now (.request q) = (.error (.closed .wildcard), r) := by
  obtain ⟨s, service, read, valid, serves, wildcard⟩ : ∃ s service, ofConfig wildcardRoot = .ok s ∧
      s.validate = .ok () ∧ s.service = .ok service ∧ "*" ∈ service.origins :=
    ⟨_, _, rfl, by decide +kernel, rfl, by decide +kernel⟩
  refine ⟨s, service, read, valid, serves, fun r same => ?_⟩
  rw [← same] at wildcard
  exact ⟨Http.Cors.ofOrigins_of_wildcard wildcard, request_of_wildcard wildcard⟩

end Settings

end Herald
