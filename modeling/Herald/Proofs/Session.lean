import Herald.Proofs.Results
import Herald.Session
import Mathlib.Data.List.Forall2

/-!
Runs of a relay. A run goes on as long as the service can be opened; what every step keeps a run
keeps, and what is right about an answer, and stays right, is right at the end of the run.
-/
namespace Herald.Relay

theorem run_cons_eq_ok {r final : Relay} {now : Nat} {s : Step} {rest : List (Nat × Step)}
    {answers : List (Except Failure Outcome)} :
    r.run ((now, s) :: rest) = .ok (answers, final) ↔
      ∃ answer later, (r.step now s).1 = answer.mapError .failure ∧
        (r.step now s).2.run rest = .ok (later, final) ∧ answers = answer :: later := by
  rw [run]
  obtain ⟨answer, after⟩ := r.step now s
  have goes (a : Except Failure Outcome) :
      (after.run rest >>= fun x => pure (a :: x.1, x.2)) = .ok (answers, final) ↔
        ∃ later, after.run rest = .ok (later, final) ∧ answers = a :: later := by
    rw [bind_eq_ok_iff]
    constructor
    · rintro ⟨⟨later, final'⟩, ran, same⟩
      cases same
      exact ⟨later, ran, rfl⟩
    · rintro ⟨later, ran, rfl⟩
      exact ⟨(later, final), ran, rfl⟩
  cases answer with
  | ok outcome =>
    refine (goes (.ok outcome)).trans ⟨fun ⟨later, h⟩ => ⟨.ok outcome, later, rfl, h⟩, ?_⟩
    rintro ⟨answer, later, same, h⟩
    cases answer with
    | ok _ => cases same; exact ⟨later, h⟩
    | error _ => contradiction
  | error fault =>
    cases fault with
    | failure f =>
      refine (goes (.error f)).trans ⟨fun ⟨later, h⟩ => ⟨.error f, later, rfl, h⟩, ?_⟩
      rintro ⟨answer, later, same, h⟩
      cases answer with
      | ok _ => contradiction
      | error _ => cases same; exact ⟨later, h⟩
    | closed fault =>
      constructor
      · intro h
        contradiction
      · rintro ⟨answer, later, same, h⟩
        cases answer with
        | ok _ => contradiction
        | error _ =>
          injection same
          contradiction

theorem answer_injective {x y : Except Failure Outcome}
    (same : x.mapError Step.Fault.failure = y.mapError .failure) : x = y := by
  cases x <;> cases y <;> cases same <;> rfl

/-- The relay behind steps, when none of them ends the session. -/
def after (r : Relay) : List (Nat × Step) → Relay
  | [] => r
  | (now, s) :: rest => (r.step now s).2.after rest

def replies (r : Relay) : List (Nat × Step) → List (Except Step.Fault Outcome)
  | [] => []
  | (now, s) :: rest => (r.step now s).1 :: (r.step now s).2.replies rest

theorem after_append (r : Relay) (before behind : List (Nat × Step)) :
    r.after (before ++ behind) = (r.after before).after behind := by
  induction before generalizing r with
  | nil => rfl
  | cons s before ih => exact ih _

theorem replies_append (r : Relay) (before behind : List (Nat × Step)) :
    r.replies (before ++ behind) = r.replies before ++ (r.after before).replies behind := by
  induction before generalizing r with
  | nil => rfl
  | cons s before ih => exact congrArg _ (ih _)

theorem length_replies (r : Relay) (steps : List (Nat × Step)) :
    (r.replies steps).length = steps.length := by
  induction steps generalizing r with
  | nil => rfl
  | cons s rest ih => exact congrArg (· + 1) (ih _)

theorem run_eq_ok_iff {steps : List (Nat × Step)} : ∀ {r final : Relay}
    {answers : List (Except Failure Outcome)}, r.run steps = .ok (answers, final) ↔
      r.after steps = final ∧ r.replies steps = answers.map (·.mapError .failure) := by
  induction steps with
  | nil =>
    intro r final answers
    constructor
    · intro ran
      cases ran
      exact ⟨rfl, rfl⟩
    · rintro ⟨rfl, same⟩
      rw [List.map_eq_nil_iff.1 same.symm]
      rfl
  | cons s rest ih =>
    intro r final answers
    rw [run_cons_eq_ok]
    constructor
    · rintro ⟨answer, later, replied, ran, rfl⟩
      obtain ⟨reached, told⟩ := ih.1 ran
      refine ⟨reached, ?_⟩
      rw [replies, replied, told]
      rfl
    · rintro ⟨reached, told⟩
      obtain ⟨answer, later, rfl, replied, told⟩ := List.map_eq_cons_iff.1 told.symm
      exact ⟨answer, later, replied.symm, ih.2 ⟨reached, told.symm⟩, rfl⟩

theorem run_append {r final : Relay} {before behind : List (Nat × Step)}
    {answers : List (Except Failure Outcome)} (ran : r.run (before ++ behind) = .ok (answers, final)) :
    ∃ first later, answers = first ++ later ∧ first.length = before.length ∧
      r.run before = .ok (first, r.after before) ∧
      (r.after before).run behind = .ok (later, final) := by
  obtain ⟨reached, told⟩ := run_eq_ok_iff.1 ran
  rw [after_append] at reached
  rw [replies_append] at told
  obtain ⟨first, later, rfl, told_first, told_later⟩ := List.map_eq_append_iff.1 told.symm
  have length := congrArg List.length told_first
  rw [List.length_map, length_replies] at length
  exact ⟨first, later, rfl, length, run_eq_ok_iff.2 ⟨rfl, told_first.symm⟩,
    run_eq_ok_iff.2 ⟨reached, told_later.symm⟩⟩

theorem run_around {r final : Relay} {before behind : List (Nat × Step)} {now : Nat} {s : Step}
    {answers : List (Except Failure Outcome)}
    (ran : r.run (before ++ (now, s) :: behind) = .ok (answers, final)) :
    ∃ first answer later, answers = first ++ answer :: later ∧ first.length = before.length ∧
      answers[before.length]? = some answer ∧ r.run before = .ok (first, r.after before) ∧
      ((r.after before).step now s).1 = answer.mapError .failure ∧
      ((r.after before).step now s).2.run behind = .ok (later, final) := by
  obtain ⟨first, rest, rfl, length, reached, onward⟩ := run_append ran
  obtain ⟨answer, later, replied, ended, rfl⟩ := run_cons_eq_ok.1 onward
  refine ⟨first, answer, later, rfl, length, ?_, reached, replied, ended⟩
  rw [← length, List.getElem?_append_right (Nat.le_refl _), Nat.sub_self]
  rfl

section Runs

variable {Inv : Relay → Prop} {Allowed : Step → Prop}

theorem run_keeps (step : ∀ r now s, Inv r → Allowed s → Inv (r.step now s).2)
    {steps : List (Nat × Step)} : ∀ {r final : Relay} {answers : List (Except Failure Outcome)},
    Inv r → (∀ s ∈ steps, Allowed s.2) → r.run steps = .ok (answers, final) → Inv final := by
  induction steps with
  | nil =>
    intro r final answers holds _ ran
    cases ran
    exact holds
  | cons s rest ih =>
    intro r final answers holds allowed ran
    obtain ⟨answer, later, _, ran, _⟩ := run_cons_eq_ok.1 ran
    have next := step r s.1 s.2 holds (allowed s (by simp))
    exact ih next (fun t ht => allowed t (by simp [ht])) ran

theorem run_answers {Right : Relay → Step → Outcome → Prop}
    (step : ∀ r now s, Inv r → Allowed s → Inv (r.step now s).2 ∧
      ∀ o, (r.step now s).1 = .ok o → Right (r.step now s).2 s o)
    (stays : ∀ r now s, Inv r → Allowed s → ∀ s' o, Right r s' o → Right (r.step now s).2 s' o)
    {steps : List (Nat × Step)} : ∀ {r final : Relay} {answers : List (Except Failure Outcome)},
    Inv r → (∀ s ∈ steps, Allowed s.2) → r.run steps = .ok (answers, final) →
    List.Forall₂ (fun s a => ∀ o, a = .ok o → Right final s.2 o) steps answers := by
  induction steps with
  | nil =>
    intro r final answers _ _ ran
    cases ran
    exact .nil
  | cons s rest ih =>
    intro r final answers holds allowed ran
    obtain ⟨answer, later, replied, rest_ran, rfl⟩ := run_cons_eq_ok.1 ran
    obtain ⟨next, right⟩ := step r s.1 s.2 holds (allowed s (by simp))
    have others : ∀ t ∈ rest, Allowed t.2 := fun t ht => allowed t (by simp [ht])
    refine .cons ?_ (ih next others rest_ran)
    rintro o rfl
    have first := right o replied
    have kept : ∀ r' now t, Inv r' ∧ Right r' s.2 o → Allowed t →
        Inv (r'.step now t).2 ∧ Right (r'.step now t).2 s.2 o := by
      intro r' now t h ht
      exact ⟨(step r' now t h.1 ht).1, stays r' now t h.1 ht s.2 o h.2⟩
    exact (run_keeps kept ⟨next, first⟩ others rest_ran).2

end Runs

end Herald.Relay
