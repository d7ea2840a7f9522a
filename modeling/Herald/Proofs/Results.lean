/-!
Computations that may fail. One that consists of two succeeds exactly when both of them do, and
then with what the second one makes of the first one's value; a check in front of one must not throw.
-/
namespace Herald

variable {ε α β : Type}

theorem bind_eq_ok_iff {x : Except ε α} {f : α → Except ε β} {b : β} :
    x >>= f = .ok b ↔ ∃ a, x = .ok a ∧ f a = .ok b := by
  cases x with
  | error e => simp [bind, Except.bind]
  | ok a => simp [bind, Except.bind]

theorem bind_eq_error_iff {x : Except ε α} {f : α → Except ε β} {e : ε} :
    x >>= f = .error e ↔ x = .error e ∨ ∃ a, x = .ok a ∧ f a = .error e := by
  cases x with
  | error e' => simp [bind, Except.bind]
  | ok a => simp [bind, Except.bind]

theorem check_eq_ok_iff {c : Prop} [Decidable c] {e : ε} {f : Unit → Except ε β} {b : β} :
    (if c then throw e >>= f else f ()) = .ok b ↔ ¬c ∧ f () = .ok b := by
  by_cases holds : c
  · rw [if_pos holds]
    exact ⟨fun failed => by contradiction, fun passed => absurd holds passed.1⟩
  · rw [if_neg holds]
    exact ⟨fun passed => ⟨holds, passed⟩, fun passed => passed.2⟩

theorem mapError_eq_ok_iff {ε' : Type} {f : ε → ε'} {x : Except ε α} {a : α} :
    x.mapError f = .ok a ↔ x = .ok a := by
  constructor
  · intro mapped
    cases x with
    | ok _ =>
      cases mapped
      rfl
    | error _ => contradiction
  · rintro rfl
    rfl

theorem mapError_eq_error_iff {ε' : Type} {f : ε → ε'} {x : Except ε α} {e' : ε'} :
    x.mapError f = .error e' ↔ ∃ e, x = .error e ∧ e' = f e := by
  constructor
  · intro mapped
    cases x with
    | ok _ => contradiction
    | error e =>
      cases mapped
      exact ⟨e, rfl, rfl⟩
  · rintro ⟨e, rfl, rfl⟩
    rfl

theorem map_eq_error_iff {f : α → β} {x : Except ε α} {e : ε} : x.map f = .error e ↔ x = .error e := by
  constructor
  · intro mapped
    cases x with
    | ok _ => contradiction
    | error _ =>
      cases mapped
      rfl
  · rintro rfl
    rfl

end Herald
