import Herald.Text.Pieces
import Mathlib.Data.List.Basic

/-!
The pieces of a text that was joined: no piece has a separator in it, and pieces without one come apart
where they were joined.
-/
namespace Herald.Text

theorem flatten_pieces (separates : Char → Bool) (cs : List Char) :
    (pieces separates cs).flatten = cs.filter fun c => !separates c := by
  induction cs with
  | nil => rfl
  | cons c rest ih =>
    obtain ⟨piece, more, cut⟩ := List.exists_cons_of_ne_nil (pieces_ne_nil separates rest)
    unfold pieces
    rw [cut] at ih ⊢
    cases ends : separates c with
    | true => simpa [ends] using ih
    | false => simpa [ends] using ih

variable {separates : Char → Bool}

theorem solid_of_mem_pieces {cs piece : List Char} (mem : piece ∈ pieces separates cs) {c : Char}
    (inside : c ∈ piece) : c ∈ cs ∧ separates c = false := by
  have kept : c ∈ (pieces separates cs).flatten := List.mem_flatten.2 ⟨piece, mem, inside⟩
  simpa [flatten_pieces] using kept

theorem pieces_append {cs : List Char} (solid : ∀ c ∈ cs, separates c = false) {sep : Char}
    (ends : separates sep = true) (rest : List Char) :
    pieces separates (cs ++ sep :: rest) = cs :: pieces separates rest := by
  induction cs with
  | nil => simp [pieces, ends]
  | cons c cs ih =>
    obtain ⟨here, later⟩ := List.forall_mem_cons.1 solid
    simp [pieces, here, ih later]

theorem pieces_of_solid {cs : List Char} (solid : ∀ c ∈ cs, separates c = false) :
    pieces separates cs = [cs] := by
  induction cs with
  | nil => rfl
  | cons c cs ih =>
    obtain ⟨here, later⟩ := List.forall_mem_cons.1 solid
    simp [pieces, here, ih later]

theorem pieces_joined {sep : Char} (ends : separates sep = true) {rest : List (List Char)} :
    ∀ {first : List Char}, (∀ piece ∈ first :: rest, ∀ c ∈ piece, separates c = false) →
      pieces separates (first ++ rest.flatMap (sep :: ·)) = first :: rest := by
  induction rest with
  | nil =>
    intro first solid
    rw [List.flatMap_nil, List.append_nil, pieces_of_solid (solid first (.head _))]
  | cons next rest ih =>
    intro first solid
    rw [List.flatMap_cons, List.cons_append, pieces_append (solid first (.head _)) ends,
      ih fun piece mem => solid piece (.tail _ mem)]

end Herald.Text
