/-
# Progress of the readers

An operand starts with a lexeme, so each of the readers of operands and expressions that succeeds
leaves fewer lexemes than there were (`primary_shortens`, `expression_shortens`); that no reader
leaves more is in the type of its result.  Whether they succeed or fail, they put the count of
levels back to what they found (`expression_depth`).
-/

import Mathlib
import RecordFilter.Proofs.Expr.Steps

namespace RecordFilter
namespace Expr
namespace Parser

/-- A step behind which fewer than `n` lexemes are left, if it succeeds. -/
def Step.Shortens (n : Nat) (x : Step α m) : Prop :=
  x.Meets (fun _ t => t.size < n) fun _ _ => True

namespace Step

variable {x : Step α m} {a : α} {t : State}

/-- A step from fewer than `n` lexemes leaves fewer than `n`. -/
theorem shortens_of_lt (x : Step α m) (h : m < n) : x.Shortens n := by
  cases x with
  | ok a t le => exact Nat.lt_of_le_of_lt le h
  | error => trivial

/-- A step shortens the lexemes when it promises less about what is left. -/
theorem Shortens.weaken (h : x.Shortens n) (le : m ≤ k) : (x.weaken le).Shortens n :=
  Meets.weaken h le

/-- A step shortens the lexemes whatever is made of its result. -/
theorem Shortens.map (h : x.Shortens n) (f : α → β) : (x.map f).Shortens n :=
  Meets.map h fun _ _ => id

/-- A step shortens the lexemes when the depth is put back. -/
theorem Shortens.restore (h : x.Shortens n) (d : Nat) : (x.restore d).Shortens n := Meets.restore h

/-- Two steps shorten the lexemes if the second one does. -/
theorem shortens_andThen {f : (a : α) → (s : State) → s.size ≤ m → Step β k}
    (hf : ∀ a s le, (f a s le).Shortens n) : (x.andThen f).Shortens n :=
  (meets_true x).andThen fun a s le _ => hf a s le

/-- A success leaves fewer lexemes. -/
theorem Shortens.of_yields (h : x.Shortens n) (hy : x.Yields a t) : t.size < n := by
  obtain ⟨le, rfl⟩ := hy
  exact h

/-- A step that promises less ends in the same state. -/
theorem weaken_state (x : Step α m) (le : m ≤ n) : (x.weaken le).state = x.state := by
  cases x <;> rfl

/-- A step ends in the same state whatever is made of its result. -/
theorem map_state (x : Step α n) (f : α → β) : (x.map f).state = x.state := by
  cases x <;> rfl

/-- A step that puts the depth back ends in its state with this depth. -/
theorem restore_state (d : Nat) (x : Step α n) : (x.restore d).state = x.state.withDepth d := by
  cases x <;> rfl

/-- The count of levels is put back, whatever a step makes of it. -/
theorem restore_state_depth (d : Nat) (x : Step α n) : (x.restore d).state.depth = d := by
  rw [restore_state]
  rfl

end Step

variable {limit : Nat} {s : State} {l : Lexeme} {rest : List Lexeme}

/-- **Every operand passes over a lexeme.** -/
theorem primary_shortens (limit : Nat) (s : State) : (primary limit s).Shortens s.size := by
  rw [primary]
  split
  · trivial
  · next l rest h =>
    have hs : rest.length < s.size := by rw [s.size_eq h]; exact Nat.lt_succ_self _
    dsimp only
    split
    · exact (((advance s l rest).shortens_of_lt hs).map _).weaken _
    · exact ((inAsName s l rest).shortens_of_lt hs).weaken _
    · refine Step.shortens_andThen fun _ s₁ le₁ => ?_
      refine Step.shortens_andThen fun inner s₂ le₂ => ?_
      exact (((expect .rightParen s₂).shortens_of_lt (by omega)).map _).weaken _
    · refine Step.shortens_andThen fun _ s₁ le₁ => ?_
      exact (((list limit .rightBracket s₁).shortens_of_lt (by omega)).map _).weaken _
    · trivial

/-- An operand takes a lexeme at least. -/
theorem postfixed_shortens (limit : Nat) (s : State) : (postfixed limit s).Shortens s.size := by
  rw [postfixed]
  have hp : (primary limit s).Shortens s.size := primary_shortens limit s
  refine Step.Shortens.restore (Step.Meets.andThen hp fun e s₁ le₁ hlt => ?_) _
  exact ((suffixes limit e s₁).shortens_of_lt hlt).weaken _

/-- A prefixed expression takes a lexeme at least. -/
theorem prefixed_shortens (limit : Nat) (s : State) : (prefixed limit s).Shortens s.size := by
  rw [prefixed]
  split
  · exact postfixed_shortens limit s
  · next l rest h =>
    have hs : rest.length < s.size := by rw [s.size_eq h]; exact Nat.lt_succ_self _
    dsimp only
    split
    · exact postfixed_shortens limit s
    · exact Step.shortens_andThen fun _ s₁ le₁ => (Step.shortens_of_lt _ (by omega)).weaken _

/-- An expression takes a lexeme at least. -/
theorem expression_shortens (limit power : Nat) (s : State) :
    (expression limit power s).Shortens s.size := by
  rw [expression]
  refine (Step.shortens_andThen fun _ s₁ le₁ => ?_).restore _
  refine Step.Meets.andThen (prefixed_shortens limit s₁) fun left s₂ le₂ hlt => ?_
  exact ((chain limit power left s₂).shortens_of_lt (by omega)).weaken _

/-! ### The count of levels -/

/-- Passing over a lexeme, or failing to, does not touch the count. -/
theorem advance_depth (s : State) (l : Lexeme) (rest : List Lexeme) :
    (advance s l rest).state.depth = s.depth := by
  obtain ⟨ahead, ending, depth⟩ := s
  cases rest with
  | cons => rfl
  | nil => cases ending <;> rfl

/-- An operand puts the depth back. -/
theorem postfixed_depth (limit : Nat) (s : State) : (postfixed limit s).state.depth = s.depth := by
  rw [postfixed, Step.restore_state_depth]

/-- A prefixed expression puts the depth back. -/
theorem prefixed_depth (limit : Nat) (s : State) : (prefixed limit s).state.depth = s.depth := by
  rw [prefixed]
  split
  · exact postfixed_depth limit s
  · next l rest h =>
    dsimp only
    split
    · exact postfixed_depth limit s
    · have hd := advance_depth s l rest
      cases hx : advance s l rest with
      | error e t =>
        rw [hx] at hd
        exact hd
      | ok a t le =>
        rw [hx] at hd
        rw [Step.andThen, Step.weaken_state, Step.map_state, Step.restore_state_depth]
        exact hd

/-- An expression puts the depth back. -/
theorem expression_depth (limit power : Nat) (s : State) :
    (expression limit power s).state.depth = s.depth := by
  rw [expression, Step.restore_state_depth]

/-- A reading of a whole text ends in the state in which its expression has been read. -/
theorem whole_state (limit : Nat) (s : State) :
    (whole limit s).2 = (expression limit 0 s).state := by
  unfold whole
  split
  · next hx => rw [hx, Step.state]
  · next hx =>
    rw [hx, Step.state]
    split <;> rfl

end Parser
end Expr
end RecordFilter
