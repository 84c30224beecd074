/-
# The moves of a reading

A reader changes its state in few ways: it passes over the current lexeme, or meets a fault of the
text behind it; it counts one more level, as long as the limit allows it; it puts the count back to
what it was before.  `Moves` says what each of them does.  A round of a loop that ends is a move
too: it changes nothing, and it is one only if fewer lexemes are left than when the round began.

`Path` is one move after another, with the log of the moves and of the states that they reach.  What
a move keeps is so of all states on the log: from at most `limit` levels, no state of a path counts
more (`Path.depth_le`).
-/

import Mathlib
import RecordFilter.Proofs.Expr.Progress

namespace RecordFilter
namespace Expr
namespace Parser

/-- What a reader does between two states. -/
inductive Move where
  /-- Passes over the current lexeme. -/
  | pass
  /-- Meets a fault of the text behind the current lexeme. -/
  | fault
  /-- Counts one more level. -/
  | descend
  /-- Puts the count of levels back. -/
  | restore
  /-- Ends a round of a loop, which began in the state `head`. -/
  | round (head : State)

/-- A move and the state that it reaches. -/
structure Event where
  move : Move
  reached : State

/-- Whether an event passes over a lexeme. -/
def Event.isPass : Event → Bool
  | ⟨.pass, _⟩ => true
  | _ => false

/-- The number of lexemes that a log passes over. -/
def passes (log : List Event) : Nat := log.countP Event.isPass

/-- What each move does, under a limit of levels. -/
inductive Moves (limit : Nat) : State → Move → State → Prop where
  | pass {s t l rest} (h : s.ahead = l :: rest) (ht : (advance s l rest).Yields () t) :
    Moves limit s .pass t
  | fault {s t l rest e} (h : s.ahead = l :: rest) (ht : advance s l rest = .error e t) :
    Moves limit s .fault t
  | descend {s} (h : s.depth < limit) : Moves limit s .descend (s.withDepth (s.depth + 1))
  | restore {s d} (h : d ≤ s.depth) : Moves limit s .restore (s.withDepth d)
  | round {s head} (h : s.size < head.size) : Moves limit s (.round head) s

/-- One move after another, with their log. -/
inductive Path (limit : Nat) : State → List Event → State → Prop where
  | nil {s} : Path limit s [] s
  | cons {s u t move log} (h : Moves limit s move u) (p : Path limit u log t) :
    Path limit s (⟨move, u⟩ :: log) t

variable {limit : Nat} {s t u : State} {move : Move} {log log' : List Event}

/-- An empty log passes no lexeme. -/
@[simp]
theorem passes_nil : passes [] = 0 := rfl

/-- Logs pass as many lexemes as they do one after the other. -/
@[simp]
theorem passes_append : passes (log ++ log') = passes log + passes log' := List.countP_append

/-- **One move stays within the limit.** -/
theorem Moves.depth_le (h : Moves limit s move t) (hs : s.depth ≤ limit) : t.depth ≤ limit := by
  cases h with
  | @pass _ l rest _ ht =>
    obtain ⟨le, ht⟩ := ht
    have hd := advance_depth s l rest
    rw [ht] at hd
    exact hd.trans_le hs
  | @fault _ l rest _ _ ht =>
    have hd := advance_depth s l rest
    rw [ht] at hd
    exact hd.trans_le hs
  | descend h => exact h
  | restore h => exact Nat.le_trans h hs
  | round => exact hs

namespace Path

/-- A move is a path. -/
theorem single (h : Moves limit s move t) : Path limit s [⟨move, t⟩] t := .cons h .nil

/-- Paths follow each other. -/
theorem append (h : Path limit s log t) (h' : Path limit t log' u) :
    Path limit s (log ++ log') u := by
  induction h with
  | nil => exact h'
  | cons hm _ ih => exact .cons hm (ih h')

/-- **All states of a path stay within the limit**, from a state that does. -/
theorem depth_le (h : Path limit s log t) (hs : s.depth ≤ limit) :
    ∀ event ∈ log, event.reached.depth ≤ limit := by
  induction h with
  | nil => exact List.forall_mem_nil _
  | @cons s u _ _ _ hm _ ih =>
    have hu : u.depth ≤ limit := hm.depth_le hs
    exact List.forall_mem_cons.2 ⟨hu, ih hu⟩

/-- **Every round of a loop passes over a lexeme.** -/
theorem round_size_lt (h : Path limit s log t) :
    ∀ event ∈ log, ∀ head, event.move = .round head → event.reached.size < head.size := by
  induction h with
  | nil => exact List.forall_mem_nil _
  | cons hm _ ih =>
    refine List.forall_mem_cons.2 ⟨fun head he => ?_, ih⟩
    cases hm with
    | round h => exact Move.round.inj he ▸ h
    | _ => cases he

end Path

end Parser
end Expr
end RecordFilter
