/-
# Induction on expressions

Lists and calls hold lists of expressions, so an induction on the tree needs its hypothesis for
every member of a list.  `Expr.induct` states it that way; what is said of a list by a function that
goes through a tree and its lists in turn is said of each of its members (`heightOfAll_le`).
-/

import Mathlib
import RecordFilter.Expr.Basic

namespace RecordFilter
namespace Expr

/-- Induction on the tree of an expression. -/
@[elab_as_elim]
theorem induct {motive : Expr → Prop} (name : ∀ n, motive (name n))
    (literal : ∀ v, motive (literal v))
    (member : ∀ object property computed, motive object → motive property →
      motive (member object property computed))
    (list : ∀ items, (∀ e ∈ items, motive e) → motive (list items))
    (call : ∀ callee arguments, (∀ e ∈ arguments, motive e) → motive (call callee arguments))
    (logical : ∀ op left right, motive left → motive right → motive (logical op left right))
    (binary : ∀ op left right, motive left → motive right → motive (binary op left right))
    (unary : ∀ op operand, motive operand → motive (unary op operand))
    (record : motive record)
    (conditional : ∀ condition positive negative, motive condition → motive positive →
      motive negative → motive (conditional condition positive negative)) (e : Expr) :
    motive e :=
  @Expr.rec motive (fun es => ∀ e ∈ es, motive e) name literal member list call logical binary unary
    record conditional (fun _ h => absurd h List.not_mem_nil)
    (fun _ _ he hes => List.forall_mem_cons.2 ⟨he, hes⟩) e

/-- Every expression has a level. -/
theorem height_pos (e : Expr) : 0 < e.height := by
  unfold height
  split <;> exact Nat.succ_pos _

/-- A list of trees is as high as its highest member. -/
theorem heightOfAll_le {es : List Expr} {n : Nat} :
    heightOfAll es ≤ n ↔ ∀ e ∈ es, e.height ≤ n := by
  induction es with
  | nil => exact ⟨fun _ _ h => absurd h List.not_mem_nil, fun _ => Nat.zero_le n⟩
  | cons e es ih => rw [heightOfAll, Nat.max_le, ih, List.forall_mem_cons]

end Expr
end RecordFilter
