/-
# Literals of expressions

An expression equals what is left of it without the signs of the zeros in its literals
(`Expr.unsignedZeros_beq`).  The literals of an expression that was read from a text are texts,
numbers, truth values and null (`literals_of_parse`).
-/

import Mathlib
import RecordFilter.Expr.Equality
import RecordFilter.Proofs.Expr.Composition
import RecordFilter.Proofs.Expr.Tree
import RecordFilter.Proofs.Value.Equality

namespace RecordFilter
namespace Expr

mutual

/-- The literals of an expression. -/
def literals : Expr → List Value
  | literal v => [v]
  | name _ | record => []
  | member object property _ => object.literals ++ property.literals
  | list items => literalsOfAll items
  | call _ arguments => literalsOfAll arguments
  | logical _ left right | binary _ left right => left.literals ++ right.literals
  | unary _ operand => operand.literals
  | conditional condition positive negative =>
    condition.literals ++ (positive.literals ++ negative.literals)

/-- The literals of several expressions. -/
def literalsOfAll : List Expr → List Value
  | [] => []
  | e :: rest => e.literals ++ literalsOfAll rest

end

mutual

/-- The expression without the signs of the zeros in its literals. -/
def unsignedZeros : Expr → Expr
  | literal v => literal v.unsignedZeros
  | member object property computed =>
    member object.unsignedZeros property.unsignedZeros computed
  | list items => list (unsignedZerosOfAll items)
  | call callee arguments => call callee (unsignedZerosOfAll arguments)
  | logical op left right => logical op left.unsignedZeros right.unsignedZeros
  | binary op left right => binary op left.unsignedZeros right.unsignedZeros
  | unary op operand => unary op operand.unsignedZeros
  | conditional condition positive negative =>
    conditional condition.unsignedZeros positive.unsignedZeros negative.unsignedZeros
  | e => e

/-- The expressions without the signs of the zeros in their literals. -/
def unsignedZerosOfAll : List Expr → List Expr
  | [] => []
  | e :: rest => e.unsignedZeros :: unsignedZerosOfAll rest

end

variable {es : List Expr} {e : Expr}

/-- The zeros of several expressions are those of each. -/
theorem unsignedZerosOfAll_eq (es : List Expr) : unsignedZerosOfAll es = es.map unsignedZeros := by
  induction es with
  | nil => rfl
  | cons e es ih => rw [unsignedZerosOfAll, ih, List.map_cons]

/-- The literals of several expressions are those of each. -/
theorem forall_mem_literalsOfAll {p : Value → Prop} :
    (∀ v ∈ literalsOfAll es, p v) ↔ ∀ e ∈ es, ∀ v ∈ e.literals, p v := by
  induction es with
  | nil => exact ⟨fun _ _ h => absurd h List.not_mem_nil, fun _ _ h => absurd h List.not_mem_nil⟩
  | cons e es ih => rw [literalsOfAll, List.forall_mem_append, ih, List.forall_mem_cons]

/-! ### Equality -/

/-- Expressions equal themselves without signs of zeros if each of them does. -/
theorem equalItems_unsignedZeros (h : ∀ e ∈ es, equal e.unsignedZeros e = true) :
    equalItems (es.map unsignedZeros) es = true := by
  induction es with
  | nil => rfl
  | cons e es ih =>
    obtain ⟨he, hes⟩ := List.forall_mem_cons.1 h
    rw [List.map_cons, equalItems, he, ih hes, Bool.and_self]

/-- The sign of a zero is not seen in a literal. -/
theorem unsignedZeros_beq (h : ∀ v ∈ e.literals, v.KeysDistinct) :
    (e.unsignedZeros == e) = true := by
  change equal e.unsignedZeros e = true
  induction e using induct with
  | name n => exact beq_self_eq_true n
  | literal v => exact Value.unsignedZeros_beq (h v List.mem_cons_self)
  | record => rfl
  | member object property computed iho ihp =>
    obtain ⟨ho, hp⟩ := List.forall_mem_append.1 h
    rw [unsignedZeros, equal, iho ho, ihp hp, beq_self_eq_true]
    rfl
  | list items ih =>
    rw [unsignedZeros, equal, unsignedZerosOfAll_eq]
    exact equalItems_unsignedZeros fun e he => ih e he (forall_mem_literalsOfAll.1 h e he)
  | call callee arguments ih =>
    rw [unsignedZeros, equal, unsignedZerosOfAll_eq, beq_self_eq_true, Bool.true_and]
    exact equalItems_unsignedZeros fun e he => ih e he (forall_mem_literalsOfAll.1 h e he)
  | logical op left right ihl ihr =>
    obtain ⟨hl, hr⟩ := List.forall_mem_append.1 h
    rw [unsignedZeros, equal, ihl hl, ihr hr, beq_self_eq_true]
    rfl
  | binary op left right ihl ihr =>
    obtain ⟨hl, hr⟩ := List.forall_mem_append.1 h
    rw [unsignedZeros, equal, ihl hl, ihr hr, beq_self_eq_true]
    rfl
  | unary op operand ih =>
    rw [unsignedZeros, equal, ih h, beq_self_eq_true]
    rfl
  | conditional condition positive negative ihc ihp ihn =>
    obtain ⟨hc, hpn⟩ := List.forall_mem_append.1 h
    obtain ⟨hp, hn⟩ := List.forall_mem_append.1 hpn
    rw [unsignedZeros, equal, ihc hc, ihp hp, ihn hn]
    rfl

/-! ### Expressions of texts -/

namespace Grammar

/-- The literals of a connective are those of its operands. -/
theorem literals_node {l : Level} {t : Token} {node : Expr → Expr → Expr}
    (h : l.node? t = some node) (a b : Expr) : (node a b).literals = a.literals ++ b.literals := by
  unfold Level.node? at h
  split at h
  all_goals first | cases h; rfl | cases h

/-- What is written down is a text, a number, a truth value or null. -/
theorem Derives.literals {l : Level} {ts : List Token} (h : Derives l ts e) :
    ∀ v ∈ e.literals, v ≠ .absent ∧ v.contents = [] := by
  induction h with
  | @atom t e h =>
    unfold Parser.atom? at h
    split at h
    all_goals first | cases h; simp [Expr.literals, Value.contents] | cases h
  | group _ ih => exact ih
  | list items _ ih => exact forall_mem_literalsOfAll.2 (List.forall_mem_map.2 ih)
  | member _ _ ih => exact List.forall_mem_append.2 ⟨ih, fun _ h => absurd h List.not_mem_nil⟩
  | index _ _ ih ihp => exact List.forall_mem_append.2 ⟨ih, ihp⟩
  | call _ _ items _ _ ih => exact forall_mem_literalsOfAll.2 (List.forall_mem_map.2 ih)
  | callIn items _ ih => exact forall_mem_literalsOfAll.2 (List.forall_mem_map.2 ih)
  | unary _ _ ih => exact ih
  | power _ _ iha ihb => exact List.forall_mem_append.2 ⟨iha, ihb⟩
  | left _ hn _ _ iha ihb =>
    rw [literals_node hn]
    exact List.forall_mem_append.2 ⟨iha, ihb⟩
  | conditional _ _ _ ihc ihp ihn =>
    exact List.forall_mem_append.2 ⟨ihc, List.forall_mem_append.2 ⟨ihp, ihn⟩⟩
  | tighter _ _ ih => exact ih

end Grammar

/-- The literals of an expression that is read are neither absent nor composed. -/
theorem literals_of_parse {limit : Nat} {text : String} (h : parse limit text = .ok e) :
    ∀ v ∈ e.literals, v ≠ .absent ∧ v.contents = [] := by
  obtain ⟨-, k, ts, -, hf⟩ := parse_eq_ok_iff.1 h
  exact hf.derives.literals

end Expr
end RecordFilter
