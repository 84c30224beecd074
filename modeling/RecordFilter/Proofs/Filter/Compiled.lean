/-
# Preparation keeps values

A prepared expression has the value of the expression on every record (`Expr.value_compile`), by
induction on the tree.  Each thing that is decided ahead of a record has one lemma, and none of them
asks where the tree comes from: members by their keys (`value_compiledMember`), literal patterns
(`value_compiledBinary`) and calls by name (`value_compiledCall`).
-/

import Mathlib
import RecordFilter.Expr.Evaluation
import RecordFilter.Filter.Compiled
import RecordFilter.Proofs.Expr.Tree

namespace RecordFilter

/-- A prepared pattern matches what the operator with this pattern does. -/
theorem Matcher.matchesValue_ofPattern (kind : PatternKind) (pattern : String) (v : Value) :
    (Matcher.ofPattern kind pattern).matchesValue v = kind.holds v (.string pattern) := by
  cases v <;> rfl

/-- No value matches a pattern that is not a string. -/
theorem PatternKind.holds_eq_false {pattern : Value} (h : pattern.text? = none) (kind : PatternKind)
    (v : Value) : kind.holds v pattern = false := by
  unfold PatternKind.holds
  split
  · cases h
  · rfl

/-- An operator that takes a pattern asks whether its kind of pattern holds. -/
theorem BinaryOp.apply_of_patternKind? {op : BinaryOp} {kind : PatternKind}
    (h : op.patternKind? = some kind) (v w : Value) : op.apply v w = .bool (kind.holds v w) := by
  cases op <;> cases h <;> rfl

namespace Callee

/-- What is left behind a prefix makes up the text with it. -/
theorem isPrefixOf?_eq_some {front cs rest : List Char} :
    front.isPrefixOf? cs = some rest ↔ front ++ rest = cs := by
  induction front generalizing cs with
  | nil => simp only [List.isPrefixOf?, Option.some.injEq, List.nil_append, eq_comm]
  | cons c front ih =>
    cases cs with
    | nil => exact ⟨fun h => absurd h nofun, fun h => absurd h nofun⟩
    | cons d cs =>
      rw [List.isPrefixOf?]
      by_cases hcd : c = d
      · subst hcd
        rw [if_pos (beq_self_eq_true c), ih, List.cons_append, List.cons_inj_right]
      · rw [if_neg (mt eq_of_beq hcd), List.cons_append]
        refine ⟨fun h => absurd h nofun, fun h => ?_⟩
        injection h with h _
        exact absurd h hcd

/-- What stands in the namespace is written with its name and a point in front. -/
theorem inNamespace?_eq_some {callee name : String} :
    inNamespace? callee = some name ↔ mathNamespace ++ "." ++ name = callee := by
  unfold inNamespace?
  rw [Option.map_eq_some_iff, ← String.toList_inj]
  constructor
  · rintro ⟨rest, h, rfl⟩
    rw [String.toList_append, String.toList_ofList]
    exact isPrefixOf?_eq_some.1 h
  · intro h
    rw [String.toList_append] at h
    exact ⟨name.toList, isPrefixOf?_eq_some.2 h, String.ofList_toList⟩

/-- A function is found by its name in the namespace as it is by its whole name. -/
theorem bind_named? (callee : String) :
    (inNamespace? callee).bind MathFunction.named? = Expr.mathFunction? callee := by
  unfold Expr.mathFunction?
  simp only [← inNamespace?_eq_some]
  cases inNamespace? callee with
  | some name =>
    rw [Option.bind_some, MathFunction.named?]
    simp only [Option.some.injEq, eq_comm]
  | none =>
    rw [Option.bind_none]
    exact (List.find?_eq_none.2 fun f _ hf => absurd (of_decide_eq_true hf) nofun).symm

end Callee

namespace Expr

/-- Members of the namespace are its constants, by a name that is written down. -/
theorem value_mathMember (property : Expr) (computed : Bool) (r : Value) :
    (member (name "Math") property computed).value r = mathMember property computed := by
  cases property with
  | name n => cases computed <;> rfl
  | literal v => cases v <;> cases computed <;> rfl
  | _ => cases computed <;> rfl

/-- A member is looked up by the value of its key, unless the key is a name behind a point. -/
theorem value_member {object property : Expr} {computed : Bool} (h : object ≠ name "Math")
    (hp : ∀ n, property = name n → computed ≠ false) (r : Value) :
    (member object property computed).value r = (object.value r).member (property.value r) := by
  rw [value]
  · exact fun _ ho => absurd ho h
  · exact fun _ ho => absurd ho h
  · exact h
  · exact hp

/-- A compiled member has the value of the member, if its parts have theirs. -/
theorem value_compiledMember {object property : Expr} {preparedObject preparedKey : Compiled}
    {r : Value} (ho : preparedObject.value r = object.value r)
    (hk : preparedKey.value r = property.value r) (computed : Bool) :
    (compiledMember object property computed preparedObject preparedKey).value r =
      (member object property computed).value r := by
  unfold compiledMember
  split
  · exact (value_mathMember ..).symm
  · next n h =>
    rw [Compiled.value, ho, value]
    exact h
  · next v h =>
    rw [Compiled.value, ho, value_member h fun _ hv => by cases hv]
    rfl
  · next h _ hn =>
    rw [Compiled.value, ho, hk, value_member h hn]

/-- An operation makes the same of its operands where its right one is written down, as what is
written down is its own value. -/
theorem value_compiledBinary_apply {op : BinaryOp} {right : Expr}
    {preparedLeft preparedRight : Compiled} {r : Value}
    (hr : ∀ v, right = literal v → preparedRight.value r = v) :
    (compiledBinary op right preparedLeft preparedRight).value r =
      op.apply (preparedLeft.value r) (preparedRight.value r) := by
  unfold compiledBinary
  split
  · next kind pattern hk =>
    rw [Compiled.value, Matcher.matchesValue_ofPattern, BinaryOp.apply_of_patternKind? hk,
      hr _ rfl]
  · next kind v hs hk =>
    have hv : v.text? = none := by
      cases v with
      | string pattern => exact absurd rfl (hs pattern)
      | _ => rfl
    rw [Compiled.value, BinaryOp.apply_of_patternKind? hk, hr _ rfl, PatternKind.holds_eq_false hv]
  · rw [Compiled.value]

/-- A compiled operator has the value of the operator, if its operands have theirs. -/
theorem value_compiledBinary {op : BinaryOp} {left right : Expr}
    {preparedLeft preparedRight : Compiled} {r : Value}
    (hl : preparedLeft.value r = left.value r) (hr : preparedRight.value r = right.value r) :
    (compiledBinary op right preparedLeft preparedRight).value r =
      (binary op left right).value r := by
  rw [value, value_compiledBinary_apply, hl, hr]
  intro v hv
  rw [hr, hv, value]

/-- A compiled call has the value of the call, if its arguments have theirs. -/
theorem value_compiledCall {callee : String} {prepared : List Compiled} {arguments : List Expr}
    {r : Value} (ha : Compiled.values r prepared = values r arguments) :
    (compiledCall callee prepared).value r = (call callee arguments).value r := by
  rw [value, callValue, ← Callee.bind_named?, ← ha]
  unfold compiledCall Callee.named?
  cases Builtin.named? callee with
  | some f => rfl
  | none =>
    cases (Callee.inNamespace? callee).bind MathFunction.named? with
    | some f => rfl
    | none => rfl

/-- The values of several expressions are those of each prepared by itself. -/
theorem values_compileAll {es : List Expr} {r : Value}
    (h : ∀ e ∈ es, e.compile.value r = e.value r) :
    Compiled.values r (compileAll es) = values r es := by
  induction es with
  | nil => rfl
  | cons e es ih =>
    obtain ⟨he, hes⟩ := List.forall_mem_cons.1 h
    rw [compileAll, Compiled.values, values, he, ih hes]

/-- **Preparation keeps values.**  The prepared form of any expression has the value of the
expression on every record. -/
theorem value_compile (e : Expr) (r : Value) : e.compile.value r = e.value r := by
  induction e using induct with
  | name n => rfl
  | literal v => rfl
  | record => rfl
  | member object property computed iho ihp => exact value_compiledMember iho ihp computed
  | list items ih => rw [compile, Compiled.value, value, values_compileAll ih]
  | call callee arguments ih => exact value_compiledCall (values_compileAll ih)
  | logical op left right ihl ihr =>
    cases op <;> rw [compile, Compiled.value, value, ihl, ihr]
  | binary op left right ihl ihr => exact value_compiledBinary ihl ihr
  | unary op operand ih => rw [compile, Compiled.value, value, ih]
  | conditional condition positive negative ihc ihp ihn =>
    rw [compile, Compiled.value, value, ihc, ihp, ihn]

end Expr
end RecordFilter
