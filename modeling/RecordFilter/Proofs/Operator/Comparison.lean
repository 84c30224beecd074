/-
# All ways to a comparison

A comparison is reached by an operator sign, by a call of a function, by name inside a quantifier,
and, for a pattern that is written down, by a matcher that was made ready before any record was
seen.  The signs and the functions that belong together are listed in `Comparison.routes`.  Each
entry is one and the same test on two values (`exists_of_mem_routes`), and what is decided ahead of
a record does not change what an operator makes of its operands
(`Expr.value_compiledBinary_apply`).  So every way to a comparison gives the same value on every
record (`routes_agree`).
-/

import Mathlib
import RecordFilter.Proofs.Filter.Compiled

namespace RecordFilter
namespace Comparison

/-- The names of functions with the operators that make the same test. -/
def routes : List (String × BinaryOp) := [
  ("eq", .equal), ("eq", .strictEqual), ("lt", .less), ("gt", .greater), ("lte", .lessOrEqual),
  ("gte", .greaterOrEqual), ("in", .isIn), ("glob", .globMatch), ("regx", .regexMatch)]

/-- The name and the operator of a route stand for one comparison. -/
theorem exists_of_mem_routes {name : String} {op : BinaryOp} (h : (name, op) ∈ routes) :
    ∃ c : Comparison, named? name = some c ∧ Builtin.named? name = some (.comparison c) ∧
      ∀ v w, op.apply v w = .bool (c.holds v w) := by
  simp only [routes, List.mem_cons, List.not_mem_nil, or_false, Prod.mk.injEq] at h
  rcases h with ⟨rfl, rfl⟩ | ⟨rfl, rfl⟩ | ⟨rfl, rfl⟩ | ⟨rfl, rfl⟩ | ⟨rfl, rfl⟩ | ⟨rfl, rfl⟩ |
    ⟨rfl, rfl⟩ | ⟨rfl, rfl⟩ | ⟨rfl, rfl⟩
  all_goals exact ⟨_, rfl, rfl, fun _ _ => rfl⟩

end Comparison

/-- Only a list has items. -/
theorem Value.items?_eq_some {v : Value} {items : List Value} :
    v.items? = some items ↔ v = .list items := by
  cases v <;> simp [items?]

namespace Builtin

variable {c : Comparison} {name : String}

/-- The items that a quantifier goes through, once its name is known. -/
theorem quantified?_eq (hc : Comparison.named? name = some c) (s v : Value) :
    quantified? [.string name, s, v] = s.items?.map fun items => (c, items) := by
  have hnamed : (argument [.string name, s, v] 0).text?.bind Comparison.named? = some c := hc
  have hitems : argument [.string name, s, v] 1 = s := rfl
  rw [quantified?, hnamed, hitems]
  cases s.items? <;> rfl

/-- The function `all` asks for the comparison with every item. -/
theorem apply_all (hc : Comparison.named? name = some c) (s v : Value) :
    all.apply [.string name, s, v] =
      .bool (s.items?.any fun items => items.all fun x => c.holds x v) := by
  rw [apply, quantified?_eq hc]
  cases s.items? <;> rfl

/-- The function `any` asks for the comparison with some item. -/
theorem apply_any (hc : Comparison.named? name = some c) (s v : Value) :
    any.apply [.string name, s, v] =
      .bool (s.items?.any fun items => items.any fun x => c.holds x v) := by
  rw [apply, quantified?_eq hc]
  cases s.items? <;> rfl

end Builtin

namespace Comparison

/-! ### Expressions -/

variable {name : String} {op : BinaryOp} {c : Comparison} {q v : Expr} {r : Value}

/-- A call of a comparison by its name makes its test. -/
theorem value_call (hc : Builtin.named? name = some (.comparison c)) (a b : Expr) (r : Value) :
    (Expr.call name [a, b]).compile.value r =
      .bool (c.holds (a.compile.value r) (b.compile.value r)) := by
  rw [Expr.compile, Expr.compiledCall, Callee.named?, hc]
  rfl

/-- A sign that stands for a comparison compares the values of its operands. -/
theorem value_sign (hc : ∀ v w, op.apply v w = .bool (c.holds v w)) (a b : Expr) (r : Value) :
    (Expr.binary op a b).compile.value r =
      .bool (c.holds (a.compile.value r) (b.compile.value r)) := by
  rw [Expr.compile, Expr.value_compiledBinary_apply, hc]
  intro v hv
  rw [hv, Expr.compile, Compiled.value]

/-- A comparison of an item that is written down holds iff the test on it does. -/
theorem value_sign_literal (hc : ∀ v w, op.apply v w = .bool (c.holds v w)) (x : Value) :
    (Expr.binary op (.literal x) v).compile.value r = .bool true ↔
      c.holds x (v.compile.value r) = true := by
  rw [value_sign hc, Value.bool.injEq, Expr.compile, Compiled.value]

/-- A call of `all` or `any` by the name of a comparison, as a call on values. -/
theorem value_quantifier (hq : q.compile.value r = .string name) (s v : Expr) :
    (Expr.call "all" [q, s, v]).compile.value r =
        Builtin.all.apply [.string name, s.compile.value r, v.compile.value r] ∧
      (Expr.call "any" [q, s, v]).compile.value r =
        Builtin.any.apply [.string name, s.compile.value r, v.compile.value r] := by
  rw [← hq]
  exact ⟨rfl, rfl⟩

/-- **All ways to a comparison agree.**  On every record, the call of a comparison by its name and
the operator with the same test have the same value for all operands, also where the right one is
written down and the test was prepared.  `all` and `any` with the name of the comparison say of the
items of a list, and of lists alone, what the operator says of each of them, so membership is `any`
with equality. -/
theorem routes_agree :
    (∀ name op, (name, op) ∈ routes →
      (∀ (a b : Expr) (r : Value),
        (Expr.call name [a, b]).compile.value r = (Expr.binary op a b).compile.value r) ∧
      ∀ (q s v : Expr) (r : Value), q.compile.value r = .string name →
        (∃ holds, (Expr.call "all" [q, s, v]).compile.value r = .bool holds ∧
          (holds = true ↔ ∃ items, s.compile.value r = .list items ∧
            ∀ x ∈ items, (Expr.binary op (.literal x) v).compile.value r = .bool true)) ∧
        ∃ holds, (Expr.call "any" [q, s, v]).compile.value r = .bool holds ∧
          (holds = true ↔ ∃ items, s.compile.value r = .list items ∧
            ∃ x ∈ items, (Expr.binary op (.literal x) v).compile.value r = .bool true)) ∧
      ∀ (s v : Expr) (r : Value), (Expr.binary .isIn v s).compile.value r =
        (Expr.call "any" [.literal (.string "eq"), s, v]).compile.value r := by
  refine ⟨fun name op h => ?_, fun s v r => ?_⟩
  · obtain ⟨c, hn, hb, hc⟩ := exists_of_mem_routes h
    refine ⟨fun a b r => (value_call hb a b r).trans (value_sign hc a b r).symm,
      fun q s v r hq => ⟨⟨_, ((value_quantifier hq s v).1.trans (Builtin.apply_all hn _ _)), ?_⟩,
        ⟨_, ((value_quantifier hq s v).2.trans (Builtin.apply_any hn _ _)), ?_⟩⟩⟩
    · simp only [Option.any_eq_true, Value.items?_eq_some, List.all_eq_true,
        value_sign_literal hc]
    · simp only [Option.any_eq_true, Value.items?_eq_some, List.any_eq_true,
        value_sign_literal hc]
  · have hq : (Expr.literal (.string "eq")).compile.value r = .string "eq" := rfl
    rw [(value_quantifier hq s v).2, Builtin.apply_any (c := .equal) rfl,
      value_sign (c := .isIn) (fun _ _ => rfl)]
    cases s.compile.value r <;> rfl

/-- A record names the test that is made of it and of its name.  The pattern is prepared for the
operator, and made ready again for each item of the quantifier. -/
theorem routes_agree_glob :
    ("glob", BinaryOp.globMatch) ∈ routes ∧
      (Expr.name "f").compile.value (.map [("f", .string "glob")]) = .string "glob" ∧
      (Expr.call "glob" [.name "f", .literal (.string "glob")]).compile.value
          (.map [("f", .string "glob")]) =
        (Expr.binary .globMatch (.name "f") (.literal (.string "glob"))).compile.value
          (.map [("f", .string "glob")]) ∧
      (Expr.call "any" [.name "f", .list [.record, .name "f"],
          .literal (.string "glob")]).compile.value (.map [("f", .string "glob")]) =
        .bool true := by
  have hm : ("glob", BinaryOp.globMatch) ∈ routes := by decide
  have hf : (Expr.name "f").compile.value (.map [("f", .string "glob")]) = .string "glob" := rfl
  obtain ⟨hcall, hquantified⟩ := routes_agree.1 "glob" .globMatch hm
  obtain ⟨-, holds, hv, hiff⟩ := hquantified (.name "f") (.list [.record, .name "f"])
    (.literal (.string "glob")) _ hf
  refine ⟨hm, hf, hcall _ _ _, ?_⟩
  rw [hv, hiff.2 ⟨_, rfl, .string "glob", .tail _ (.head _), rfl⟩]

end Comparison
end RecordFilter
