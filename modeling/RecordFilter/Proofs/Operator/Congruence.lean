/-
# Operators respect equality

Equal values are of one kind and have the same text, the same truth, and the same number up to the
sign of a zero (`Value.toNumber_same`).  No comparison and no word sees that sign, so the
comparisons, the functions and the operators on words give equal results for equal operands
(`equality_congruence`).  Arithmetic is left out, as a quotient does see the sign.

Membership and the quantifiers ask a comparison about each item of a list, so they need equality to
be symmetric and transitive.
-/

import Mathlib
import RecordFilter.Operator.Apply
import RecordFilter.Operator.Builtin
import RecordFilter.Proofs.Number.Word
import RecordFilter.Proofs.Value.Equivalence
import RecordFilter.Proofs.Value.Order

namespace RecordFilter

namespace Value

variable {v v' w w' : Value} {vs ws : List Value}

/-! ### Equal values -/

/-- Equal values have the same number, up to the sign of a zero. -/
theorem toNumber_same (h : equal v w = true) : Binary64.same v.toNumber w.toNumber = true := by
  rw [equal_iff] at h
  induction v using induct generalizing w with
  | null | absent | bool | string =>
    cases h
    exact Binary64.same_iff.2 (.inl rfl)
  | number x =>
    cases h with | number hx =>
    exact hx
  | list items ih =>
    cases h with | list hitems =>
    cases hitems with
    | nil => exact Binary64.same_iff.2 (.inl rfl)
    | cons hvw hrest =>
      cases hrest with
      | nil =>
        rw [toNumber, toNumber]
        exact ih _ List.mem_cons_self (equal_iff.1 hvw)
      | cons => exact Binary64.same_iff.2 (.inl rfl)
  | map fields ih =>
    cases h
    exact Binary64.same_iff.2 (.inl rfl)

/-- Equal values have the same word. -/
theorem toWord_congr (h : equal v w = true) : v.toWord = w.toWord :=
  Binary64.word_congr (toNumber_same h)

/-- Equal values are true or false alike. -/
theorem isTruthy_congr (h : equal v w = true) : v.isTruthy = w.isTruthy := by
  cases equal_iff.1 h with
  | @number x y hx =>
    rcases Binary64.same_iff.1 hx with rfl | ⟨s, t, hs, ht⟩
    · rfl
    · change (!(Binary64.unpack x).beq _ && !(Binary64.unpack x).isNaN) =
        (!(Binary64.unpack y).beq _ && !(Binary64.unpack y).isNaN)
      rw [hs, ht]
      rfl
  | _ => rfl

/-- Equal values are of one kind. -/
theorem kindName_congr (h : equal v w = true) : v.kindName = w.kindName := by
  cases equal_iff.1 h <;> rfl

/-- Equal values have the same text. -/
theorem text?_congr (h : equal v w = true) : v.text? = w.text? := by
  cases equal_iff.1 h <;> rfl

/-! ### Comparisons -/

/-- Equal values compare alike. -/
theorem compare?_congr (hv : equal v v' = true) (hw : equal w w' = true) :
    v.compare? w = v'.compare? w' := by
  rw [compare?_eq, compare?_eq, text?_congr hv, text?_congr hw,
    Binary64.compare?_congr (toNumber_same hv) (toNumber_same hw)]

/-- Equal values, with no key twice in any map in them. -/
structure Interchangeable (v w : Value) : Prop where
  left : v.KeysDistinct
  right : w.KeysDistinct
  equal : (v == w) = true

/-- What is absent can stand for itself. -/
theorem interchangeable_absent : Interchangeable absent absent := ⟨trivial, trivial, rfl⟩

/-- Equality does not see which of several equal values it is asked about. -/
theorem Interchangeable.beq (hv : Interchangeable v v') (hw : Interchangeable w w') :
    (v == w) = (v' == w') := by
  rw [Bool.eq_iff_iff]
  constructor
  · intro h
    exact equal_trans (equal_symm hv.left hv.right hv.equal) (equal_trans h hw.equal)
  · intro h
    exact equal_trans hv.equal (equal_trans h (equal_symm hw.left hw.right hw.equal))

/-- Equal values are lists of equal items, or neither is a list. -/
theorem Interchangeable.items? (h : Interchangeable v w) :
    (v.items? = none ∧ w.items? = none) ∨ ∃ vs ws, v.items? = some vs ∧ w.items? = some ws ∧
      List.Forall₂ Interchangeable vs ws := by
  obtain ⟨hv, hw, h⟩ := h
  cases equal_iff.1 h with
  | list hitems =>
    rw [KeysDistinct, allKeysDistinct_iff] at hv hw
    refine .inr ⟨_, _, rfl, rfl, ?_⟩
    clear h
    induction hitems with
    | nil => exact .nil
    | cons h _ ih =>
      obtain ⟨hv, hvs⟩ := List.forall_mem_cons.1 hv
      obtain ⟨hw, hws⟩ := List.forall_mem_cons.1 hw
      exact .cons ⟨hv, hw, h⟩ (ih hvs hws)
  | _ => exact .inl ⟨rfl, rfl⟩

/-- What is asked about each item of two lists has the same answer for both if it has for each pair
of items. -/
theorem all_any_congr {R : Value → Value → Prop} {p q : Value → Bool} (h : List.Forall₂ R vs ws)
    (hpq : ∀ v w, R v w → p v = q w) : vs.all p = ws.all q ∧ vs.any p = ws.any q := by
  induction h with
  | nil => exact ⟨rfl, rfl⟩
  | cons hvw _ ih =>
    simp only [List.all_cons, List.any_cons, hpq _ _ hvw, ih.1, ih.2, and_self]

/-- A value is in a list if an item equals it. -/
theorem isIn_eq (v w : Value) : v.isIn w = w.items?.any fun items => items.any (· == v) := by
  cases w <;> rfl

/-- Values that can stand for each other are in the same lists. -/
theorem Interchangeable.isIn (hv : Interchangeable v v') (hw : Interchangeable w w') :
    v.isIn w = v'.isIn w' := by
  rw [isIn_eq, isIn_eq]
  rcases hw.items? with ⟨h, h'⟩ | ⟨vs, ws, h, h', hitems⟩
  · rw [h, h']
    rfl
  · rw [h, h']
    exact (all_any_congr hitems fun _ _ hitem => hitem.beq hv).2

end Value

namespace PatternKind

/-- A pattern holds of a text if its matcher matches it, and of nothing else. -/
theorem holds_eq (kind : PatternKind) (v w : Value) : kind.holds v w =
    match v.text?, w.text? with
    | some s, some p => (Matcher.ofPattern kind p).matchesText s
    | _, _ => false := by
  cases v <;> cases w <;> rfl

end PatternKind

open Value (Interchangeable)

variable {v v' w w' : Value} {as bs : List Value}

/-- **A comparison does not see which of several equal values it is asked about.** -/
theorem Comparison.holds_congr (c : Comparison) (hv : Interchangeable v v')
    (hw : Interchangeable w w') : c.holds v w = c.holds v' w' := by
  have hcompare := Value.compare?_congr hv.equal hw.equal
  cases c with
  | equal => exact hv.beq hw
  | less => simp only [holds, Value.less, hcompare]
  | greater => simp only [holds, Value.greater, hcompare]
  | lessOrEqual => simp only [holds, Value.lessOrSame, hcompare]
  | greaterOrEqual => simp only [holds, Value.greaterOrSame, hcompare]
  | isIn => exact hv.isIn hw
  | matchesPattern kind =>
    change kind.holds v w = kind.holds v' w'
    rw [PatternKind.holds_eq, PatternKind.holds_eq, Value.text?_congr hv.equal,
      Value.text?_congr hw.equal]

namespace Builtin

/-- Arguments that can stand for each other do so one by one, absent ones too. -/
theorem argument_congr (h : List.Forall₂ Interchangeable as bs) (i : Nat) :
    Interchangeable (argument as i) (argument bs i) := by
  induction h generalizing i with
  | nil => exact Value.interchangeable_absent
  | cons hab _ ih =>
    cases i with
    | zero => exact hab
    | succ i => exact ih i

/-- The comparison and the items that a quantifier is about. -/
theorem quantified?_congr (h : List.Forall₂ Interchangeable as bs) :
    (quantified? as = none ∧ quantified? bs = none) ∨
      ∃ c vs ws, quantified? as = some (c, vs) ∧ quantified? bs = some (c, ws) ∧
        List.Forall₂ Interchangeable vs ws := by
  have hname := Value.text?_congr (argument_congr h 0).equal
  unfold quantified?
  rw [hname]
  cases (argument bs 0).text?.bind Comparison.named? with
  | none => exact .inl ⟨rfl, rfl⟩
  | some c =>
    rcases (argument_congr h 1).items? with ⟨h₁, h₂⟩ | ⟨vs, ws, h₁, h₂, hitems⟩
    · rw [h₁, h₂]
      exact .inl ⟨rfl, rfl⟩
    · rw [h₁, h₂]
      exact .inr ⟨c, vs, ws, rfl, rfl, hitems⟩

/-- **A function gives the same value for equal arguments.** -/
theorem apply_congr (f : Builtin) (h : List.Forall₂ Interchangeable as bs) :
    f.apply as = f.apply bs := by
  have hargument := argument_congr h
  have hitem : ∀ c : Comparison, ∀ v w, Interchangeable v w →
      c.holds v (argument as 2) = c.holds w (argument bs 2) :=
    fun c _ _ hvw => c.holds_congr hvw (hargument 2)
  cases f with
  | comparison c =>
    exact congrArg Value.bool (c.holds_congr (hargument 0) (hargument 1))
  | typeof => exact congrArg Value.string (Value.kindName_congr (hargument 0).equal)
  | all =>
    rw [apply, apply]
    rcases quantified?_congr h with ⟨h₁, h₂⟩ | ⟨c, vs, ws, h₁, h₂, hitems⟩
    · rw [h₁, h₂]
      rfl
    · rw [h₁, h₂]
      exact congrArg Value.bool (Value.all_any_congr hitems (hitem c)).1
  | any =>
    rw [apply, apply]
    rcases quantified?_congr h with ⟨h₁, h₂⟩ | ⟨c, vs, ws, h₁, h₂, hitems⟩
    · rw [h₁, h₂]
      rfl
    · rw [h₁, h₂]
      exact congrArg Value.bool (Value.all_any_congr hitems (hitem c)).2

end Builtin

namespace BinaryOp

/-- The operators that see the sign of a zero. -/
def arithmetic : List BinaryOp := [add, subtract, multiply, divide, modulo, power]

/-- **An operator that is not arithmetic gives the same value for equal operands.** -/
theorem apply_congr_of_not_arithmetic {op : BinaryOp} (ho : op ∉ arithmetic)
    (hv : Interchangeable v v') (hw : Interchangeable w w') : op.apply v w = op.apply v' w' := by
  have hholds := fun c : Comparison => c.holds_congr hv hw
  have hleft := Value.toWord_congr hv.equal
  have hright := Value.toWord_congr hw.equal
  cases op with
  | add | subtract | multiply | divide | modulo | power => exact absurd (by decide) ho
  | _ => simp only [apply, hholds, Value.toSignedWord, Value.shiftCount, hleft, hright]

end BinaryOp

/-- The signs before an operand that do not see the sign of a zero. -/
theorem UnaryOp.apply_congr_word (h : Interchangeable v w) :
    UnaryOp.not.apply v = UnaryOp.not.apply w ∧
      UnaryOp.bitNot.apply v = UnaryOp.bitNot.apply w := by
  constructor
  · simp only [apply, Value.isTruthy_congr h.equal]
  · simp only [apply, Value.toSignedWord, Value.toWord_congr h.equal]

namespace Value

/-- **Equality is an equivalence, and what works on values respects it**, where no key stands twice
in a map.  So values that are stored at one place need not be looked into; what is not a number
equals itself, the zeros are equal, and the order of fields does not count.  The functions, the
comparisons, the operators on words and those that ask for truth give the same value for equal
operands. -/
theorem equality_congruence :
    ((∀ v : Value, v.KeysDistinct → (v == v) = true) ∧
      (∀ v w : Value, v.KeysDistinct → w.KeysDistinct → (v == w) = true → (w == v) = true) ∧
      ∀ u v w : Value, u.KeysDistinct → v.KeysDistinct → w.KeysDistinct →
        (u == v) = true → (v == w) = true → (u == w) = true) ∧
    (∀ shared : Value → Value → Bool, (∀ v w, shared v w = true → v = w) →
      ∀ v w : Value, v.KeysDistinct → w.KeysDistinct → equalShared shared v w = (v == w)) ∧
    ((∀ x y : Float, x.isNaN = true → y.isNaN = true → (number x == number y) = true) ∧
      (number 0.0 == number Binary64.negativeZero) = true ∧
      ∀ fs gs : List (String × Value), fs.Perm gs → (map fs).KeysDistinct →
        (map fs == map gs) = true) ∧
    (∀ (f : Builtin) (as bs : List Value), List.Forall₂ Interchangeable as bs →
      f.apply as = f.apply bs) ∧
    ∀ v v' w w' : Value, Interchangeable v v' → Interchangeable w w' →
      (∀ c : Comparison, c.holds v w = c.holds v' w') ∧
      (∀ op : BinaryOp, op ∉ BinaryOp.arithmetic → op.apply v w = op.apply v' w') ∧
      UnaryOp.not.apply v = UnaryOp.not.apply v' ∧
      UnaryOp.bitNot.apply v = UnaryOp.bitNot.apply v' := by
  refine ⟨⟨?_, ?_, ?_⟩, ?_, ⟨?_, rfl, ?_⟩, ?_, ?_⟩
  · intro v hv
    exact equal_refl hv
  · intro v w hv hw h
    exact equal_symm hv hw h
  · intro u v w _ _ _ h h'
    exact equal_trans h h'
  · intro shared hs v w hv _
    exact equalShared_eq hs hv w
  · intro x y hx hy
    change (x == y || (x.isNaN && y.isNaN)) = true
    rw [hx, hy, Bool.and_self, Bool.or_true]
  · intro fs gs hp h
    exact equal_of_perm hp h
  · intro f as bs h
    exact f.apply_congr h
  · intro v v' w w' hv hw
    refine ⟨fun c => c.holds_congr hv hw, ?_, UnaryOp.apply_congr_word hv⟩
    intro op ho
    exact BinaryOp.apply_congr_of_not_arithmetic ho hv hw

/-- Operands that differ in the order of their fields and in the sign of a zero. -/
theorem equality_congruence_fields :
    Interchangeable (map [("a", number 0.0), ("b", null)])
      (map [("b", null), ("a", number Binary64.negativeZero)]) ∧
    BinaryOp.isIn.apply (map [("a", number 0.0), ("b", null)])
        (list [map [("a", number 0.0), ("b", null)]]) =
      BinaryOp.isIn.apply (map [("b", null), ("a", number Binary64.negativeZero)])
        (list [map [("a", number 0.0), ("b", null)]]) := by
  have hfields : Interchangeable (map [("a", number 0.0), ("b", null)])
      (map [("b", null), ("a", number Binary64.negativeZero)]) :=
    ⟨⟨by decide, trivial, trivial, trivial⟩, ⟨by decide, trivial, trivial, trivial⟩, rfl⟩
  have hlist : Interchangeable (list [map [("a", number 0.0), ("b", null)]])
      (list [map [("a", number 0.0), ("b", null)]]) :=
    ⟨⟨hfields.left, trivial⟩, ⟨hfields.left, trivial⟩, rfl⟩
  obtain ⟨-, -, -, -, hoperators⟩ := equality_congruence
  exact ⟨hfields, (hoperators _ _ _ _ hfields hlist).2.1 .isIn (by decide)⟩

end Value
end RecordFilter
