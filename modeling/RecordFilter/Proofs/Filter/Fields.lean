/-
# The fields that an expression reads

An expression reads the fields that it names where a value stands (`Expr.fields`).  The name behind
a point is no field of the record, and neither is the name of what is called, nor the namespace of
mathematics in front of a member, whatever the record holds under that name.  Two records with the
same fields of these names give an expression the same value, unless it asks for the whole record
(`value_compile_congr`).
-/

import Mathlib
import RecordFilter.Filter.Compiled
import RecordFilter.Proofs.Expr.Tree

namespace RecordFilter
namespace Expr

mutual

/-- The names of the fields that an expression reads. -/
def fields : Expr → List String
  | name n => [n]
  | literal _ | record => []
  | member (name "Math") _ _ => []
  | member object (name _) false => object.fields
  | member object property _ => object.fields ++ property.fields
  | list items => fieldsOfAll items
  | call _ arguments => fieldsOfAll arguments
  | logical _ left right | binary _ left right => left.fields ++ right.fields
  | unary _ operand => operand.fields
  | conditional condition positive negative =>
    condition.fields ++ (positive.fields ++ negative.fields)

/-- The names of the fields that several expressions read. -/
def fieldsOfAll : List Expr → List String
  | [] => []
  | e :: rest => e.fields ++ fieldsOfAll rest

end

mutual

/-- Whether the whole record is asked for anywhere in an expression. -/
def asksForRecord : Expr → Bool
  | record => true
  | name _ | literal _ => false
  | member object property _ => object.asksForRecord || property.asksForRecord
  | list items => anyAsksForRecord items
  | call _ arguments => anyAsksForRecord arguments
  | logical _ left right | binary _ left right => left.asksForRecord || right.asksForRecord
  | unary _ operand => operand.asksForRecord
  | conditional condition positive negative =>
    condition.asksForRecord || (positive.asksForRecord || negative.asksForRecord)

/-- Whether the whole record is asked for anywhere in several expressions. -/
def anyAsksForRecord : List Expr → Bool
  | [] => false
  | e :: rest => e.asksForRecord || anyAsksForRecord rest

end

/-- Two records have the same fields of some names. -/
def SameFields (names : List String) (r₁ r₂ : Value) : Prop :=
  ∀ n ∈ names, r₁.field? n = r₂.field? n

variable {names more : List String} {r₁ r₂ : Value}

/-- Records agree on the fields of two lists if they do on each. -/
theorem sameFields_append :
    SameFields (names ++ more) r₁ r₂ ↔ SameFields names r₁ r₂ ∧ SameFields more r₁ r₂ :=
  List.forall_mem_append

/-- Several expressions read the fields that each of them reads. -/
theorem sameFields_ofAll {es : List Expr} :
    SameFields (fieldsOfAll es) r₁ r₂ ↔ ∀ e ∈ es, SameFields e.fields r₁ r₂ := by
  induction es with
  | nil => exact ⟨fun _ _ h => absurd h List.not_mem_nil, fun _ _ h => absurd h List.not_mem_nil⟩
  | cons e es ih => rw [fieldsOfAll, sameFields_append, ih, List.forall_mem_cons]

/-- Several expressions do not ask for the record if none of them does. -/
theorem anyAsksForRecord_eq_false {es : List Expr} :
    anyAsksForRecord es = false ↔ ∀ e ∈ es, e.asksForRecord = false := by
  induction es with
  | nil => exact ⟨fun _ _ h => absurd h List.not_mem_nil, fun _ => rfl⟩
  | cons e es ih => rw [anyAsksForRecord, Bool.or_eq_false_iff, ih, List.forall_mem_cons]

section Prepared

variable {preparedLeft preparedRight : Compiled}

/-- A member has the same value on two records if its object has, and its key too where it is
computed. -/
theorem value_compiledMember_congr {object property : Expr} {preparedObject preparedKey : Compiled}
    {computed : Bool} (hs : SameFields (member object property computed).fields r₁ r₂)
    (ho : SameFields object.fields r₁ r₂ → preparedObject.value r₁ = preparedObject.value r₂)
    (hk : SameFields property.fields r₁ r₂ → preparedKey.value r₁ = preparedKey.value r₂) :
    (compiledMember object property computed preparedObject preparedKey).value r₁ =
      (compiledMember object property computed preparedObject preparedKey).value r₂ := by
  unfold compiledMember
  split
  · rfl
  · next n h =>
    rw [fields] at hs
    · rw [Compiled.value, Compiled.value, ho hs]
    · exact h
  · next v h =>
    rw [fields, sameFields_append] at hs
    · rw [Compiled.value, Compiled.value, ho hs.1]
    · exact h
    · exact nofun
  · next h _ hn =>
    rw [fields, sameFields_append] at hs
    · rw [Compiled.value, Compiled.value, ho hs.1, hk hs.2]
    · exact h
    · exact hn

/-- A compiled operator is the same on two records if its operands are. -/
theorem value_compiledBinary_congr {op : BinaryOp} {right : Expr}
    (hl : preparedLeft.value r₁ = preparedLeft.value r₂)
    (hr : preparedRight.value r₁ = preparedRight.value r₂) :
    (compiledBinary op right preparedLeft preparedRight).value r₁ =
      (compiledBinary op right preparedLeft preparedRight).value r₂ := by
  unfold compiledBinary
  split
  · rw [Compiled.value, Compiled.value, hl]
  · rfl
  · rw [Compiled.value, Compiled.value, hl, hr]

/-- A call depends on the record through the values of its arguments alone. -/
theorem value_compiledCall_congr {callee : String} {prepared : List Compiled}
    (ha : Compiled.values r₁ prepared = Compiled.values r₂ prepared) :
    (compiledCall callee prepared).value r₁ = (compiledCall callee prepared).value r₂ := by
  unfold compiledCall
  split
  · rw [Compiled.value, Compiled.value, ha]
  · rw [Compiled.value, Compiled.value, ha]
  · rfl

/-- Compiled expressions are the same on two records if each of them is. -/
theorem values_compileAll_congr {es : List Expr}
    (h : ∀ e ∈ es, e.compile.value r₁ = e.compile.value r₂) :
    Compiled.values r₁ (compileAll es) = Compiled.values r₂ (compileAll es) := by
  induction es with
  | nil => rfl
  | cons e es ih =>
    obtain ⟨he, hes⟩ := List.forall_mem_cons.1 h
    rw [compileAll, Compiled.values, Compiled.values, he, ih hes]

end Prepared

/-- Records with the same fields of the names that an expression reads give it the same value. -/
theorem value_compile_eq {e : Expr} (hr : e.asksForRecord = false)
    (hs : SameFields e.fields r₁ r₂) : e.compile.value r₁ = e.compile.value r₂ := by
  induction e using induct with
  | name n =>
    rw [compile, Compiled.value, Compiled.value, Value.field, hs n (List.mem_singleton.2 rfl)]
    rfl
  | literal v => rfl
  | record => cases hr
  | member object property computed iho ihp =>
    rw [asksForRecord, Bool.or_eq_false_iff] at hr
    exact value_compiledMember_congr hs (iho hr.1) (ihp hr.2)
  | list items ih =>
    rw [asksForRecord, anyAsksForRecord_eq_false] at hr
    rw [fields, sameFields_ofAll] at hs
    rw [compile, Compiled.value, Compiled.value,
      values_compileAll_congr fun e he => ih e he (hr e he) (hs e he)]
  | call callee arguments ih =>
    rw [asksForRecord, anyAsksForRecord_eq_false] at hr
    rw [fields, sameFields_ofAll] at hs
    exact value_compiledCall_congr
      (values_compileAll_congr fun e he => ih e he (hr e he) (hs e he))
  | logical op left right ihl ihr =>
    rw [asksForRecord, Bool.or_eq_false_iff] at hr
    rw [fields, sameFields_append] at hs
    cases op <;>
      rw [compile, Compiled.value, Compiled.value, ihl hr.1 hs.1, ihr hr.2 hs.2]
  | binary op left right ihl ihr =>
    rw [asksForRecord, Bool.or_eq_false_iff] at hr
    rw [fields, sameFields_append] at hs
    exact value_compiledBinary_congr (ihl hr.1 hs.1) (ihr hr.2 hs.2)
  | unary op operand ih =>
    rw [asksForRecord] at hr
    rw [fields] at hs
    rw [compile, Compiled.value, Compiled.value, ih hr hs]
  | conditional condition positive negative ihc ihp ihn =>
    rw [asksForRecord, Bool.or_eq_false_iff, Bool.or_eq_false_iff] at hr
    rw [fields, sameFields_append, sameFields_append] at hs
    rw [compile, Compiled.value, Compiled.value, ihc hr.1 hs.1, ihp hr.2.1 hs.2.1,
      ihn hr.2.2 hs.2.2]

/-- **An expression reads only the fields that it names.**  Two records with the same fields of
these names give it the same value, unless it asks for the whole record.  Where they differ in a
field `Math` alone, the members of the namespace have the same values, and so have calls of its
functions whose arguments do not read that field. -/
theorem value_compile_congr :
    (∀ (e : Expr) (r₁ r₂ : Value), e.asksForRecord = false →
      (∀ n ∈ e.fields, r₁.field? n = r₂.field? n) →
        e.compile.value r₁ = e.compile.value r₂) ∧
      ∀ r₁ r₂ : Value, (∀ n, n ≠ "Math" → r₁.field? n = r₂.field? n) →
        (∀ (property : Expr) (computed : Bool),
          (member (name "Math") property computed).compile.value r₁ =
            (member (name "Math") property computed).compile.value r₂) ∧
        ∀ (function : String) (arguments : List Expr), anyAsksForRecord arguments = false →
          "Math" ∉ fieldsOfAll arguments →
            (call ("Math." ++ function) arguments).compile.value r₁ =
              (call ("Math." ++ function) arguments).compile.value r₂ := by
  refine ⟨fun e r₁ r₂ => value_compile_eq, fun r₁ r₂ h => ⟨fun property computed => ?_,
    fun function arguments hr hn => value_compile_eq hr fun n hm => h n ?_⟩⟩
  · rw [compile, compiledMember, Compiled.value, Compiled.value]
  · rintro rfl
    exact hn hm

/-- Two records that differ in their field `Math` have the same floor of the member `Math` of their
field `x`, and the same `Math.PI`. -/
theorem value_compile_congr_floor :
    (call "Math.floor" [member (name "x") (name "Math") false]).asksForRecord = false ∧
      (call "Math.floor" [member (name "x") (name "Math") false]).fields = ["x"] ∧
      (call "Math.floor" [member (name "x") (name "Math") false]).compile.value
          (.map [("Math", .null), ("x", .map [("Math", .bool true)])]) =
        (call "Math.floor" [member (name "x") (name "Math") false]).compile.value
          (.map [("Math", .bool true), ("x", .map [("Math", .bool true)])]) ∧
      (member (name "Math") (name "PI") false).compile.value
          (.map [("Math", .null), ("x", .map [("Math", .bool true)])]) =
        (member (name "Math") (name "PI") false).compile.value
          (.map [("Math", .bool true), ("x", .map [("Math", .bool true)])]) := by
  refine ⟨rfl, rfl, value_compile_congr.1 _ _ _ rfl (List.forall_mem_singleton.2 rfl), ?_⟩
  refine (value_compile_congr.2 _ _ fun n hn => ?_).1 (name "PI") false
  simp only [Value.field?, List.lookup_cons, beq_false_of_ne hn]

end Expr
end RecordFilter
