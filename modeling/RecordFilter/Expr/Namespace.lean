/-
# The namespace of mathematics

`Math` in front of a point or a bracket is not a field of the record but a fixed namespace.  Its
constants are its only members that have a value; its functions can only be called.
-/

import RecordFilter.Expr.Basic
import RecordFilter.Operator.Builtin
import RecordFilter.Number.Function

namespace RecordFilter

/-- The name of the namespace. -/
def mathNamespace : String := "Math"

namespace Expr

/-- The name of a member, where it is written down: behind a point, or as a string in brackets. -/
def memberName? : (property : Expr) → (computed : Bool) → Option String
  | name n, false => some n
  | literal (.string n), _ => some n
  | _, _ => none

/-- The value of a member of the namespace. -/
def mathMember (property : Expr) (computed : Bool) : Value :=
  match (property.memberName? computed).bind MathConstant.named? with
  | some c => .number c.value
  | none => .absent

end Expr

/-- What a call can be of. -/
inductive Callee where
  /-- A function of values. -/
  | builtin (function : Builtin)
  /-- A function of numbers. -/
  | math (function : MathFunction)
deriving DecidableEq, Repr

namespace Callee

/-- What stands behind the name of the namespace and a point. -/
def inNamespace? (name : String) : Option String :=
  ((mathNamespace ++ ".").toList.isPrefixOf? name.toList).map .ofList

/-- The function that is called by a dotted name. -/
def named? (name : String) : Option Callee :=
  match Builtin.named? name with
  | some f => some (builtin f)
  | none => ((inNamespace? name).bind MathFunction.named?).map math

end Callee

end RecordFilter
