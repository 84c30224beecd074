/-
# The value of an expression

What an expression means on a record, read off its tree without any preparation: names are looked up
in the record, keys are computed where they are used, patterns are made ready where they are
matched, and functions are looked up by their whole names where they are called; a call of an
unknown function is false.  The prepared form of an expression (`RecordFilter.Filter.Compiled`) has
the same values.
-/

import RecordFilter.Expr.Namespace
import RecordFilter.Operator.Apply
import RecordFilter.Value.Member

namespace RecordFilter
namespace Expr

/-- The value of a constant of the namespace. -/
def constantValue (name : String) : Value :=
  match MathConstant.named? name with
  | some c => .number c.value
  | none => .absent

/-- The function of numbers that is called by a dotted name. -/
def mathFunction? (callee : String) : Option MathFunction :=
  MathFunction.all.find? fun f => mathNamespace ++ "." ++ f.name = callee

/-- The value of a call. -/
def callValue (callee : String) (arguments : List Value) : Value :=
  match Builtin.named? callee, mathFunction? callee with
  | some f, _ => f.apply arguments
  | none, some f => .number (f.apply (arguments.map Value.toNumber))
  | none, none => .bool false

mutual

/-- The value of an expression on a record. -/
def value (record : Value) : Expr → Value
  | name n => record.field n
  | literal v => v
  | .record => record
  | member (name "Math") (name property) false => constantValue property
  | member (name "Math") (literal (.string property)) _ => constantValue property
  | member (name "Math") _ _ => .absent
  | member object (name property) false => (object.value record).member (.string property)
  | member object property _ => (object.value record).member (property.value record)
  | list items => .list (values record items)
  | call callee arguments => callValue callee (values record arguments)
  | logical .and left right =>
    let v := left.value record
    if v.isTruthy then right.value record else v
  | logical .or left right =>
    let v := left.value record
    if v.isTruthy then v else right.value record
  | binary op left right => op.apply (left.value record) (right.value record)
  | unary op operand => op.apply (operand.value record)
  | conditional condition positive negative =>
    if (condition.value record).isTruthy then positive.value record else negative.value record

/-- The values of several expressions on a record. -/
def values (record : Value) : List Expr → List Value
  | [] => []
  | e :: rest => e.value record :: values record rest

end

end Expr
end RecordFilter
