/-
# Expressions prepared for many records

What an expression does not need a record for is decided once (`Expr.compile`): which function a
call is of, the constants of the namespace `Math`, the keys of members that are written down, and
the matchers of patterns that are written down.  The prepared tree is then evaluated on each record
(`Compiled.value`).
-/

import RecordFilter.Expr.Namespace
import RecordFilter.Operator.Apply
import RecordFilter.Value.Member

namespace RecordFilter

/-- A prepared expression. -/
inductive Compiled where
  /-- A value that no record changes. -/
  | constant (value : Value)
  /-- A field of the record. -/
  | field (name : String)
  /-- The whole record. -/
  | record
  /-- A member whose key is known. -/
  | memberAt (object : Compiled) (key : Value)
  /-- A member whose key is computed. -/
  | memberOf (object key : Compiled)
  /-- A list of computed values. -/
  | list (items : List Compiled)
  /-- A call of a function of values. -/
  | builtin (function : Builtin) (arguments : List Compiled)
  /-- A call of a function of numbers. -/
  | math (function : MathFunction) (arguments : List Compiled)
  /-- Conjunction. -/
  | and (left right : Compiled)
  /-- Disjunction. -/
  | or (left right : Compiled)
  /-- An operation on two values. -/
  | binary (op : BinaryOp) (left right : Compiled)
  /-- A match against a pattern that is known. -/
  | matching (subject : Compiled) (matcher : Matcher)
  /-- An operation on one value. -/
  | unary (op : UnaryOp) (operand : Compiled)
  /-- One of two values, by a condition. -/
  | conditional (condition positive negative : Compiled)
deriving Inhabited

namespace Expr

/-- A member of the object `object` by the key `property`; both are given as written and
prepared. -/
def compiledMember (object property : Expr) (computed : Bool)
    (preparedObject preparedKey : Compiled) : Compiled :=
  match object, property, computed with
  | name "Math", property, computed => .constant (mathMember property computed)
  | _, name n, false => .memberAt preparedObject (.string n)
  | _, literal v, _ => .memberAt preparedObject v
  | _, _, _ => .memberOf preparedObject preparedKey

/-- An operation whose operands are prepared; the right one is also given as written. -/
def compiledBinary (op : BinaryOp) (right : Expr) (preparedLeft preparedRight : Compiled) :
    Compiled :=
  match op.patternKind?, right with
  | some kind, literal (.string pattern) => .matching preparedLeft (.ofPattern kind pattern)
  | some _, literal _ => .constant (.bool false)
  | _, _ => .binary op preparedLeft preparedRight

/-- A call of a name with prepared arguments.  A call of an unknown function is false. -/
def compiledCall (callee : String) (arguments : List Compiled) : Compiled :=
  match Callee.named? callee with
  | some (.builtin f) => .builtin f arguments
  | some (.math f) => .math f arguments
  | none => .constant (.bool false)

mutual

/-- Prepares an expression. -/
def compile : Expr → Compiled
  | name n => .field n
  | literal v => .constant v
  | record => .record
  | member object property computed =>
    compiledMember object property computed object.compile property.compile
  | list items => .list (compileAll items)
  | call callee arguments => compiledCall callee (compileAll arguments)
  | logical .and left right => .and left.compile right.compile
  | logical .or left right => .or left.compile right.compile
  | binary op left right => compiledBinary op right left.compile right.compile
  | unary op operand => .unary op operand.compile
  | conditional condition positive negative =>
    .conditional condition.compile positive.compile negative.compile

/-- Prepares several expressions. -/
def compileAll : List Expr → List Compiled
  | [] => []
  | e :: rest => e.compile :: compileAll rest

end

end Expr

namespace Compiled

mutual

/-- The value of a prepared expression on a record. -/
def value (record : Value) : Compiled → Value
  | constant v => v
  | field name => record.field name
  | .record => record
  | memberAt object key => (object.value record).member key
  | memberOf object key => (object.value record).member (key.value record)
  | list items => .list (values record items)
  | builtin f arguments => f.apply (values record arguments)
  | math f arguments => .number (f.apply ((values record arguments).map Value.toNumber))
  | and left right =>
    let v := left.value record
    if v.isTruthy then right.value record else v
  | or left right =>
    let v := left.value record
    if v.isTruthy then v else right.value record
  | binary op left right => op.apply (left.value record) (right.value record)
  | matching subject matcher => .bool (matcher.matchesValue (subject.value record))
  | unary op operand => op.apply (operand.value record)
  | conditional condition positive negative =>
    if (condition.value record).isTruthy then positive.value record else negative.value record

/-- The values of several prepared expressions on a record. -/
def values (record : Value) : List Compiled → List Value
  | [] => []
  | e :: rest => e.value record :: values record rest

end

end Compiled

end RecordFilter
