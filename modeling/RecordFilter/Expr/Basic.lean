/-
# Expressions

The tree of a filter expression.  A member has its object and a property; `computed` tells the
bracketed form, whose property is evaluated, from the dotted form, whose property is a name.  A call
has the dotted name of what it calls, never an expression.
-/

import RecordFilter.Value.Basic

namespace RecordFilter

/-- The operators that stop at the operand that decides. -/
inductive LogicalOp where
  | and
  | or
deriving DecidableEq, Repr

/-- The operators that evaluate both operands. -/
inductive BinaryOp where
  | add
  | subtract
  | multiply
  | divide
  | modulo
  | power
  | equal
  | strictEqual
  | notEqual
  | strictNotEqual
  | less
  | lessOrEqual
  | greater
  | greaterOrEqual
  | isIn
  | regexMatch
  | globMatch
  | bitAnd
  | bitOr
  | bitXor
  | shiftLeft
  | shiftRight
  | unsignedShiftRight
deriving DecidableEq, Repr

/-- The operators in front of one operand. -/
inductive UnaryOp where
  | not
  | negate
  | bitNot
  | plus
deriving DecidableEq, Repr

namespace LogicalOp

/-- The spelling of an operator. -/
def symbol : LogicalOp → String
  | and => "&&"
  | or => "||"

/-- All logical operators. -/
def all : List LogicalOp := [and, or]

end LogicalOp

namespace BinaryOp

/-- The spelling of an operator. -/
def symbol : BinaryOp → String
  | add => "+"
  | subtract => "-"
  | multiply => "*"
  | divide => "/"
  | modulo => "%"
  | power => "**"
  | equal => "=="
  | strictEqual => "==="
  | notEqual => "!="
  | strictNotEqual => "!=="
  | less => "<"
  | lessOrEqual => "<="
  | greater => ">"
  | greaterOrEqual => ">="
  | isIn => "in"
  | regexMatch => "=~"
  | globMatch => "=*"
  | bitAnd => "&"
  | bitOr => "|"
  | bitXor => "^"
  | shiftLeft => "<<"
  | shiftRight => ">>"
  | unsignedShiftRight => ">>>"

/-- All binary operators. -/
def all : List BinaryOp := [
  add, subtract, multiply, divide, modulo, power, equal, strictEqual, notEqual, strictNotEqual,
  less, lessOrEqual, greater, greaterOrEqual, isIn, regexMatch, globMatch, bitAnd, bitOr, bitXor,
  shiftLeft, shiftRight, unsignedShiftRight]

end BinaryOp

namespace UnaryOp

/-- The spelling of an operator. -/
def symbol : UnaryOp → String
  | not => "!"
  | negate => "-"
  | bitNot => "~"
  | plus => "+"

/-- All unary operators. -/
def all : List UnaryOp := [not, negate, bitNot, plus]

end UnaryOp

/-- A filter expression. -/
inductive Expr where
  /-- A field of the record. -/
  | name (name : String)
  /-- A value that is written down. -/
  | literal (value : Value)
  /-- A member of an object. -/
  | member (object property : Expr) (computed : Bool)
  /-- A list of the values of expressions. -/
  | list (items : List Expr)
  /-- A call of a named function. -/
  | call (callee : String) (arguments : List Expr)
  /-- Conjunction or disjunction. -/
  | logical (op : LogicalOp) (left right : Expr)
  /-- An operation on two values. -/
  | binary (op : BinaryOp) (left right : Expr)
  /-- An operation on one value. -/
  | unary (op : UnaryOp) (operand : Expr)
  /-- The whole record. -/
  | record
  /-- One of two expressions, by a condition. -/
  | conditional (condition positive negative : Expr)
deriving Inhabited

namespace Expr

/-- The dotted name under which an expression can be called: a name, or a dotted member of such an
expression. -/
def calleeName? : Expr → Option String
  | name n => some n
  | member object (name property) false =>
      object.calleeName?.map fun root => root ++ "." ++ property
  | _ => none

mutual

/-- The number of levels of the tree.  The name of a dotted member is not a level. -/
def height : Expr → Nat
  | name _ | literal _ | record => 1
  | member object (name _) false => object.height + 1
  | member object property _ => max object.height property.height + 1
  | list items => heightOfAll items + 1
  | call _ arguments => heightOfAll arguments + 1
  | logical _ left right => max left.height right.height + 1
  | binary _ left right => max left.height right.height + 1
  | unary _ operand => operand.height + 1
  | conditional condition positive negative =>
    max condition.height (max positive.height negative.height) + 1

/-- The number of levels of the highest tree of a list. -/
def heightOfAll : List Expr → Nat
  | [] => 0
  | e :: rest => max e.height (heightOfAll rest)

end

end Expr

end RecordFilter
