/-
# Operators on values

What the operator signs of expressions compute.  Arithmetic works on the numbers that values stand
for, bitwise operators on their words.  Strict and plain equality are the same, as equality never
converts.
-/

import RecordFilter.Operator.Comparison
import RecordFilter.Number.Function
import RecordFilter.Expr.Basic

namespace RecordFilter

namespace Value

/-- The distance of a shift: the lowest five bits of a word. -/
def shiftCount (v : Value) : UInt32 := v.toWord % 32

end Value

namespace BinaryOp

/-- The kind of pattern that an operator has on its right. -/
def patternKind? : BinaryOp → Option PatternKind
  | regexMatch => some .search
  | globMatch => some .glob
  | _ => none

/-- The value of an operation. -/
def apply (op : BinaryOp) (v w : Value) : Value :=
  match op with
  | equal | strictEqual => .bool (Comparison.equal.holds v w)
  | notEqual | strictNotEqual => .bool !(Comparison.equal.holds v w)
  | less => .bool (Comparison.less.holds v w)
  | lessOrEqual => .bool (Comparison.lessOrEqual.holds v w)
  | greater => .bool (Comparison.greater.holds v w)
  | greaterOrEqual => .bool (Comparison.greaterOrEqual.holds v w)
  | isIn => .bool (Comparison.isIn.holds v w)
  | regexMatch => .bool ((Comparison.matchesPattern .search).holds v w)
  | globMatch => .bool ((Comparison.matchesPattern .glob).holds v w)
  | bitAnd => .ofSignedWord (v.toSignedWord &&& w.toSignedWord)
  | bitOr => .ofSignedWord (v.toSignedWord ||| w.toSignedWord)
  | bitXor => .ofSignedWord (v.toSignedWord ^^^ w.toSignedWord)
  | shiftLeft => .ofSignedWord (v.toSignedWord <<< w.shiftCount.toInt32)
  | shiftRight => .ofSignedWord (v.toSignedWord >>> w.shiftCount.toInt32)
  | unsignedShiftRight => .ofWord (v.toWord >>> w.shiftCount)
  | add => .number (v.toNumber + w.toNumber)
  | subtract => .number (v.toNumber - w.toNumber)
  | multiply => .number (v.toNumber * w.toNumber)
  | divide => .number (v.toNumber / w.toNumber)
  | modulo => .number (Binary64.remainder v.toNumber w.toNumber)
  | power => .number (MathFunction.power v.toNumber w.toNumber)

end BinaryOp

namespace UnaryOp

/-- The value of an operation. -/
def apply (op : UnaryOp) (v : Value) : Value :=
  match op with
  | not => .bool !v.isTruthy
  | negate => .number (-v.toNumber)
  | bitNot => .ofSignedWord (~~~v.toSignedWord)
  | plus => .number v.toNumber

end UnaryOp

end RecordFilter
