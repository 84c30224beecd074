/-
# Comparisons

The tests on two values.  An expression reaches each of them by an operator sign, by a call of a
function, and by name inside `all` and `any`; the three ways end here.
-/

import RecordFilter.Value.Order
import RecordFilter.Pattern.Matcher

namespace RecordFilter

/-- A test on two values. -/
inductive Comparison where
  /-- Equality of structure. -/
  | equal
  /-- The first value is less. -/
  | less
  /-- The first value is greater. -/
  | greater
  /-- The first value is less or of the same rank. -/
  | lessOrEqual
  /-- The first value is greater or of the same rank. -/
  | greaterOrEqual
  /-- The second value is a list that holds the first. -/
  | isIn
  /-- The first value matches the second, a pattern. -/
  | matchesPattern (kind : PatternKind)
deriving DecidableEq, Repr

namespace Comparison

/-- The name under which a comparison is called. -/
def name : Comparison → String
  | equal => "eq"
  | less => "lt"
  | greater => "gt"
  | lessOrEqual => "lte"
  | greaterOrEqual => "gte"
  | isIn => "in"
  | matchesPattern .glob => "glob"
  | matchesPattern .search => "regx"

/-- All comparisons. -/
def all : List Comparison := [
  equal, less, greater, lessOrEqual, greaterOrEqual, isIn, matchesPattern .glob,
  matchesPattern .search]

/-- The comparison with a name. -/
def named? (name : String) : Option Comparison := all.find? fun c => c.name = name

/-- Whether a comparison holds of two values. -/
def holds : Comparison → Value → Value → Bool
  | equal, v, w => v == w
  | less, v, w => v.less w
  | greater, v, w => v.greater w
  | lessOrEqual, v, w => v.lessOrSame w
  | greaterOrEqual, v, w => v.greaterOrSame w
  | isIn, v, w => v.isIn w
  | matchesPattern kind, v, w => kind.holds v w

end Comparison

end RecordFilter
