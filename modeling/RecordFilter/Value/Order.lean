/-
# Order of values

Two strings are ordered by their characters; all other pairs by the numbers that they stand for.
What is not a number is not ordered, and then no comparison holds.
-/

import RecordFilter.Value.Equality
import RecordFilter.Value.Coercion

namespace RecordFilter
namespace Value

/-- How two values compare, if they do. -/
def compare? : Value → Value → Option Ordering
  | string s, string t => some (if s < t then .lt else if s = t then .eq else .gt)
  | v, w => Binary64.compare? v.toNumber w.toNumber

/-- Whether the first value is less. -/
def less (v w : Value) : Bool := v.compare? w == some .lt

/-- Whether the first value is greater. -/
def greater (v w : Value) : Bool := v.compare? w == some .gt

/-- Whether the first value is less or of the same rank. -/
def lessOrSame (v w : Value) : Bool :=
  v.compare? w == some .lt || v.compare? w == some .eq

/-- Whether the first value is greater or of the same rank. -/
def greaterOrSame (v w : Value) : Bool :=
  v.compare? w == some .gt || v.compare? w == some .eq

/-- Whether the second value is a list with an item equal to the first. -/
def isIn (needle haystack : Value) : Bool :=
  match haystack with
  | list items => items.any fun item => item == needle
  | _ => false

end Value
end RecordFilter
