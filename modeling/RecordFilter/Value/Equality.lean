/-
# Equality of values

Two values are equal when they are of one kind and hold equal things: the two zeros are equal, what
is not a number equals itself, and the order of the fields of a map does not count.
-/

import RecordFilter.Value.Basic
import RecordFilter.Number.Binary64

namespace RecordFilter
namespace Value

mutual

/-- Whether two values are equal. -/
def equal : Value → Value → Bool
  | null, null => true
  | absent, absent => true
  | bool a, bool b => a == b
  | number x, number y => Binary64.same x y
  | string s, string t => s == t
  | list xs, list ys => equalItems xs ys
  | map fs, map gs => fs.length == gs.length && fieldsIn fs gs
  | _, _ => false

/-- Whether two lists hold equal items in one order. -/
def equalItems : List Value → List Value → Bool
  | [], [] => true
  | x :: xs, y :: ys => equal x y && equalItems xs ys
  | _, _ => false

/-- Whether each field of the first list is in the second, with an equal value. -/
def fieldsIn : List (String × Value) → List (String × Value) → Bool
  | [], _ => true
  | (name, v) :: rest, gs =>
    (match gs.lookup name with
      | some w => equal v w
      | none => false) && fieldsIn rest gs

end

/-- Values are compared by `equal`. -/
instance : BEq Value := ⟨equal⟩

end Value
end RecordFilter
