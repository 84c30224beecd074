/-
# Members of values

A map is looked up by key, a list and a string by position or by `length`.  All else has no members,
and a member that is not there is absent.
-/

import RecordFilter.Value.Coercion
import RecordFilter.Value.Text

namespace RecordFilter
namespace Value

/-- The member of a sequence that a key asks for: its length, or the element at a position. -/
def sequenceMember (elements : List α) (toValue : α → Value) (key : Value) : Value :=
  if key.text? = some "length" then ofCount elements.length
  else ((key.index?.bind fun i => elements[i]?).map toValue).getD absent

/-- The member of a value that a key asks for. -/
def member (v key : Value) : Value :=
  match v with
  | map fields => (fields.lookup key.propertyKey).getD absent
  | list items => sequenceMember items id key
  | string s => sequenceMember s.toList (fun c => string c.toString) key
  | _ => absent

end Value
end RecordFilter
