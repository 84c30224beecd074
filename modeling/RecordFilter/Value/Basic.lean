/-
# Values

Records, literals and every result of an expression are values.  `absent` is what a look-up of a
missing field yields; it is not `null`, which a record may hold.  A map keeps its fields in the
order in which they were given; no key occurs twice in it (`Value.KeysDistinct`).
-/

namespace RecordFilter

/-- A dynamically typed value. -/
inductive Value where
  /-- The explicit null of a record. -/
  | null
  /-- The result of looking up what is not there. -/
  | absent
  /-- A truth value. -/
  | bool (value : Bool)
  /-- A number. -/
  | number (value : Float)
  /-- A text. -/
  | string (text : String)
  /-- A list of values. -/
  | list (items : List Value)
  /-- Named fields in order. -/
  | map (fields : List (String × Value))
deriving Inhabited

namespace Value

/-- The name of the kind of a value. -/
def kindName : Value → String
  | null => "null"
  | absent => "undefined"
  | bool _ => "boolean"
  | number _ => "number"
  | string _ => "string"
  | list _ => "array"
  | map _ => "object"

/-- The text of a string value. -/
def text? : Value → Option String
  | string s => some s
  | _ => none

/-- The items of a list value. -/
def items? : Value → Option (List Value)
  | list items => some items
  | _ => none

/-- The field of a map value with the given name. -/
def field? (name : String) : Value → Option Value
  | map fields => fields.lookup name
  | _ => none

/-- The field of a map value with the given name, absent if there is none. -/
def field (v : Value) (name : String) : Value := (v.field? name).getD absent

/-- The fields of a map with one more: a name that is there already keeps its place and gets the
new value. -/
def putField (name : String) (v : Value) : List (String × Value) → List (String × Value)
  | [] => [(name, v)]
  | (n, w) :: rest => if n = name then (n, v) :: rest else (n, w) :: putField name v rest

/-- Whether a value counts as true.  Zero, what is not a number, the empty text, null, absent and
false do not. -/
def isTruthy : Value → Bool
  | null | absent => false
  | bool b => b
  | number x => !(x == 0.0) && !x.isNaN
  | string s => s ≠ ""
  | list _ | map _ => true

mutual

/-- No map inside the value holds a key twice. -/
def KeysDistinct : Value → Prop
  | list items => AllKeysDistinct items
  | map fields => (fields.map Prod.fst).Nodup ∧ FieldsKeysDistinct fields
  | _ => True

/-- No map inside any of the values holds a key twice. -/
def AllKeysDistinct : List Value → Prop
  | [] => True
  | v :: rest => v.KeysDistinct ∧ AllKeysDistinct rest

/-- No map inside any of the field values holds a key twice. -/
def FieldsKeysDistinct : List (String × Value) → Prop
  | [] => True
  | (_, v) :: rest => v.KeysDistinct ∧ FieldsKeysDistinct rest

end

end Value

end RecordFilter
