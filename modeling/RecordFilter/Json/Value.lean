/-
# Values as JSON

Reading keeps the order of the fields of an object; a name that occurs again keeps its first place
and gets the later value.  Every number becomes a double.

Writing has no blanks.  Whole numbers between `-2 ^ 63` and `2 ^ 63` are written as integers, and
the greatest of them, which has no place in 64 bits with sign, as the one below it.  What JSON has
no form for is null.  In the second form (`Value.toSortedJson`) the fields are sorted by name, and
every number has a point or an exponent.
-/

import RecordFilter.Json.Document
import RecordFilter.Json.Structure
import RecordFilter.Value.Basic
import RecordFilter.Number.Layout
import RecordFilter.Text.Escape

namespace RecordFilter

-- Powers are those of the core library, whatever else is imported.
attribute [local instance (1100)] instPowNat

namespace Json

/-! ### Reading -/

/-- A value that is no array and no object. -/
def single : Read Value := fun cs =>
  match cs with
  | [] => .error .ended
  | 'n' :: _ => (null cs).map fun ((), cs) => (.null, cs)
  | 't' :: _ | 'f' :: _ => (bool cs).map fun (b, cs) => (.bool b, cs)
  | '"' :: rest => (stringBody rest).map fun (s, cs) => (.string s, cs)
  | c :: _ =>
    if c = '-' ∨ RecordFilter.Numeral.isDigit c then
      (number cs).map fun ((_, x), cs) => (.number x, cs)
    else .error .malformed

/-- An entry of an object: its value is put under its key. -/
def valueEntry (value : Read Value) (fields : List (String × Value)) (key : String) :
    Read (List (String × Value)) := fun cs =>
  match (colon cs).bind value with
  | .ok (v, cs) => .ok (Value.putField key v fields, cs)
  | .error e => .error e

/-- A value with at most `levels` levels of arrays and objects. -/
def value : (levels : Nat) → Read Value
  | 0, cs =>
    match skipBlanks cs with
    | '[' :: _ | '\x7b' :: _ => .error .malformed
    | cs => single cs
  | levels + 1, cs =>
    match skipBlanks cs with
    | '[' :: rest => (elements (value levels) rest).map fun (items, cs) => (.list items, cs)
    | '\x7b' :: rest =>
      (entries (valueEntry (value levels)) [] rest).map fun (fields, cs) => (.map fields, cs)
    | cs => single cs

end Json

namespace Value

/-- The value of a JSON text. -/
def ofJson (text : String) : Except Json.Defect Value :=
  Json.whole (Json.value Json.levelLimit) text

/-! ### Writing -/

/-- A number in JSON that is not written as an integer. -/
def jsonLayout : Number.Layout where
  leastPlain := some (-5)
  greatestPlain := some 15
  pointed := true
  tie := .even
  signedZero := true
  infinity := "null"

/-- The integer that a number is written as. -/
def jsonInteger? (x : Float) : Option Int :=
  match Binary64.whole? x with
  | some n =>
    if -2 ^ (63 : Nat) ≤ n ∧ n ≤ 2 ^ (63 : Nat) then some (min n (2 ^ (63 : Nat) - 1)) else none
  | none => none

/-- The characters of an integer. -/
def integerText (n : Int) : List Char :=
  (if n < 0 then ['-'] else []) ++ Nat.toDigits 10 n.natAbs

/-- The characters of a number with a point or an exponent; null for what is not finite. -/
def pointedText (x : Float) : List Char :=
  if x.isFinite then (jsonLayout.render x).toList else ['n', 'u', 'l', 'l']

/-- The characters of a number. -/
def numberJson (x : Float) : List Char :=
  match jsonInteger? x with
  | some n => integerText n
  | none => pointedText x

/-- The characters of a string. -/
def stringJson (s : String) : List Char := Text.quotedBy Text.jsonChar s

mutual

/-- The JSON of a value, with numbers written by `number`. -/
def written (number : Float → List Char) : Value → List Char
  | null | absent => ['n', 'u', 'l', 'l']
  | bool true => ['t', 'r', 'u', 'e']
  | bool false => ['f', 'a', 'l', 's', 'e']
  | .number x => number x
  | string s => stringJson s
  | list items => '[' :: (writtenItems number items ++ [']'])
  | map fields => '\x7b' :: (writtenFields number fields ++ ['\x7d'])

/-- The JSON of the items of a list, with commas between them. -/
def writtenItems (number : Float → List Char) : List Value → List Char
  | [] => []
  | [v] => v.written number
  | v :: rest => v.written number ++ ',' :: writtenItems number rest

/-- The JSON of the fields of a map, with commas between them. -/
def writtenFields (number : Float → List Char) : List (String × Value) → List Char
  | [] => []
  | [(name, v)] => stringJson name ++ ':' :: v.written number
  | (name, v) :: rest =>
    stringJson name ++ ':' :: (v.written number ++ ',' :: writtenFields number rest)

end

/-- The JSON of a value. -/
def toJson (v : Value) : String := .ofList (v.written numberJson)

/-! ### Sorted form -/

/-- The value of the document of a value: with null for what JSON has no form for, and with the
fields of every map sorted by name. -/
def sorted (v : Value) : Value := (Json.Document.ofValue v).toValue

/-- The JSON of the document of a value. -/
def toSortedJson (v : Value) : String := .ofList (v.sorted.written pointedText)

/-! ### With line breaks -/

/-- A line break and the indentation of a level. -/
def lineBreak (level : Nat) : List Char := '\n' :: List.replicate (2 * level) ' '

mutual

/-- The JSON of a value with each item and field on a line of its own. -/
def indented (level : Nat) : Value → List Char
  | list [] => ['[', ']']
  | map [] => ['\x7b', '\x7d']
  | list items => '[' :: (indentedItems (level + 1) items ++ lineBreak level ++ [']'])
  | map fields => '\x7b' :: (indentedFields (level + 1) fields ++ lineBreak level ++ ['\x7d'])
  | v => v.written numberJson

/-- The items of a list, each behind a line break, with commas between them. -/
def indentedItems (level : Nat) : List Value → List Char
  | [] => []
  | [v] => lineBreak level ++ v.indented level
  | v :: rest => lineBreak level ++ v.indented level ++ ',' :: indentedItems level rest

/-- The fields of a map, each behind a line break, with commas between them. -/
def indentedFields (level : Nat) : List (String × Value) → List Char
  | [] => []
  | [(name, v)] => lineBreak level ++ stringJson name ++ ':' :: ' ' :: v.indented level
  | (name, v) :: rest =>
    lineBreak level ++ stringJson name ++
      ':' :: ' ' :: (v.indented level ++ ',' :: indentedFields level rest)

end

/-- The JSON of a value with line breaks. -/
def toIndentedJson (v : Value) : String := .ofList (v.indented 0)

end Value

end RecordFilter
