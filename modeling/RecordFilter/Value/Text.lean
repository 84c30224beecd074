/-
# Values as text

A value is shown much like JSON, with `undefined` for what is absent and with the usual names of the
numbers that JSON lacks.  The same text, without quotes around a string, is the key under which a
value looks up a field (`Value.propertyKey`).
-/

import RecordFilter.Value.Basic
import RecordFilter.Number.Layout
import RecordFilter.Text.Escape

namespace RecordFilter
namespace Value

/-- A number inside a value's text never has an exponent, and a zero never a sign. -/
def numberLayout : Number.Layout where
  leastPlain := none
  greatestPlain := none
  pointed := false
  tie := .up
  signedZero := false
  infinity := "Infinity"

/-- The text of a number. -/
def numberText (x : Float) : String := numberLayout.render x

mutual

/-- The characters of a value's text. -/
def shown : Value → List Char
  | null => ['n', 'u', 'l', 'l']
  | absent => "undefined".toList
  | bool true => ['t', 'r', 'u', 'e']
  | bool false => ['f', 'a', 'l', 's', 'e']
  | number x => (numberText x).toList
  | string s => Text.quotedBy Text.shownChar s
  | list items => '[' :: (shownItems items ++ [']'])
  | map fields => '\x7b' :: (shownFields fields ++ ['\x7d'])

/-- The characters of the items of a list, with commas between them. -/
def shownItems : List Value → List Char
  | [] => []
  | [v] => v.shown
  | v :: rest => v.shown ++ ',' :: shownItems rest

/-- The characters of the fields of a map, with commas between them. -/
def shownFields : List (String × Value) → List Char
  | [] => []
  | [(name, v)] => Text.quotedBy Text.shownChar name ++ ':' :: v.shown
  | (name, v) :: rest =>
    Text.quotedBy Text.shownChar name ++ ':' :: (v.shown ++ ',' :: shownFields rest)

end

/-- The text of a value. -/
def text (v : Value) : String := .ofList v.shown

/-- The key under which a value looks up a field: a string itself, and the text of any other
value. -/
def propertyKey : Value → String
  | string s => s
  | v => v.text

end Value
end RecordFilter
