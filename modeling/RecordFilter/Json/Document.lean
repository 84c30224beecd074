/-
# JSON documents

A document is a tree that JSON has a form for: its numbers are finite, nothing in it is absent, and
an object keeps its entries in the order of their keys.  A value becomes a document
(`Document.ofValue`), with null for what JSON has no form for, and a document a value
(`Document.toValue`).  Entries are put in one by one; a key that is there already gets the later
document.
-/

import RecordFilter.Value.Basic

namespace RecordFilter
namespace Json

/-! ### Entries in the order of their keys -/

/-- Entries in the order of their keys, with one more: a key that is there already gets the new
value. -/
def insertEntry {α : Type} (key : String) (a : α) : List (String × α) → List (String × α)
  | [] => [(key, a)]
  | (k, b) :: rest =>
    if key < k then (key, a) :: (k, b) :: rest
    else if key = k then (key, a) :: rest
    else (k, b) :: insertEntry key a rest

/-- Entries put one by one in the order of their keys. -/
def collectEntries {α : Type} (entries : List (String × α)) : List (String × α) :=
  entries.foldl (fun all e => insertEntry e.1 e.2 all) []

/-! ### Documents -/

/-- A tree that JSON has a form for. -/
inductive Document where
  /-- The null of JSON. -/
  | null
  /-- A truth value. -/
  | bool (value : Bool)
  /-- A number. -/
  | number (value : Float)
  /-- A text. -/
  | string (text : String)
  /-- An array of documents. -/
  | array (items : List Document)
  /-- Documents by key, in the order of the keys. -/
  | object (entries : List (String × Document))
deriving Inhabited

namespace Document

mutual

/-- The document of a value. -/
def ofValue : Value → Document
  | .null | .absent => null
  | .bool b => bool b
  | .number x => if x.isFinite then number x else null
  | .string s => string s
  | .list items => array (ofItems items)
  | .map fields => object (collectEntries (ofFields fields))

/-- The documents of the items of a list. -/
def ofItems : List Value → List Document
  | [] => []
  | v :: rest => ofValue v :: ofItems rest

/-- The documents of the fields of a map. -/
def ofFields : List (String × Value) → List (String × Document)
  | [] => []
  | (name, v) :: rest => (name, ofValue v) :: ofFields rest

end

mutual

/-- The value of a document. -/
def toValue : Document → Value
  | null => .null
  | bool b => .bool b
  | number x => .number x
  | string s => .string s
  | array items => .list (toItems items)
  | object entries =>
    .map ((toFields entries).foldl (fun fields f => Value.putField f.1 f.2 fields) [])

/-- The values of the items of an array. -/
def toItems : List Document → List Value
  | [] => []
  | d :: rest => d.toValue :: toItems rest

/-- The values of the entries of an object. -/
def toFields : List (String × Document) → List (String × Value)
  | [] => []
  | (key, d) :: rest => (key, d.toValue) :: toFields rest

end

end Document
end Json
end RecordFilter
