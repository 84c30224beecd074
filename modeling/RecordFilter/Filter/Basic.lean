/-
# Filters

A filter is a prepared expression together with the text it was read from, if it was read from one.
It keeps the records on which the expression counts as true.  A text with a mistake is found out
before any record is looked at.
-/

import RecordFilter.Expr.Parser
import RecordFilter.Filter.Compiled

namespace RecordFilter

/-- A prepared expression that knows its text. -/
structure Filter where
  /-- The text that the expression was read from. -/
  source : Option String
  /-- The prepared expression. -/
  root : Compiled
deriving Inhabited

namespace Filter

/-- The filter of an expression. -/
def ofExpr (e : Expr) : Filter := ⟨none, e.compile⟩

/-- The filter of a text, whose expression has at most `limit` levels. -/
def ofText (limit : Nat) (text : String) : Except SyntaxError Filter :=
  (Expr.parse limit text).map fun e => ⟨some text, e.compile⟩

/-- The value of the expression on a record. -/
def value (f : Filter) (record : Value) : Value := f.root.value record

/-- Whether a filter keeps a record. -/
def keeps (f : Filter) (record : Value) : Bool := (f.value record).isTruthy

/-- The records that a filter keeps, in order. -/
def apply (f : Filter) (records : List Value) : List Value := records.filter f.keeps

/-- The records on which the expression of a text counts as true, in order. -/
def select (text : String) (records : List Value) : Except SyntaxError (List Value) :=
  (ofText Expr.defaultLimit text).map fun f => f.apply records

end Filter

end RecordFilter
