/-
# Functions of values

The functions that expressions call by a plain name: the comparisons, `typeof`, and the two
quantifiers `all` and `any`, which apply a comparison to each item of a list.  An argument that is
missing is absent.
-/

import RecordFilter.Operator.Comparison

namespace RecordFilter

/-- A function that can be called by a plain name. -/
inductive Builtin where
  /-- A test on two values. -/
  | comparison (comparison : Comparison)
  /-- The kind of a value. -/
  | typeof
  /-- Whether a comparison holds of every item of a list. -/
  | all
  /-- Whether a comparison holds of some item of a list. -/
  | any
deriving DecidableEq, Repr

namespace Builtin

/-- The name under which a function is called. -/
def name : Builtin → String
  | comparison c => c.name
  | typeof => "typeof"
  | all => "all"
  | any => "any"

/-- All functions. -/
def table : List Builtin := Comparison.all.map comparison ++ [typeof, all, any]

/-- The function with a name. -/
def named? (name : String) : Option Builtin := table.find? fun f => f.name = name

/-- An argument by position. -/
def argument (arguments : List Value) (i : Nat) : Value := arguments[i]?.getD .absent

/-- The comparison and the items that a quantifier is about, if its first two arguments are the name
of a comparison and a list. -/
def quantified? (arguments : List Value) : Option (Comparison × List Value) :=
  match (argument arguments 0).text?.bind Comparison.named?, (argument arguments 1).items? with
  | some c, some items => some (c, items)
  | _, _ => none

/-- The value of a call. -/
def apply (f : Builtin) (arguments : List Value) : Value :=
  match f with
  | comparison c => .bool (c.holds (argument arguments 0) (argument arguments 1))
  | typeof => .string (argument arguments 0).kindName
  | all =>
    .bool ((quantified? arguments).any fun (c, items) =>
      items.all fun item => c.holds item (argument arguments 2))
  | any =>
    .bool ((quantified? arguments).any fun (c, items) =>
      items.any fun item => c.holds item (argument arguments 2))

end Builtin

end RecordFilter
