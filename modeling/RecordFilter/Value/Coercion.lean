/-
# Values as numbers

Arithmetic and order work on numbers, so every value has one (`Value.toNumber`): what has no
sensible number is not a number.  A string is read as a decimal, or as one of the three spellings of
an infinity, after white space at both ends is removed; the other names of doubles are kept out by
their letters (`Value.hasOtherLetter`).  Bitwise operators work on words of 32 bits, the number cut
to a whole and taken modulo `2 ^ 32` (`Value.toWord`).
-/

import RecordFilter.Value.Basic
import RecordFilter.Number.Numeral
import RecordFilter.Unicode.Character

namespace RecordFilter
namespace Value

-- Powers are those of the core library, whatever else is imported.
attribute [local instance (1100)] instPowNat

/-- A text without white space at its ends. -/
def trimmed (cs : List Char) : List Char :=
  (((cs.dropWhile Unicode.isWhiteSpace).reverse).dropWhile Unicode.isWhiteSpace).reverse

/-- Whether a text holds a letter of one byte that no decimal is written with. -/
def hasOtherLetter (cs : List Char) : Bool := cs.any fun c => c.isAlpha && c ≠ 'e' && c ≠ 'E'

/-- The number that a string stands for.  An empty one stands for zero. -/
def numberOfText (s : String) : Float :=
  let cs := trimmed s.toList
  if cs = [] then 0.0
  else if cs = "Infinity".toList ∨ cs = "+Infinity".toList then Binary64.infinity
  else if cs = "-Infinity".toList then Binary64.negativeInfinity
  else if hasOtherLetter cs then Binary64.nan
  else (Numeral.double? cs).getD Binary64.nan

/-- The number that a value stands for. -/
def toNumber : Value → Float
  | number x => x
  | bool true => 1.0
  | bool false | null => 0.0
  | absent | map _ => Binary64.nan
  | string s => numberOfText s
  | list [] => 0.0
  | list [v] => v.toNumber
  | list (_ :: _ :: _) => Binary64.nan

/-- The word that a value stands for. -/
def toWord (v : Value) : UInt32 := Binary64.word v.toNumber

/-- The word that a value stands for, with its highest bit as a sign. -/
def toSignedWord (v : Value) : Int32 := v.toWord.toInt32

/-- The number of a word. -/
def ofWord (w : UInt32) : Value := number (Binary64.ofInt w.toNat)

/-- The number of a word whose highest bit is a sign. -/
def ofSignedWord (w : Int32) : Value := number (Binary64.ofInt w.toInt)

/-- The number of a count. -/
def ofCount (n : Nat) : Value := number (Binary64.ofInt n)

/-- The position that a value asks for: a whole number that is not negative, or a text of digits,
which may start with a plus sign.  Positions have 64 bits. -/
def index? : Value → Option Nat
  | number x =>
    match Binary64.whole? x with
    | some n => if 0 ≤ n ∧ n < 2 ^ (64 : Nat) then some n.toNat else none
    | none => none
  | string s =>
    let ds :=
      match s.toList with
      | '+' :: rest => rest
      | cs => cs
    if !ds.isEmpty && ds.all Numeral.isDigit && decide (Decimal.ofDigits ds < 2 ^ (64 : Nat)) then
      some (Decimal.ofDigits ds)
    else none
  | _ => none

end Value
end RecordFilter
