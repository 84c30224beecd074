/-
# Numerals

A numeral is a run of decimal digits with at most one point in it, at least one digit, and after
that perhaps an exponent: `12`, `.5`, `12.`, `1.5e-3`.  The pieces are taken off the front of a text
one by one; `unsigned?` reads a whole text.  What is read as a double may have a sign, and may be
the name of an infinity or of what is not a number in place of a decimal (`double?`).
-/

import RecordFilter.Number.Decimal

namespace RecordFilter
namespace Numeral

/-- Whether a character is a decimal digit. -/
def isDigit (c : Char) : Bool := decide ('0' ≤ c) && decide (c ≤ '9')

/-- The longest run of digits in front of a text. -/
def digits (cs : List Char) : List Char := cs.takeWhile isDigit

/-- A text without the digits in front of it. -/
def afterDigits (cs : List Char) : List Char := cs.dropWhile isDigit

/-- Whether a text starts with a digit. -/
def startsWithDigit : List Char → Bool
  | c :: _ => isDigit c
  | [] => false

/-- Takes a plus or minus sign off the front of a text; `true` stands for minus. -/
def takeSign : List Char → Bool × List Char
  | '+' :: rest => (false, rest)
  | '-' :: rest => (true, rest)
  | cs => (false, cs)

/-- A run of digits with a sign, as a whole number. -/
def signedDigits (negative : Bool) (ds : List Char) : Int :=
  if negative then -(Decimal.ofDigits ds : Int) else Decimal.ofDigits ds

/-- The exponent that a text consists of, after its letter `e`. -/
def exponent? (cs : List Char) : Option Int :=
  let (negative, rest) := takeSign cs
  if startsWithDigit rest && (afterDigits rest).isEmpty then some (signedDigits negative rest)
  else none

/-- The decimal that a text without sign consists of. -/
def unsigned? (cs : List Char) : Option Decimal :=
  let whole := digits cs
  let (fraction, rest) :=
    match afterDigits cs with
    | '.' :: more => (digits more, afterDigits more)
    | more => ([], more)
  if whole.isEmpty && fraction.isEmpty then none
  else
    match rest with
    | [] => some (.ofParts whole fraction 0)
    | letter :: more =>
      if letter = 'e' ∨ letter = 'E' then (exponent? more).map (.ofParts whole fraction) else none

/-- The names of doubles that no decimal stands for. -/
def names : List (String × Float) := [
  ("inf", Binary64.infinity), ("infinity", Binary64.infinity), ("nan", Binary64.nan)]

/-- The double that a text names, in letters of either case. -/
def named? (cs : List Char) : Option Float := names.lookup (.ofList (cs.map Char.toLower))

/-- The double that a text stands for, with a sign or without one: the nearest to a decimal, or one
with a name. -/
def double? (cs : List Char) : Option Float :=
  let (negative, rest) := takeSign cs
  let magnitude := ((unsigned? rest).map Decimal.toFloat).or (named? rest)
  magnitude.map fun x => if negative then -x else x

end Numeral
end RecordFilter
