/-
# Numbers as text

A text that holds numbers decides where the point stands, from which size on an exponent is
written, and what stands for zero and for what is not finite.  Those decisions are one `Layout`;
`Layout.render` writes a double by it, from the fewest digits that read back.
-/

import RecordFilter.Number.Decimal

namespace RecordFilter
namespace Number

open Float.Model (UnpackedFloat)

/-- The decisions of a text about the numbers in it. -/
structure Layout where
  /-- The least exponent of a leading digit for which no exponent is written, if there is one. -/
  leastPlain : Option Int
  /-- The greatest exponent of a leading digit for which no exponent is written, if there is
  one. -/
  greatestPlain : Option Int
  /-- Whether a whole number gets a point and a zero. -/
  pointed : Bool
  /-- Which neighbour a value between two shortest decimals goes to. -/
  tie : Decimal.Tie
  /-- Whether a negative zero shows its sign. -/
  signedZero : Bool
  /-- The text of an infinity, without its sign. -/
  infinity : String

namespace Layout

/-- Whether a number whose leading digit stands for `10 ^ exponent` is written without exponent. -/
def isPlain (layout : Layout) (exponent : Int) : Bool :=
  layout.leastPlain.all (fun e => decide (e ≤ exponent)) &&
    layout.greatestPlain.all (fun e => decide (exponent ≤ e))

/-- Digits with the point where it belongs. -/
def plain (layout : Layout) (digits : List Char) (exponent : Int) : List Char :=
  match exponent with
  | .ofNat e =>
    digits ++ List.replicate e '0' ++ if layout.pointed then ['.', '0'] else []
  | .negSucc e =>
    let places := e + 1
    if places < digits.length then
      digits.take (digits.length - places) ++ '.' :: digits.drop (digits.length - places)
    else
      '0' :: '.' :: (List.replicate (places - digits.length) '0' ++ digits)

/-- Digits with a point after the first one, and the exponent of that. -/
def scientific (digits : List Char) (leading : Int) : List Char :=
  let mantissa :=
    match digits with
    | first :: second :: rest => first :: '.' :: second :: rest
    | short => short
  let sign := if leading < 0 then '-' else '+'
  mantissa ++ 'e' :: sign :: Nat.toDigits 10 leading.natAbs

/-- A decimal by its digits. -/
def renderDecimal (layout : Layout) (d : Decimal) : List Char :=
  let digits := Nat.toDigits 10 d.digits
  let leading := d.exponent + digits.length - 1
  if layout.isPlain leading then layout.plain digits d.exponent else scientific digits leading

/-- The sign of a number, where it is written. -/
def sign : Float.Model.UnpackedFloat.Sign → List Char
  | .positive => []
  | .negative => ['-']

/-- The text of a double. -/
def render (layout : Layout) (x : Float) : String :=
  .ofList <|
    match Binary64.unpack x with
    | .notANumber => ['N', 'a', 'N']
    | .infinity s => sign s ++ layout.infinity.toList
    | .zero s =>
      (if layout.signedZero then sign s else []) ++ layout.plain ['0'] 0
    | .finite s m e _ => sign s ++ layout.renderDecimal (.shortest layout.tie m e)

end Layout

end Number
end RecordFilter
