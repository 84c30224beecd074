/-
# Decimal numbers

A decimal is `digits · 10 ^ exponent`.  Reading one gives the nearest double (`Decimal.toFloat`).
Writing a double starts from the decimal with the fewest digits among those that read back to it,
and of those the nearest (`Decimal.shortest`); how the digits are laid out around the point is for
the text that they are written into (`RecordFilter.Number.Layout`).

The search works on exact whole numbers.  The reals that round to `m · 2 ^ q` reach half a step up
and half a step down, and a quarter step down where `m` is the least mantissa of its exponent;
the ends belong to the double when `m` is even.  In quarter steps all of these are whole.
-/

import RecordFilter.Number.Binary64

namespace RecordFilter

-- Powers are those of the core library, whatever else is imported.
attribute [local instance (1100)] instPowNat

/-- The number `digits · 10 ^ exponent`. -/
structure Decimal where
  /-- The digits, as a whole number. -/
  digits : Nat
  /-- The power of ten. -/
  exponent : Int
deriving DecidableEq, Repr, Inhabited

namespace Decimal

/-- The nearest double. -/
def toFloat (d : Decimal) : Float :=
  match d.exponent with
  | .ofNat e => Float.ofScientific d.digits false e
  | .negSucc e => Float.ofScientific d.digits true (e + 1)

/-- The value of a run of decimal digits. -/
def ofDigits (cs : List Char) : Nat :=
  cs.foldl (fun n c => n * 10 + (c.toNat - '0'.toNat)) 0

/-- The decimal that a run of digits before the point and one after it write, times a power of
ten. -/
def ofParts (whole fraction : List Char) (exponent : Int) : Decimal :=
  ⟨ofDigits (whole ++ fraction), exponent - fraction.length⟩

/-- Moves trailing zeros of the digits into the exponent, at most `limit` of them. -/
def stripped : (limit : Nat) → Decimal → Decimal
  | 0, d => d
  | limit + 1, d =>
    if d.digits ≠ 0 && d.digits % 10 == 0 then stripped limit ⟨d.digits / 10, d.exponent + 1⟩ else d

/-- Which of two neighbours a value exactly between them goes to. -/
inductive Tie where
  /-- The greater one. -/
  | up
  /-- The one whose last digit is even. -/
  | even
deriving DecidableEq, Repr

/-- The reals that round to a double, against multiples of a power of ten, all scaled to whole
numbers. -/
structure Interval where
  /-- The least real that rounds to the double, or the limit of those. -/
  low : Nat
  /-- The double itself. -/
  value : Nat
  /-- The greatest real that rounds to the double, or the limit of those. -/
  high : Nat
  /-- Whether the two ends round to the double. -/
  closed : Bool
  /-- The power of ten. -/
  step : Nat

namespace Interval

/-- Whether a multiple of the step reads back to the double. -/
def holds (i : Interval) (n : Nat) : Bool :=
  let x := n * i.step
  if i.closed then decide (i.low ≤ x) && decide (x ≤ i.high)
  else decide (i.low < x) && decide (x < i.high)

/-- The multiple of the step that reads back to the double and is nearest to it, if one does.  Only
the two neighbours of the value can be that. -/
def best? (tie : Tie) (i : Interval) : Option Nat :=
  let below := i.value / i.step
  let above := below + 1
  let toBelow := i.value - below * i.step
  let toAbove := above * i.step - i.value
  match i.holds below, i.holds above with
  | false, false => none
  | true, false => some below
  | false, true => some above
  | true, true =>
    if toBelow < toAbove then some below
    else if toAbove < toBelow then some above
    else
      match tie with
      | .up => some above
      | .even => some (if below % 2 == 0 then below else above)

end Interval

/-- The reals that round to the double `mantissa · 2 ^ exponent`, against multiples of
`10 ^ power`. -/
def interval (mantissa : Nat) (exponent power : Int) : Interval :=
  let scale := 2 ^ (exponent - 2).toNat * 10 ^ (-power).toNat
  let isLeast := mantissa == 2 ^ (52 : Nat) && decide (-1074 < exponent)
  { low := (4 * mantissa - if isLeast then 1 else 2) * scale
    value := 4 * mantissa * scale
    high := (4 * mantissa + 2) * scale
    closed := mantissa % 2 == 0
    step := 2 ^ (2 - exponent).toNat * 10 ^ power.toNat }

/-- The number of decimal digits of a whole number; none for zero. -/
def digitCount (n : Nat) : Nat :=
  if n = 0 then 0 else (Nat.toDigits 10 n).length

/-- The number `k` with `10 ^ (k - 1) ≤ mantissa · 2 ^ exponent < 10 ^ k`, for a positive double. -/
def magnitude (mantissa : Nat) (exponent : Int) : Int :=
  digitCount (mantissa * 2 ^ exponent.toNat * 10 ^ (400 : Nat) / 2 ^ (-exponent).toNat) - 400

/-- The first decimal of `count`, `count + 1`, … digits that reads back to the double; at most
`limit` counts are tried. -/
def search (tie : Tie) (mantissa : Nat) (exponent top : Int) : (limit count : Nat) → Decimal
  | 0, count => ⟨mantissa, top - count⟩
  | limit + 1, count =>
    match (interval mantissa exponent (top - count)).best? tie with
    | some digits => ⟨digits, top - count⟩
    | none => search tie mantissa exponent top limit (count + 1)

/-- The decimal with the fewest digits that reads back to the positive double
`mantissa · 2 ^ exponent`, and of those the nearest.  Seventeen digits always suffice. -/
def shortest (tie : Tie) (mantissa : Nat) (exponent : Int) : Decimal :=
  stripped 400 (search tie mantissa exponent (magnitude mantissa exponent) 17 1)

end Decimal

end RecordFilter
