/-
# Doubles as exact numbers

A double is an infinity, a signed zero, not a number, or `± mantissa · 2 ^ exponent` with a positive
mantissa.  The operations here take a double apart into that form, compute with whole numbers, and
round the exact result once (`nearest`), so they need no rounding argument of their own where the
result is a double already: whole parts (`truncate`, `floor`, `ceiling`), remainders
(`remainder`) and cube roots (`cubeRoot`).
-/

namespace RecordFilter
namespace Binary64

-- Powers are those of the core library, whatever else is imported.
attribute [local instance (1100)] instPowNat

open Float.Model (UnpackedFloat)
open Float.Model.UnpackedFloat (Sign)

/-- The form of a double. -/
def unpack (x : Float) : UnpackedFloat := x.toModel.unpack

/-- The double nearest to `± mantissa · 2 ^ exponent`, a tie going to the even mantissa. -/
def nearest (sign : Sign) (mantissa : Nat) (exponent : Int) : Float :=
  if mantissa = 0 then .ofModel (.pack (.zero sign))
  else .ofModel (.pack (.round .binary64 sign mantissa exponent))

/-- The double nearest to a whole number. -/
def ofInt (n : Int) : Float :=
  nearest (if n < 0 then .negative else .positive) n.natAbs 0

/-- The double that is not a number. -/
def nan : Float := .ofModel (.pack .notANumber)

/-- The double above all others. -/
def infinity : Float := .ofModel (.pack (.infinity .positive))

/-- The double below all others. -/
def negativeInfinity : Float := .ofModel (.pack (.infinity .negative))

/-- The zero with a negative sign. -/
def negativeZero : Float := .ofModel (.pack (.zero .negative))

/-- The whole part and the lost fraction of `mantissa · 2 ^ exponent`, the fraction in units of
`2 ^ exponent`. -/
def splitScaled (mantissa : Nat) : (exponent : Int) → Nat × Nat
  | .ofNat e => (mantissa <<< e, 0)
  | .negSucc e => (mantissa >>> (e + 1), mantissa % 2 ^ (e + 1))

/-- A whole number with the given sign. -/
def signed (sign : Sign) (magnitude : Nat) : Int :=
  match sign with
  | .positive => magnitude
  | .negative => -magnitude

/-- The whole part of a finite double, cut towards zero. -/
def truncated? (x : Float) : Option Int :=
  match unpack x with
  | .notANumber | .infinity _ => none
  | .zero _ => some 0
  | .finite sign m e _ => some (signed sign (splitScaled m e).1)

/-- Whether a double is a whole number. -/
def isWhole (x : Float) : Bool :=
  match unpack x with
  | .notANumber | .infinity _ => false
  | .zero _ => true
  | .finite _ m e _ => (splitScaled m e).2 == 0

/-- The whole number that a double is, if it is one. -/
def whole? (x : Float) : Option Int :=
  if isWhole x then truncated? x else none

/-- Rounds a double to a whole number; `away` says, by the sign, whether a fraction moves the result
away from zero.  The sign of the double is kept, also by a zero. -/
def roundWhole (away : Sign → Bool) (x : Float) : Float :=
  match unpack x with
  | .finite sign m e _ =>
    let (whole, fraction) := splitScaled m e
    nearest sign (if fraction ≠ 0 && away sign then whole + 1 else whole) 0
  | _ => x

/-- The nearest whole number towards zero. -/
def truncate : Float → Float := roundWhole fun _ => false

/-- The greatest whole number that is not greater. -/
def floor : Float → Float := roundWhole fun sign => sign == .negative

/-- The least whole number that is not less. -/
def ceiling : Float → Float := roundWhole fun sign => sign == .positive

/-- What is left of `x` when whole multiples of `y` are taken away towards zero.  The result has the
sign of `x`. -/
def remainder (x y : Float) : Float :=
  match unpack x, unpack y with
  | .notANumber, _ | _, .notANumber | .infinity _, _ | _, .zero _ => nan
  | .zero _, _ | .finite .., .infinity _ => x
  | .finite sign m e _, .finite _ n f _ =>
    let least := min e f
    nearest sign ((m <<< (e - least).toNat) % (n <<< (f - least).toNat)) least

/-- The greatest whole number whose cube is at most `n`, built from `root` by setting its lowest
`bits` bits where they fit. -/
def cubeRootFrom (n : Nat) : (bits root : Nat) → Nat
  | 0, root => root
  | bits + 1, root =>
    let more := root + 2 ^ bits
    cubeRootFrom n bits (if more ^ (3 : Nat) ≤ n then more else root)

/-- The double nearest to the cube root of a number.  The root is taken of a whole number of at
least 163 bits, and a last bit tells whether something is left over. -/
def cubeRoot (x : Float) : Float :=
  match unpack x with
  | .finite sign m e _ =>
    let third := (e - 162) / 3
    let n := m <<< (e - 3 * third).toNat
    let root := cubeRootFrom n 80 0
    nearest sign (2 * root + if root ^ (3 : Nat) = n then 0 else 1) (third - 1)
  | _ => x

/-- Whether two doubles are the same number: the zeros are, and what is not a number is the same as
itself. -/
def same (x y : Float) : Bool :=
  x == y || (x.isNaN && y.isNaN)

/-- What is left of `x` modulo `y`.  A remainder below zero is raised by the absolute value of
`y`. -/
def euclideanRemainder (x y : Float) : Float :=
  let rest := remainder x y
  if rest < 0.0 then rest + y.abs else rest

/-- The word of 32 bits that a double stands for: its whole part modulo `2 ^ 32`, and zero for what
is not finite. -/
def word (x : Float) : UInt32 :=
  if x.isFinite then (euclideanRemainder (truncate x) (ofInt (2 ^ (32 : Nat)))).toUInt32 else 0

/-- How two doubles compare; nothing compares with what is not a number. -/
def compare? (x y : Float) : Option Ordering :=
  if x < y then some .lt
  else if x == y then some .eq
  else if y < x then some .gt
  else none

end Binary64
end RecordFilter
