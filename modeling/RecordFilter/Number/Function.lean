/-
# Functions and constants of numbers

The namespace `Math` of expressions: named constants, and named functions of numbers.  A function
takes any number of arguments; one that is missing is not a number.
-/

import RecordFilter.Number.Binary64

namespace RecordFilter

/-- The named constants. -/
inductive MathConstant where
  | e
  | ln2
  | ln10
  | log2e
  | log10e
  | pi
  | sqrtHalf
  | sqrt2
deriving DecidableEq, Repr

namespace MathConstant

/-- The name of a constant. -/
def name : MathConstant → String
  | e => "E"
  | ln2 => "LN2"
  | ln10 => "LN10"
  | log2e => "LOG2E"
  | log10e => "LOG10E"
  | pi => "PI"
  | sqrtHalf => "SQRT1_2"
  | sqrt2 => "SQRT2"

/-- The value of a constant. -/
def value : MathConstant → Float
  | e => 2.718281828459045
  | ln2 => 0.6931471805599453
  | ln10 => 2.302585092994046
  | log2e => 1.4426950408889634
  | log10e => 0.4342944819032518
  | pi => 3.141592653589793
  | sqrtHalf => 0.7071067811865476
  | sqrt2 => 1.4142135623730951

/-- All constants. -/
def all : List MathConstant := [e, ln2, ln10, log2e, log10e, pi, sqrtHalf, sqrt2]

/-- The constant with a name. -/
def named? (name : String) : Option MathConstant := all.find? fun c => c.name = name

end MathConstant

/-- The named functions. -/
inductive MathFunction where
  | abs
  | acos
  | acosh
  | asin
  | asinh
  | atan
  | atanh
  | atan2
  | cbrt
  | ceil
  | clz32
  | cos
  | cosh
  | exp
  | expm1
  | floor
  | fround
  | hypot
  | log
  | log1p
  | log2
  | log10
  | max
  | min
  | pow
  | round
  | sign
  | sin
  | sinh
  | sqrt
  | tan
  | tanh
  | trunc
  | imul
deriving DecidableEq, Repr

namespace MathFunction

/-- The name of a function. -/
def name : MathFunction → String
  | abs => "abs"
  | acos => "acos"
  | acosh => "acosh"
  | asin => "asin"
  | asinh => "asinh"
  | atan => "atan"
  | atanh => "atanh"
  | atan2 => "atan2"
  | cbrt => "cbrt"
  | ceil => "ceil"
  | clz32 => "clz32"
  | cos => "cos"
  | cosh => "cosh"
  | exp => "exp"
  | expm1 => "expm1"
  | floor => "floor"
  | fround => "fround"
  | hypot => "hypot"
  | log => "log"
  | log1p => "log1p"
  | log2 => "log2"
  | log10 => "log10"
  | max => "max"
  | min => "min"
  | pow => "pow"
  | round => "round"
  | sign => "sign"
  | sin => "sin"
  | sinh => "sinh"
  | sqrt => "sqrt"
  | tan => "tan"
  | tanh => "tanh"
  | trunc => "trunc"
  | imul => "imul"

/-- All functions. -/
def all : List MathFunction := [
  abs, acos, acosh, asin, asinh, atan, atanh, atan2, cbrt, ceil, clz32, cos, cosh, exp, expm1,
  floor, fround, hypot, log, log1p, log2, log10, max, min, pow, round, sign, sin, sinh, sqrt, tan,
  tanh, trunc, imul]

/-- The function with a name. -/
def named? (name : String) : Option MathFunction := all.find? fun f => f.name = name

/-- The greatest of several numbers, or nothing sensible if one of them is not a number. -/
def maximum (xs : List Float) : Float :=
  if xs.any (·.isNaN) then Binary64.nan
  else xs.foldl (fun m x => if m < x then x else m) Binary64.negativeInfinity

/-- The least of several numbers, or nothing sensible if one of them is not a number. -/
def minimum (xs : List Float) : Float :=
  if xs.any (·.isNaN) then Binary64.nan
  else xs.foldl (fun m x => if x < m then x else m) Binary64.infinity

/-- A power.  A power with an exponent that is not a number is not one, and neither is an infinite
power of one or of minus one. -/
def power (base exponent : Float) : Float :=
  if exponent.isNaN || (base.abs == 1.0 && exponent.isInf) then Binary64.nan
  else Float.pow base exponent

/-- The nearest whole number, a half going up. -/
def roundHalfUp (x : Float) : Float :=
  if !x.isFinite || Binary64.isWhole x then x else Binary64.floor (x + 0.5)

/-- One with the sign of a number; a zero, and what is not a number, stay what they are. -/
def signOf (x : Float) : Float :=
  if x.isNaN || x == 0.0 then x else if x < 0.0 then -1.0 else 1.0

/-- The power of `e` less one, exact where the power is close to one. -/
def expLessOne (x : Float) : Float :=
  let u := Float.exp x
  if u == 1.0 then x
  else if u == 0.0 then -1.0
  else if u.isInf then u
  else (u - 1.0) * x / Float.log u

/-- The logarithm of a number and one, exact where the number is close to zero. -/
def logOnePlus (x : Float) : Float :=
  let u := 1.0 + x
  if u == 1.0 then x
  else if u.isInf then Float.log u
  else Float.log u * x / (u - 1.0)

/-- The number with a hyperbolic cosine that is at least one.  The sum inside the logarithm is
infinite for the greatest doubles. -/
def areaCosine (x : Float) : Float :=
  if x < 1.0 then Binary64.nan
  else Float.log (x + Float.sqrt (x - 1.0) * Float.sqrt (x + 1.0))

/-- The number with a hyperbolic sine, exact where it is close to zero.  The sum inside the
logarithm is infinite for the greatest doubles. -/
def areaSine (x : Float) : Float :=
  let size := x.abs
  let inverse := 1.0 / size
  let sum := size + size / (Float.sqrt (1.0 + inverse * inverse) + inverse)
  if x == 0.0 then x else if x < 0.0 then -logOnePlus sum else logOnePlus sum

/-- The square root of a sum of squares. -/
def rootOfSquares (xs : List Float) : Float :=
  Float.sqrt (xs.foldl (fun sum x => sum + x * x) Binary64.negativeZero)

/-- The number of zero bits above the highest set bit of a word. -/
def leadingZeros (w : UInt32) : Nat :=
  if w = 0 then 32 else 31 - Nat.log2 w.toNat

/-- The value of a function. -/
def apply (f : MathFunction) (xs : List Float) : Float :=
  let x := xs[0]?.getD Binary64.nan
  let y := xs[1]?.getD Binary64.nan
  match f with
  | abs => x.abs
  | acos => x.acos
  | acosh => areaCosine x
  | asin => x.asin
  | asinh => areaSine x
  | atan => x.atan
  | atanh => x.atanh
  | atan2 => Float.atan2 x y
  | cbrt => Binary64.cubeRoot x
  | ceil => Binary64.ceiling x
  | clz32 => Binary64.ofInt (leadingZeros (Binary64.word x))
  | cos => x.cos
  | cosh => x.cosh
  | exp => x.exp
  | expm1 => expLessOne x
  | floor => Binary64.floor x
  | fround => x.toFloat32.toFloat
  | hypot => rootOfSquares xs
  | log => x.log
  | log1p => logOnePlus x
  | log2 => x.log2
  | log10 => x.log10
  | max => maximum xs
  | min => minimum xs
  | pow => power x y
  | round => roundHalfUp x
  | sign => signOf x
  | sin => x.sin
  | sinh => x.sinh
  | sqrt => x.sqrt
  | tan => x.tan
  | tanh => x.tanh
  | trunc => Binary64.truncate x
  | imul => Binary64.ofInt (Binary64.word x * Binary64.word y).toInt32.toInt

end MathFunction

end RecordFilter
