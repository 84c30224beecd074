/-
# Pieces of JSON

Reading JSON takes one piece after the other off the front of a text: blanks, words, strings and
numbers.  What is wrong with a text is one of three things (`Json.Defect`), and the first thing
wrong counts.

A number is kept as it is written (`Json.Numeral`) until its value is asked for.  The value is that
of its leading digits, at most those that fit into 64 bits, times or divided by a power of ten, each
step rounded; a number that becomes infinite that way is refused.
-/

import RecordFilter.Number.Numeral
import RecordFilter.Unicode.CodeSet

namespace RecordFilter
namespace Json

-- Powers and sums are those of the core library, whatever else is imported.
attribute [local instance (1100)] instPowNat Zero.ofOfNat0

/-- What is wrong with a text. -/
inductive Defect where
  /-- The text ends too early. -/
  | ended
  /-- The text is not JSON. -/
  | malformed
  /-- The text is JSON but not of the type asked for. -/
  | mismatched
deriving DecidableEq, Repr

/-- Reads something off the front of a text. -/
abbrev Read (α : Type) := List Char → Except Defect (α × List Char)

/-- Whether a character may stand between the pieces. -/
def isBlank (c : Char) : Bool := c == ' ' || c == '\n' || c == '\t' || c == '\r'

/-- A text without the blanks in front of it. -/
def skipBlanks (cs : List Char) : List Char := cs.dropWhile isBlank

/-- Takes a word off the front of a text. -/
def word : (expected : List Char) → List Char → Except Defect (List Char)
  | [], cs => .ok cs
  | _ :: _, [] => .error .ended
  | e :: es, c :: cs => if c = e then word es cs else .error .malformed

/-! ### Strings -/

/-- The number of four hexadecimal digits. -/
def codeUnit? (a b c d : Char) : Option Nat :=
  [a, b, c, d].foldl
    (fun n x => n.bind fun n => (CodeSet.hexDigit? x).map fun d => n * 16 + d) (some 0)

/-- What is wrong where four hexadecimal digits should stand: the text has to go on for four
bytes. -/
def digitDefect (cs : List Char) : Defect :=
  if ((cs.take 4).map Char.utf8Size).sum < 4 then .ended else .malformed

/-- Takes four hexadecimal digits off the front of a text. -/
def codeUnit : Read Nat
  | a :: b :: c :: d :: rest =>
    match codeUnit? a b c d with
    | some n => .ok (n, rest)
    | none => .error (digitDefect (a :: b :: c :: d :: rest))
  | cs => .error (digitDefect cs)

/-- Whether a number is the first half of a character beyond `FFFF`. -/
def isHighHalf (n : Nat) : Bool := decide (0xD800 ≤ n) && decide (n ≤ 0xDBFF)

/-- Whether a number is the second half of a character beyond `FFFF`. -/
def isLowHalf (n : Nat) : Bool := decide (0xDC00 ≤ n) && decide (n ≤ 0xDFFF)

/-- The second half of a character, written as an escape of its own. -/
def lowHalf : Read Nat
  | [] | ['\\'] => .error .ended
  | '\\' :: 'u' :: rest =>
    match codeUnit rest with
    | .ok (n, rest) => if isLowHalf n then .ok (n, rest) else .error .malformed
    | .error e => .error e
  | _ => .error .malformed

/-- The character that follows `\u`.  Unless halves have to be `paired`, each stands for some
character by itself. -/
def unicodeEscape (paired : Bool) : Read Char := fun cs =>
  match codeUnit cs with
  | .error e => .error e
  | .ok (n, rest) =>
    if !paired then .ok (.ofNat n, rest)
    else if isLowHalf n then .error .malformed
    else if isHighHalf n then
      match lowHalf rest with
      | .ok (m, rest) => .ok (.ofNat (0x10000 + (n - 0xD800) * 0x400 + (m - 0xDC00)), rest)
      | .error e => .error e
    else .ok (.ofNat n, rest)

/-- The character that a letter after a backslash stands for. -/
def letterEscape? : Char → Option Char
  | '"' => some '"'
  | '\\' => some '\\'
  | '/' => some '/'
  | 'b' => some '\x08'
  | 'f' => some '\x0C'
  | 'n' => some '\n'
  | 'r' => some '\r'
  | 't' => some '\t'
  | _ => none

/-- The character that follows a backslash. -/
def escape (paired : Bool) : Read Char
  | [] => .error .ended
  | 'u' :: rest => unicodeEscape paired rest
  | c :: rest =>
    match letterEscape? c with
    | some d => .ok (d, rest)
    | none => .error .malformed

/-- The characters of a string up to its closing quote, in at most `limit` steps. -/
def charsUpTo (paired : Bool) : (limit : Nat) → Read (List Char)
  | _, [] => .error .ended
  | 0, _ => .error .ended
  | limit + 1, c :: rest =>
    if c = '"' then .ok ([], rest)
    else if c < ' ' then .error .malformed
    else
      match if c = '\\' then escape paired rest else .ok (c, rest) with
      | .error e => .error e
      | .ok (d, rest) =>
        match charsUpTo paired limit rest with
        | .ok (ds, rest) => .ok (d :: ds, rest)
        | .error e => .error e

/-- A string, after its opening quote. -/
def stringBody : Read String := fun cs =>
  (charsUpTo true cs.length cs).map fun (chars, rest) => (.ofList chars, rest)

/-- Passes over a string, after its opening quote. -/
def skipString (cs : List Char) : Except Defect (List Char) :=
  (charsUpTo false cs.length cs).map fun (_, rest) => rest

/-! ### Numbers -/

/-- A number as it is written. -/
structure Numeral where
  /-- Whether a minus sign stands in front. -/
  negative : Bool
  /-- The digits before the point. -/
  whole : List Char
  /-- The digits after the point; none if there is no point. -/
  fraction : List Char
  /-- Whether the exponent is negative, and its digits. -/
  exponent : Option (Bool × List Char)
deriving DecidableEq, Repr

namespace Numeral

open RecordFilter.Numeral (isDigit digits afterDigits startsWithDigit takeSign)

/-- Takes a run of digits, at least one, off the front of a text. -/
def someDigits : Read (List Char)
  | [] => .error .ended
  | cs => if startsWithDigit cs then .ok (digits cs, afterDigits cs) else .error .malformed

/-- The digits before the point: no other follows a leading zero. -/
def wholePart : Read (List Char)
  | '0' :: rest => if startsWithDigit rest then .error .malformed else .ok (['0'], rest)
  | cs => someDigits cs

/-- The digits after the point, if there is one. -/
def fractionPart : Read (List Char)
  | '.' :: rest => someDigits rest
  | cs => .ok ([], cs)

/-- The exponent, if there is one. -/
def exponentPart : Read (Option (Bool × List Char))
  | [] => .ok (none, [])
  | c :: rest =>
    if c = 'e' ∨ c = 'E' then
      let (negative, rest) := takeSign rest
      (someDigits rest).map fun (ds, rest) => (some (negative, ds), rest)
    else .ok (none, c :: rest)

/-- Takes a number off the front of a text. -/
def read : Read Numeral := fun cs => do
  let (negative, cs) :=
    match cs with
    | '-' :: rest => (true, rest)
    | _ => (false, cs)
  let (whole, cs) ← wholePart cs
  let (fraction, cs) ← fractionPart cs
  let (exponent, cs) ← exponentPart cs
  return (⟨negative, whole, fraction, exponent⟩, cs)

/-- A whole number of at most 64 bits, and the power of ten that it is multiplied by; `full` tells
that no more digits fit. -/
structure Leading where
  /-- The leading digits. -/
  digits : Nat
  /-- The power of ten. -/
  exponent : Int
  /-- Whether a digit was left out. -/
  full : Bool

/-- The leading digits with one more, if it fits. -/
def Leading.push? (l : Leading) (c : Char) : Option Nat :=
  let n := l.digits * 10 + (c.toNat - '0'.toNat)
  if !l.full && decide (n < 2 ^ (64 : Nat)) then some n else none

/-- The leading digits with a digit before the point, which counts even if it does not fit. -/
def Leading.pushWhole (l : Leading) (c : Char) : Leading :=
  match l.push? c with
  | some n => ⟨n, l.exponent, false⟩
  | none => ⟨l.digits, l.exponent + 1, true⟩

/-- The leading digits with a digit after the point, which is dropped if it does not fit. -/
def Leading.pushFraction (l : Leading) (c : Char) : Leading :=
  match l.push? c with
  | some n => ⟨n, l.exponent - 1, false⟩
  | none => { l with full := true }

/-- The leading digits of a number. -/
def leading (n : Numeral) : Leading :=
  let whole := n.whole.foldl Leading.pushWhole ⟨0, 0, false⟩
  n.fraction.foldl Leading.pushFraction { whole with full := false }

/-- The power of ten as a double. -/
def powerOfTen (n : Nat) : Float := Decimal.toFloat ⟨1, n⟩

/-- A double times a power of ten, or `none` if that is infinite. -/
def scale? (x : Float) : (exponent : Int) → Option Float
  | .ofNat e =>
    if x == 0.0 then some x
    else if e ≤ 308 then
      let y := x * powerOfTen e
      if y.isInf then none else some y
    else none
  | .negSucc e =>
    let e := e + 1
    if e ≤ 308 then some (x / powerOfTen e)
    else if e ≤ 616 then some (x / powerOfTen 308 / powerOfTen (e - 308))
    else some 0.0

/-- The absolute value of a number, or `none` if it is too large. -/
def magnitude? (n : Numeral) : Option Float :=
  let l := n.leading
  let x := Binary64.ofInt l.digits
  match n.exponent with
  | none => scale? x l.exponent
  | some (negative, ds) =>
    let e := Decimal.ofDigits ds
    if e < 2 ^ (31 : Nat) then scale? x (l.exponent + if negative then -(e : Int) else e)
    else if l.digits = 0 ∨ negative then some 0.0
    else none

/-- The value of a number, or `none` if it is too large. -/
def value? (n : Numeral) : Option Float :=
  n.magnitude?.map fun x => if n.negative then -x else x

/-- The count that a number writes: a whole number of at most 64 bits without point, exponent or
sign. -/
def count? (n : Numeral) : Option Nat :=
  let d := Decimal.ofDigits n.whole
  if !n.negative && n.fraction.isEmpty && n.exponent.isNone && decide (d < 2 ^ (64 : Nat)) then
    some d
  else none

end Numeral

/-- Takes a number off the front of a text, with its value. -/
def number : Read (Numeral × Float) := fun cs =>
  match Numeral.read cs with
  | .error e => .error e
  | .ok (n, rest) =>
    match n.value? with
    | some x => .ok ((n, x), rest)
    | none => .error .malformed

end Json
end RecordFilter
