/-
# Sets of characters

A set of characters is kept as closed ranges of code points, in ascending order, with a gap
between neighbours.  The standard publishes its properties as such ranges, and a character class
of a search pattern is one, so both are the same type here.

The tables of the standard are long, so they are written as text: the lengths, in hexadecimal, of
the stretches that lie outside and inside the set by turns, starting at code point 0 with a
stretch outside (`CodeSet.ofRunLengths`).

Surrogate code points are not characters.  `CodeSet.complement` therefore stays inside the two
stretches of code points that are (`CodeSet.everything`).
-/

namespace RecordFilter

/-- The code points from `first` to `last`, both included. -/
structure CodeRange where
  /-- The least code point of the range. -/
  first : Nat
  /-- The greatest code point of the range. -/
  last : Nat
deriving DecidableEq, Repr, Inhabited

namespace CodeRange

/-- Whether a code point lies in the range. -/
def contains (r : CodeRange) (code : Nat) : Bool :=
  decide (r.first ≤ code) && decide (code ≤ r.last)

/-- The code points that lie in both ranges, if there are any. -/
def meet? (r s : CodeRange) : Option CodeRange :=
  if max r.first s.first ≤ min r.last s.last then
    some ⟨max r.first s.first, min r.last s.last⟩
  else
    none

end CodeRange

/-- A set of code points, as ascending ranges with gaps between them. -/
structure CodeSet where
  /-- The ranges of the set. -/
  ranges : List CodeRange
deriving DecidableEq, Repr, Inhabited

namespace CodeSet

/-- Whether a code point is in the set. -/
def containsCode (s : CodeSet) (code : Nat) : Bool :=
  s.ranges.any (·.contains code)

/-- Whether a character is in the set. -/
def contains (s : CodeSet) (c : Char) : Bool :=
  s.containsCode c.toNat

/-- The set without members. -/
def empty : CodeSet := ⟨[]⟩

/-- The set of one range. -/
def range (first last : Nat) : CodeSet := ⟨[⟨first, last⟩]⟩

/-- The set of one character. -/
def singleton (c : Char) : CodeSet := range c.toNat c.toNat

/-- Every character: the code points up to `10FFFF` without the surrogates. -/
def everything : CodeSet := ⟨[⟨0, 0xD7FF⟩, ⟨0xE000, 0x10FFFF⟩]⟩

/-- The characters of one byte. -/
def ascii : CodeSet := range 0 0x7F

/-- Joins a range with those behind it that it overlaps or touches, in a list sorted by first code
point, and goes on with the next one. -/
def joinFrom (r : CodeRange) : List CodeRange → List CodeRange
  | [] => [r]
  | s :: rest =>
    if s.first ≤ r.last + 1 then joinFrom ⟨r.first, max r.last s.last⟩ rest
    else r :: joinFrom s rest

/-- Joins ranges that overlap or touch, in a list sorted by first code point. -/
def joinSorted : List CodeRange → List CodeRange
  | [] => []
  | r :: rest => joinFrom r rest

/-- The set of all code points of the given ranges, which may come in any order. -/
def ofRanges (ranges : List CodeRange) : CodeSet :=
  ⟨joinSorted (ranges.mergeSort fun r s => decide (r.first ≤ s.first))⟩

/-- The set of the given characters. -/
def ofChars (cs : List Char) : CodeSet :=
  ofRanges (cs.map fun c => ⟨c.toNat, c.toNat⟩)

/-- The code points of either set. -/
def union (s t : CodeSet) : CodeSet :=
  ofRanges (s.ranges ++ t.ranges)

/-- The code points of any of the sets. -/
def unions (sets : List CodeSet) : CodeSet :=
  ofRanges (sets.flatMap (·.ranges))

/-- The code points of both sets. -/
def inter (s t : CodeSet) : CodeSet :=
  ofRanges (s.ranges.flatMap fun r => t.ranges.filterMap r.meet?)

/-- The gaps from code point `start` on between ascending ranges. -/
def gapsFrom (start : Nat) : List CodeRange → List CodeRange
  | [] => if start ≤ 0x10FFFF then [⟨start, 0x10FFFF⟩] else []
  | r :: rest =>
    let after := gapsFrom (r.last + 1) rest
    if start < r.first then ⟨start, r.first - 1⟩ :: after else after

/-- The characters outside the set. -/
def complement (s : CodeSet) : CodeSet :=
  inter ⟨gapsFrom 0 s.ranges⟩ everything

/-- The code points of the first set that are not in the second. -/
def diff (s t : CodeSet) : CodeSet :=
  inter s t.complement

/-- The code points of exactly one of the two sets. -/
def symmDiff (s t : CodeSet) : CodeSet :=
  union (s.diff t) (t.diff s)

/-! ### Tables as text -/

/-- The value of a hexadecimal digit. -/
def hexDigit? (c : Char) : Option Nat :=
  if '0' ≤ c ∧ c ≤ '9' then some (c.toNat - '0'.toNat)
  else if 'a' ≤ c ∧ c ≤ 'f' then some (c.toNat - 'a'.toNat + 10)
  else if 'A' ≤ c ∧ c ≤ 'F' then some (c.toNat - 'A'.toNat + 10)
  else none

/-- The numbers of a text of hexadecimal numbers, each with a blank after it; `pending` is the
number whose digits are being read. -/
def hexNumbers : List Char → Option Nat → List Nat
  | [], none => []
  | [], some n => [n]
  | c :: rest, pending =>
    match hexDigit? c with
    | some d => hexNumbers rest (some (pending.getD 0 * 16 + d))
    | none =>
      match pending with
      | some n => n :: hexNumbers rest none
      | none => hexNumbers rest none

/-- Ranges from the lengths of the stretches outside and inside a set, from code point `start`. -/
def rangesOfRuns (start : Nat) : List Nat → List CodeRange
  | outside :: inside :: rest =>
    ⟨start + outside, start + outside + inside - 1⟩ ::
      rangesOfRuns (start + outside + inside) rest
  | _ => []

/-- The set written as the lengths of the stretches outside and inside it. -/
def ofRunLengths (lines : List String) : CodeSet :=
  ⟨rangesOfRuns 0 (lines.flatMap fun line => hexNumbers line.toList none)⟩

end CodeSet

/-- A set of the standard under the names it goes by, in small letters and without separators. -/
structure NamedSet where
  /-- The names of the set. -/
  names : List String
  /-- The lengths of the stretches outside and inside the set. -/
  runs : List String

namespace NamedSet

/-- The set itself. -/
def codeSet (s : NamedSet) : CodeSet := .ofRunLengths s.runs

/-- The first set of a table with the given name. -/
def find? (table : List NamedSet) (name : String) : Option CodeSet :=
  (table.find? fun s => s.names.contains name).map codeSet

end NamedSet

end RecordFilter
