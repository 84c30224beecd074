/-
# Sets of characters as bytes

A character is written as one to four bytes.  A range of characters is the union of a few products
of byte ranges, one range for each byte (`ByteSequence`): the range is cut where the number of bytes
changes, and where a byte other than the first would not run through all its values.

The sequences of a set, in ascending order, form a tree when those that begin with the same range
are put together (`ByteSequence.groups`).
-/

import RecordFilter.Unicode.CodeSet

namespace RecordFilter
namespace Unicode

/-- The bytes from `first` to `last`. -/
structure ByteRange where
  /-- The least byte. -/
  first : Nat
  /-- The greatest byte. -/
  last : Nat
deriving DecidableEq, Repr

/-- A range for each byte of a character. -/
abbrev ByteSequence := List ByteRange

/-- The bytes that a code point is written with. -/
def utf8 (code : Nat) : List Nat :=
  if code < 0x80 then [code]
  else if code < 0x800 then [0xC0 + code / 0x40, 0x80 + code % 0x40]
  else if code < 0x10000 then
    [0xE0 + code / 0x1000, 0x80 + code / 0x40 % 0x40, 0x80 + code % 0x40]
  else
    [0xF0 + code / 0x40000, 0x80 + code / 0x1000 % 0x40, 0x80 + code / 0x40 % 0x40,
      0x80 + code % 0x40]

namespace ByteSequence

/-- Where to cut a range of code points, if it lies in no single product: the last code point of
the first piece. -/
def cut? (first last : Nat) : Option Nat :=
  let widths := [0x7F, 0x7FF, 0xFFFF].find? fun top => first ≤ top && top < last
  let bytes := [0x40, 0x1000, 0x40000].findSome? fun size =>
    if first / size = last / size then none
    else if first % size ≠ 0 then some (first / size * size + (size - 1))
    else if last % size ≠ size - 1 then some (last / size * size - 1)
    else none
  widths <|> if last < 0x80 then none else bytes

/-- The sequences of a range of code points, in ascending order. -/
def ofRange (first last : Nat) : List ByteSequence :=
  match cut? first last with
  | some middle =>
    if _h : first ≤ middle ∧ middle < last then
      ofRange first middle ++ ofRange (middle + 1) last
    else []
  | none => [(utf8 first).zipWith ByteRange.mk (utf8 last)]
termination_by last - first

/-- The sequences of a set of characters, in ascending order. -/
def ofSet (s : CodeSet) : List ByteSequence :=
  (s.inter .everything).ranges.flatMap fun r => ofRange r.first r.last

/-- The first ranges of sequences, each with what follows it in those that begin with it; only
neighbours are put together. -/
def groups : List ByteSequence → List (ByteRange × List ByteSequence)
  | [] => []
  | [] :: rest => groups rest
  | (r :: tail) :: rest =>
    match groups rest with
    | (s, tails) :: more =>
      if r = s then (s, tail :: tails) :: more else (r, [tail]) :: (s, tails) :: more
    | [] => [(r, [tail])]

/-- The nodes of the tree of sequences, down to a depth, each as the sequences that start from
it. -/
def nodes : (depth : Nat) → List ByteSequence → List (List ByteSequence)
  | 0, _ => []
  | depth + 1, sequences =>
    match groups sequences with
    | [] => []
    | edges => sequences :: edges.flatMap fun (_, tails) => nodes depth tails

end ByteSequence

end Unicode
end RecordFilter
