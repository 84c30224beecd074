/-
# How large the program for a pattern is

A pattern becomes two programs, one that reads the subject forwards and one that reads it backwards,
and a pattern with a program of more than `sizeLimit` bytes is refused (`Regex.isSmall`).  An
instruction takes 32 bytes; a table of ranges takes 8 more for each range, and a branch 4 more for
each way it can go.  A part of a program that ends in a branch pays for the way on when something is
put behind it (`Extent.link`).

A choice of fixed texts is a tree of their bytes.  A choice of very many of them needs no program
and has any size.
-/

import RecordFilter.Pattern.Part
import RecordFilter.Unicode.ByteRange

namespace RecordFilter
namespace Pattern

-- Powers and sums are those of the core library, whatever else is imported.
attribute [local instance (1100)] instPowNat Zero.ofOfNat0

/-- The size of a part of a program. -/
structure Extent where
  /-- The bytes of its instructions. -/
  bytes : Nat
  /-- Whether it ends in a branch. -/
  branches : Bool
deriving DecidableEq, Repr

namespace Extent

/-- The bytes of one instruction. -/
def instruction : Nat := 32

/-- A program of a number of plain instructions. -/
def plain (count : Nat) : Extent := ⟨count * instruction, false⟩

/-- What the way on costs. -/
def link (e : Extent) : Nat := if e.branches then 4 else 0

/-- One part behind the other. -/
def append (e f : Extent) : Extent := ⟨e.bytes + e.link + f.bytes, f.branches⟩

/-- Parts one behind the other. -/
def chain : List Extent → Extent
  | [] => plain 1
  | e :: rest => rest.foldl append e

/-- A part several times over. -/
def times (e : Extent) : Nat → Extent
  | 0 => plain 1
  | n + 1 => ⟨(n + 1) * e.bytes + n * e.link, e.branches⟩

/-- One of several parts. -/
def alternatives (parts : List Extent) : Extent :=
  ⟨2 * instruction + (parts.map fun e => e.bytes + 4 + e.link).sum, false⟩

/-- A part that is repeated; `consumes` says whether each of its texts has a character. -/
def repeated (e : Extent) (consumes : Bool) : (least : Nat) → (most : Option Nat) → Extent
  | 0, some 1 => ⟨2 * instruction + e.bytes + 8 + e.link, false⟩
  | 0, none =>
    if consumes then ⟨instruction + e.bytes + 4 + e.link, true⟩
    else ⟨3 * instruction + e.bytes + 16 + e.link, false⟩
  | least + 1, none =>
    let loop : Extent := ⟨e.bytes + instruction + 4 + e.link, true⟩
    if least = 0 then loop else (e.times least).append loop
  | least, some most =>
    let front := e.times least
    if least = most then front
    else
      let round := instruction + e.bytes + 8 + e.link
      ⟨front.bytes + instruction + (most - least) * round + front.link, false⟩

/-- A set of characters as the tree of its byte sequences.  Forwards, equal subtrees are kept once;
backwards, only what sequences begin with is. -/
def ofSet (forward : Bool) (s : CodeSet) : Extent :=
  if s.ranges.all (·.last < 0x80) then ⟨2 * instruction + 8 * s.ranges.length, false⟩
  else
    let sequences := Unicode.ByteSequence.ofSet s
    let nodes := Unicode.ByteSequence.nodes 4 sequences
    let edges (node : List Unicode.ByteSequence) : Nat := (Unicode.ByteSequence.groups node).length
    if forward then
      ⟨instruction + (nodes.eraseDups.map fun node => instruction + 8 * edges node).sum, false⟩
    else
      let steps := (nodes.map edges).sum
      ⟨2 * instruction + 4 * sequences.length + instruction * steps, false⟩

/-- Cuts a list of texts behind each empty one: a text may end there, and those that follow are
looked for afterwards. -/
def runs : List (List Nat) → List (List (List Nat))
  | [] => [[]]
  | [] :: rest => [] :: runs rest
  | text :: rest =>
    match runs rest with
    | run :: more => (text :: run) :: more
    | [] => [[text]]

/-- The first bytes of texts, each with what follows it. -/
def byFirst : List (List Nat) → List (Nat × List (List Nat))
  | [] => []
  | [] :: rest => byFirst rest
  | (b :: tail) :: rest =>
    let more := byFirst rest
    let tails := (more.lookup b).getD []
    (b, tail :: tails) :: more.filter (·.1 ≠ b)

/-- The size of a tree of texts, down to a depth, without the instruction at its end. -/
def textTree : (depth : Nat) → List (List Nat) → Nat
  | 0, _ => 0
  | depth + 1, texts =>
    if texts.all (·.isEmpty) then 0
    else
      let texts :=
        match texts with
        | [] :: rest => [] :: rest.dropWhile (·.isEmpty)
        | texts => texts
      let tables := (runs texts).map byFirst
      let used := tables.filter (!·.isEmpty)
      let own := (used.map fun table =>
        instruction + if table.length = 1 then 0 else 8 * table.length).sum
      let below := (used.map fun table =>
        (table.map fun (_, tails) => textTree depth tails).sum).sum
      instruction + 4 * (used.length + (tables.length - 1)) + own + below

/-- A choice of fixed texts. -/
def ofTexts (texts : List (List Nat)) : Extent :=
  let depth := (texts.map List.length).foldl max 0
  ⟨instruction + textTree (depth + 1) texts, false⟩

end Extent

namespace Part

/-- The code points of a fixed text. -/
def text? : Part → Option (List Nat)
  | literal codes => some codes
  | _ => none

/-- The bytes of a fixed text, in the order in which they are read. -/
def bytesInOrder (forward : Bool) (codes : List Nat) : List Nat :=
  let bytes := codes.flatMap Unicode.utf8
  if forward then bytes else bytes.reverse

mutual

/-- The size of the program for a part. -/
def extent (forward : Bool) : Part → Extent
  | empty | place _ => .plain 1
  | literal codes => .plain (codes.flatMap Unicode.utf8).length
  | chars s => .ofSet forward s
  | sequence items =>
    let parts := extents forward items
    .chain (if forward then parts else parts.reverse)
  | choice branches =>
    match branches.mapM text? with
    | some texts => .ofTexts (texts.map (bytesInOrder forward))
    | none => .alternatives (extents forward branches)
  | repetition operand least most =>
    (operand.extent forward).repeated (operand.consumes?.getD false) least most
  | capture inner =>
    let e := inner.extent forward
    if forward then ((Extent.plain 1).append e).append (.plain 1) else e

/-- The sizes of the programs for several parts. -/
def extents (forward : Bool) : List Part → List Extent
  | [] => []
  | p :: rest => p.extent forward :: extents forward rest

end

mutual

/-- Whether all texts of a part begin at a place: where the subject starts, or, read backwards,
where it ends. -/
def isHeld (forward : Bool) : Part → Bool
  | empty | literal _ | chars _ => false
  | place p => p == if forward then .textStart else .textEnd
  | sequence items => if forward then firstHeld forward items else lastHeld forward items
  | choice branches => allHeld forward branches
  | repetition operand least _ => decide (0 < least) && operand.isHeld forward
  | capture inner => inner.isHeld forward

/-- Whether one of the parts up to the first with characters is held. -/
def firstHeld (forward : Bool) : List Part → Bool
  | [] => false
  | p :: rest => p.isHeld forward || (p.isZeroWidth && firstHeld forward rest)

/-- Whether one of the parts from the last with characters on is held. -/
def lastHeld (forward : Bool) : List Part → Bool
  | [] => false
  | p :: rest => lastHeld forward rest || (allZeroWidth rest && p.isHeld forward)

/-- Whether all parts are held. -/
def allHeld (forward : Bool) : List Part → Bool
  | [] => true
  | p :: rest => p.isHeld forward && allHeld forward rest

end

/-- The size of the whole program for a pattern: in front of it, a loop over the places where a text
may begin, and behind it an instruction that reports the text. -/
def programSize (forward : Bool) (p : Part) : Nat :=
  let loop : Extent := ⟨3 * Extent.instruction + 8 + 4, true⟩
  let front := if p.isHeld forward then .plain 1 else loop
  ((front.append ((capture p).extent forward)).append (.plain 1)).bytes

end Part

/-- The greatest size of a program. -/
def sizeLimit : Nat := 2 ^ (20 : Nat)

/-- The number of fixed texts from which on a choice of them needs no program. -/
def manyTexts : Nat := 3000

namespace Regex

/-- Whether the programs for a pattern are not too large. -/
def isSmall (r : Regex) : Bool :=
  match r.simplified with
  | .choice branches =>
    if manyTexts ≤ branches.length && (branches.mapM Part.text?).isSome then true
    else fits (.choice branches)
  | p => fits p
where
  /-- Whether both programs for a part keep to the limit. -/
  fits (p : Part) : Bool := [true, false].all fun forward => p.programSize forward ≤ sizeLimit

end Regex

end Pattern
end RecordFilter
