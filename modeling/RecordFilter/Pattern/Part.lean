/-
# Patterns simplified

The size of the program for a pattern is that of its simplest form (`Part`).  Characters in a row
form one literal, sequences in sequences and choices in choices are flat, a choice of single
characters or of sets is one set, and what all branches of a choice begin with stands before the
choice.
-/

import RecordFilter.Pattern.Regex

namespace RecordFilter
namespace Pattern

/-- A simplified pattern. -/
inductive Part where
  /-- The empty text. -/
  | empty
  /-- One text, by its code points. -/
  | literal (codes : List Nat)
  /-- One character of a set that has not exactly one. -/
  | chars (set : CodeSet)
  /-- The empty text, at certain places. -/
  | place (place : Place)
  /-- At least two parts, one after the other. -/
  | sequence (items : List Part)
  /-- One of at least two parts. -/
  | choice (branches : List Part)
  /-- A repetition. -/
  | repetition (operand : Part) (least : Nat) (most : Option Nat)
  /-- A part whose text is remembered. -/
  | capture (inner : Part)
deriving Inhabited

namespace Part

mutual

/-- Whether two parts are the same.  No two parts whose texts are remembered are. -/
def same : Part → Part → Bool
  | empty, empty => true
  | literal a, literal b => a == b
  | chars s, chars t => s == t
  | place p, place q => p == q
  | sequence xs, sequence ys => allSame xs ys
  | choice xs, choice ys => allSame xs ys
  | repetition x least most, repetition y least' most' =>
    x.same y && least == least' && most == most'
  | _, _ => false

/-- Whether two lists have the same parts. -/
def allSame : List Part → List Part → Bool
  | [], [] => true
  | x :: xs, y :: ys => x.same y && allSame xs ys
  | _, _ => false

end

mutual

/-- Whether a part has the empty text and no other. -/
def isZeroWidth : Part → Bool
  | empty | place _ => true
  | literal _ | chars _ => false
  | sequence items => allZeroWidth items
  | choice branches => allZeroWidth branches
  | repetition operand _ most => most.isSome && operand.isZeroWidth
  | capture inner => inner.isZeroWidth

/-- Whether all parts have the empty text and no other. -/
def allZeroWidth : List Part → Bool
  | [] => true
  | p :: rest => p.isZeroWidth && allZeroWidth rest

end

mutual

/-- Whether every text of a part has a character; `none` where an empty set takes part. -/
def consumes? : Part → Option Bool
  | empty | place _ => some false
  | literal _ => some true
  | chars s => if s.ranges.isEmpty then none else some true
  | sequence items => anyConsumes? items
  | choice branches => allConsume? branches
  | repetition operand least _ => operand.consumes?.map (· && decide (0 < least))
  | capture inner => inner.consumes?

/-- Whether one of several parts in a row always has a character. -/
def anyConsumes? : List Part → Option Bool
  | [] => some false
  | p :: rest =>
    match p.consumes?, anyConsumes? rest with
    | some a, some b => some (a || b)
    | _, _ => none

/-- Whether each of several parts always has a character. -/
def allConsume? : List Part → Option Bool
  | [] => some true
  | p :: rest =>
    match p.consumes?, allConsume? rest with
    | some a, some b => some (a && b)
    | _, _ => none

end

/-- One character of a set. -/
def ofSet (s : CodeSet) : Part :=
  match s.ranges with
  | [r] => if r.first = r.last then literal [r.first] else chars s
  | _ => chars s

/-- The items of a sequence, without empty ones. -/
def items : Part → List Part
  | empty => []
  | sequence items => items
  | p => [p]

/-- Makes one literal of literals in a row. -/
def joinLiterals : List Part → List Part
  | [] => []
  | literal a :: rest =>
    match joinLiterals rest with
    | literal b :: more => literal (a ++ b) :: more
    | more => literal a :: more
  | p :: rest => p :: joinLiterals rest

/-- Parts one after the other. -/
def ofItems (parts : List Part) : Part :=
  match joinLiterals (parts.flatMap items) with
  | [] => empty
  | [p] => p
  | parts => sequence parts

/-- The branches of a choice. -/
def branches : Part → List Part
  | choice branches => branches
  | p => [p]

/-- The set of one character that a literal is. -/
def single? : Part → Option CodeSet
  | literal [code] => some (.range code code)
  | _ => none

/-- The set that a part is. -/
def set? : Part → Option CodeSet
  | chars s => some s
  | _ => none

/-- What two lists have in common at their front. -/
def commonFront : List Part → List Part → List Part
  | x :: xs, y :: ys => if x.same y then x :: commonFront xs ys else []
  | _, _ => []

/-- The items of a sequence, if the part is one. -/
def sequence? : Part → Option (List Part)
  | sequence items => some items
  | _ => none

/-- A choice of branches that are not choices, without looking for a common front. -/
def ofPlainBranches (parts : List Part) : Part :=
  match parts with
  | [] => chars .empty
  | [p] => p
  | parts =>
    match parts.mapM single?, parts.mapM set? with
    | some sets, _ | none, some sets => ofSet (.unions sets)
    | none, none => choice parts

/-- One of several parts. -/
def ofBranches (parts : List Part) : Part :=
  let parts := parts.flatMap branches
  let plain := ofPlainBranches parts
  match parts.mapM sequence? with
  | some (first :: second :: more) =>
    let front := (second :: more).foldl commonFront first
    if front.isEmpty then plain
    else
      let rests := (first :: second :: more).map fun items => ofItems (items.drop front.length)
      ofItems (front ++ [ofPlainBranches (rests.flatMap branches)])
  | _ => plain

/-- A repetition of a part. -/
def repeated (operand : Part) (least : Nat) (most : Option Nat) : Part :=
  let (least, most) :=
    if operand.isZeroWidth then (min least 1, some (min (most.getD 1) 1)) else (least, most)
  if least = 0 ∧ most = some 0 then empty
  else if least = 1 ∧ most = some 1 then operand
  else repetition operand least most

end Part

namespace Regex

mutual

/-- The simplest form of a pattern. -/
def simplified : Regex → Part
  | empty => .empty
  | chars s => .ofSet s
  | place p => .place p
  | sequence items => .ofItems (allSimplified items)
  | choice branches => .ofBranches (allSimplified branches)
  | repetition operand least most => operand.simplified.repeated least most
  | capture inner => .capture inner.simplified

/-- The simplest forms of several patterns. -/
def allSimplified : List Regex → List Part
  | [] => []
  | r :: rest => r.simplified :: allSimplified rest

end

end Regex

end Pattern
end RecordFilter
