/-
# Searching a subject

A subject of `n` characters has `n + 1` places, and a set of places is a natural number whose bits
are the places.  A pattern laid over a subject (`Route`) leads from a set of places to the set of
places where its texts end when they start at one of the first.  A step over a character is then a
mask and a shift, and a pattern occurs in the subject if the set of all places leads anywhere.

Repetitions stop as soon as one more round changes nothing (`settle`), so a count that a subject
cannot use up costs nothing.
-/

import RecordFilter.Pattern.Regex

namespace RecordFilter
namespace Pattern

-- Powers are those of the core library, whatever else is imported.
attribute [local instance (1100)] instPowNat

/-- Whether a character belongs to words: to those of all scripts, or to those of one-byte letters,
digits and underlines. -/
def isWordCharacter (unicode : Bool) (c : Char) : Bool :=
  (Flags.letterClass { Flags.initial with unicode } .word).contains c

namespace Place

/-- Whether the condition holds between two characters; `none` is the end of the subject. -/
def holds (before after : Option Char) : Place → Bool
  | textStart => before.isNone
  | textEnd => after.isNone
  | lineStart false => before.isNone || before == some '\n'
  | lineStart true =>
    before.isNone || before == some '\n' || (before == some '\r' && after != some '\n')
  | lineEnd false => after.isNone || after == some '\n'
  | lineEnd true =>
    after.isNone || after == some '\r' || (after == some '\n' && before != some '\r')
  | wordBoundary u => before.any (isWordCharacter u) != after.any (isWordCharacter u)
  | notWordBoundary u => before.any (isWordCharacter u) == after.any (isWordCharacter u)
  | wordStart u => !before.any (isWordCharacter u) && after.any (isWordCharacter u)
  | wordEnd u => before.any (isWordCharacter u) && !after.any (isWordCharacter u)
  | wordStartHalf u => !before.any (isWordCharacter u)
  | wordEndHalf u => !after.any (isWordCharacter u)

end Place

/-- The number whose bits are the given ones, the lowest first. -/
def ofBits : List Bool → Nat
  | [] => 0
  | b :: rest => b.toNat + 2 * ofBits rest

/-- The places of a subject, each as the characters before and behind it. -/
def placesAfter (before : Option Char) : List Char → List (Option Char × Option Char)
  | [] => [(before, none)]
  | c :: rest => (before, some c) :: placesAfter (some c) rest

/-- A pattern laid over a subject. -/
inductive Route where
  /-- Stays where it is. -/
  | stay
  /-- Moves over one character, from the places of a set. -/
  | step (mask : Nat)
  /-- Stays, at the places of a set. -/
  | pass (mask : Nat)
  /-- Routes one after the other. -/
  | sequence (items : List Route)
  /-- One of several routes. -/
  | choice (branches : List Route)
  /-- A route taken `least` times, and then up to `extra` times more. -/
  | repetition (operand : Route) (least extra : Nat)

/-- Applies a function up to `rounds` times, until nothing changes. -/
def settle (f : Nat → Nat) : (rounds : Nat) → Nat → Nat
  | 0, s => s
  | rounds + 1, s =>
    let t := f s
    if t = s then s else settle f rounds t

namespace Route

mutual

/-- The places where a route ends that starts at one of the given places. -/
def ends : Route → Nat → Nat
  | stay, s => s
  | step mask, s => (s &&& mask) <<< 1
  | pass mask, s => s &&& mask
  | sequence items, s => endsInTurn items s
  | choice branches, s => endsOfAny branches s
  | repetition operand least extra, s =>
    settle (fun s => s ||| operand.ends s) extra (settle operand.ends least s)

/-- The ends of routes one after the other. -/
def endsInTurn : List Route → Nat → Nat
  | [], s => s
  | r :: rest, s => endsInTurn rest (r.ends s)

/-- The ends of any of several routes. -/
def endsOfAny : List Route → Nat → Nat
  | [], _ => 0
  | r :: rest, s => r.ends s ||| endsOfAny rest s

end

end Route

namespace Regex

mutual

/-- The pattern laid over a subject. -/
def route (subject : List Char) : Regex → Route
  | empty => .stay
  | chars set => .step (ofBits (subject.map set.contains))
  | place p =>
    .pass (ofBits ((placesAfter none subject).map fun (before, after) => p.holds before after))
  | sequence items => .sequence (routes subject items)
  | choice branches => .choice (routes subject branches)
  | repetition operand least most =>
    let extra :=
      match most with
      | some most => most - least
      | none => subject.length + 1
    .repetition (operand.route subject) least extra
  | capture inner => inner.route subject

/-- Patterns laid over a subject. -/
def routes (subject : List Char) : List Regex → List Route
  | [] => []
  | r :: rest => r.route subject :: routes subject rest

end

/-- Whether a text of the pattern occurs in a subject. -/
def occursIn (r : Regex) (subject : List Char) : Bool :=
  (r.route subject).ends (2 ^ (subject.length + 1) - 1) != 0

end Regex

end Pattern
end RecordFilter
