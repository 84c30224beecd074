/-
# What search patterns mean

A `Regex` is a pattern whose flags and names of classes are resolved: its leaves are sets of
characters and conditions on a place.  `Regex.ofSyntax?` reads the flags along the pattern.  A
change of flags holds for the rest of the group around it, also in the branches that follow.

Without the flag `u`, classes hold one-byte characters only.  What could then match a part of a
character (a point, the complement of a class, a byte above `7F`) has no meaning.
-/

import RecordFilter.Pattern.Syntax
import RecordFilter.Unicode.Property
import RecordFilter.Unicode.CaseFolding

namespace RecordFilter
namespace Pattern

/-- Conditions on a place of the subject. -/
inductive Place where
  /-- The start of the subject. -/
  | textStart
  /-- The end of the subject. -/
  | textEnd
  /-- The start of a line; with `crlf`, a carriage return ends a line too. -/
  | lineStart (crlf : Bool)
  /-- The end of a line. -/
  | lineEnd (crlf : Bool)
  /-- A word on exactly one side; words are those of all scripts if `unicode` is set. -/
  | wordBoundary (unicode : Bool)
  /-- A word on both sides or on none. -/
  | notWordBoundary (unicode : Bool)
  /-- A word behind the place but not before it. -/
  | wordStart (unicode : Bool)
  /-- A word before the place but not behind it. -/
  | wordEnd (unicode : Bool)
  /-- No word before the place. -/
  | wordStartHalf (unicode : Bool)
  /-- No word behind the place. -/
  | wordEndHalf (unicode : Bool)
deriving DecidableEq, Repr

/-- A pattern with a meaning. -/
inductive Regex where
  /-- The empty text. -/
  | empty
  /-- One character of a set. -/
  | chars (set : CodeSet)
  /-- The empty text, at certain places. -/
  | place (place : Place)
  /-- Texts one after the other. -/
  | sequence (items : List Regex)
  /-- One of several. -/
  | choice (branches : List Regex)
  /-- From `least` to `most` texts of one kind. -/
  | repetition (operand : Regex) (least : Nat) (most : Option Nat)
  /-- A text that is remembered. -/
  | capture (inner : Regex)
deriving Inhabited

/-- The flags that decide what a pattern means. -/
structure Flags where
  /-- Whether letters match in either case. -/
  ignoreCase : Bool
  /-- Whether `^` and `$` match at lines. -/
  multiLine : Bool
  /-- Whether a point matches a line feed. -/
  dotAll : Bool
  /-- Whether classes are those of all scripts. -/
  unicode : Bool
  /-- Whether a line may end with a carriage return. -/
  crlf : Bool
deriving DecidableEq, Repr

namespace Flags

/-- The flags at the start of a pattern. -/
def initial : Flags := ⟨false, false, false, true, false⟩

/-- The flags after a change. -/
def after (flags : Flags) (change : FlagChange) : Flags where
  ignoreCase := (change.state? .ignoreCase).getD flags.ignoreCase
  multiLine := (change.state? .multiLine).getD flags.multiLine
  dotAll := (change.state? .dotAll).getD flags.dotAll
  unicode := (change.state? .unicode).getD flags.unicode
  crlf := (change.state? .crlf).getD flags.crlf

/-- A set of characters, in either case where case is ignored. -/
def fold (flags : Flags) (s : CodeSet) : CodeSet :=
  if flags.ignoreCase then if flags.unicode then s.ignoreCase else s.ignoreAsciiCase else s

/-- The complement of a set, if it is asked for and allowed. -/
def negate? (flags : Flags) (negated : Bool) (s : CodeSet) : Option CodeSet :=
  if negated then if flags.unicode then some s.complement else none else some s

/-- A character in a class. -/
def inClass? (flags : Flags) (l : Literal) : Option Char :=
  if flags.unicode || decide (l.char.toNat < 0x80) then some l.char else none

/-- A character by itself. -/
def literal? (flags : Flags) (l : Literal) : Option CodeSet :=
  if !flags.unicode && l.byByte && decide (0x80 ≤ l.char.toNat) then none
  else some (flags.fold (.singleton l.char))

/-- A class with a letter of its own. -/
def letterClass (flags : Flags) : LetterClass → CodeSet
  | .digit => if flags.unicode then Unicode.digits else .range 0x30 0x39
  | .space => if flags.unicode then Unicode.whiteSpace else ⟨[⟨0x9, 0xD⟩, ⟨0x20, 0x20⟩]⟩
  | .word =>
    if flags.unicode then Unicode.wordCharacters
    else ⟨[⟨0x30, 0x39⟩, ⟨0x41, 0x5A⟩, ⟨0x5F, 0x5F⟩, ⟨0x61, 0x7A⟩]⟩

/-- A class by letter or name. -/
def named? (flags : Flags) : NamedClass → Option CodeSet
  | .letter kind negated => flags.negate? negated (flags.letterClass kind)
  | .property name negated =>
    if flags.unicode then
      (Unicode.classNamed? name).bind fun s => flags.negate? negated (flags.fold s)
    else none
  | .propertyValue name value negated =>
    if flags.unicode then
      (Unicode.classWithValue? name value).bind fun s => flags.negate? negated (flags.fold s)
    else none

/-- The characters that a point matches. -/
def dot? (flags : Flags) : Option CodeSet :=
  if !flags.unicode then none
  else if flags.dotAll then some .everything
  else if flags.crlf then some (CodeSet.ofChars ['\n', '\r']).complement
  else some (CodeSet.singleton '\n').complement

/-- The condition that a sign stands for. -/
def place (flags : Flags) : Assertion → Place
  | .startLine => if flags.multiLine then .lineStart flags.crlf else .textStart
  | .endLine => if flags.multiLine then .lineEnd flags.crlf else .textEnd
  | .startText => .textStart
  | .endText => .textEnd
  | .wordBoundary => .wordBoundary flags.unicode
  | .notWordBoundary => .notWordBoundary flags.unicode
  | .wordStart => .wordStart flags.unicode
  | .wordEnd => .wordEnd flags.unicode
  | .wordStartHalf => .wordStartHalf flags.unicode
  | .wordEndHalf => .wordEndHalf flags.unicode

end Flags

namespace SetOp

/-- The operation on sets. -/
def apply : SetOp → CodeSet → CodeSet → CodeSet
  | intersection => .inter
  | difference => .diff
  | symmetricDifference => .symmDiff

end SetOp

namespace ClassSet

mutual

/-- The characters of a class. -/
def codes? (flags : Flags) : ClassSet → Option CodeSet
  | empty => some .empty
  | char l => (flags.inClass? l).map .singleton
  | range a b =>
    match flags.inClass? a, flags.inClass? b with
    | some a, some b => some (.range a.toNat b.toNat)
    | _, _ => none
  | ascii ranges negated =>
    let s := CodeSet.ofRanges (ranges.map fun (a, b) => ⟨a.toNat, b.toNat⟩)
    flags.negate? negated (flags.fold s)
  | named cls => flags.named? cls
  | bracketed negated set =>
    match set.codes? flags with
    | some s => flags.negate? negated (flags.fold s)
    | none => none
  | union items => (codesOfAll? flags items).map .unions
  | op sign left right =>
    match left.codes? flags, right.codes? flags with
    | some s, some t => some (sign.apply (flags.fold s) (flags.fold t))
    | _, _ => none

/-- The characters of each of several classes. -/
def codesOfAll? (flags : Flags) : List ClassSet → Option (List CodeSet)
  | [] => some []
  | set :: rest =>
    match set.codes? flags, codesOfAll? flags rest with
    | some s, some more => some (s :: more)
    | _, _ => none

end

end ClassSet

namespace Regex

mutual

/-- The meaning of a pattern under the given flags, and the flags behind it. -/
def read? (flags : Flags) : Syntax → Option (Regex × Flags)
  | .empty => some (empty, flags)
  | .flags change => some (empty, flags.after change)
  | .literal l => (flags.literal? l).map fun s => (chars s, flags)
  | .dot => flags.dot?.map fun s => (chars s, flags)
  | .assertion a => some (place (flags.place a), flags)
  | .named cls => (flags.named? cls).map fun s => (chars s, flags)
  | .bracketed negated set =>
    match set.codes? flags with
    | some s => (flags.negate? negated (flags.fold s)).map fun s => (chars s, flags)
    | none => none
  | .repetition operand least most =>
    match read? flags operand with
    | some (r, flags) => some (repetition r least most, flags)
    | none => none
  | .group captures change inner =>
    match read? (flags.after change) inner with
    | some (r, _) => some (if captures then capture r else r, flags)
    | none => none
  | .choice branches =>
    match readAll? flags branches with
    | some (rs, flags) => some (choice rs, flags)
    | none => none
  | .sequence items =>
    match readAll? flags items with
    | some (rs, flags) => some (sequence rs, flags)
    | none => none

/-- The meanings of patterns one after the other. -/
def readAll? (flags : Flags) : List Syntax → Option (List Regex × Flags)
  | [] => some ([], flags)
  | p :: rest =>
    match read? flags p with
    | some (r, flags) =>
      match readAll? flags rest with
      | some (rs, flags) => some (r :: rs, flags)
      | none => none
    | none => none

end

/-- The meaning of a pattern. -/
def ofSyntax? (p : Syntax) : Option Regex :=
  (read? .initial p).map (·.1)

end Regex

end Pattern
end RecordFilter
