/-
# Search patterns as written

The syntax tree of a search pattern, before flags and names of classes are given their meaning.
`Syntax.nesting` counts the levels of groups, repetitions, sequences, choices and bracketed classes;
patterns with too many are refused.
-/

namespace RecordFilter
namespace Pattern

/-- The settings that a pattern can switch. -/
inductive Flag where
  /-- `i`: letters match in either case. -/
  | ignoreCase
  /-- `m`: `^` and `$` match at lines. -/
  | multiLine
  /-- `s`: a point matches a line feed. -/
  | dotAll
  /-- `U`: repetitions prefer fewer rounds. -/
  | swapGreed
  /-- `u`: classes are those of all scripts. -/
  | unicode
  /-- `R`: a line may end with a carriage return. -/
  | crlf
  /-- `x`: blanks and comments in the pattern do not count. -/
  | spaced
deriving DecidableEq, Repr

/-- A change of flags: `none` stands for the hyphen, behind which flags are switched off. -/
abbrev FlagChange := List (Option Flag)

/-- What a change makes of a flag, if it names the flag. -/
def FlagChange.state? (change : FlagChange) (flag : Flag) : Option Bool :=
  if (change.takeWhile (·.isSome)).contains (some flag) then some true
  else if change.contains (some flag) then some false
  else none

/-- A character that stands for itself. -/
structure Literal where
  /-- The character. -/
  char : Char
  /-- Whether it is written as `\x` with two digits, which may also mean a byte. -/
  byByte : Bool
deriving DecidableEq, Repr

/-- The classes that have a letter of their own. -/
inductive LetterClass where
  /-- `\d` -/
  | digit
  /-- `\s` -/
  | space
  /-- `\w` -/
  | word
deriving DecidableEq, Repr

/-- A class that is referred to by letter or name. -/
inductive NamedClass where
  /-- A class with a letter of its own. -/
  | letter (kind : LetterClass) (negated : Bool)
  /-- A class by one name. -/
  | property (name : String) (negated : Bool)
  /-- A class by property and value. -/
  | propertyValue (name value : String) (negated : Bool)
deriving DecidableEq, Repr

/-- The operations on classes inside brackets. -/
inductive SetOp where
  /-- `&&` -/
  | intersection
  /-- `--` -/
  | difference
  /-- `~~` -/
  | symmetricDifference
deriving DecidableEq, Repr

/-- What is inside the brackets of a class. -/
inductive ClassSet where
  /-- Nothing. -/
  | empty
  /-- One character. -/
  | char (literal : Literal)
  /-- The characters from one to another. -/
  | range (first last : Literal)
  /-- A class of one-byte characters such as `[:alpha:]`. -/
  | ascii (ranges : List (Char × Char)) (negated : Bool)
  /-- A class by letter or name. -/
  | named (cls : NamedClass)
  /-- A class in brackets of its own. -/
  | bracketed (negated : Bool) (set : ClassSet)
  /-- Several items. -/
  | union (items : List ClassSet)
  /-- An operation on two classes. -/
  | op (op : SetOp) (left right : ClassSet)
deriving Repr

/-- Conditions on a place between characters. -/
inductive Assertion where
  /-- `^` -/
  | startLine
  /-- `$` -/
  | endLine
  /-- `\A` -/
  | startText
  /-- `\z` -/
  | endText
  /-- `\b` -/
  | wordBoundary
  /-- `\B` -/
  | notWordBoundary
  /-- `\<` -/
  | wordStart
  /-- `\>` -/
  | wordEnd
  /-- `\b` with `start-half` -/
  | wordStartHalf
  /-- `\b` with `end-half` -/
  | wordEndHalf
deriving DecidableEq, Repr

/-- A pattern as written. -/
inductive Syntax where
  /-- Nothing. -/
  | empty
  /-- A change of flags for what follows in the group. -/
  | flags (change : FlagChange)
  /-- A character. -/
  | literal (literal : Literal)
  /-- A point. -/
  | dot
  /-- A condition on a place. -/
  | assertion (assertion : Assertion)
  /-- A class by letter or name. -/
  | named (cls : NamedClass)
  /-- A class in brackets. -/
  | bracketed (negated : Bool) (set : ClassSet)
  /-- A repetition, from `least` to `most` times. -/
  | repetition (operand : Syntax) (least : Nat) (most : Option Nat)
  /-- A group, perhaps with a change of flags inside it. -/
  | group (captures : Bool) (change : FlagChange) (inner : Syntax)
  /-- One of several patterns. -/
  | choice (branches : List Syntax)
  /-- Patterns one after the other. -/
  | sequence (items : List Syntax)
deriving Inhabited

namespace Syntax

/-- Several patterns one after the other; a single one stands for itself. -/
def ofItems : List Syntax → Syntax
  | [] => empty
  | [item] => item
  | items => sequence items

/-- One of several patterns; a single one stands for itself. -/
def ofBranches : List Syntax → Syntax
  | [] => empty
  | [branch] => branch
  | branches => choice branches

end Syntax

namespace ClassSet

/-- Several items of a class; a single one stands for itself. -/
def ofItems : List ClassSet → ClassSet
  | [] => empty
  | [item] => item
  | items => union items

mutual

/-- The number of levels of brackets, unions and operations in a class. -/
def nesting : ClassSet → Nat
  | empty | char _ | range .. | ascii .. | named _ => 0
  | bracketed _ set => set.nesting + 1
  | union items => nestingOfAll items + 1
  | op _ left right => max left.nesting right.nesting + 1

/-- The greatest number of levels among several items. -/
def nestingOfAll : List ClassSet → Nat
  | [] => 0
  | set :: rest => max set.nesting (nestingOfAll rest)

end

end ClassSet

namespace Syntax

mutual

/-- The number of levels of a pattern. -/
def nesting : Syntax → Nat
  | empty | flags _ | literal _ | dot | assertion _ | named _ => 0
  | bracketed _ set => set.nesting + 1
  | repetition operand _ _ => operand.nesting + 1
  | group _ _ inner => inner.nesting + 1
  | choice branches => nestingOfAll branches + 1
  | sequence items => nestingOfAll items + 1

/-- The greatest number of levels among several patterns. -/
def nestingOfAll : List Syntax → Nat
  | [] => 0
  | p :: rest => max p.nesting (nestingOfAll rest)

end

end Syntax

end Pattern
end RecordFilter
