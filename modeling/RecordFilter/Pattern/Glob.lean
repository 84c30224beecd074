/-
# Globs

A glob is the short form of pattern known from file names.  It matches a whole text: a star stands
for characters other than `/`, two or more stars for any characters, a question mark for one
character other than `/`, brackets for one of several characters, braces for one of several globs.
A backslash takes away the meaning of the character behind it.

A glob is cut into items (`Glob.items?`), and each item stands for a piece of a search pattern
(`Glob.Item.pattern`); together they are the search pattern that a glob is matched by
(`Glob.toPattern?`).
-/

namespace RecordFilter
namespace Pattern
namespace Glob

/-- A part of a glob. -/
inductive Item where
  /-- A character that stands for itself. -/
  | char (c : Char)
  /-- A question mark. -/
  | one
  /-- A single star. -/
  | run
  /-- Two or more stars. -/
  | all
  /-- Two or more stars with a slash behind them. -/
  | folders
  /-- One character of a class, whose members are written as in a search pattern. -/
  | oneOf (negated : Bool) (members : List Char)
  /-- An opening brace. -/
  | openBrace
  /-- A comma between braces. -/
  | comma
  /-- A closing brace. -/
  | closeBrace
deriving DecidableEq, Repr

/-- The characters that a search pattern gives a meaning. -/
def specialChars : List Char :=
  ['\\', '.', '+', '*', '?', '(', ')', '|', '[', ']', '\x7b', '\x7d', '^', '$', '#', '&', '-', '~']

/-- A search pattern for one character. -/
def quoted (c : Char) : List Char := if specialChars.contains c then ['\\', c] else [c]

/-- A member of a class as a search pattern writes it.  A hyphen keeps its meaning. -/
def member (c : Char) : List Char :=
  if ['[', ']', '^', '&', '~'].contains c then ['\\', c] else [c]

mutual

/-- The items of a glob inside a number of open braces, or `none` if a brace or a bracket is not
closed. -/
def itemsWithin? (depth : Nat) : List Char → Option (List Item)
  | [] => if depth = 0 then some [] else none
  | '*' :: '*' :: '*' :: rest => itemsWithin? depth ('*' :: '*' :: rest)
  | '*' :: '*' :: '/' :: rest => (itemsWithin? depth rest).map (.folders :: ·)
  | '*' :: '*' :: rest => (itemsWithin? depth rest).map (.all :: ·)
  | '[' :: '!' :: rest => classThen? depth true true [] rest
  | '[' :: '^' :: rest => classThen? depth true true [] rest
  | '[' :: rest => classThen? depth false true [] rest
  | '\\' :: c :: rest => (itemsWithin? depth rest).map (.char c :: ·)
  | c :: rest =>
    if c = '*' then (itemsWithin? depth rest).map (.run :: ·)
    else if c = '?' then (itemsWithin? depth rest).map (.one :: ·)
    else if c = '\x7b' then (itemsWithin? (depth + 1) rest).map (.openBrace :: ·)
    else if c = ',' ∧ depth ≠ 0 then (itemsWithin? depth rest).map (.comma :: ·)
    else if c = '\x7d' ∧ depth ≠ 0 then (itemsWithin? (depth - 1) rest).map (.closeBrace :: ·)
    else (itemsWithin? depth rest).map (.char c :: ·)

/-- The items from the inside of a bracket on; `members` is what was read of the class.  A closing
bracket in front is a member. -/
def classThen? (depth : Nat) (negated inFront : Bool) (members : List Char) :
    List Char → Option (List Item)
  | [] => none
  | '\\' :: c :: rest => classThen? depth negated false (members ++ quoted c) rest
  | c :: rest =>
    if c = '\\' then none
    else if c = ']' ∧ ¬inFront then (itemsWithin? depth rest).map (.oneOf negated members :: ·)
    else classThen? depth negated false (members ++ member c) rest

end

/-- The items of a glob. -/
def items? (glob : List Char) : Option (List Item) := itemsWithin? 0 glob

/-- The piece of a search pattern that an item stands for. -/
def Item.pattern : Item → List Char
  | char c => quoted c
  | one => "[^/]".toList
  | run => "[^/]*".toList
  | all => ".*".toList
  | folders => "(?:.*/)?".toList
  | oneOf negated members => '[' :: ((if negated then ['^'] else []) ++ members ++ [']'])
  | openBrace => "(?:".toList
  | comma => ['|']
  | closeBrace => [')']

/-- The search pattern that matches what a glob matches. -/
def toPattern? (glob : List Char) : Option (List Char) :=
  (items? glob).map fun items => '^' :: (items.flatMap Item.pattern ++ ['$'])

/-- Whether no character of a glob has a meaning of its own. -/
def isPlain (glob : List Char) : Bool :=
  !glob.any fun c => ['*', '?', '[', '\x7b', '\\'].contains c

end Glob
end Pattern
end RecordFilter
