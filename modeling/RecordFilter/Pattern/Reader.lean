/-
# Reading search patterns

A pattern is read in one pass over its characters.  The state holds the branches and items of the
group that is open now, and the groups around it (`State.outer`); a class in brackets is read the
same way, with the classes around it (`ClassState.outer`).  Where the flag `x` is on, blanks and
comments between the parts are passed over.

A pattern with a mistake has no reading: what exactly is wrong does not matter to anyone.
-/

import RecordFilter.Pattern.Syntax
import RecordFilter.Number.Numeral
import RecordFilter.Unicode.Character

namespace RecordFilter
namespace Pattern
namespace Reader

-- Powers are those of the core library, whatever else is imported.
attribute [local instance (1100)] instPowNat

/-! ### Blanks, digits and names -/

/-- Passes over blanks and comments; a comment goes from `#` to the end of its line. -/
def skipBlanks : (inComment : Bool) → List Char → List Char
  | _, [] => []
  | true, c :: rest => skipBlanks (c ≠ '\n') rest
  | false, c :: rest =>
    if Unicode.isWhiteSpace c then skipBlanks false rest
    else if c = '#' then skipBlanks true rest
    else c :: rest

/-- Passes over blanks and comments where they do not count. -/
def skip (spaced : Bool) (cs : List Char) : List Char :=
  if spaced then skipBlanks false cs else cs

/-- The next character that counts.  In a comment the first character that is not blank is taken for
it, and so is a blank that nothing follows. -/
def peek (spaced : Bool) (cs : List Char) : Option Char :=
  if spaced then
    let visible := cs.dropWhile Unicode.isWhiteSpace
    let visible :=
      match visible with
      | '#' :: rest => rest.dropWhile Unicode.isWhiteSpace
      | other => other
    visible.head? <|> cs.head?
  else cs.head?

/-- Takes up to `limit` characters of a kind off the front of a text, with the blanks after each. -/
def takeRun (spaced : Bool) (accepts : Char → Bool) :
    (limit : Nat) → List Char → List Char × List Char
  | 0, cs => ([], cs)
  | _, [] => ([], [])
  | limit + 1, c :: cs =>
    if accepts c then
      let (run, rest) := takeRun spaced accepts limit (skip spaced cs)
      (c :: run, rest)
    else ([], c :: cs)

/-- Whether a character is a hexadecimal digit. -/
def isHex (c : Char) : Bool := (CodeSet.hexDigit? c).isSome

/-- The character with a code point in hexadecimal digits. -/
def charOfHex? (digits : List Char) : Option Char :=
  let code := digits.foldl (fun n c => n * 16 + (CodeSet.hexDigit? c).getD 0) 0
  if code.isValidChar then some (.ofNat code) else none

/-- A count of a repetition, with blanks around it. -/
def count? (spaced : Bool) (cs : List Char) : Option (Nat × List Char) :=
  let cs := cs.dropWhile Unicode.isWhiteSpace
  let (digits, rest) := takeRun spaced Numeral.isDigit cs.length cs
  let (_, rest) := takeRun spaced Unicode.isWhiteSpace rest.length rest
  let n := Decimal.ofDigits digits
  if digits.isEmpty || decide (2 ^ (32 : Nat) ≤ n) then none else some (n, rest)

/-- The counts of a repetition, after its opening brace. -/
def counts? (spaced : Bool) (cs : List Char) : Option ((Nat × Option Nat) × List Char) :=
  match count? spaced (skip spaced cs) with
  | some (least, '}' :: rest) => some ((least, some least), rest)
  | some (least, ',' :: rest) =>
    match skip spaced rest with
    | '}' :: rest => some ((least, none), rest)
    | rest =>
      match count? spaced rest with
      | some (most, '}' :: rest) => if least ≤ most then some ((least, some most), rest) else none
      | _ => none
  | _ => none

/-! ### Escapes -/

/-- What a backslash can start. -/
inductive Primitive where
  /-- A character. -/
  | literal (literal : Literal)
  /-- A condition on a place. -/
  | assertion (assertion : Assertion)
  /-- A class. -/
  | named (cls : NamedClass)

/-- Whether a backslash before a character takes away a meaning or adds none. -/
def isEscapable (c : Char) : Bool :=
  decide (c.toNat < 0x80) && !(c.isAlphanum || c == '<' || c == '>')

/-- The control character that a letter after a backslash stands for. -/
def controlChar? : Char → Option Char
  | 'a' => some '\x07'
  | 'f' => some '\x0C'
  | 't' => some '\t'
  | 'n' => some '\n'
  | 'r' => some '\r'
  | 'v' => some '\x0B'
  | _ => none

/-- The number of digits of a code point that a letter after a backslash announces. -/
def hexLength? : Char → Option Nat
  | 'x' => some 2
  | 'u' => some 4
  | 'U' => some 8
  | _ => none

/-- Reads a character by code point: a fixed number of digits, or digits in braces. -/
def hexEscape? (spaced : Bool) (letter : Char) (length : Nat) (cs : List Char) :
    Option (Literal × List Char) :=
  match skip spaced cs with
  | '\x7b' :: rest =>
    let rest := skip spaced rest
    match takeRun spaced isHex rest.length rest with
    | (digits, '\x7d' :: rest) =>
      if digits.isEmpty then none
      else (charOfHex? digits).map fun c => (⟨c, false⟩, skip spaced rest)
    | _ => none
  | rest =>
    let (digits, rest) := takeRun spaced isHex length rest
    if digits.length = length then
      (charOfHex? digits).map fun c => (⟨c, letter == 'x'⟩, rest)
    else none

/-- The first place where a list of characters occurs in a text: what is before and after it. -/
def cutAt? (mark : List Char) : List Char → Option (List Char × List Char)
  | [] => none
  | c :: rest =>
    if mark.isPrefixOf (c :: rest) then some ([], (c :: rest).drop mark.length)
    else (cutAt? mark rest).map fun (before, after) => (c :: before, after)

/-- A class by what stands between the braces: `name`, `name=value`, `name:value` or
`name!=value`. -/
def classOfName (negated : Bool) (cs : List Char) : NamedClass :=
  match cutAt? ['!', '='] cs with
  | some (name, value) => .propertyValue (.ofList name) (.ofList value) !negated
  | none =>
    match cutAt? [':'] cs with
    | some (name, value) => .propertyValue (.ofList name) (.ofList value) negated
    | none =>
      match cutAt? ['='] cs with
      | some (name, value) => .propertyValue (.ofList name) (.ofList value) negated
      | none => .property (.ofList cs) negated

/-- Reads the name of a class, after its letter `p`. -/
def classEscape? (spaced negated : Bool) (cs : List Char) : Option (NamedClass × List Char) :=
  match skip spaced cs with
  | [] => none
  | '\x7b' :: rest =>
    let rest := skip spaced rest
    match takeRun spaced (· ≠ '\x7d') rest.length rest with
    | (name, _ :: rest) => some (classOfName negated name, rest)
    | _ => none
  | c :: rest =>
    if c = '\\' then none else some (.property c.toString negated, skip spaced rest)

/-- The condition that a name in braces after `\b` stands for. -/
def boundaryOfName? (name : List Char) : Option Assertion :=
  if name = "start".toList then some .wordStart
  else if name = "end".toList then some .wordEnd
  else if name = "start-half".toList then some .wordStartHalf
  else if name = "end-half".toList then some .wordEndHalf
  else none

/-- Reads what may follow `\b`: a name in braces.  A brace before anything else than a letter or a
hyphen is left for a repetition. -/
def boundary? (spaced : Bool) (cs : List Char) : Option (Assertion × List Char) :=
  let inName (c : Char) : Bool := c.isAlpha || c == '-'
  match cs with
  | '\x7b' :: rest =>
    match skip spaced rest with
    | [] => none
    | c :: more =>
      if inName c then
        match takeRun spaced inName (more.length + 1) (c :: more) with
        | (name, '\x7d' :: rest) => (boundaryOfName? name).map fun a => (a, rest)
        | _ => none
      else some (.wordBoundary, cs)
  | _ => some (.wordBoundary, cs)

/-- The class that a letter after a backslash stands for. -/
def letterClass? : Char → Option NamedClass
  | 'd' => some (.letter .digit false)
  | 'D' => some (.letter .digit true)
  | 's' => some (.letter .space false)
  | 'S' => some (.letter .space true)
  | 'w' => some (.letter .word false)
  | 'W' => some (.letter .word true)
  | _ => none

/-- The condition that a letter after a backslash stands for. -/
def assertion? : Char → Option Assertion
  | 'A' => some .startText
  | 'z' => some .endText
  | 'B' => some .notWordBoundary
  | '<' => some .wordStart
  | '>' => some .wordEnd
  | _ => none

/-- Reads what follows a backslash. -/
def escape? (spaced : Bool) : List Char → Option (Primitive × List Char)
  | [] => none
  | c :: rest =>
    if isEscapable c then some (.literal ⟨c, false⟩, rest)
    else
      match hexLength? c, letterClass? c, controlChar? c, assertion? c with
      | some length, _, _, _ =>
        (hexEscape? spaced c length rest).map fun (l, rest) => (.literal l, rest)
      | _, some cls, _, _ => some (.named cls, rest)
      | _, _, some d, _ => some (.literal ⟨d, false⟩, rest)
      | _, _, _, some a => some (.assertion a, rest)
      | none, none, none, none =>
        if c = 'p' ∨ c = 'P' then
          (classEscape? spaced (c == 'P') rest).map fun (cls, rest) => (.named cls, rest)
        else if c = 'b' then
          (boundary? spaced rest).map fun (a, rest) => (.assertion a, rest)
        else none

/-! ### Classes in brackets -/

/-- The classes of one-byte characters that have a name between `[:` and `:]`. -/
def asciiClasses : List (String × List (Char × Char)) := [
  ("alnum", [('0', '9'), ('A', 'Z'), ('a', 'z')]),
  ("alpha", [('A', 'Z'), ('a', 'z')]),
  ("ascii", [('\x00', '\x7F')]),
  ("blank", [('\t', '\t'), (' ', ' ')]),
  ("cntrl", [('\x00', '\x1F'), ('\x7F', '\x7F')]),
  ("digit", [('0', '9')]),
  ("graph", [('!', '~')]),
  ("lower", [('a', 'z')]),
  ("print", [(' ', '~')]),
  ("punct", [('!', '/'), (':', '@'), ('[', '\x60'), ('\x7b', '~')]),
  ("space", [('\t', '\r'), (' ', ' ')]),
  ("upper", [('A', 'Z')]),
  ("word", [('0', '9'), ('A', 'Z'), ('_', '_'), ('a', 'z')]),
  ("xdigit", [('0', '9'), ('A', 'F'), ('a', 'f')])]

/-- Reads a class such as `[:alpha:]`, after its first bracket. -/
def asciiClass? : List Char → Option (ClassSet × List Char)
  | ':' :: rest =>
    let (negated, rest) :=
      match rest with
      | '^' :: more => (true, more)
      | _ => (false, rest)
    match rest.span (· ≠ ':') with
    | (name, ':' :: ']' :: rest) =>
      (asciiClasses.lookup (.ofList name)).map fun ranges => (.ascii ranges negated, rest)
    | _ => none
  | _ => none

/-- A class whose brackets are open. -/
structure OpenClass where
  /-- Whether the class is the complement of what is inside. -/
  negated : Bool
  /-- The operation whose right side is being read, with its left side. -/
  pending : Option (SetOp × ClassSet)
  /-- The items read so far, the last one first. -/
  items : List ClassSet

namespace OpenClass

/-- All that was read so far, as one class. -/
def set (c : OpenClass) : ClassSet :=
  let items := ClassSet.ofItems c.items.reverse
  match c.pending with
  | none => items
  | some (op, left) => .op op left items

/-- The class with one more item. -/
def push (c : OpenClass) (item : ClassSet) : OpenClass := { c with items := item :: c.items }

/-- The class behind an operation sign. -/
def operate (c : OpenClass) (op : SetOp) : OpenClass :=
  { c with pending := some (op, c.set), items := [] }

end OpenClass

/-- Reads hyphens in front of a class; each is a member. -/
def leadingHyphens (spaced : Bool) : (limit : Nat) → List Char → List ClassSet × List Char
  | limit + 1, '-' :: rest =>
    let (more, rest) := leadingHyphens spaced limit (skip spaced rest)
    (.char ⟨'-', false⟩ :: more, rest)
  | _, cs => ([], cs)

/-- Opens a class, after its bracket.  Hyphens in front, or one closing bracket there, are
members. -/
def openClass? (spaced : Bool) (cs : List Char) : Option (OpenClass × List Char) :=
  let cs := skip spaced cs
  let (negated, cs) :=
    match cs with
    | '^' :: rest => (true, skip spaced rest)
    | _ => (false, cs)
  let (hyphens, cs) := leadingHyphens spaced cs.length cs
  match hyphens, cs with
  | _, [] => none
  | [], ']' :: rest =>
    match skip spaced rest with
    | [] => none
    | rest => some (⟨negated, none, [.char ⟨']', false⟩]⟩, rest)
  | _, cs => some (⟨negated, none, hyphens.reverse⟩, cs)

/-- Reads one character or escape of a class. -/
def classPrimitive? (spaced : Bool) : List Char → Option (Primitive × List Char)
  | [] => none
  | '\\' :: rest => escape? spaced rest
  | c :: rest => some (.literal ⟨c, false⟩, rest)

/-- The item that a single part of a class is. -/
def classItem? : Primitive → Option ClassSet
  | .literal l => some (.char l)
  | .named cls => some (.named cls)
  | .assertion _ => none

/-- Reads a character, a class or a range.  A hyphen is a range sign unless a closing bracket or
another hyphen follows. -/
def classRange? (spaced : Bool) (cs : List Char) : Option (ClassSet × List Char) :=
  match classPrimitive? spaced cs with
  | none => none
  | some (first, rest) =>
    match skip spaced rest with
    | [] => none
    | '-' :: rest =>
      if peek spaced rest = some ']' ∨ peek spaced rest = some '-' then
        (classItem? first).map fun item => (item, '-' :: rest)
      else
        match first, classPrimitive? spaced (skip spaced rest) with
        | .literal a, some (.literal b, rest) =>
          if a.char ≤ b.char then some (.range a b, rest) else none
        | _, _ => none
    | rest => (classItem? first).map fun item => (item, rest)

/-- Reads a class up to its closing bracket: `current` is the innermost open class, `outer` are
those around it. -/
def classBody? (spaced : Bool) :
    (limit : Nat) → (current : OpenClass) → (outer : List OpenClass) → List Char →
      Option (Syntax × List Char)
  | 0, _, _, _ => none
  | limit + 1, current, outer, cs =>
    match skip spaced cs with
    | [] => none
    | '[' :: rest =>
      match asciiClass? rest with
      | some (item, rest) => classBody? spaced limit (current.push item) outer rest
      | none =>
        match openClass? spaced rest with
        | some (inner, rest) => classBody? spaced limit inner (current :: outer) rest
        | none => none
    | ']' :: rest =>
      match outer with
      | [] => some (.bracketed current.negated current.set, rest)
      | parent :: outer =>
        classBody? spaced limit (parent.push (.bracketed current.negated current.set)) outer rest
    | '&' :: '&' :: rest => classBody? spaced limit (current.operate .intersection) outer rest
    | '-' :: '-' :: rest => classBody? spaced limit (current.operate .difference) outer rest
    | '~' :: '~' :: rest =>
      classBody? spaced limit (current.operate .symmetricDifference) outer rest
    | rest =>
      match classRange? spaced rest with
      | some (item, rest) => classBody? spaced limit (current.push item) outer rest
      | none => none

/-- Reads a class in brackets, after its first bracket. -/
def bracketed? (spaced : Bool) (cs : List Char) : Option (Syntax × List Char) :=
  match openClass? spaced cs with
  | some (c, rest) => classBody? spaced (rest.length + 1) c [] rest
  | none => none

/-! ### Groups -/

/-- The flag of a letter. -/
def flag? : Char → Option Flag
  | 'i' => some .ignoreCase
  | 'm' => some .multiLine
  | 's' => some .dotAll
  | 'U' => some .swapGreed
  | 'u' => some .unicode
  | 'R' => some .crlf
  | 'x' => some .spaced
  | _ => none

/-- Reads flags up to the colon or parenthesis behind them.  None may occur twice, nor the hyphen,
and the hyphen may not be the last of them. -/
def flags? (seen : FlagChange) : List Char → Option (FlagChange × Char × List Char)
  | [] => none
  | c :: rest =>
    if c = ':' ∨ c = ')' then
      if seen.head? = some none then none else some (seen.reverse, c, rest)
    else
      match if c = '-' then some none else (flag? c).map some with
      | some item => if seen.contains item then none else flags? (item :: seen) rest
      | none => none

/-- Whether the name of a group can start with a character. -/
def startsGroupName (c : Char) : Bool := c == '_' || Unicode.isAlphabetic c

/-- Whether the name of a group can go on with a character. -/
def continuesGroupName (c : Char) : Bool :=
  c == '_' || c == '.' || c == '[' || c == ']' || Unicode.isAlphanumeric c

/-- Reads the name of a group up to the bracket behind it. -/
def groupName? (cs : List Char) : Option (String × List Char) :=
  match cs.span (· ≠ '>') with
  | (first :: more, _ :: rest) =>
    if startsGroupName first && more.all continuesGroupName then
      some (.ofList (first :: more), rest)
    else none
  | _ => none

/-- What an opening parenthesis starts. -/
inductive Opening where
  /-- A change of flags for the rest of the group around it. -/
  | flags (change : FlagChange)
  /-- A group, with its name if it has one. -/
  | group (captures : Bool) (change : FlagChange) (name : Option String)

/-- Reads what follows an opening parenthesis.  Conditions on what is before or after a place are
not supported. -/
def opening? (cs : List Char) : Option (Opening × List Char) :=
  match cs with
  | '?' :: '=' :: _ | '?' :: '!' :: _ | '?' :: '<' :: '=' :: _ | '?' :: '<' :: '!' :: _ => none
  | '?' :: 'P' :: '<' :: rest | '?' :: '<' :: rest =>
    (groupName? rest).map fun (name, rest) => (.group true [] (some name), rest)
  | '?' :: rest =>
    match flags? [] rest with
    | some (change, ')', rest) => if change.isEmpty then none else some (.flags change, rest)
    | some (change, _, rest) => some (.group false change none, rest)
    | none => none
  | _ => some (.group true [] none, cs)

/-! ### Patterns -/

/-- A group whose parenthesis is open, or the whole pattern: what was read before it. -/
structure OpenGroup where
  /-- The branches before the current one, the last one first. -/
  branches : List Syntax
  /-- The items of the current branch, the last one first. -/
  items : List Syntax
  /-- Whether the group captures. -/
  captures : Bool
  /-- The flags that the group changes. -/
  change : FlagChange
  /-- Whether blanks count around the group. -/
  spacedAround : Bool

/-- The reader between two parts of a pattern. -/
structure State where
  /-- The branches of the open group before the current one, the last one first. -/
  branches : List Syntax
  /-- The items of the current branch, the last one first. -/
  items : List Syntax
  /-- The groups around, the innermost first; each with how it was when this one was opened. -/
  outer : List OpenGroup
  /-- Whether blanks do not count. -/
  spaced : Bool
  /-- The names of groups so far. -/
  names : List String

namespace State

/-- The reader in front of a pattern. -/
def initial : State := ⟨[], [], [], false, []⟩

/-- All branches of the open group, as one pattern. -/
def inner (s : State) : Syntax :=
  .ofBranches (Syntax.ofItems s.items.reverse :: s.branches).reverse

/-- The reader with one more item. -/
def push (s : State) (item : Syntax) : State := { s with items := item :: s.items }

/-- The reader behind an opening parenthesis, or `none` if the name of the group is taken. -/
def opened? (s : State) : Opening → Option State
  | .flags change =>
    some { s with
      items := .flags change :: s.items
      spaced := (change.state? .spaced).getD s.spaced }
  | .group captures change name =>
    if name.any s.names.contains then none
    else some {
      branches := []
      items := []
      outer := ⟨s.branches, s.items, captures, change, s.spaced⟩ :: s.outer
      spaced := (change.state? .spaced).getD s.spaced
      names := name.toList ++ s.names }

/-- The reader behind a closing parenthesis, or `none` if no group is open. -/
def closed? (s : State) : Option State :=
  match s.outer with
  | [] => none
  | g :: outer => some {
      branches := g.branches
      items := .group g.captures g.change s.inner :: g.items
      outer
      spaced := g.spacedAround
      names := s.names }

/-- The reader behind a bar. -/
def branched (s : State) : State :=
  { s with branches := .ofItems s.items.reverse :: s.branches, items := [] }

/-- The reader with its last item repeated, or `none` if there is nothing to repeat. -/
def repeated? (s : State) (least : Nat) (most : Option Nat) : Option State :=
  match s.items with
  | [] | .flags _ :: _ => none
  | item :: items => some { s with items := .repetition item least most :: items }

end State

/-- The item that a primitive is. -/
def Primitive.item : Primitive → Syntax
  | literal l => .literal l
  | assertion a => .assertion a
  | named cls => .named cls

/-- Passes over the question mark that makes a repetition prefer fewer rounds. -/
def skipLazyMark : List Char → List Char
  | '?' :: rest => rest
  | cs => cs

/-- Reads one part of a pattern, which starts with `c`. -/
def part? (s : State) (c : Char) (rest : List Char) : Option (State × List Char) :=
  match c with
  | '(' =>
    match opening? (skip s.spaced rest) with
    | some (opening, rest) => (s.opened? opening).map fun s => (s, rest)
    | none => none
  | ')' => s.closed?.map fun s => (s, rest)
  | '|' => some (s.branched, rest)
  | '[' => (bracketed? s.spaced rest).map fun (item, rest) => (s.push item, rest)
  | '?' => (s.repeated? 0 (some 1)).map fun s => (s, skipLazyMark rest)
  | '*' => (s.repeated? 0 none).map fun s => (s, skipLazyMark rest)
  | '+' => (s.repeated? 1 none).map fun s => (s, skipLazyMark rest)
  | '\x7b' =>
    match counts? s.spaced rest with
    | some ((least, most), rest) =>
      (s.repeated? least most).map fun s => (s, skipLazyMark (skip s.spaced rest))
    | none => none
  | '\\' => (escape? s.spaced rest).map fun (p, rest) => (s.push p.item, rest)
  | '.' => some (s.push .dot, rest)
  | '^' => some (s.push (.assertion .startLine), rest)
  | '$' => some (s.push (.assertion .endLine), rest)
  | c => some (s.push (.literal ⟨c, false⟩), rest)

/-- Reads the parts of a pattern, at most `limit` of them. -/
def parts? : (limit : Nat) → State → List Char → Option Syntax
  | 0, _, _ => none
  | limit + 1, s, cs =>
    match skip s.spaced cs with
    | [] => if s.outer.isEmpty then some s.inner else none
    | c :: rest =>
      match part? s c rest with
      | some (s, rest) => parts? limit s rest
      | none => none

end Reader

/-- The greatest number of levels of a pattern. -/
def nestingLimit : Nat := 250

/-- The syntax tree of a pattern without mistakes and with few enough levels. -/
def Syntax.ofText? (cs : List Char) : Option Syntax :=
  match Reader.parts? (cs.length + 1) .initial cs with
  | some p => if p.nesting ≤ nestingLimit then some p else none
  | none => none

end Pattern
end RecordFilter
