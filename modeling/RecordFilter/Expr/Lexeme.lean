/-
# Lexemes

The text of an expression is cut into lexemes: tokens with the positions where they start and stop.
White space may stand between them and means nothing else.  Each function of `Scan` looks at the
front of a text and says what is there and how many characters it takes; `Source.next` takes one
lexeme off a text, and `Source.lexemes` takes all of them up to the end or to the first part that is
not a token.

What is not a token still takes characters: reading may go on behind it.
-/

import RecordFilter.Expr.SyntaxError
import RecordFilter.Number.Numeral

namespace RecordFilter

/-- A token and the positions of its first character and of the first one after it. -/
structure Lexeme where
  /-- The token. -/
  token : Token
  /-- The position of its first character. -/
  start : Nat
  /-- The position after its last character. -/
  stop : Nat

/-- What stands at the front of a text. -/
inductive Scan where
  /-- A token of `length` characters. -/
  | token (token : Token) (length : Nat)
  /-- No token; the reader passes over `length` characters. -/
  | fault (error : SyntaxError) (length : Nat)

namespace Scan

/-! ### Texts in quotes -/

/-- The value of a hexadecimal digit of either case. -/
abbrev hexDigit? (c : Char) : Option Nat := CodeSet.hexDigit? c

/-- The character that an escape letter stands for, where it stands for one by itself. -/
def escapedChar? (c : Char) : Option Char :=
  match c with
  | '"' | '\'' | '\\' | '/' => some c
  | 'b' => some '\x08'
  | 'f' => some '\x0C'
  | 'v' => some '\x0B'
  | '0' => some '\x00'
  | 'n' => some '\n'
  | 'r' => some '\r'
  | 't' => some '\t'
  | _ => none

/-- The number of hexadecimal digits after an escape letter that takes some. -/
def hexEscapeLength? (c : Char) : Option Nat :=
  match c with
  | 'x' => some 2
  | 'u' => some 4
  | _ => none

/-- One piece of a text in quotes. -/
inductive Piece where
  /-- A character, written with `length` characters. -/
  | char (char : Char) (length : Nat)
  /-- An escape that means nothing: what is shown of it, how far into the piece the error lies, and
  the number of characters read. -/
  | fault (shown : List Char) (offset length : Nat)
  /-- A backslash that ends the text. -/
  | unfinished
deriving DecidableEq

/-- The character with a code point, unless that is a surrogate or too great. -/
def charOfCode? (code : Nat) : Option Char :=
  if code.isValidChar then some (.ofNat code) else none

/-- The piece that a backslash and the character `letter` start, with `rest` after them. -/
def escapePiece (letter : Char) (rest : List Char) : Piece :=
  match escapedChar? letter, hexEscapeLength? letter with
  | some c, _ => .char c 2
  | none, some count =>
    let digits := (rest.take count).takeWhile fun c => (hexDigit? c).isSome
    let code := digits.foldl (fun n c => n * 16 + (hexDigit? c).getD 0) 0
    match if digits.length = count then charOfCode? code else none with
    | some c => .char c (2 + count)
    | none => .fault ('\\' :: letter :: digits) 2 (2 + digits.length)
  | none, none => .fault ['\\', letter] 0 1

/-- The piece at the front of what is inside the quotes. -/
def piece (first : Char) (rest : List Char) : Piece :=
  if first = '\\' then
    match rest with
    | [] => .unfinished
    | letter :: more => escapePiece letter more
  else .char first 1

/-- What follows an opening quote. -/
inductive Body where
  /-- A text and the quote that ends it, `length` characters in all. -/
  | closed (text : List Char) (length : Nat)
  /-- No end. -/
  | unclosed
  /-- An escape that means nothing, the distance of the error, and the number of characters read. -/
  | badEscape (shown : List Char) (offset length : Nat)

namespace Body

/-- Puts a piece in front of a body. -/
def afterChar (c : Char) (n : Nat) : Body → Body
  | closed text length => closed (c :: text) (n + length)
  | unclosed => unclosed
  | badEscape shown offset length => badEscape shown (n + offset) (n + length)

end Body

/-- Reads what follows an opening quote. -/
def body (quote : Char) : List Char → Body
  | [] => .unclosed
  | c :: rest =>
    if c = quote then .closed [] 1
    else
      match piece c rest with
      | .char d length => (body quote (rest.drop (length - 1))).afterChar d length
      | .fault shown offset length => .badEscape shown offset length
      | .unfinished => .unclosed
termination_by cs => cs.length
decreasing_by simp only [List.length_drop, List.length_cons]; omega

/-- Scans a text in quotes whose opening quote stands at `start`. -/
def string (quote : Char) (start : Nat) (rest : List Char) : Scan :=
  match body quote rest with
  | .closed text length => .token (.string (.ofList text)) (1 + length)
  | .unclosed => .fault (.unclosedString start) (1 + rest.length)
  | .badEscape shown offset length =>
    .fault (.invalidEscape (.ofList shown) (start + 1 + offset)) (1 + length)

/-! ### Names and numbers -/

/-- Whether a name can start with a character. -/
def startsName (c : Char) : Bool := Unicode.isAlphabetic c || c == '_' || c == '$'

/-- Whether a name can go on with a character. -/
def continuesName (c : Char) : Bool := Unicode.isAlphanumeric c || c == '_' || c == '$'

/-- Scans a name or a reserved word. -/
def name (cs : List Char) : Scan :=
  let text := cs.takeWhile continuesName
  .token (.ofName (.ofList text)) text.length

/-- The digits after a point.  A point without one is not part of a number. -/
def fraction : List Char → List Char
  | '.' :: rest => Numeral.digits rest
  | _ => []

/-- The number of characters of a fraction with its point. -/
def fractionLength (fraction : List Char) : Nat :=
  if fraction.isEmpty then 0 else fraction.length + 1

/-- The number of characters of the exponent at the front of a text, and whether it has digits if
one starts there. -/
def exponent : List Char → Nat × Bool
  | c :: rest =>
    if c = 'e' ∨ c = 'E' then
      let more := (Numeral.takeSign rest).2
      let ds := Numeral.digits more
      (1 + (rest.length - more.length) + ds.length, !ds.isEmpty)
    else (0, true)
  | [] => (0, true)

/-- The number of name characters in front of a text, if a name can start there. -/
def nameLength : List Char → Nat
  | c :: rest => if startsName c then ((c :: rest).takeWhile continuesName).length else 0
  | [] => 0

/-- The number of characters of a number in front of its exponent. -/
def mantissaLength (cs : List Char) : Nat :=
  (Numeral.digits cs).length +
    fractionLength (fraction (cs.drop (Numeral.digits cs).length))

/-- Scans a number that starts at `start` with a digit or with a point and a digit.  Its length is
found first, and then its text is read. -/
def number (start : Nat) (cs : List Char) : Scan :=
  let (exponentLength, complete) := exponent (cs.drop (mantissaLength cs))
  let length := mantissaLength cs + exponentLength
  let fault (n : Nat) : Scan := .fault (.invalidNumber (.ofList (cs.take n)) start) n
  if complete then
    let tail := nameLength (cs.drop length)
    if tail = 0 then
      match Numeral.double? (cs.take length) with
      | some x => .token (.number x) length
      | none => fault length
    else fault (length + tail)
  else fault length

/-- Scans an operator or bracket that starts at `start` with `first`. -/
def symbol (start : Nat) (first : Char) (rest : List Char) : Scan :=
  match Symbol.ofFront? (first :: rest) with
  | some s => .token (.symbol s) s.text.length
  | none => .fault (.unexpectedChar first start) 0

/-- Whether a number starts with `first`. -/
def startsNumber (first : Char) (rest : List Char) : Bool :=
  Numeral.isDigit first || (first == '.' && Numeral.startsWithDigit rest)

/-- What stands at the front of a text that starts at `start` and is not empty. -/
def front (start : Nat) (first : Char) (rest : List Char) : Scan :=
  if first = '"' ∨ first = '\'' then string first start rest
  else if startsNumber first rest then number start (first :: rest)
  else if startsName first then name (first :: rest)
  else symbol start first rest

end Scan

/-- The part of a text that is still to be read. -/
structure Source where
  /-- The characters to read. -/
  rest : List Char
  /-- The position of the first of them. -/
  position : Nat

/-- One step of reading. -/
inductive Reading where
  /-- A lexeme, and what is left after it. -/
  | lexeme (lexeme : Lexeme) (after : Source)
  /-- The end of the text. -/
  | finished (position : Nat)
  /-- No token, and where reading can go on. -/
  | fault (error : SyntaxError) (after : Source)

/-- How the lexemes of a text end. -/
inductive Ending where
  /-- With the end of the text. -/
  | finished (position : Nat)
  /-- Before a part that is not a token; reading can go on at `after`. -/
  | broken (error : SyntaxError) (after : Source)

namespace Source

/-- The whole of a text. -/
def ofText (text : String) : Source := ⟨text.toList, 0⟩

/-- Passes over a number of characters. -/
def skip (s : Source) (n : Nat) : Source := ⟨s.rest.drop n, s.position + n⟩

/-- Passes over white space. -/
def skipSpace (s : Source) : Source :=
  s.skip (s.rest.takeWhile Unicode.isWhiteSpace).length

/-- Takes one lexeme off a text, and the white space before it. -/
def next (s : Source) : Reading :=
  let t := s.skipSpace
  match t.rest with
  | [] => .finished t.position
  | first :: rest =>
    match Scan.front t.position first rest with
    | .token token length => .lexeme ⟨token, t.position, t.position + length⟩ (t.skip length)
    | .fault error length => .fault error (t.skip length)

/-- The lexemes from a text on, at most `limit` of them. -/
def take : (limit : Nat) → Source → List Lexeme × Ending
  | 0, s => ([], .finished s.position)
  | limit + 1, s =>
    match s.next with
    | .lexeme l after =>
      let (rest, ending) := take limit after
      (l :: rest, ending)
    | .finished position => ([], .finished position)
    | .fault error after => ([], .broken error after)

/-- The lexemes of a text up to its end or to the first part that is not a token.  Each takes a
character at least, so there are no more than characters. -/
def lexemes (s : Source) : List Lexeme × Ending := take (s.rest.length + 1) s

end Source

end RecordFilter
