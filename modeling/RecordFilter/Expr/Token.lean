/-
# Tokens

The parts that the text of an expression is made of: literals, names, reserved words and symbols.
`Token.description` is how a message speaks of a token.
-/

import RecordFilter.Number.Layout
import RecordFilter.Text.Escape

namespace RecordFilter

/-- The words that are not names. -/
inductive Word where
  | trueWord
  | falseWord
  | nullWord
  | thisWord
  | inWord
deriving DecidableEq, Repr

namespace Word

/-- The spelling of a reserved word. -/
def text : Word → String
  | trueWord => "true"
  | falseWord => "false"
  | nullWord => "null"
  | thisWord => "this"
  | inWord => "in"

/-- All reserved words. -/
def all : List Word := [trueWord, falseWord, nullWord, thisWord, inWord]

end Word

/-- The operators and brackets that are written with symbols. -/
inductive Symbol where
  | plus
  | minus
  | star
  | starStar
  | slash
  | percent
  | bang
  | tilde
  | caret
  | ampersand
  | ampAmp
  | pipe
  | pipePipe
  | equalEqual
  | equalEqualEqual
  | bangEqual
  | bangEqualEqual
  | equalTilde
  | equalStar
  | less
  | lessEqual
  | greater
  | greaterEqual
  | lessLess
  | greaterGreater
  | greaterGreaterGreater
  | dot
  | question
  | colon
  | leftParen
  | rightParen
  | leftBracket
  | rightBracket
  | comma
deriving DecidableEq, Repr

namespace Symbol

/-- The spelling of a symbol. -/
def text : Symbol → String
  | plus => "+"
  | minus => "-"
  | star => "*"
  | starStar => "**"
  | slash => "/"
  | percent => "%"
  | bang => "!"
  | tilde => "~"
  | caret => "^"
  | ampersand => "&"
  | ampAmp => "&&"
  | pipe => "|"
  | pipePipe => "||"
  | equalEqual => "=="
  | equalEqualEqual => "==="
  | bangEqual => "!="
  | bangEqualEqual => "!=="
  | equalTilde => "=~"
  | equalStar => "=*"
  | less => "<"
  | lessEqual => "<="
  | greater => ">"
  | greaterEqual => ">="
  | lessLess => "<<"
  | greaterGreater => ">>"
  | greaterGreaterGreater => ">>>"
  | dot => "."
  | question => "?"
  | colon => ":"
  | leftParen => "("
  | rightParen => ")"
  | leftBracket => "["
  | rightBracket => "]"
  | comma => ","

/-- All symbols, longer ones first. -/
def longestFirst : List Symbol := [
  equalEqualEqual, bangEqualEqual, greaterGreaterGreater,
  starStar, ampAmp, pipePipe, equalEqual, bangEqual, equalTilde, equalStar, lessEqual, greaterEqual,
  lessLess, greaterGreater,
  plus, minus, star, slash, percent, bang, tilde, caret, ampersand, pipe, less, greater, dot,
  question, colon, leftParen, rightParen, leftBracket, rightBracket, comma]

/-- The longest symbol in front of a text. -/
def ofFront? (cs : List Char) : Option Symbol :=
  longestFirst.find? fun s => s.text.toList.isPrefixOf cs

end Symbol

/-- A part of the text of an expression. -/
inductive Token where
  /-- A text in quotes. -/
  | string (text : String)
  /-- A number. -/
  | number (value : Float)
  /-- A name that is not reserved. -/
  | name (name : String)
  /-- A reserved word. -/
  | word (word : Word)
  /-- An operator or bracket. -/
  | symbol (symbol : Symbol)

namespace Token

/-- A number in a message is written without exponent and with few letters for an infinity. -/
def numberLayout : Number.Layout where
  leastPlain := none
  greatestPlain := none
  pointed := false
  tie := .up
  signedZero := true
  infinity := "inf"

/-- A spelling between single quotes. -/
def inQuotes (spelling : String) : String := "'" ++ spelling ++ "'"

/-- How a message speaks of a token. -/
def description : Token → String
  | string s => Text.quotedInMessage s
  | number x => numberLayout.render x
  | name n => inQuotes n
  | word w => inQuotes w.text
  | symbol s => inQuotes s.text

/-- The token of a run of name characters: a reserved word, or else a name. -/
def ofName (text : String) : Token :=
  match Word.all.find? fun w => w.text = text with
  | some w => word w
  | none => name text

end Token

end RecordFilter
