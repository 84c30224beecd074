/-
# Syntax errors

Why a text is not an expression.  Each cause carries the position, counted in characters, at which
it was found.
-/

import RecordFilter.Expr.Token

namespace RecordFilter

/-- What should have stood where something else was found. -/
inductive Expectation where
  /-- A certain symbol. -/
  | symbol (symbol : Symbol)
  /-- A name after a dot. -/
  | propertyName
  /-- Nothing more. -/
  | endOfExpression

/-- How a message speaks of what was expected. -/
def Expectation.description : Expectation → String
  | symbol s => (Token.symbol s).description
  | propertyName => "property name"
  | endOfExpression => "end of expression"

/-- The causes for which a text is refused. -/
inductive SyntaxError where
  /-- No expression starts with this token. -/
  | unexpectedToken (found : Token) (position : Nat)
  /-- No token starts with this character. -/
  | unexpectedChar (found : Char) (position : Nat)
  /-- The text ends where something has to follow. -/
  | unexpectedEnd (position : Nat)
  /-- A number goes on with something that does not belong to it. -/
  | invalidNumber (text : String) (position : Nat)
  /-- The quote that ends a text is missing. -/
  | unclosedString (position : Nat)
  /-- A backslash is followed by what it does not go with. -/
  | invalidEscape (escape : String) (position : Nat)
  /-- Another token was needed here. -/
  | expected (expectation : Expectation) (found : Token) (position : Nat)
  /-- What is called has no name. -/
  | invalidCallTarget (position : Nat)
  /-- The expression has more levels than are allowed. -/
  | tooDeep (limit position : Nat)

namespace SyntaxError

/-- Where an error was found, in characters from the start of the text. -/
def position : SyntaxError → Nat
  | unexpectedToken _ p | unexpectedChar _ p | unexpectedEnd p | invalidNumber _ p
  | unclosedString p | invalidEscape _ p | expected _ _ p | invalidCallTarget p | tooDeep _ p => p

/-- The text of an error. -/
def message : SyntaxError → String
  | unexpectedToken found p =>
    "Unexpected token " ++ found.description ++ " at position " ++ p.repr
  | unexpectedChar found p =>
    "Unexpected character '" ++ found.toString ++ "' at position " ++ p.repr
  | unexpectedEnd p => "Unexpected end of expression at position " ++ p.repr
  | invalidNumber text p =>
    "Invalid number " ++ Text.quotedInMessage text ++ " at position " ++ p.repr
  | unclosedString p => "Unclosed string literal starting at position " ++ p.repr
  | invalidEscape escape p =>
    "Invalid escape sequence " ++ escape ++ " at position " ++ p.repr
  | expected expectation found p =>
    "Expected " ++ expectation.description ++ ", found " ++ found.description ++ " at position " ++
      p.repr
  | invalidCallTarget p => "Only named functions can be called (position " ++ p.repr ++ ")"
  | tooDeep limit p =>
    "Expression nesting exceeds " ++ limit.repr ++ " levels at position " ++ p.repr

end SyntaxError

end RecordFilter
