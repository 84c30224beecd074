/-
# Texts in quotes

Three kinds of text put strings between double quotes: values shown as text, JSON, and messages.
They agree on the backslash and the quote and differ in what else is written by an escape.
-/

import RecordFilter.Unicode.Character

namespace RecordFilter
namespace Text

/-- The digits of a number in base sixteen, in small letters. -/
def hex (n : Nat) : List Char := Nat.toDigits 16 n

/-- The escape of a control character by four hexadecimal digits. -/
def fourDigitEscape (c : Char) : List Char :=
  let digits := hex c.toNat
  '\\' :: 'u' :: (List.replicate (4 - digits.length) '0' ++ digits)

/-- A character of a JSON string.  Controls are written by an escape, some by a letter of their
own. -/
def jsonChar (c : Char) : List Char :=
  if c = '"' then ['\\', '"']
  else if c = '\\' then ['\\', '\\']
  else if c = '\n' then ['\\', 'n']
  else if c = '\r' then ['\\', 'r']
  else if c = '\t' then ['\\', 't']
  else if c = '\x08' then ['\\', 'b']
  else if c = '\x0C' then ['\\', 'f']
  else if c < ' ' then fourDigitEscape c
  else [c]

/-- A character of a string that is part of a value's text.  Backspace and form feed have no letter
of their own here. -/
def shownChar (c : Char) : List Char :=
  if c = '\x08' ∨ c = '\x0C' then fourDigitEscape c else jsonChar c

/-- A character of a string that is quoted in a message.  What is not visible on its own is written
by code point. -/
def messageChar (c : Char) : List Char :=
  if c = '\x00' then ['\\', '0']
  else if c = '\t' then ['\\', 't']
  else if c = '\r' then ['\\', 'r']
  else if c = '\n' then ['\\', 'n']
  else if c = '\\' then ['\\', '\\']
  else if c = '"' then ['\\', '"']
  else if Unicode.isShownAsIs c then [c]
  else '\\' :: 'u' :: '\x7b' :: (hex c.toNat ++ ['\x7d'])

/-- A string between double quotes, character by character. -/
def quotedBy (encode : Char → List Char) (s : String) : List Char :=
  '"' :: (s.toList.flatMap encode ++ ['"'])

/-- A string as a message quotes it. -/
def quotedInMessage (s : String) : String := .ofList (quotedBy messageChar s)

end Text
end RecordFilter
