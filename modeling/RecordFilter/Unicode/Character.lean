/-
# Classes of single characters

The classes that the text of an expression is cut by: white space between its parts, letters and
digits in its names.  Beside them stand the classes that decide how a text is shown in a message:
characters without a visible form, and characters that attach to the one before them, are shown by
code point.
-/

import RecordFilter.Unicode.Data.GeneralCategory
import RecordFilter.Unicode.Data.BinaryProperty

namespace RecordFilter
namespace Unicode

/-- The characters of a general category, by its short or long name. -/
def categoryNamed (name : String) : CodeSet :=
  (NamedSet.find? generalCategories name).getD .empty

/-- The characters of any of the given general categories. -/
def categoriesNamed (names : List String) : CodeSet :=
  .unions (names.map categoryNamed)

/-- The characters that separate words and lines. -/
def whiteSpace : CodeSet := ⟨[
  ⟨0x9, 0xD⟩, ⟨0x20, 0x20⟩, ⟨0x85, 0x85⟩, ⟨0xA0, 0xA0⟩, ⟨0x1680, 0x1680⟩, ⟨0x2000, 0x200A⟩,
  ⟨0x2028, 0x2029⟩, ⟨0x202F, 0x202F⟩, ⟨0x205F, 0x205F⟩, ⟨0x3000, 0x3000⟩]⟩

/-- The characters that words are written with. -/
def alphabetic : CodeSet := alphabeticProperty.codeSet

/-- The characters that stand for numbers: decimal digits, number letters and other numbers. -/
def numeric : CodeSet := categoriesNamed ["nd", "nl", "no"]

/-- The characters that attach to the one before them. -/
def graphemeExtend : CodeSet := graphemeExtendProperty.codeSet

/-- The characters without a visible form of their own: controls, formats, unassigned and private
code points, and separators other than the blank. -/
def invisible : CodeSet :=
  (categoriesNamed ["cc", "cf", "cn", "co", "zl", "zp", "zs"]).diff (.singleton ' ')

/-- Whether a character is white space. -/
def isWhiteSpace (c : Char) : Bool := whiteSpace.contains c

/-- Whether a character is a letter.  The letters of one byte are `a` to `z` and `A` to `Z`. -/
def isAlphabetic (c : Char) : Bool :=
  if c.toNat < 0x80 then c.isAlpha else alphabetic.contains c

/-- Whether a character is a letter or stands for a number. -/
def isAlphanumeric (c : Char) : Bool :=
  if c.toNat < 0x80 then c.isAlphanum else alphabetic.contains c || numeric.contains c

/-- Whether a character has a visible form and stands on its own. -/
def isShownAsIs (c : Char) : Bool :=
  if c.toNat < 0x80 then decide (' ' ≤ c) && decide (c ≤ '~')
  else !(graphemeExtend.contains c || invisible.contains c)

end Unicode
end RecordFilter
