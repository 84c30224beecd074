/-
# Properties by name

A search pattern asks for a class of characters by the name of a property (`Alphabetic`), of a
general category (`Lu`), of a script (`Greek`), or by property and value (`Script=Greek`).  Names
are compared loosely: case, blanks, hyphens and underlines do not count, and neither does a leading
`is` (`looseName`).
-/

import RecordFilter.Unicode.Character
import RecordFilter.Unicode.Data.Script
import RecordFilter.Unicode.Data.ScriptExtension
import RecordFilter.Unicode.Data.BreakClass
import RecordFilter.Unicode.Data.Age

namespace RecordFilter
namespace Unicode

/-- The form of a name in which names are compared.  `isc` keeps its first letters, as it
abbreviates another name. -/
def looseName (name : String) : String :=
  let lower := name.toList.map Char.toLower
  let isLed := lower.take 2 == ['i', 's']
  let kept := (if isLed then lower.drop 2 else lower).filter fun c =>
    decide (c.toNat < 0x80) && !(c == ' ' || c == '_' || c == '-')
  .ofList (if isLed && kept == ['c'] then ['i', 's', 'c'] else kept)

/-- The groups of general categories, by name. -/
def categoryGroups : List (List String × List String) := [
  (["c", "other"], ["cc", "cf", "cn", "co"]),
  (["l", "letter"], ["lu", "ll", "lt", "lm", "lo"]),
  (["lc", "casedletter"], ["lu", "ll", "lt"]),
  (["m", "mark", "combiningmark"], ["mn", "mc", "me"]),
  (["n", "number"], ["nd", "nl", "no"]),
  (["p", "punctuation", "punct"], ["pc", "pd", "ps", "pe", "pi", "pf", "po"]),
  (["s", "symbol"], ["sm", "sc", "sk", "so"]),
  (["z", "separator"], ["zs", "zl", "zp"])]

/-- A general category, a group of them, or one of `any`, `assigned` and `ascii`. -/
def categoryClass? (name : String) : Option CodeSet :=
  if name = "any" then some .everything
  else if name = "assigned" then some (categoryNamed "cn").complement
  else if name = "ascii" then some .ascii
  else
    match categoryGroups.find? fun group => group.1.contains name with
    | some group => some (categoriesNamed group.2)
    | none => NamedSet.find? generalCategories name

/-- A yes-or-no property. -/
def binaryClass? (name : String) : Option CodeSet :=
  if ["whitespace", "wspace", "space"].contains name then some whiteSpace
  else NamedSet.find? (alphabeticProperty :: graphemeExtendProperty :: otherBinaryProperties) name

/-- The characters that are in the standard since the given edition or an earlier one. -/
def ageClass? (name : String) : Option CodeSet :=
  match ages.findIdx? fun age => age.names.contains name with
  | some i => some (.unions ((ages.take (i + 1)).map NamedSet.codeSet))
  | none => none

/-- A class that is asked for by one name, read as a property, a category or a script, in this
order. -/
def classNamed? (name : String) : Option CodeSet :=
  let name := looseName name
  binaryClass? name <|> categoryClass? name <|> NamedSet.find? scripts name

/-- A class that is asked for by a property and one of its values. -/
def classWithValue? (property value : String) : Option CodeSet :=
  let property := looseName property
  let value := looseName value
  if ["gc", "generalcategory"].contains property then categoryClass? value
  else if ["sc", "script"].contains property then NamedSet.find? scripts value
  else if ["scx", "scriptextensions"].contains property then NamedSet.find? scriptExtensions value
  else if property = "age" then ageClass? value
  else if ["gcb", "graphemeclusterbreak"].contains property then
    NamedSet.find? graphemeClusterBreaks value
  else if ["wb", "wordbreak"].contains property then NamedSet.find? wordBreaks value
  else if ["sb", "sentencebreak"].contains property then NamedSet.find? sentenceBreaks value
  else none

/-- The decimal digits of all scripts. -/
def digits : CodeSet := categoryNamed "nd"

/-- The characters that words consist of: letters, marks, decimal digits, connectors and the two
joiners. -/
def wordCharacters : CodeSet :=
  .unions [alphabetic, categoriesNamed ["mn", "mc", "me", "nd", "pc"], .range 0x200C 0x200D]

end Unicode
end RecordFilter
