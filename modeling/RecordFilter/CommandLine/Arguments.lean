/-
# The arguments of the program

The program takes an expression and options.  An option has a long name, most a letter as well; its
value stands behind `=` or in the next argument, and behind a letter also without anything between.
Letters may share one hyphen.  After `--` no argument is an option.  Nothing may be given twice.

What the command line leaves open is taken from the environment.
-/

import RecordFilter.Number.Numeral

namespace RecordFilter
namespace CommandLine

-- Powers are those of the core library, whatever else is imported.
attribute [local instance (1100)] instPowNat

/-- What the program is asked to do. -/
structure Arguments where
  /-- The text of the expression. -/
  expression : String
  /-- The file with the records; the standard input if there is none. -/
  input : Option String
  /-- The file with the settings. -/
  settings : Option String
  /-- The greatest number of levels of an expression. -/
  maxDepth : Option Nat
  /-- Whether the output has line breaks. -/
  pretty : Bool
deriving DecidableEq, Repr

/-- The options. -/
inductive Name where
  | input
  | settings
  | maxDepth
  | pretty
deriving DecidableEq, Repr

namespace Name

/-- The option with a long name. -/
def ofLong? (name : String) : Option Name :=
  if name = "input" then some input
  else if name = "config" then some settings
  else if name = "max-depth" then some maxDepth
  else if name = "pretty" then some pretty
  else none

/-- The option with a letter. -/
def ofLetter? : Char → Option Name
  | 'i' => some input
  | 'c' => some settings
  | 'p' => some pretty
  | _ => none

/-- The variable of the environment that an option is taken from. -/
def environmentName? : Name → Option String
  | settings => some "HISTFILTER_CONFIG"
  | maxDepth => some "HISTFILTER_MAX_DEPTH"
  | input | pretty => none

end Name

/-- One argument or two, read. -/
inductive Item where
  /-- An argument that is no option. -/
  | expression (text : String)
  /-- An option without a value. -/
  | flag (name : Name)
  /-- An option with its value. -/
  | option (name : Name) (value : String)
deriving DecidableEq, Repr

namespace Item

/-- The text of an argument that is no option. -/
def expression? : Item → Option String
  | expression text => some text
  | _ => none

/-- The value that an item gives an option. -/
def value? (name : Name) : Item → Option String
  | option n value => if n = name then some value else none
  | _ => none

end Item

/-- Whether an argument would be read as an option. -/
def isOption (argument : String) : Bool :=
  match argument.toList with
  | '-' :: _ :: _ => true
  | _ => false

/-- The value of an option: what is attached to it, or the next argument. -/
def withValue (name : Name) (attached : Option String) (rest : List String) :
    Option (Item × List String) :=
  match attached, rest with
  | some value, rest => some (.option name value, rest)
  | none, value :: rest => if isOption value then none else some (.option name value, rest)
  | none, [] => none

/-- Reads an option by its long name. -/
def longOption? (text : List Char) (rest : List String) : Option (Item × List String) :=
  let (name, attached) := text.span (· ≠ '=')
  let attached :=
    match attached with
    | _ :: value => some (String.ofList value)
    | [] => none
  match Name.ofLong? (.ofList name) with
  | none => none
  | some .pretty => if attached.isNone then some (.flag .pretty, rest) else none
  | some name => withValue name attached rest

/-- The value that is attached to the letter of an option. -/
def attachedToLetter? : List Char → Option String
  | [] => none
  | '=' :: value => some (.ofList value)
  | value => some (.ofList value)

/-- Reads the letters behind a hyphen. -/
def letters? : List Char → List String → Option (List Item × List String)
  | [], rest => some ([], rest)
  | c :: more, rest =>
    match Name.ofLetter? c with
    | none => none
    | some .pretty => (letters? more rest).map fun (items, rest) => (.flag .pretty :: items, rest)
    | some name =>
      (withValue name (attachedToLetter? more) rest).map fun (item, rest) => ([item], rest)

/-- Reads arguments, at most `limit` times. -/
def items? : (limit : Nat) → List String → Option (List Item)
  | 0, _ => none
  | _ + 1, [] => some []
  | limit + 1, argument :: rest =>
    match argument.toList with
    | ['-', '-'] => some (rest.map .expression)
    | '-' :: '-' :: name =>
      match longOption? name rest with
      | some (item, rest) => (items? limit rest).map (item :: ·)
      | none => none
    | '-' :: c :: more =>
      match letters? (c :: more) rest with
      | some (items, rest) => (items? limit rest).map (items ++ ·)
      | none => none
    | _ => (items? limit rest).map (.expression argument :: ·)

/-- A file name; an empty one is none. -/
def fileName? (text : String) : Option String := if text.isEmpty then none else some text

/-- A text without its plus sign. -/
def withoutPlus : List Char → List Char
  | '+' :: rest => rest
  | cs => cs

/-- A count of at most 64 bits, perhaps with a plus sign. -/
def count? (text : String) : Option Nat :=
  let digits := withoutPlus text.toList
  let n := Decimal.ofDigits digits
  if !digits.isEmpty && digits.all Numeral.isDigit && decide (n < 2 ^ (64 : Nat)) then some n
  else none

/-- The values that are given for an option on the command line. -/
def given (items : List Item) (name : Name) : List String :=
  items.filterMap (·.value? name)

/-- The value of an option, from the command line or else from the environment: `none` if there is
more than one or it makes no sense, `some none` if there is no value. -/
def optionValue? (items : List Item) (environment : String → Option String) (name : Name)
    (read : String → Option α) : Option (Option α) :=
  match given items name, name.environmentName?.bind environment with
  | [value], _ | [], some value => (read value).map some
  | [], none => some none
  | _, _ => none

/-- What the program is asked to do, or `none` if the arguments make no sense. -/
def Arguments.ofList? (arguments : List String) (environment : String → Option String) :
    Option Arguments := do
  let items ← items? (arguments.length + 1) arguments
  let input ← optionValue? items environment .input fileName?
  let settings ← optionValue? items environment .settings fileName?
  let maxDepth ← optionValue? items environment .maxDepth count?
  match items.filterMap Item.expression?, items.filter (· == .flag .pretty) with
  | [expression], [] => some ⟨expression, input, settings, maxDepth, false⟩
  | [expression], [_] => some ⟨expression, input, settings, maxDepth, true⟩
  | _, _ => none

end CommandLine
end RecordFilter
