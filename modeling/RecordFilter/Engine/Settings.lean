/-
# Settings

What a user can set: how many levels an expression may have, and how many filters are kept for
later use.  Settings are stored as a JSON object in which every field may be missing and no other
may stand.
-/

import RecordFilter.Json.Structure
import RecordFilter.Expr.Parser

namespace RecordFilter

/-- The settings of an engine. -/
structure Settings where
  /-- The greatest number of levels of an expression. -/
  maxDepth : Nat := Expr.defaultLimit
  /-- The number of filters that are kept. -/
  cacheCapacity : Nat := 512
deriving DecidableEq, Repr

/-- What can be wrong with settings. -/
inductive SettingsError where
  /-- The text does not hold settings. -/
  | json (defect : Json.Defect)
  /-- No expression has no levels. -/
  | zeroMaxDepth
deriving DecidableEq, Repr

namespace SettingsError

/-- The text of an error.  That of a text that does not hold settings is left to the reader. -/
def message : SettingsError → String
  | json _ => "Invalid configuration"
  | zeroMaxDepth => "max_depth must be at least 1"

end SettingsError

namespace Settings

/-- The settings that hold where nothing is set. -/
def default : Settings where

/-- Refuses settings that make every expression too deep. -/
def validated (s : Settings) : Except SettingsError Settings :=
  if s.maxDepth = 0 then .error .zeroMaxDepth else .ok s

/-- The settings of which some were read. -/
structure Partial where
  /-- The greatest number of levels, if it was read. -/
  maxDepth : Option Nat
  /-- The number of filters, if it was read. -/
  cacheCapacity : Option Nat

/-- The fields of stored settings. -/
def jsonFields : List (Json.Field Partial) := [
  .of "max_depth" Partial.maxDepth (fun n s => { s with maxDepth := some n }) Json.count,
  .of "cache_capacity" Partial.cacheCapacity (fun n s => { s with cacheCapacity := some n })
    Json.count]

/-- The settings, with those that were not read as they are by default. -/
def Partial.completed (p : Partial) : Settings where
  maxDepth := p.maxDepth.getD default.maxDepth
  cacheCapacity := p.cacheCapacity.getD default.cacheCapacity

/-- The settings of a JSON text. -/
def ofJson (text : String) : Except SettingsError Settings :=
  match Json.whole (Json.fields Json.levelLimit jsonFields false ⟨none, none⟩) text with
  | .ok p => p.completed.validated
  | .error d => .error (.json d)

/-- The JSON of settings. -/
def toJson (s : Settings) : String :=
  "\x7b\"max_depth\":" ++ s.maxDepth.repr ++ ",\"cache_capacity\":" ++ s.cacheCapacity.repr
    ++ "\x7d"

end Settings

end RecordFilter
