/-
# Engines

An engine prepares the filter of a text once and applies it to any number of records.  What it
answers depends on its settings alone, not on what it was asked before.
-/

import RecordFilter.Engine.Cache
import RecordFilter.Engine.Settings
import RecordFilter.Filter.Basic

namespace RecordFilter

/-- Settings, and the filters that were prepared under them. -/
structure Engine where
  /-- The settings. -/
  settings : Settings
  /-- The filters, by text. -/
  cache : Cache Filter

namespace Engine

/-- An engine that has prepared nothing yet. -/
def ofSettings (s : Settings) : Engine := ⟨s, .empty s.cacheCapacity⟩

/-- The filter of a text, and the engine that has it. -/
def compile (e : Engine) (text : String) : Except SyntaxError (Built Filter) × Engine :=
  let answer := e.cache.ask text fun () => Filter.ofText e.settings.maxDepth text
  (answer.result, { e with cache := answer.cache })

/-- The records on which the expression of a text counts as true, and the engine that has its
filter. -/
def select (e : Engine) (text : String) (records : List Value) :
    Except SyntaxError (List Value) × Engine :=
  let (result, e) := e.compile text
  (result.map fun f => f.value.apply records, e)

/-- Whether the engine has the filter of a text. -/
def has (e : Engine) (text : String) : Bool := (e.cache.get? text).isSome

/-- The engine without its filters. -/
def clear (e : Engine) : Engine := { e with cache := e.cache.clear }

end Engine

end RecordFilter
