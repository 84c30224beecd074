/-
# Arrays, objects and variants

The shapes that JSON texts are made of, read by readers of what is inside them.  A structure with
named fields is written as an object, or as an array of its fields in order (`Json.fields`).  One of
several variants is written by its name, with its content in an object around it if it has one
(`Json.variant`).

Arrays and objects nest at most `levelLimit` deep.  Only what is passed over (`Json.skip`) may nest
deeper; of its strings and numbers nothing but the form is checked.
-/

import RecordFilter.Json.Scan

namespace RecordFilter
namespace Json

/-- The number of levels of arrays and objects that are read. -/
def levelLimit : Nat := 127

/-- What is wrong where something of another type stands: a mistake in it, or its type. -/
def mismatch (cs : List Char) : Defect :=
  let orMismatch {α : Type} (r : Except Defect α) : Defect :=
    match r with
    | .ok _ => .mismatched
    | .error e => e
  match cs with
  | [] => .ended
  | 'n' :: rest => orMismatch (word ['u', 'l', 'l'] rest)
  | 't' :: rest => orMismatch (word ['r', 'u', 'e'] rest)
  | 'f' :: rest => orMismatch (word ['a', 'l', 's', 'e'] rest)
  | '"' :: rest => orMismatch (stringBody rest)
  | c :: rest =>
    if c = '[' ∨ c = '\x7b' then .mismatched
    else if c = '-' ∨ RecordFilter.Numeral.isDigit c then orMismatch (number (c :: rest))
    else .malformed

/-! ### Single values -/

/-- A null. -/
def null : Read Unit := fun cs =>
  match skipBlanks cs with
  | 'n' :: rest => (word ['u', 'l', 'l'] rest).map fun rest => ((), rest)
  | cs => .error (mismatch cs)

/-- A truth value. -/
def bool : Read Bool := fun cs =>
  match skipBlanks cs with
  | 't' :: rest => (word ['r', 'u', 'e'] rest).map fun rest => (true, rest)
  | 'f' :: rest => (word ['a', 'l', 's', 'e'] rest).map fun rest => (false, rest)
  | cs => .error (mismatch cs)

/-- A string. -/
def string : Read String := fun cs =>
  match skipBlanks cs with
  | '"' :: rest => stringBody rest
  | cs => .error (mismatch cs)

/-- A count of at most 64 bits. -/
def count : Read Nat := fun cs =>
  match skipBlanks cs with
  | [] => .error .ended
  | c :: rest =>
    if c = '-' ∨ RecordFilter.Numeral.isDigit c then
      match number (c :: rest) with
      | .error e => .error e
      | .ok ((n, _), rest) =>
        match n.count? with
        | some n => .ok (n, rest)
        | none => .error .mismatched
    else .error (mismatch (c :: rest))

/-! ### Arrays and objects -/

/-- Goes to the next element of an array, or stays at its closing bracket. -/
def nextElement (isFirst : Bool) : Read Bool := fun cs =>
  match skipBlanks cs with
  | [] => .error .ended
  | ']' :: rest => .ok (false, ']' :: rest)
  | c :: rest =>
    if isFirst then .ok (true, c :: rest)
    else if c = ',' then
      match skipBlanks rest with
      | [] => .error .ended
      | ']' :: _ => .error .malformed
      | cs => .ok (true, cs)
    else .error .malformed

/-- The elements of an array from one on, in at most `limit` steps. -/
def elementsFrom (element : Read α) : (limit : Nat) → (isFirst : Bool) → Read (List α)
  | 0, _, _ => .error .ended
  | limit + 1, isFirst, cs => do
    let (isMore, cs) ← nextElement isFirst cs
    if isMore then
      let (a, cs) ← element cs
      let (more, cs) ← elementsFrom element limit false cs
      return (a :: more, cs)
    else return ([], cs.drop 1)

/-- The elements of an array, after its opening bracket. -/
def elements (element : Read α) : Read (List α) := fun cs =>
  elementsFrom element (cs.length + 1) true cs

/-- Goes to the next key of an object, behind its opening quote, or stays at the closing brace. -/
def nextKey (isFirst : Bool) : Read Bool := fun cs =>
  match skipBlanks cs with
  | [] => .error .ended
  | '\x7d' :: rest => .ok (false, '\x7d' :: rest)
  | '"' :: rest => if isFirst then .ok (true, rest) else .error .malformed
  | ',' :: rest =>
    if isFirst then .error .malformed
    else
      match skipBlanks rest with
      | [] => .error .ended
      | '"' :: rest => .ok (true, rest)
      | _ => .error .malformed
  | _ => .error .malformed

/-- The colon behind a key. -/
def colon (cs : List Char) : Except Defect (List Char) :=
  match skipBlanks cs with
  | [] => .error .ended
  | ':' :: rest => .ok rest
  | _ => .error .malformed

/-- The entries of an object from one on, in at most `limit` steps.  Each entry changes `state`,
from its key and the text behind that. -/
def entriesFrom (entry : σ → String → Read σ) :
    (limit : Nat) → (isFirst : Bool) → (state : σ) → Read σ
  | 0, _, _, _ => .error .ended
  | limit + 1, isFirst, state, cs => do
    let (isMore, cs) ← nextKey isFirst cs
    if isMore then
      let (key, cs) ← stringBody cs
      let (state, cs) ← entry state key cs
      entriesFrom entry limit false state cs
    else return (state, cs.drop 1)

/-- The entries of an object, after its opening brace. -/
def entries (entry : σ → String → Read σ) (state : σ) : Read σ := fun cs =>
  entriesFrom entry (cs.length + 1) true state cs

/-! ### What is passed over -/

/-- An array or object that is open. -/
inductive Container where
  | array
  | object
deriving DecidableEq, Repr

/-- Where passing over stands. -/
inductive SkipPoint where
  /-- In front of a value. -/
  | value
  /-- Behind the opening bracket of the innermost container. -/
  | opened
  /-- Behind a value. -/
  | behind
deriving DecidableEq, Repr

/-- Passes over a value that is no array and no object. -/
def skipSingle : List Char → Except Defect (List Char)
  | [] => .error .ended
  | 'n' :: rest => word ['u', 'l', 'l'] rest
  | 't' :: rest => word ['r', 'u', 'e'] rest
  | 'f' :: rest => word ['a', 'l', 's', 'e'] rest
  | '"' :: rest => skipString rest
  | cs =>
    match Numeral.read cs with
    | .ok (_, rest) => .ok rest
    | .error _ => .error .malformed

/-- Passes over a key and its colon, if the container has keys. -/
def skipKey : Container → List Char → Except Defect (List Char)
  | .array, cs => .ok cs
  | .object, cs =>
    match skipBlanks cs with
    | [] => .error .ended
    | '"' :: rest => (skipString rest).bind colon
    | _ => .error .malformed

/-- Whether a character closes a container. -/
def Container.closes : Container → Char → Bool
  | array, c => c == ']'
  | object, c => c == '\x7d'

/-- Passes over the rest of a value, in at most `limit` steps; `outer` are the containers that are
open, the innermost first. -/
def skipFrom : (limit : Nat) → SkipPoint → (outer : List Container) → List Char →
    Except Defect (List Char)
  | 0, _, _, _ => .error .ended
  | limit + 1, .value, outer, cs =>
    match skipBlanks cs with
    | '[' :: rest => skipFrom limit .opened (.array :: outer) rest
    | '\x7b' :: rest => skipFrom limit .opened (.object :: outer) rest
    | cs => (skipSingle cs).bind (skipFrom limit .behind outer)
  | _ + 1, .opened, [], cs | _ + 1, .behind, [], cs => .ok cs
  | limit + 1, .opened, inner :: outer, cs =>
    match skipBlanks cs with
    | [] => .error .ended
    | c :: rest =>
      if inner.closes c then skipFrom limit .behind outer rest
      else (skipKey inner (c :: rest)).bind (skipFrom limit .value (inner :: outer))
  | limit + 1, .behind, inner :: outer, cs =>
    match skipBlanks cs with
    | [] => .error .ended
    | c :: rest =>
      if inner.closes c then skipFrom limit .behind outer rest
      else if c = ',' then (skipKey inner rest).bind (skipFrom limit .value (inner :: outer))
      else .error .malformed

/-- Passes over a value. -/
def skip (cs : List Char) : Except Defect (List Char) :=
  skipFrom (2 * cs.length + 2) .value [] cs

/-! ### Structures with named fields -/

/-- A field of a structure that is being read into `σ`. -/
structure Field (σ : Type) where
  /-- The name of the field. -/
  name : String
  /-- Whether the field was read already. -/
  isSet : σ → Bool
  /-- Reads the field. -/
  read : σ → Read σ

/-- The field that `get?` finds and `put` sets. -/
def Field.of (name : String) (get? : σ → Option α) (put : α → σ → σ) (read : Read α) : Field σ where
  name
  isSet s := (get? s).isSome
  read s cs := (read cs).map fun (a, cs) => (put a s, cs)

/-- The fields of a structure that is written as an array, which may end early. -/
def fieldsInOrder (state : σ) : (isFirst : Bool) → List (Field σ) → Read σ
  | _, [], cs =>
    match skipBlanks cs with
    | [] => .error .ended
    | ']' :: rest => .ok (state, rest)
    | _ => .error .malformed
  | isFirst, field :: more, cs => do
    let (isMore, cs) ← nextElement isFirst cs
    if isMore then
      let (state, cs) ← field.read state cs
      fieldsInOrder state false more cs
    else return (state, cs.drop 1)

/-- A field of a structure that is written as an object, after its key.  No field may occur
twice. -/
def fieldByName (all : List (Field σ)) (allowsOthers : Bool) (state : σ) (key : String) : Read σ :=
  fun cs =>
    match all.find? fun field => field.name = key with
    | some field =>
      if field.isSet state then .error .mismatched
      else (colon cs).bind (field.read state)
    | none =>
      if allowsOthers then ((colon cs).bind skip).map fun cs => (state, cs)
      else .error .mismatched

/-- A structure with named fields. -/
def fields (levels : Nat) (all : List (Field σ)) (allowsOthers : Bool) (state : σ) : Read σ :=
  fun cs =>
    match skipBlanks cs with
    | '[' :: rest => if levels = 0 then .error .malformed else fieldsInOrder state true all rest
    | '\x7b' :: rest =>
      if levels = 0 then .error .malformed
      else entries (fieldByName all allowsOthers) state rest
    | cs => .error (mismatch cs)

/-- A structure of which every field has to be there. -/
def complete (read : Read σ) (finish? : σ → Option α) : Read α := fun cs =>
  match read cs with
  | .error e => .error e
  | .ok (s, rest) =>
    match finish? s with
    | some a => .ok (a, rest)
    | none => .error .mismatched

/-- An array. -/
def array (levels : Nat) (element : Read α) : Read (List α) := fun cs =>
  match skipBlanks cs with
  | '[' :: rest => if levels = 0 then .error .malformed else elements element rest
  | cs => .error (mismatch cs)

/-! ### Variants -/

/-- One of several forms that something can have. -/
inductive Variant (α : Type) where
  /-- A form without content. -/
  | plain (value : α)
  /-- A form with content. -/
  | holding (content : Read α)

/-- Reads the content of a variant that is written as an object. -/
def Variant.content : Variant α → Read α
  | plain a => fun cs => (null cs).map fun ((), cs) => (a, cs)
  | holding content => content

/-- The value of a variant that is written by its name alone. -/
def Variant.alone : Variant α → Except Defect α
  | plain a => .ok a
  | holding _ => .error .mismatched

/-- One of several variants. -/
def variant (levels : Nat) (named? : String → Option (Variant α)) : Read α := fun cs =>
  match skipBlanks cs with
  | [] => .error .ended
  | '"' :: rest => do
    let (name, cs) ← stringBody rest
    match named? name with
    | some v => v.alone.map fun a => (a, cs)
    | none => .error .mismatched
  | '\x7b' :: rest =>
    if levels = 0 then .error .malformed
    else do
      let (name, cs) ← string rest
      match named? name with
      | none => .error .mismatched
      | some v => do
        let cs ← colon cs
        let (a, cs) ← v.content cs
        match skipBlanks cs with
        | [] => .error .ended
        | '\x7d' :: rest => return (a, rest)
        | _ => .error .malformed
  | _ => .error .malformed

/-- Reads a whole text. -/
def whole (read : Read α) (text : String) : Except Defect α :=
  match read text.toList with
  | .error e => .error e
  | .ok (a, rest) => if (skipBlanks rest).isEmpty then .ok a else .error .malformed

end Json
end RecordFilter
