/-
# Keeping what was built

A cache keeps what was built for a key, so that asking again gives the very same thing.  To tell one
thing from another that equals it, each is numbered when it is built (`Built.serial`).

A cache that is full is emptied before the next thing is put into it.  What could not be built
changes nothing, and a cache without capacity keeps nothing.
-/

namespace RecordFilter

/-- Something that was built, with its number. -/
structure Built (α : Type) where
  /-- How many things were built before. -/
  serial : Nat
  /-- The thing itself. -/
  value : α
deriving DecidableEq, Repr

/-- A cache of things that are built from keys. -/
structure Cache (α : Type) where
  /-- How many things can be kept. -/
  capacity : Nat
  /-- What is kept, by key. -/
  entries : List (String × Built α)
  /-- How many things were built so far. -/
  builds : Nat

/-- What comes of asking a cache. -/
structure Answer (ε α : Type) where
  /-- The thing, or why it could not be built. -/
  result : Except ε (Built α)
  /-- Whether an attempt was made to build it. -/
  isNew : Bool
  /-- The cache afterwards. -/
  cache : Cache α

namespace Cache

/-- A cache that keeps nothing yet. -/
def empty (capacity : Nat) : Cache α := ⟨capacity, [], 0⟩

/-- The number of things that are kept. -/
def size (c : Cache α) : Nat := c.entries.length

/-- Whether nothing is kept. -/
def isEmpty (c : Cache α) : Bool := c.entries.isEmpty

/-- What is kept for a key. -/
def get? (c : Cache α) (key : String) : Option (Built α) := c.entries.lookup key

/-- The cache with nothing kept. -/
def clear (c : Cache α) : Cache α := { c with entries := [] }

/-- The cache with one more thing, for a key that it has nothing for. -/
def insert (c : Cache α) (key : String) (value : α) : Cache α :=
  let entries :=
    if c.capacity = 0 then c.entries
    else if c.capacity ≤ c.size then [(key, ⟨c.builds, value⟩)]
    else (key, ⟨c.builds, value⟩) :: c.entries
  { c with entries, builds := c.builds + 1 }

/-- What is kept for a key; if nothing is, it is built. -/
def ask (c : Cache α) (key : String) (build : Unit → Except ε α) : Answer ε α :=
  match c.get? key with
  | some b => ⟨.ok b, false, c⟩
  | none =>
    match build () with
    | .ok a => ⟨.ok ⟨c.builds, a⟩, true, c.insert key a⟩
    | .error e => ⟨.error e, true, c⟩

end Cache

end RecordFilter
