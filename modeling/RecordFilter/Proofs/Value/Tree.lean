/-
# Induction on values

Lists and maps hold values, so an induction on a value needs its hypothesis for each item and each
field (`Value.induct`).  Something holds at any depth of a value if it holds of the value and, at
any depth, of what it holds (`Value.Everywhere`).
-/

import Mathlib
import RecordFilter.Value.Basic

namespace RecordFilter
namespace Value

/-- Induction on what a value holds. -/
@[elab_as_elim]
theorem induct {motive : Value → Prop} (null : motive null) (absent : motive absent)
    (bool : ∀ b, motive (bool b)) (number : ∀ x, motive (number x))
    (string : ∀ s, motive (string s))
    (list : ∀ items, (∀ v ∈ items, motive v) → motive (list items))
    (map : ∀ fields, (∀ f ∈ fields, motive f.2) → motive (map fields)) (v : Value) : motive v :=
  @Value.rec motive (fun vs => ∀ v ∈ vs, motive v) (fun fs => ∀ f ∈ fs, motive f.2)
    (fun f => motive f.2) null absent bool number string list map
    (fun _ h => absurd h List.not_mem_nil) (fun _ _ hv hvs => List.forall_mem_cons.2 ⟨hv, hvs⟩)
    (fun _ h => absurd h List.not_mem_nil) (fun _ _ hf hfs => List.forall_mem_cons.2 ⟨hf, hfs⟩)
    (fun _ _ hv => hv) v

/-- The values that a list or map holds. -/
def contents : Value → List Value
  | list items => items
  | map fields => fields.map Prod.snd
  | _ => []

/-- Something holds of a value and of all values inside it, at any depth. -/
inductive Everywhere (p : Value → Prop) : Value → Prop
  /-- It holds of the value, and everywhere in what the value holds. -/
  | intro {v : Value} (h : p v) (hcontents : ∀ w ∈ v.contents, Everywhere p w) : Everywhere p v

/-- What holds everywhere in a value holds of it. -/
theorem Everywhere.holds {p : Value → Prop} {v : Value} (h : v.Everywhere p) : p v := by
  cases h
  assumption

/-- What holds everywhere in a value does so in each part of it. -/
theorem Everywhere.inside {p : Value → Prop} {v : Value} (h : v.Everywhere p) :
    ∀ w ∈ v.contents, w.Everywhere p := by
  cases h
  assumption

/-- What holds of a value without parts holds everywhere in it. -/
theorem Everywhere.single {p : Value → Prop} {v : Value} (h : p v) (hv : v.contents = []) :
    v.Everywhere p :=
  .intro h fun _ hw => absurd (hv ▸ hw) List.not_mem_nil

mutual

/-- The number of levels of lists and maps. -/
def depth : Value → Nat
  | list items => depthOfItems items + 1
  | map fields => depthOfFields fields + 1
  | _ => 0

/-- The number of levels of the deepest of several values. -/
def depthOfItems : List Value → Nat
  | [] => 0
  | v :: rest => max v.depth (depthOfItems rest)

/-- The number of levels of the deepest field. -/
def depthOfFields : List (String × Value) → Nat
  | [] => 0
  | (_, v) :: rest => max v.depth (depthOfFields rest)

end

/-- The depth of items is the greatest that one has. -/
theorem depthOfItems_eq (items : List Value) :
    depthOfItems items = (items.map depth).foldr max 0 := by
  induction items with
  | nil => rfl
  | cons v items ih => rw [depthOfItems, ih, List.map_cons, List.foldr_cons]

/-- The depth of fields is the greatest that one has. -/
theorem depthOfFields_eq (fields : List (String × Value)) :
    depthOfFields fields = (fields.map fun f => f.2.depth).foldr max 0 := by
  induction fields with
  | nil => rfl
  | cons f fields ih => rw [depthOfFields, ih, List.map_cons, List.foldr_cons]

/-- Items are no deeper than some levels if none of them is. -/
theorem depthOfItems_le {items : List Value} {n : Nat} :
    depthOfItems items ≤ n ↔ ∀ v ∈ items, v.depth ≤ n := by
  induction items with
  | nil => exact ⟨fun _ _ h => absurd h List.not_mem_nil, fun _ => Nat.zero_le n⟩
  | cons v items ih => rw [depthOfItems, Nat.max_le, ih, List.forall_mem_cons]

/-- Fields are no deeper than some levels if none of them is. -/
theorem depthOfFields_le {fields : List (String × Value)} {n : Nat} :
    depthOfFields fields ≤ n ↔ ∀ f ∈ fields, f.2.depth ≤ n := by
  induction fields with
  | nil => exact ⟨fun _ _ h => absurd h List.not_mem_nil, fun _ => Nat.zero_le n⟩
  | cons f fields ih => rw [depthOfFields, Nat.max_le, ih, List.forall_mem_cons]

/-- The keys in items are distinct if they are in each. -/
theorem allKeysDistinct_iff {items : List Value} :
    AllKeysDistinct items ↔ ∀ v ∈ items, v.KeysDistinct := by
  induction items with
  | nil => exact ⟨fun _ _ h => absurd h List.not_mem_nil, fun _ => trivial⟩
  | cons v items ih => rw [AllKeysDistinct, ih, List.forall_mem_cons]

/-- The keys in fields are distinct if they are in each. -/
theorem fieldsKeysDistinct_iff {fields : List (String × Value)} :
    FieldsKeysDistinct fields ↔ ∀ f ∈ fields, f.2.KeysDistinct := by
  induction fields with
  | nil => exact ⟨fun _ _ h => absurd h List.not_mem_nil, fun _ => trivial⟩
  | cons f fields ih => rw [FieldsKeysDistinct, ih, List.forall_mem_cons]

end Value
end RecordFilter
