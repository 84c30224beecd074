/-
# Values without signed zeros

Two values are equal if they are of one kind and hold equal things (`Value.equal_iff`).  The sign of
a zero is the one thing that is not seen of a number, so a value equals what is left of it without
such signs (`Value.unsignedZeros_beq`).  Nothing else of it is touched, in particular not the order
of the fields of its maps (`Value.sameOrder_unsignedZeros`), which equality does not see either.
-/

import Mathlib
import RecordFilter.Proofs.Number.Binary64
import RecordFilter.Proofs.Value.Tree
import RecordFilter.Value.Equality

namespace RecordFilter
namespace Value

mutual

/-- The value without the signs of its zeros. -/
def unsignedZeros : Value → Value
  | number x => number (Binary64.unsignedZero x)
  | list items => list (unsignedZerosOfItems items)
  | map fields => map (unsignedZerosOfFields fields)
  | v => v

/-- The values without the signs of their zeros. -/
def unsignedZerosOfItems : List Value → List Value
  | [] => []
  | v :: rest => v.unsignedZeros :: unsignedZerosOfItems rest

/-- The fields without the signs of the zeros in them. -/
def unsignedZerosOfFields : List (String × Value) → List (String × Value)
  | [] => []
  | (name, v) :: rest => (name, v.unsignedZeros) :: unsignedZerosOfFields rest

end

/-- The zeros of a list are those of its items. -/
theorem unsignedZeros_list (items : List Value) :
    (list items).unsignedZeros = list (items.map unsignedZeros) := by
  rw [unsignedZeros, list.injEq]
  induction items with
  | nil => rfl
  | cons v items ih => rw [unsignedZerosOfItems, ih, List.map_cons]

/-- The zeros of a map are those of its values; the keys stay. -/
theorem unsignedZeros_map (fields : List (String × Value)) :
    (map fields).unsignedZeros = map (fields.map fun f => (f.1, f.2.unsignedZeros)) := by
  rw [unsignedZeros, map.injEq]
  induction fields with
  | nil => rfl
  | cons f fields ih => rw [unsignedZerosOfFields, ih, List.map_cons]

/-! ### Order of fields -/

mutual

/-- Every map of the one value has its fields in the order of the other. -/
def SameOrder : Value → Value → Prop
  | list vs, list ws => ItemsInSameOrder vs ws
  | map fs, map gs => FieldsInSameOrder fs gs
  | _, _ => True

/-- The maps in values at one place have their fields in one order. -/
def ItemsInSameOrder : List Value → List Value → Prop
  | [], [] => True
  | v :: vs, w :: ws => SameOrder v w ∧ ItemsInSameOrder vs ws
  | _, _ => False

/-- The fields have the same names in the same order, and so have the maps in them. -/
def FieldsInSameOrder : List (String × Value) → List (String × Value) → Prop
  | [], [] => True
  | (n, v) :: fs, (m, w) :: gs => n = m ∧ SameOrder v w ∧ FieldsInSameOrder fs gs
  | _, _ => False

end

/-- A value keeps its order when its zeros lose their signs. -/
theorem sameOrder_unsignedZeros (v : Value) : SameOrder v.unsignedZeros v := by
  induction v using induct with
  | list items ih =>
    rw [unsignedZeros_list, SameOrder]
    induction items with
    | nil => trivial
    | cons v items ihs =>
      obtain ⟨hv, hitems⟩ := List.forall_mem_cons.1 ih
      exact ⟨hv, ihs hitems⟩
  | map fields ih =>
    rw [unsignedZeros_map, SameOrder]
    induction fields with
    | nil => trivial
    | cons f fields ihs =>
      obtain ⟨hf, hfields⟩ := List.forall_mem_cons.1 ih
      exact ⟨rfl, hf, ihs hfields⟩
  | _ => trivial

/-! ### Equality -/

/-- Two values are of one kind and hold equal things. -/
inductive Alike : Value → Value → Prop where
  | null : Alike null null
  | absent : Alike absent absent
  | bool (b) : Alike (bool b) (bool b)
  | number {x y} (h : Binary64.same x y = true) : Alike (number x) (number y)
  | string (s) : Alike (string s) (string s)
  | list {vs ws} (h : List.Forall₂ (fun v w => equal v w = true) vs ws) : Alike (list vs) (list ws)
  | map {fs gs} (hlength : fs.length = gs.length)
      (h : ∀ f ∈ fs, ∃ w, gs.lookup f.1 = some w ∧ equal f.2 w = true) : Alike (map fs) (map gs)

variable {v w : Value} {vs ws : List Value} {fs gs : List (String × Value)} {n : String}

/-- A field is found by its name if no other one has this name. -/
theorem lookup_of_mem {fields : List (String × Value)} (h : (fields.map Prod.fst).Nodup)
    {f : String × Value} (hf : f ∈ fields) : fields.lookup f.1 = some f.2 := by
  induction fields with
  | nil => cases hf
  | cons g fields ih =>
    obtain ⟨hg, hfields⟩ := List.nodup_cons.1 h
    rw [List.lookup_cons]
    rcases List.mem_cons.1 hf with rfl | hmem
    · rw [beq_self_eq_true]
    · have hne : f.1 ≠ g.1 := fun he => hg (he ▸ List.mem_map_of_mem hmem)
      rw [beq_eq_false_iff_ne.2 hne]
      exact ih hfields hmem

/-- Equal lists have equal items at equal places. -/
theorem equalItems_iff :
    equalItems vs ws = true ↔ List.Forall₂ (fun v w => equal v w = true) vs ws := by
  induction vs generalizing ws with
  | nil => cases ws <;> simp [equalItems]
  | cons v vs ih => cases ws <;> simp [equalItems, ih]

/-- Fields are found again if each name leads to an equal value. -/
theorem fieldsIn_iff : fieldsIn fs gs = true ↔
    ∀ f ∈ fs, ∃ w, gs.lookup f.1 = some w ∧ equal f.2 w = true := by
  induction fs with
  | nil => simp [fieldsIn]
  | cons f fs ih =>
    rw [fieldsIn, Bool.and_eq_true, ih, List.forall_mem_cons]
    refine and_congr_left fun _ => ?_
    cases gs.lookup f.1 <;> simp

/-- Two values are equal if and only if they are alike. -/
theorem equal_iff : equal v w = true ↔ Alike v w := by
  constructor
  · intro h
    cases v with
    | null | absent =>
      cases w with
      | null | absent => first | constructor | cases h
      | _ => cases h
    | bool b =>
      cases w with
      | bool c =>
        obtain rfl := eq_of_beq (h : (b == c) = true)
        exact .bool b
      | _ => cases h
    | number x =>
      cases w with
      | number y => exact .number h
      | _ => cases h
    | string s =>
      cases w with
      | string t =>
        obtain rfl := eq_of_beq (h : (s == t) = true)
        exact .string s
      | _ => cases h
    | list vs =>
      cases w with
      | list ws => exact .list (equalItems_iff.1 h)
      | _ => cases h
    | map fs =>
      cases w with
      | map gs =>
        rw [equal, Bool.and_eq_true, beq_iff_eq, fieldsIn_iff] at h
        exact .map h.1 h.2
      | _ => cases h
  · intro h
    cases h with
    | null | absent => rfl
    | bool b => exact beq_self_eq_true b
    | number h => exact h
    | string s => exact beq_self_eq_true s
    | list h => exact equalItems_iff.2 h
    | map hlength h =>
      rw [equal, Bool.and_eq_true, beq_iff_eq, fieldsIn_iff]
      exact ⟨hlength, h⟩

/-- A field that is found is one of the fields. -/
theorem mem_of_lookup (h : gs.lookup n = some w) : (n, w) ∈ gs := by
  obtain ⟨front, back, rfl, -⟩ := List.lookup_eq_some_iff.1 h
  exact List.mem_append_right front List.mem_cons_self

/-- The sign of a zero is not seen. -/
theorem unsignedZeros_beq (h : v.KeysDistinct) : (v.unsignedZeros == v) = true := by
  change equal v.unsignedZeros v = true
  rw [equal_iff]
  induction v using induct with
  | null => exact .null
  | absent => exact .absent
  | bool b => exact .bool b
  | number x => exact .number (Binary64.same_unsignedZero x)
  | string s => exact .string s
  | list items ih =>
    rw [KeysDistinct, allKeysDistinct_iff] at h
    rw [unsignedZeros_list]
    refine .list (List.forall₂_map_left_iff.2 (List.forall₂_same.2 fun v hv => ?_))
    exact equal_iff.2 (ih v hv (h v hv))
  | map fields ih =>
    rw [KeysDistinct, fieldsKeysDistinct_iff] at h
    rw [unsignedZeros_map]
    refine .map (List.length_map _) fun f hf => ?_
    obtain ⟨g, hg, rfl⟩ := List.mem_map.1 hf
    exact ⟨g.2, lookup_of_mem h.1 hg, equal_iff.2 (ih g hg (h.2 g hg))⟩

end Value
end RecordFilter
