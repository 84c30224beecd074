/-
# Equality is an equivalence

Equality of maps looks up the keys of the one in the other, and never the other way round.  As no
key occurs twice and the maps have the same number of fields, no key of the other is left over
(`mem_keys_of_length_eq`), so equality is symmetric (`equal_symm`), at any depth.

Values that are stored at one place may be taken as equal without a look at what they hold
(`Value.equalShared`): as equality is reflexive (`equal_refl`), this changes no answer
(`equalShared_eq`).
-/

import Mathlib
import RecordFilter.Proofs.Value.Equality

namespace RecordFilter
namespace Value

variable {u v w : Value} {vs ws : List Value} {fs gs : List (String × Value)} {n : String}

mutual

/-- Whether two values are equal, where lists and maps that are stored at one place are not looked
into. -/
def equalShared (shared : Value → Value → Bool) : Value → Value → Bool
  | null, null => true
  | absent, absent => true
  | bool a, bool b => a == b
  | number x, number y => Binary64.same x y
  | string s, string t => s == t
  | list xs, list ys => shared (list xs) (list ys) || equalItemsShared shared xs ys
  | map fs, map gs =>
    shared (map fs) (map gs) || (fs.length == gs.length && fieldsInShared shared fs gs)
  | _, _ => false

/-- Whether two lists hold equal items in one order, up to what is stored at one place. -/
def equalItemsShared (shared : Value → Value → Bool) : List Value → List Value → Bool
  | [], [] => true
  | x :: xs, y :: ys => equalShared shared x y && equalItemsShared shared xs ys
  | _, _ => false

/-- Whether each field of the first list is in the second, up to what is stored at one place. -/
def fieldsInShared (shared : Value → Value → Bool) :
    List (String × Value) → List (String × Value) → Bool
  | [], _ => true
  | (name, v) :: rest, gs =>
    (match gs.lookup name with
      | some w => equalShared shared v w
      | none => false) && fieldsInShared shared rest gs

end

/-! ### Reflexivity -/

/-- A value equals itself. -/
theorem equal_refl (h : v.KeysDistinct) : equal v v = true := by
  rw [equal_iff]
  induction v using induct with
  | null => exact .null
  | absent => exact .absent
  | bool b => exact .bool b
  | number x => exact .number (Binary64.same_iff.2 (.inl rfl))
  | string s => exact .string s
  | list items ih =>
    rw [KeysDistinct, allKeysDistinct_iff] at h
    refine .list (List.forall₂_same.2 fun v hv => equal_iff.2 (ih v hv (h v hv)))
  | map fields ih =>
    rw [KeysDistinct, fieldsKeysDistinct_iff] at h
    refine .map rfl fun f hf => ⟨f.2, lookup_of_mem h.1 hf, equal_iff.2 (ih f hf (h.2 f hf))⟩

/-- The order of the fields of a map does not count. -/
theorem equal_of_perm (hp : fs.Perm gs) (h : (map fs).KeysDistinct) :
    equal (map fs) (map gs) = true := by
  rw [KeysDistinct, fieldsKeysDistinct_iff] at h
  have hkeys : (gs.map Prod.fst).Nodup := (hp.map Prod.fst).nodup_iff.1 h.1
  refine equal_iff.2 (.map hp.length_eq fun f hf => ?_)
  exact ⟨f.2, lookup_of_mem hkeys (hp.mem_iff.1 hf), equal_refl (h.2 f hf)⟩

/-! ### Symmetry -/

/-- **No key is left over** in a map with as many fields as another whose keys it has all. -/
theorem mem_keys_of_length_eq (hf : (fs.map Prod.fst).Nodup) (hlength : fs.length = gs.length)
    (h : ∀ f ∈ fs, ∃ w, gs.lookup f.1 = some w ∧ equal f.2 w = true) :
    ∀ g ∈ gs, g.1 ∈ fs.map Prod.fst := by
  have hsubset : fs.map Prod.fst ⊆ gs.map Prod.fst := by
    intro n hn
    obtain ⟨f, hmem, rfl⟩ := List.mem_map.1 hn
    obtain ⟨w, hw, -⟩ := h f hmem
    exact List.mem_map.2 ⟨_, mem_of_lookup hw, rfl⟩
  have hperm : (fs.map Prod.fst).Perm (gs.map Prod.fst) :=
    (List.subperm_of_subset hf hsubset).perm_of_length_le (by simp [hlength])
  exact fun g hg => hperm.mem_iff.2 (List.mem_map_of_mem hg)

/-- Equality can be turned around. -/
theorem equal_symm (hv : v.KeysDistinct) (hw : w.KeysDistinct) (h : equal v w = true) :
    equal w v = true := by
  rw [equal_iff] at h ⊢
  induction v using induct generalizing w with
  | null | absent | bool | string =>
    cases h
    constructor
  | number x =>
    cases h with | number hx =>
    refine .number (Binary64.same_iff.2 ?_)
    rcases Binary64.same_iff.1 hx with rfl | ⟨s, t, hs, ht⟩
    · exact .inl rfl
    · exact .inr ⟨t, s, ht, hs⟩
  | list items ih =>
    cases h with | list hitems =>
    rw [KeysDistinct, allKeysDistinct_iff] at hv hw
    refine .list ?_
    induction hitems with
    | nil => exact .nil
    | cons hvw _ ihs =>
      obtain ⟨ihv, ihvs⟩ := List.forall_mem_cons.1 ih
      obtain ⟨hv, hvs⟩ := List.forall_mem_cons.1 hv
      obtain ⟨hw, hws⟩ := List.forall_mem_cons.1 hw
      exact .cons (equal_iff.2 (ihv hv hw (equal_iff.1 hvw))) (ihs ihvs hvs hws)
  | map fields ih =>
    cases h with | map hlength hfields =>
    rw [KeysDistinct, fieldsKeysDistinct_iff] at hv hw
    have hkeys := mem_keys_of_length_eq hv.1 hlength hfields
    refine .map hlength.symm fun g hg => ?_
    obtain ⟨f, hf, hname⟩ := List.mem_map.1 (hkeys g hg)
    obtain ⟨w, hfound, heq⟩ := hfields f hf
    rw [hname, lookup_of_mem hw.1 hg, Option.some.injEq] at hfound
    subst hfound
    refine ⟨f.2, ?_, equal_iff.2 (ih f hf (hv.2 f hf) (hw.2 g hg) (equal_iff.1 heq))⟩
    rw [← hname]
    exact lookup_of_mem hv.1 hf

/-! ### Transitivity -/

/-- Values that are equal to one value are equal. -/
theorem equal_trans (h : equal u v = true) (h' : equal v w = true) : equal u w = true := by
  rw [equal_iff] at h h' ⊢
  induction u using induct generalizing v w with
  | null | absent | bool | string =>
    cases h
    exact h'
  | number x =>
    cases h with | number hx =>
    cases h' with | number hy =>
    refine .number ?_
    rcases Binary64.same_iff.1 hx with rfl | ⟨s, t, hs, ht⟩
    · exact hy
    · rcases Binary64.same_iff.1 hy with rfl | ⟨-, r, -, hr⟩
      · exact hx
      · exact Binary64.same_iff.2 (.inr ⟨s, r, hs, hr⟩)
  | list items ih =>
    cases h with | list hitems =>
    cases h' with | @list _ ws hothers =>
    refine .list ?_
    induction hitems generalizing ws with
    | nil =>
      cases hothers
      exact .nil
    | cons huv _ ihs =>
      cases hothers with | cons hvw hrest =>
      obtain ⟨ihu, ihus⟩ := List.forall_mem_cons.1 ih
      exact .cons (equal_iff.2 (ihu (equal_iff.1 huv) (equal_iff.1 hvw))) (ihs ihus hrest)
  | map fields ih =>
    cases h with | map hlength hfields =>
    cases h' with | map hlength' hfields' =>
    refine .map (hlength.trans hlength') fun f hf => ?_
    obtain ⟨v, hv, huv⟩ := hfields f hf
    obtain ⟨w, hw, hvw⟩ := hfields' _ (mem_of_lookup hv)
    exact ⟨w, hw, equal_iff.2 (ih f hf (equal_iff.1 huv) (equal_iff.1 hvw))⟩

/-! ### Values at one place -/

section Shared

variable {shared : Value → Value → Bool}

/-- The short cut for shared items does not change whether lists are equal. -/
theorem equalItemsShared_eq (h : ∀ v ∈ vs, ∀ w, equalShared shared v w = equal v w)
    (ws : List Value) : equalItemsShared shared vs ws = equalItems vs ws := by
  induction vs generalizing ws with
  | nil => cases ws <;> rfl
  | cons v vs ih =>
    obtain ⟨hv, hvs⟩ := List.forall_mem_cons.1 h
    cases ws with
    | nil => rfl
    | cons w ws => rw [equalItemsShared, equalItems, hv, ih hvs]

/-- The short cut for shared fields does not change whether they are found. -/
theorem fieldsInShared_eq (h : ∀ f ∈ fs, ∀ w, equalShared shared f.2 w = equal f.2 w)
    (gs : List (String × Value)) : fieldsInShared shared fs gs = fieldsIn fs gs := by
  induction fs with
  | nil => rfl
  | cons f fs ih =>
    obtain ⟨hf, hfs⟩ := List.forall_mem_cons.1 h
    rw [fieldsInShared, fieldsIn, ih hfs]
    cases gs.lookup f.1 with
    | none => rfl
    | some w =>
      dsimp only
      rw [hf]

/-- A test that is true of nothing but equal values changes nothing in front of equality. -/
theorem shared_or_equal (hs : ∀ v w, shared v w = true → v = w) (hv : v.KeysDistinct) (w : Value) :
    (shared v w || equal v w) = equal v w := by
  cases h : shared v w with
  | false => rfl
  | true =>
    obtain rfl := hs v w h
    rw [equal_refl hv, Bool.or_self]

/-- **Values at one place need not be looked into.** -/
theorem equalShared_eq (hs : ∀ v w, shared v w = true → v = w) (hv : v.KeysDistinct) (w : Value) :
    equalShared shared v w = equal v w := by
  induction v using induct generalizing w with
  | null | absent | bool | number | string => cases w <;> rfl
  | list items ih =>
    have hitems := hv
    rw [KeysDistinct, allKeysDistinct_iff] at hitems
    cases w with
    | list others =>
      rw [equalShared, equalItemsShared_eq fun v hmem => ih v hmem (hitems v hmem)]
      exact shared_or_equal hs hv (list others)
    | _ => rfl
  | map fields ih =>
    have hfields := hv
    rw [KeysDistinct, fieldsKeysDistinct_iff] at hfields
    cases w with
    | map others =>
      rw [equalShared, fieldsInShared_eq fun f hmem => ih f hmem (hfields.2 f hmem)]
      exact shared_or_equal hs hv (map others)
    | _ => rfl

end Shared

end Value
end RecordFilter
