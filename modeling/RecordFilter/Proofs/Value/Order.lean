/-
# The laws of the relational operators

Two strings compare by their characters, and any other two values by the places of the numbers that
they stand for.  Values of which all or at most one are strings are therefore compared in one linear
order (`exists_places`), in which what is not a number is missing; the laws of the operators are
those of that order (`relational_laws`).
-/

import Mathlib
import RecordFilter.Operator.Comparison
import RecordFilter.Proofs.Number.Order

namespace RecordFilter
namespace Value

open Binary64 (place?)

variable {u v w : Value} {s t : String}

/-- Whether a value is a string. -/
def isText (v : Value) : Bool := v.text?.isSome

/-- Whether two values have no order: they are not both strings, and one of them stands for what is
not a number. -/
def Unordered (v w : Value) : Prop :=
  ¬ (v.isText = true ∧ w.isText = true) ∧
    (v.toNumber.isNaN = true ∨ w.toNumber.isNaN = true)

/-- Two texts compare by their characters, other values by their numbers. -/
theorem compare?_eq (v w : Value) : v.compare? w =
    match v.text?, w.text? with
    | some s, some t => some (if s < t then .lt else if s = t then .eq else .gt)
    | _, _ => Binary64.compare? v.toNumber w.toNumber := by
  cases v <;> cases w <;> rfl

/-- Texts compare like places in their order. -/
theorem compare?_texts (hv : v.text? = some s) (hw : w.text? = some t) :
    v.compare? w = comparePlaces? (some s) (some t) := by
  rw [compare?_eq, hv, hw]
  refine congrArg some ?_
  rcases lt_trichotomy s t with hlt | rfl | hgt
  · rw [if_pos hlt, (cmp_eq_lt_iff s t).2 hlt]
  · rw [if_neg (lt_irrefl s), if_pos rfl, cmp_self_eq_eq]
  · rw [if_neg hgt.not_gt, if_neg hgt.ne', (cmp_eq_gt_iff s t).2 hgt]

/-- Values of which one is no text compare like the places of their numbers. -/
theorem compare?_numbers (h : v.text? = none ∨ w.text? = none) :
    v.compare? w = comparePlaces? (place? v.toNumber) (place? w.toNumber) := by
  rw [compare?_eq, ← Binary64.compare?_eq_places]
  rcases h with h | h
  · rw [h]
  · rw [h]
    cases v.text? <;> rfl

/-- A value without a text is no string. -/
theorem text?_eq_none_iff : v.text? = none ↔ v.isText = false := by
  rw [isText, Option.isSome_eq_false_iff, Option.isNone_iff_eq_none]

/-- One of two values is no string, or both are. -/
theorem compare?_cases (v w : Value) :
    (∃ s t, v.text? = some s ∧ w.text? = some t ∧
      v.compare? w = comparePlaces? (some s) (some t)) ∨
    ((v.isText = false ∨ w.isText = false) ∧
      v.compare? w = comparePlaces? (place? v.toNumber) (place? w.toNumber)) := by
  cases hv : v.text? with
  | none => exact .inr ⟨.inl (text?_eq_none_iff.1 hv), compare?_numbers (.inl hv)⟩
  | some s =>
    cases hw : w.text? with
    | none => exact .inr ⟨.inr (text?_eq_none_iff.1 hw), compare?_numbers (.inr hw)⟩
    | some t => exact .inl ⟨s, t, rfl, rfl, compare?_texts hv hw⟩

/-- Values compare alike from either side. -/
theorem compare?_swap (v w : Value) : w.compare? v = (v.compare? w).map Ordering.swap := by
  cases hv : v.text? with
  | none => rw [compare?_numbers (.inr hv), compare?_numbers (.inl hv), comparePlaces?_swap]
  | some s =>
    cases hw : w.text? with
    | none => rw [compare?_numbers (.inl hw), compare?_numbers (.inr hw), comparePlaces?_swap]
    | some t => rw [compare?_texts hv hw, compare?_texts hw hv, comparePlaces?_swap]

/-- Values do not compare if and only if they are unordered. -/
theorem compare?_eq_none_iff : v.compare? w = none ↔ Unordered v w := by
  rcases compare?_cases v w with ⟨s, t, hv, hw, h⟩ | ⟨hone, h⟩
  · have hboth : v.isText = true ∧ w.isText = true := by
      rw [isText, isText, hv, hw]
      exact ⟨rfl, rfl⟩
    rw [h, comparePlaces?_eq_none]
    exact iff_of_false (by simp) fun hnone => hnone.1 hboth
  · have hone : ¬ (v.isText = true ∧ w.isText = true) := by
      rintro ⟨hv, hw⟩
      simp [hv, hw] at hone
    rw [h, comparePlaces?_eq_none, Binary64.place?_eq_none_iff, Binary64.place?_eq_none_iff,
      Unordered, and_iff_right hone]

/-- Three values that are all strings, or at most one of them, are compared in one linear order. -/
theorem exists_places (h : [u, v, w].countP isText = 3 ∨ [u, v, w].countP isText ≤ 1) :
    ∃ (α : Type) (_ : LinearOrder α) (p q r : Option α), u.compare? v = comparePlaces? p q ∧
      v.compare? w = comparePlaces? q r ∧ u.compare? w = comparePlaces? p r := by
  rcases h with hall | hone
  · have htexts := List.countP_eq_length.1 hall
    obtain ⟨s, hs⟩ := Option.isSome_iff_exists.1 (htexts u (by simp))
    obtain ⟨t, ht⟩ := Option.isSome_iff_exists.1 (htexts v (by simp))
    obtain ⟨r, hr⟩ := Option.isSome_iff_exists.1 (htexts w (by simp))
    exact ⟨String, inferInstance, some s, some t, some r, compare?_texts hs ht,
      compare?_texts ht hr, compare?_texts hs hr⟩
  · have hpair : (u.isText = false ∨ v.isText = false) ∧ (v.isText = false ∨ w.isText = false) ∧
        (u.isText = false ∨ w.isText = false) := by
      cases hu : u.isText <;> cases hv : v.isText <;> cases hw : w.isText <;>
        simp [hu, hv, hw] at hone ⊢
    simp only [← text?_eq_none_iff] at hpair
    exact ⟨_, inferInstance, place? u.toNumber, place? v.toNumber, place? w.toNumber,
      compare?_numbers hpair.1, compare?_numbers hpair.2.1, compare?_numbers hpair.2.2⟩

/-! ### Operators -/

/-- A value is less if it compares as less. -/
theorem less_iff : v.less w = true ↔ v.compare? w = some .lt := beq_iff_eq

/-- A value is less or the same if it compares as one of these. -/
theorem lessOrSame_iff :
    v.lessOrSame w = true ↔ v.compare? w = some .lt ∨ v.compare? w = some .eq := by
  rw [lessOrSame, Bool.or_eq_true, beq_iff_eq, beq_iff_eq]

/-- What is less than something that is at most a value is less than it, if the three compare in one
way. -/
theorem less_trans (h : [u, v, w].countP isText = 3 ∨ [u, v, w].countP isText ≤ 1)
    (huv : u.lessOrSame v = true) (hvw : v.less w = true) : u.less w = true := by
  obtain ⟨α, _, p, q, r, hp, hq, hr⟩ := exists_places h
  rw [lessOrSame_iff, hp, comparePlaces?_le] at huv
  rw [less_iff, hq, comparePlaces?_lt] at hvw
  rw [less_iff, hr, comparePlaces?_lt]
  obtain ⟨a, b, rfl, rfl, hab⟩ := huv
  obtain ⟨b', c, hb, rfl, hbc⟩ := hvw
  obtain rfl := Option.some.inj hb
  exact ⟨a, c, rfl, rfl, hab.trans_lt hbc⟩

/-- What is at most something that is at most a value is at most it, if the three compare in one
way. -/
theorem lessOrSame_trans (h : [u, v, w].countP isText = 3 ∨ [u, v, w].countP isText ≤ 1)
    (huv : u.lessOrSame v = true) (hvw : v.lessOrSame w = true) : u.lessOrSame w = true := by
  obtain ⟨α, _, p, q, r, hp, hq, hr⟩ := exists_places h
  rw [lessOrSame_iff, hp, comparePlaces?_le] at huv
  rw [lessOrSame_iff, hq, comparePlaces?_le] at hvw
  rw [lessOrSame_iff, hr, comparePlaces?_le]
  obtain ⟨a, b, rfl, rfl, hab⟩ := huv
  obtain ⟨b', c, hb, rfl, hbc⟩ := hvw
  obtain rfl := Option.some.inj hb
  exact ⟨a, c, rfl, rfl, hab.trans hbc⟩

/-- What is less is less or the same. -/
theorem lessOrSame_of_less (h : v.less w = true) : v.lessOrSame w = true :=
  lessOrSame_iff.2 (.inl (less_iff.1 h))

/-- Of an ordered pair one of three things holds, and of another none of the four operators. -/
theorem holds_cases (v w : Value) :
    (Unordered v w ∧ v.less w = false ∧ v.greater w = false ∧ v.lessOrSame w = false ∧
      v.greaterOrSame w = false) ∨
    (¬ Unordered v w ∧ [v.less w, v.greater w, v.lessOrSame w && v.greaterOrSame w].count true = 1
      ∧ (v.lessOrSame w || v.greaterOrSame w) = true) := by
  rw [← compare?_eq_none_iff, less, greater, lessOrSame, greaterOrSame]
  rcases v.compare? w with _ | _ | _ | _
  · exact .inl ⟨rfl, rfl, rfl, rfl, rfl⟩
  all_goals exact .inr ⟨nofun, rfl, rfl⟩

end Value

namespace Comparison

/-- The comparisons by order. -/
def relations : List Comparison := [less, greater, lessOrEqual, greaterOrEqual]

end Comparison

namespace Value

/-- **The relational operators agree on one order.** Comparing the other way round gives the
reverse.  Exactly one of less, greater, and both less or the same and greater or the same holds, or
none of the four operators does, and that where two values that are not both strings have no order
because one of them stands for what is not a number.  The operators are transitive among values of
which all or at most one are strings. -/
theorem relational_laws :
    (∀ v w : Value, w.compare? v = (v.compare? w).map Ordering.swap) ∧
    (∀ v w : Value,
      (¬ Unordered v w ↔ [Comparison.less.holds v w, Comparison.greater.holds v w,
        Comparison.lessOrEqual.holds v w && Comparison.greaterOrEqual.holds v w].count true = 1) ∧
      (Unordered v w ↔ ∀ c ∈ Comparison.relations, c.holds v w = false)) ∧
    ∀ u v w : Value, [u, v, w].countP isText = 3 ∨ [u, v, w].countP isText ≤ 1 →
      (Comparison.less.holds u v = true → Comparison.less.holds v w = true →
        Comparison.less.holds u w = true) ∧
      (Comparison.lessOrEqual.holds u v = true → Comparison.lessOrEqual.holds v w = true →
        Comparison.lessOrEqual.holds u w = true) ∧
      (Comparison.lessOrEqual.holds u v = true → Comparison.less.holds v w = true →
        Comparison.less.holds u w = true) := by
  refine ⟨compare?_swap, fun v w => ?_, fun u v w h => ⟨?_, ?_, ?_⟩⟩
  · have hrelations : (∀ c ∈ Comparison.relations, c.holds v w = false) ↔
        v.less w = false ∧ v.greater w = false ∧ v.lessOrSame w = false ∧
          v.greaterOrSame w = false := by
      simp [Comparison.relations, Comparison.holds]
    rw [hrelations]
    rcases holds_cases v w with ⟨hnone, hless, hgreater, hle, hge⟩ | ⟨hsome, hone, hle⟩
    · refine ⟨iff_of_false (not_not.2 hnone) ?_, iff_of_true hnone ⟨hless, hgreater, hle, hge⟩⟩
      simp [Comparison.holds, hless, hgreater, hle]
    · refine ⟨iff_of_true hsome hone, iff_of_false hsome fun hnone => ?_⟩
      rw [hnone.2.2.1, hnone.2.2.2] at hle
      cases hle
  · intro huv hvw
    exact less_trans h (lessOrSame_of_less huv) hvw
  · intro huv hvw
    exact lessOrSame_trans h huv hvw
  · intro huv hvw
    exact less_trans h huv hvw

/-- A list, a string and a number, in the order of their numbers. -/
theorem relational_laws_mixed :
    Comparison.lessOrEqual.holds (list [bool true]) (string "1") = true ∧
      Comparison.less.holds (string "1") (number 2.0) = true ∧
      Comparison.less.holds (list [bool true]) (number 2.0) = true := by
  have hone : Comparison.lessOrEqual.holds (list [bool true]) (string "1") = true := by
    decide
  have htwo : Comparison.less.holds (string "1") (number 2.0) = true := by decide
  exact ⟨hone, htwo, (relational_laws.2.2 _ _ _ (.inr (by decide))).2.2 hone htwo⟩

/-- Two strings and a number need not be in order. -/
example : (string "10").less (string "9") = true ∧ (string "9").less (number 9.5) = true ∧
    (string "10").less (number 9.5) = false := by
  decide

end Value
end RecordFilter
