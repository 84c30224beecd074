/-
# The order of doubles

A double that is a number has a place among the rational numbers and the two infinities
(`Binary64.place?`), and doubles compare as their places do (`compare?_eq_places`): the exponents of
two forms come first, since a mantissa fills its bits (`size_lt_of_lt`).  So all laws of comparisons
are those of a linear order in which some elements may be missing (`comparePlaces?`).
-/

import Mathlib
import RecordFilter.Proofs.Number.Exact

namespace RecordFilter

/-- How two elements of a linear order compare, if both are there. -/
def comparePlaces? {α : Type} [LinearOrder α] : Option α → Option α → Option Ordering
  | some a, some b => some (cmp a b)
  | _, _ => none

section Places

variable {α : Type} [LinearOrder α] {p q r : Option α}

/-- Places are compared alike from either side. -/
theorem comparePlaces?_swap (p q : Option α) :
    comparePlaces? q p = (comparePlaces? p q).map Ordering.swap := by
  cases p <;> cases q <;> simp [comparePlaces?, cmp_swap]

/-- Places are compared unless one of them is missing. -/
theorem comparePlaces?_eq_none : comparePlaces? p q = none ↔ p = none ∨ q = none := by
  cases p <;> cases q <;> simp [comparePlaces?]

/-- A place is less if it is less in the order. -/
theorem comparePlaces?_lt : comparePlaces? p q = some .lt ↔
    ∃ a b, p = some a ∧ q = some b ∧ a < b := by
  cases p <;> cases q <;> simp [comparePlaces?, cmp_eq_lt_iff]

/-- A place is less or the same if it is at most the other one in the order. -/
theorem comparePlaces?_le :
    comparePlaces? p q = some .lt ∨ comparePlaces? p q = some .eq ↔
      ∃ a b, p = some a ∧ q = some b ∧ a ≤ b := by
  cases p <;> cases q <;> simp [comparePlaces?, cmp_eq_lt_iff, cmp_eq_eq_iff, le_iff_lt_or_eq]

end Places

namespace Binary64

open Float.Model (UnpackedFloat)
open Float.Model.UnpackedFloat

variable {s t : Sign} {m n : Nat} {e f : Int} {x y : Float} {a b : ℚ}

/-- A rational number between the infinities. -/
def finitePlace (a : ℚ) : WithBot (WithTop ℚ) := ((a : WithTop ℚ) : WithBot (WithTop ℚ))

/-- The place of a double in the order of numbers, unless it is not a number. -/
def place? (x : Float) : Option (WithBot (WithTop ℚ)) :=
  match unpack x with
  | .notANumber => none
  | .infinity .positive => some ⊤
  | .infinity .negative => some ⊥
  | .zero _ => some (finitePlace 0)
  | .finite s m e _ => some (finitePlace (withSign s (size m e)))

/-- The places of numbers are in their order. -/
theorem strictMono_finitePlace : StrictMono finitePlace := fun _ _ h =>
  WithBot.coe_lt_coe.2 (WithTop.coe_lt_coe.2 h)

/-- A double that is a number has the place of this number. -/
theorem place?_of_toRat? (h : toRat? x = some a) : place? x = some (finitePlace a) := by
  rcases toRat?_cases h with ⟨s, hx, rfl⟩ | ⟨s, m, e, hm, hx, rfl⟩
  · rw [place?, hx]
  · rw [place?, hx]

/-- Only what is not a number has no place. -/
theorem place?_eq_none_iff : place? x = none ↔ x.isNaN = true := by
  change _ ↔ (unpack x).isNaN = true
  rw [place?]
  cases unpack x with
  | infinity s => cases s <;> simp [UnpackedFloat.isNaN]
  | _ => simp [UnpackedFloat.isNaN]

/-! ### Forms -/

/-- The double with the greater exponent is greater. -/
theorem size_lt_of_lt (h : IsForm m e) (h' : IsForm n f) (hlt : e < f) : size m e < size n f := by
  have hfull : 2 ^ 52 ≤ n := h'.full.resolve_right (by have := h.least; omega)
  obtain ⟨k, rfl⟩ : ∃ k : Nat, f = e + (k + 1 : Nat) := ⟨(f - e - 1).toNat, by omega⟩
  rw [size_shifted]
  refine strictMono_size e ?_
  calc m < 2 ^ 53 := h.lt
    _ = 2 ^ 52 * 2 ^ 1 := rfl
    _ ≤ n * 2 ^ (k + 1) := Nat.mul_le_mul hfull (Nat.pow_le_pow_right (by decide) (by omega))

/-- Exponents are compared first, and then mantissas. -/
theorem compare_size (h : IsForm m e) (h' : IsForm n f) :
    (compare e f).then (compare m n) = cmp (size m e) (size n f) := by
  rcases Int.lt_trichotomy e f with hlt | rfl | hgt
  · rw [Int.compare_eq_lt.2 hlt, cmp_eq_lt_iff _ _ |>.2 (size_lt_of_lt h h' hlt)]
    rfl
  · rw [Int.compare_eq_eq.2 rfl, (strictMono_size e).cmp_map_eq, cmp_eq_compare]
    rfl
  · rw [Int.compare_eq_gt.2 hgt, cmp_eq_gt_iff _ _ |>.2 (size_lt_of_lt h' h hgt)]
    rfl

/-- A negative size is below zero. -/
theorem withSign_negative_lt (hm : 0 < m) (e : Int) : withSign .negative (size m e) < 0 :=
  neg_neg_of_pos (size_pos hm e)

/-- A positive size is above zero. -/
theorem withSign_positive_gt (hm : 0 < m) (e : Int) : 0 < withSign .positive (size m e) :=
  size_pos hm e

/-! ### Comparisons -/

/-- Below zero the greater form is the smaller number. -/
theorem compare_finite {hm : 0 < m} {hn : 0 < n} (hx : unpack x = .finite s m e hm)
    (hy : unpack y = .finite t n f hn) : (unpack x).compare (unpack y) =
      some (cmp (withSign s (size m e)) (withSign t (size n f))) := by
  have hsize := compare_size (isForm hx) (isForm hy)
  rw [hx, hy]
  cases s <;> cases t
  · have hneg : StrictAnti fun a : ℚ => -a := fun _ _ h => neg_lt_neg h
    rw [UnpackedFloat.compare, hsize, cmp_swap]
    exact congrArg some (hneg.cmp_map_eq _ _).symm
  · have hlt := (withSign_negative_lt hm e).trans (withSign_positive_gt hn f)
    rw [(cmp_eq_lt_iff _ _).2 hlt]
    rfl
  · have hgt := (withSign_negative_lt hn f).trans (withSign_positive_gt hm e)
    rw [(cmp_eq_gt_iff _ _).2 hgt]
    rfl
  · rw [UnpackedFloat.compare, hsize, withSign, withSign]

/-- Finite doubles compare as the numbers that they are. -/
theorem compare_of_toRat? (hx : toRat? x = some a) (hy : toRat? y = some b) :
    (unpack x).compare (unpack y) = some (cmp a b) := by
  rcases toRat?_cases hx with ⟨s, hs, rfl⟩ | ⟨s, m, e, hm, hs, rfl⟩
  · rcases toRat?_cases hy with ⟨t, ht, rfl⟩ | ⟨t, n, f, hn, ht, rfl⟩
    · rw [hs, ht, cmp_self_eq_eq]
      rfl
    · rw [hs, ht]
      cases t
      · rw [(cmp_eq_gt_iff _ _).2 (withSign_negative_lt hn f)]
        rfl
      · rw [(cmp_eq_lt_iff _ _).2 (withSign_positive_gt hn f)]
        rfl
  · rcases toRat?_cases hy with ⟨t, ht, rfl⟩ | ⟨t, n, f, hn, ht, rfl⟩
    · rw [hs, ht]
      cases s
      · rw [(cmp_eq_lt_iff _ _).2 (withSign_negative_lt hm e)]
        rfl
      · rw [(cmp_eq_gt_iff _ _).2 (withSign_positive_gt hm e)]
        rfl
    · exact compare_finite hs ht

/-- An infinity stands at one end of all finite doubles. -/
theorem compare_infinity (hx : unpack x = .infinity s) (hy : toRat? y = some b) :
    (unpack x).compare (unpack y) = comparePlaces? (place? x) (place? y) ∧
      (unpack y).compare (unpack x) = comparePlaces? (place? y) (place? x) := by
  have hbot : ⊥ < finitePlace b := WithBot.bot_lt_coe _
  have htop : finitePlace b < ⊤ := WithBot.coe_lt_coe.2 (WithTop.coe_lt_top b)
  have hfinite : (∃ t, unpack y = .zero t) ∨ ∃ t n f hn, unpack y = .finite t n f hn := by
    rcases toRat?_cases hy with ⟨t, ht, -⟩ | ⟨t, n, f, hn, ht, -⟩
    · exact .inl ⟨t, ht⟩
    · exact .inr ⟨t, n, f, hn, ht⟩
  rw [place?_of_toRat? hy]
  cases s
  · have hends : (unpack x).compare (unpack y) = some .lt ∧
        (unpack y).compare (unpack x) = some .gt := by
      rcases hfinite with ⟨t, ht⟩ | ⟨t, n, f, hn, ht⟩ <;> rw [hx, ht] <;> cases t <;>
        exact ⟨rfl, rfl⟩
    rw [place?, hends.1, hends.2, hx]
    exact ⟨congrArg some ((cmp_eq_lt_iff _ _).2 hbot).symm,
      congrArg some ((cmp_eq_gt_iff _ _).2 hbot).symm⟩
  · have hends : (unpack x).compare (unpack y) = some .gt ∧
        (unpack y).compare (unpack x) = some .lt := by
      rcases hfinite with ⟨t, ht⟩ | ⟨t, n, f, hn, ht⟩ <;> rw [hx, ht] <;> cases t <;>
        exact ⟨rfl, rfl⟩
    rw [place?, hends.1, hends.2, hx]
    exact ⟨congrArg some ((cmp_eq_gt_iff _ _).2 htop).symm,
      congrArg some ((cmp_eq_lt_iff _ _).2 htop).symm⟩

/-- Infinities compare like their places. -/
theorem compare_infinities (hx : unpack x = .infinity s) (hy : unpack y = .infinity t) :
    (unpack x).compare (unpack y) = comparePlaces? (place? x) (place? y) := by
  have hends : (⊥ : WithBot (WithTop ℚ)) < ⊤ := bot_lt_top
  rw [place?, place?, hx, hy]
  cases s <;> cases t
  · exact congrArg some (cmp_self_eq_eq _).symm
  · exact congrArg some ((cmp_eq_lt_iff _ _).2 hends).symm
  · exact congrArg some ((cmp_eq_gt_iff _ _).2 hends).symm
  · exact congrArg some (cmp_self_eq_eq _).symm

/-- A double is not a number, an infinity or a number. -/
theorem unpack_cases (x : Float) :
    unpack x = .notANumber ∨ (∃ s, unpack x = .infinity s) ∨ ∃ a, toRat? x = some a := by
  rw [toRat?]
  cases unpack x <;> simp

/-- Doubles compare like their places. -/
theorem compare_unpack (x y : Float) :
    (unpack x).compare (unpack y) = comparePlaces? (place? x) (place? y) := by
  rcases unpack_cases x with hx | ⟨s, hx⟩ | ⟨a, hx⟩
  · rw [place?, hx]
    rfl
  · rcases unpack_cases y with hy | ⟨t, hy⟩ | ⟨b, hy⟩
    · rw [place?, place?, hx, hy]
      cases s <;> rfl
    · exact compare_infinities hx hy
    · exact (compare_infinity hx hy).1
  · rcases unpack_cases y with hy | ⟨t, hy⟩ | ⟨b, hy⟩
    · rw [place?_of_toRat? hx, place?, hy]
      rcases toRat?_cases hx with ⟨s, hs, -⟩ | ⟨s, m, e, hm, hs, -⟩
      · rw [hs]
        rfl
      · rw [hs]
        cases s <;> rfl
    · exact (compare_infinity hy hx).2
    · rw [place?_of_toRat? hx, place?_of_toRat? hy, compare_of_toRat? hx hy, comparePlaces?,
        strictMono_finitePlace.cmp_map_eq]

/-- Doubles are less than others as they are unpacked. -/
theorem lt_iff_unpack (x y : Float) : x < y ↔ (unpack x).lt (unpack y) = true := decide_eq_true_iff

/-- **Doubles compare as their places.** -/
theorem compare?_eq_places (x y : Float) : compare? x y = comparePlaces? (place? x) (place? y) := by
  have hparts : compare? x y =
      if (unpack x).lt (unpack y) then some .lt
      else if (unpack x).beq (unpack y) then some .eq
      else if (unpack y).lt (unpack x) then some .gt
      else none :=
    if_congr (lt_iff_unpack x y) rfl
      (if_congr Iff.rfl rfl (if_congr (lt_iff_unpack y x) rfl rfl))
  have hswap := comparePlaces?_swap (place? x) (place? y)
  simp only [hparts, UnpackedFloat.lt, UnpackedFloat.beq, compare_unpack, hswap]
  rcases comparePlaces? (place? x) (place? y) with _ | _ | _ | _ <;> rfl

/-- Doubles that are numbers are in the order of these. -/
theorem lt_iff_of_toRat? (hx : toRat? x = some a) (hy : toRat? y = some b) : x < y ↔ a < b := by
  rw [lt_iff_unpack, UnpackedFloat.lt, compare_of_toRat? hx hy, ← cmp_eq_lt_iff, beq_iff_eq,
    Option.some.injEq]

/-- The zeros have one place. -/
theorem place?_congr (h : same x y = true) : place? x = place? y := by
  rcases same_iff.1 h with rfl | ⟨s, t, hs, ht⟩
  · rfl
  · rw [place?, place?, hs, ht]

/-- The same doubles compare alike. -/
theorem compare?_congr {x' y' : Float} (hx : same x x' = true) (hy : same y y' = true) :
    compare? x y = compare? x' y' := by
  rw [compare?_eq_places, compare?_eq_places, place?_congr hx, place?_congr hy]

end Binary64
end RecordFilter
