/-
# Rounding halves up

`Math.round` adds a half and takes the whole number below the sum.  The sum is rounded to a double
before that, which does no harm as long as a double lies between the exact sum and the next whole
number (`HasDoubleAbove`).  There is one, unless the number is the greatest double below a half: its
sum with a half is rounded up to one.  So `Math.round` is the nearest whole number, a half going up,
of every double but that one (`value_round`).
-/

import Mathlib
import RecordFilter.Filter.Compiled
import RecordFilter.Proofs.Number.Nearest

namespace RecordFilter
namespace Binary64

open Float.Model (UnpackedFloat)
open Float.Model.UnpackedFloat

variable {s : Sign} {m n j : Nat} {e : Int} {x : Float} {a d : ℚ}

/-- The greatest double below a half. -/
def belowHalf : ℚ := 1 / 2 - 1 / 2 ^ 54

/-- The greatest double below a half has all 53 bits set. -/
theorem size_belowHalf : size (2 ^ 53 - 1) (-54) = belowHalf := by
  norm_num [size, belowHalf]

/-- The literal is the greatest double below a half. -/
theorem toRat?_belowHalf : toRat? 0.49999999999999994 = some belowHalf := by
  rw [← size_belowHalf]
  rfl

/-- Sizes with one exponent add up. -/
theorem size_add (m n : Nat) (e : Int) : size (m + n) e = size m e + size n e := by
  rw [size, size, size, Nat.cast_add, add_mul]

/-- Sizes with one exponent are subtracted. -/
theorem size_sub (h : n ≤ m) (e : Int) : size (m - n) e = size m e - size n e := by
  rw [size, size, size, Nat.cast_sub h, sub_mul]

/-- A power of two under the exponent that takes it back. -/
theorem size_cancelled (m j : Nat) : size (m * 2 ^ j) (-j) = m := by
  rw [← size_shifted, Int.add_left_neg, size_whole]

/-- A half, as a mantissa with a small exponent. -/
theorem size_half (j : Nat) : size (2 ^ j) (-(j + 1 : Nat)) = 1 / 2 := by
  have hone := size_cancelled 1 (j + 1)
  rw [Nat.one_mul, Nat.pow_succ, Nat.mul_two, size_add, Nat.cast_one] at hone
  linarith

/-! ### Doubles behind a sum -/

/-- Below the next whole number there is a double that a number does not exceed. -/
def HasDoubleAbove (a : ℚ) : Prop := ∃ d, IsDouble d ∧ a ≤ d ∧ d < ⌊a⌋ + 1

/-- A double does not exceed itself. -/
theorem IsDouble.hasDoubleAbove (h : IsDouble a) : HasDoubleAbove a :=
  ⟨a, h, le_rfl, Int.lt_floor_add_one a⟩

/-- The double lies below the whole number behind one that has been reached. -/
theorem hasDoubleAbove_of_le (hd : IsDouble d) (hn : (n : ℚ) ≤ a) (hle : a ≤ d) (hlt : d < n + 1) :
    HasDoubleAbove a := by
  have hfloor : (n : ℤ) ≤ ⌊a⌋ := Int.le_floor.2 (by exact_mod_cast hn)
  have hcast : (n : ℚ) ≤ ⌊a⌋ := by exact_mod_cast hfloor
  exact ⟨d, hd, hle, by linarith⟩

/-- A half is a double. -/
theorem isDouble_half : IsDouble (1 / 2) := by
  rw [← size_half 0]
  exact isDouble_size (by decide) (by decide) (by decide)

/-- A sum of 54 bits that is at least one: it has just reached a power of two, and a half above that
there is a double, unless the sum is a whole number itself. -/
theorem hasDoubleAbove_carried (hm : m < 2 ^ 53) (hlarge : 2 ^ 53 ≤ m + 2 ^ j) (hj : j ≤ 52) :
    HasDoubleAbove (size (m + 2 ^ j) (-(j + 1 : Nat))) := by
  cases j with
  | zero =>
    obtain rfl : m = 2 ^ 53 - 1 := by omega
    have hwhole : size (2 ^ 53 - 1 + 2 ^ 0) (-(0 + 1 : Nat)) = size (2 ^ 52) 0 :=
      (size_cancelled (2 ^ 52) 1).trans (size_whole _).symm
    rw [hwhole]
    exact (isDouble_size (by decide) (by decide) (by decide)).hasDoubleAbove
  | succ k =>
    obtain ⟨i, hi⟩ : ∃ i, 51 = i + k := ⟨51 - k, by omega⟩
    have hpower : size (2 ^ 53) (-(k + 1 + 1 : Nat)) = (2 ^ i : Nat) := by
      rw [← size_cancelled (2 ^ i) (k + 1 + 1), ← Nat.pow_add]
      congr 2
      omega
    have hunits : size (2 ^ i * 2) (-1) = (2 ^ i : Nat) := size_cancelled (2 ^ i) 1
    have hdouble : size (2 ^ 53 + 2 ^ (k + 1)) (-(k + 1 + 1 : Nat)) =
        size (2 ^ i * 2 + 1) (-1) := by
      rw [size_add, hpower, size_half, size_add, hunits]
      norm_num [size]
    have hsmall : 2 ^ i ≤ 2 ^ 51 := Nat.pow_le_pow_right (by decide) (by omega)
    refine hasDoubleAbove_of_le (d := size (2 ^ i * 2 + 1) (-1)) (n := 2 ^ i)
      (isDouble_size (by omega) (by decide) (by decide)) ?_ ?_ ?_
    · rw [← hpower]
      exact size_mono hlarge _
    · rw [← hdouble]
      exact size_mono (by omega) _
    · rw [← hdouble, size_add, hpower, size_half]
      norm_num

/-- A number below a half, but not the greatest: its sum with a half is at most the greatest double
below one. -/
theorem hasDoubleAbove_small (hm : m < 2 ^ 53) (hj : 53 ≤ j)
    (hne : size m (-(j + 1 : Nat)) ≠ belowHalf) :
    HasDoubleAbove (size m (-(j + 1 : Nat)) + 1 / 2) := by
  have hsmall : size m (-(j + 1 : Nat)) ≤ size (2 ^ 53 - 2) (-54) := by
    obtain ⟨k, rfl⟩ := Nat.exists_eq_add_of_le hj
    have hscaled := size_shifted (2 ^ 53 - 2) k (-(53 + k + 1 : Nat))
    have hexponent : -((53 + k + 1 : Nat) : Int) + k = -54 := by omega
    rw [hexponent] at hscaled
    rw [hscaled]
    refine size_mono ?_ _
    cases k with
    | zero =>
      have hlast : m ≠ 2 ^ 53 - 1 := by
        rintro rfl
        exact hne size_belowHalf
      omega
    | succ k =>
      calc m ≤ (2 ^ 53 - 2) * 2 := by omega
        _ ≤ (2 ^ 53 - 2) * 2 ^ (k + 1) :=
          Nat.mul_le_mul_left _ (Nat.le_self_pow (Nat.succ_ne_zero k) 2)
  refine hasDoubleAbove_of_le (d := size (2 ^ 53 - 1) (-53)) (n := 0)
    (isDouble_size (by decide) (by decide) (by decide)) ?_ ?_ ?_
  · have hnonneg := size_nonneg m (-(j + 1 : Nat))
    rw [Nat.cast_zero]
    linarith
  · calc size m (-(j + 1 : Nat)) + 1 / 2 ≤ size (2 ^ 53 - 2) (-54) + 1 / 2 := by gcongr
      _ = size (2 ^ 53 - 1) (-53) := by norm_num [size]
  · norm_num [size]

/-- **Only the sum of the greatest double below a half with a half has no double above it** that is
below the next whole number. -/
theorem hasDoubleAbove_add_half (s : Sign) (hm : m < 2 ^ 53) (hlow : -1074 ≤ e) (hneg : e < 0)
    (hne : withSign s (size m e) ≠ belowHalf) : HasDoubleAbove (withSign s (size m e) + 1 / 2) := by
  obtain ⟨j, rfl⟩ : ∃ j : Nat, e = -(j + 1 : Nat) := ⟨(-e).toNat - 1, by omega⟩
  have hhigh : -((j + 1 : Nat) : Int) ≤ 971 := by omega
  cases s with
  | positive =>
    rcases Nat.lt_or_ge (m + 2 ^ j) (2 ^ 53) with hshort | hlong
    · rw [withSign, ← size_half j, ← size_add]
      exact (isDouble_size hshort hlow hhigh).hasDoubleAbove
    rcases Nat.lt_or_ge j 53 with hj | hj
    · rw [withSign, ← size_half j, ← size_add]
      exact hasDoubleAbove_carried hm hlong (Nat.le_of_lt_succ hj)
    · exact hasDoubleAbove_small hm hj hne
  | negative =>
    rcases Nat.le_total m (2 ^ j) with hle | hge
    · have hsum : withSign .negative (size m (-(j + 1 : Nat))) + 1 / 2 =
          size (2 ^ j - m) (-(j + 1 : Nat)) := by
        rw [withSign, size_sub hle, size_half]
        ring
      rw [hsum]
      refine hasDoubleAbove_of_le (n := 0) isDouble_half ?_ ?_ (by norm_num)
      · rw [Nat.cast_zero]
        exact size_nonneg _ _
      · rw [← size_half j]
        exact size_mono (Nat.sub_le _ _) _
    · have hsum : withSign .negative (size m (-(j + 1 : Nat))) + 1 / 2 =
          -size (m - 2 ^ j) (-(j + 1 : Nat)) := by
        rw [withSign, size_sub hge, size_half]
        ring
      rw [hsum]
      have hlt : m - 2 ^ j < 2 ^ 53 := Nat.lt_of_le_of_lt (Nat.sub_le _ _) hm
      exact (isDouble_neg (isDouble_size hlt hlow hhigh)).hasDoubleAbove

/-! ### Halves up -/

/-- A double is found to be whole if it is an integer. -/
theorem isWhole_iff : isWhole x = true ↔ ∃ i : ℤ, toRat? x = some (i : ℚ) := by
  simp only [← whole?_eq_some_iff, whole?]
  constructor
  · intro h
    rw [if_pos h]
    unfold isWhole at h
    unfold truncated?
    split at h
    · cases h
    · cases h
    · exact ⟨0, rfl⟩
    · exact ⟨_, rfl⟩
  · rintro ⟨i, hi⟩
    by_contra h
    rw [if_neg h] at hi
    cases hi

/-- A number with a fraction has a negative exponent. -/
theorem neg_of_not_whole (h : ∀ i : ℤ, withSign s (size m e) ≠ i) : e < 0 := by
  by_contra he
  obtain ⟨k, rfl⟩ := Int.eq_ofNat_of_zero_le (Int.not_lt.1 he)
  refine h (signed s (m * 2 ^ k)) ?_
  rw [cast_signed, size_natCast]

/-- The nearest whole number, a half going up. -/
def halfUp (a : ℚ) : ℤ := ⌊a + 1 / 2⌋

/-- An integer is its own nearest whole number. -/
theorem halfUp_intCast (i : ℤ) : halfUp i = i := by
  rw [halfUp, Int.floor_eq_iff]
  constructor <;> linarith

/-- Below a half, zero is the nearest whole number. -/
theorem halfUp_belowHalf : halfUp belowHalf = 0 := by
  rw [halfUp, Int.floor_eq_iff]
  norm_num [belowHalf]

/-- The greatest double below a half is no integer. -/
theorem belowHalf_ne_intCast (i : ℤ) : belowHalf ≠ i := by
  intro h
  have hhalf := halfUp_belowHalf
  rw [h, halfUp_intCast] at hhalf
  rw [hhalf] at h
  norm_num [belowHalf] at h

/-- The literal is a half. -/
theorem toRat?_half : toRat? 0.5 = some (1 / 2) := by
  have hform : toRat? 0.5 = some (withSign .positive (size (2 ^ 52) (-53))) := rfl
  rw [hform, withSign]
  norm_num [size]

/-- A double other than zero is the only one that is its number. -/
theorem toRat?_inj {y : Float} (hx : toRat? x = some a) (hy : toRat? y = some a) (ha : a ≠ 0) :
    x = y := by
  have hbeq : (unpack x).beq (unpack y) = true := by
    rw [UnpackedFloat.beq, compare_of_toRat? hx hy, cmp_self_eq_eq]
    rfl
  rcases eq_or_zero_of_beq hbeq with h | ⟨s, t, hs, -⟩
  · exact unpack_inj h
  · exact absurd (Option.some.inj (hx.symm.trans (toRat?_zero hs))) ha

/-- The sum of a number with a fraction and a half has at most 53 bits in front of the point. -/
theorem add_half_bounds (s : Sign) (hm : m < 2 ^ 53) (hneg : e < 0) :
    |withSign s (size m e) + 1 / 2| ≤ (2 ^ 52 + 1 : Nat) ∧
      IsDouble ⌊withSign s (size m e) + 1 / 2⌋ := by
  have hsize : |withSign s (size m e)| ≤ 2 ^ 52 := by
    rw [abs_withSign, abs_of_nonneg (size_nonneg m e)]
    have hunits : (2 : ℚ) ^ e ≤ 2 ^ (-1 : ℤ) := zpow_le_zpow_right₀ (by norm_num) (by omega)
    have hbits : (m : ℚ) ≤ 2 ^ 53 := by exact_mod_cast hm.le
    calc size m e ≤ 2 ^ 53 * 2 ^ (-1 : ℤ) := by rw [size]; gcongr
      _ = 2 ^ 52 := by norm_num
  generalize withSign s (size m e) = a at hsize
  obtain ⟨hlow, hhigh⟩ := abs_le.1 hsize
  have hfloor : -2 ^ 52 ≤ ⌊a + 1 / 2⌋ := Int.le_floor.2 (by push_cast; linarith)
  have hfloor' : ⌊a + 1 / 2⌋ < 2 ^ 52 + 1 := Int.floor_lt.2 (by push_cast; linarith)
  refine ⟨abs_le.2 ⟨?_, ?_⟩, isDouble_intCast (by omega)⟩ <;> push_cast <;> linarith

/-- The sum with a half is rounded to a number with the same whole part. -/
theorem toRat?_floor_add_half (h : toRat? x = some a) (hpart : ∀ i : ℤ, a ≠ i)
    (hne : a ≠ belowHalf) : toRat? (floor (x + 0.5)) = some (halfUp a : ℚ) := by
  rcases toRat?_cases h with ⟨s, -, rfl⟩ | ⟨s, m, e, hm, hx, rfl⟩
  · exact absurd Int.cast_zero.symm (hpart 0)
  have hform := isForm hx
  have hneg := neg_of_not_whole hpart
  obtain ⟨hle, hfloor⟩ := add_half_bounds s hform.lt hneg
  obtain ⟨c, hc, hrounds⟩ := exists_add h toRat?_half (isDouble_natCast (by decide)) hle
  obtain ⟨d, hd, had, hlt⟩ := hasDoubleAbove_add_half s hform.lt hform.least hneg hne
  rw [toRat?_floor hc, hrounds.floor_eq hfloor hd had hlt, halfUp]

/-- **Rounding is exact, but for one double.**  The greatest double below a half is rounded to
one. -/
theorem toRat?_roundHalfUp (h : toRat? x = some a) :
    toRat? (MathFunction.roundHalfUp x) =
      some (if a = belowHalf then 1 else (halfUp a : ℚ)) := by
  have hfinite : x.isFinite = true := by
    rw [← Bool.not_eq_false, ← toRat?_eq_none_iff, h]
    exact nofun
  rw [MathFunction.roundHalfUp, hfinite, Bool.not_true, Bool.false_or]
  split
  · next hwhole =>
    obtain ⟨i, hi⟩ := isWhole_iff.1 hwhole
    obtain rfl : a = i := Option.some.inj (h.symm.trans hi)
    rw [if_neg (belowHalf_ne_intCast i).symm, halfUp_intCast, h]
  · next hpart =>
    split
    · next hbelow =>
      -- The sum lies halfway between one and the double below it, whose mantissa is odd.
      have hpos : belowHalf ≠ 0 := by norm_num [belowHalf]
      obtain rfl := toRat?_inj (h.trans (congrArg some hbelow)) toRat?_belowHalf hpos
      have hone : toRat? (floor (0.49999999999999994 + 0.5)) =
          some (withSign .positive (size (2 ^ 52) (-52))) := rfl
      rw [hone, withSign]
      norm_num [size]
    · next hne =>
      exact toRat?_floor_add_half h (fun i hi => hpart (isWhole_iff.2 ⟨i, hi ▸ h⟩)) hne

/-- What is not finite is rounded to itself. -/
theorem roundHalfUp_of_not_finite (h : toRat? x = none) : MathFunction.roundHalfUp x = x := by
  rw [MathFunction.roundHalfUp, toRat?_eq_none_iff.1 h]
  rfl

/-- What holds of a double `x` that is rounded to `y`. -/
structure IsRounded (x y : Float) : Prop where
  /-- What is not finite stays what it is. -/
  unchanged : toRat? x = none → y = x
  /-- The result is the nearest whole number, a half going up, of every double but one. -/
  exact_iff : ∀ a, toRat? x = some a → (toRat? y = some (halfUp a : ℚ) ↔ a ≠ belowHalf)
  /-- That one is rounded to one. -/
  exception : toRat? x = some belowHalf → toRat? y = some 1

/-- Every double but the greatest one below a half is rounded to its nearest whole number, a half
going up. -/
theorem isRounded_roundHalfUp (x : Float) : IsRounded x (MathFunction.roundHalfUp x) where
  unchanged := roundHalfUp_of_not_finite
  exact_iff a ha := by
    rw [toRat?_roundHalfUp ha, Option.some.injEq]
    split
    · next hbelow =>
      rw [hbelow, halfUp_belowHalf]
      norm_num
    · next hne => exact iff_of_true rfl hne
  exception hbelow := by rw [toRat?_roundHalfUp hbelow, if_pos rfl]

end Binary64

namespace Expr

open Binary64 (toRat? halfUp belowHalf)

/-- **`Math.round` is the nearest whole number, a half going up, of every double but one.**  The
exception is the greatest double below a half, which is rounded to one.  What is not finite is left
as it is. -/
theorem value_round (e : Expr) (more : List Expr) (record : Value) :
    ∃ y, (call "Math.round" (e :: more)).compile.value record = .number y ∧
      Binary64.IsRounded (e.compile.value record).toNumber y :=
  ⟨MathFunction.roundHalfUp (e.compile.value record).toNumber, rfl,
    Binary64.isRounded_roundHalfUp _⟩

/-- The greatest double below a half is nearer to zero, and not rounded to it. -/
theorem not_halfUp_belowHalf :
    ¬ ∀ (e : Expr) (record : Value) (a : ℚ), toRat? (e.compile.value record).toNumber = some a →
      ∃ y, (call "Math.round" [e]).compile.value record = .number y ∧
        toRat? y = some (halfUp a : ℚ) := by
  intro h
  obtain ⟨y, hy, hrounded⟩ :=
    h (.literal (.number 0.49999999999999994)) .null belowHalf Binary64.toRat?_belowHalf
  obtain rfl : MathFunction.roundHalfUp 0.49999999999999994 = y := Value.number.inj hy
  rw [Binary64.toRat?_roundHalfUp Binary64.toRat?_belowHalf, if_pos rfl,
    Binary64.halfUp_belowHalf] at hrounded
  norm_num at hrounded

end Expr
end RecordFilter
