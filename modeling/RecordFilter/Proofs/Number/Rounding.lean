/-
# How far rounding goes

Rounding moves a number up by less than one step, so what was rounded is at most
`1 + 1 / 2 ^ 52` times the number (`exists_roundWithAccuracy`), as long as the mantissa has all of
its bits.  A whole number and a power of ten are rounded once before they are multiplied, so a
product of the two is finite if the exact product stays some steps below the greatest double
(`isInf_mul_powerOfTen`).
-/

import Mathlib
import RecordFilter.Json.Scan
import RecordFilter.Proofs.Number.Binary64

namespace RecordFilter
namespace Binary64

open Float.Model (UnpackedFloat Format totalExponent)
open Float.Model.UnpackedFloat

variable {s : Sign} {m n k : Nat} {e q : Int} {x y : Float} {a b : ℚ}

/-- The number `m · 2 ^ e`. -/
def size (m : Nat) (e : Int) : ℚ := m * 2 ^ e

/-- What a number is at most multiplied by when it is rounded. -/
def slack : ℚ := 1 + 1 / 2 ^ 52

/-- Bits can be moved from the exponent to the mantissa. -/
theorem size_shifted (m k : Nat) (e : Int) : size m (e + k) = size (m * 2 ^ k) e := by
  rw [size, size, zpow_add₀ two_ne_zero, zpow_natCast]
  push_cast
  ring

/-- A size with an exponent from zero on is a whole number. -/
theorem size_natCast (m k : Nat) : size m k = (m * 2 ^ k : Nat) := by
  rw [size, zpow_natCast]
  push_cast
  rfl

/-! ### Mantissas -/

/-- A shift to the right divides the mantissa by a power of two. -/
theorem mantissa_shiftRight (em : ExtendedMantissa) (k : Nat) :
    (em >>> k).mantissa = em.mantissa / 2 ^ k := by
  induction k with
  | zero => exact (Nat.div_one _).symm
  | succ k ih =>
    change (em >>> k).mantissa / 2 = _
    rw [ih, Nat.div_div_eq_div_mul, ← Nat.pow_succ]

/-- A mantissa is rounded to itself or to the next one. -/
theorem roundedMantissa_bounds (em : ExtendedMantissa) :
    em.mantissa ≤ em.roundedMantissa ∧ em.roundedMantissa ≤ em.mantissa + 1 := by
  obtain ⟨m, r, t⟩ := em
  have hparity : m % 2 < 2 := Nat.mod_lt m (by decide)
  cases r <;> cases t <;>
    simp only [ExtendedMantissa.roundedMantissa, ExtendedMantissa.accuracy,
      Accuracy.roundToNearestEven] <;> omega

/-- A mantissa of 53 bits at least is shifted to 53 bits. -/
theorem shiftToTargetExponent_full (hm : 2 ^ 52 ≤ m) (hq : -1074 ≤ q) :
    ∃ em : ExtendedMantissa, ∃ k : Nat, m.log2 = 52 + k ∧ em.mantissa = m / 2 ^ k ∧
      shiftToTargetExponent .binary64 m q .exact = (em, q + k) := by
  have hlog : 52 ≤ m.log2 := (Nat.le_log2 (by omega)).2 hm
  obtain ⟨k, hk⟩ := Nat.exists_eq_add_of_le hlog
  have htarget : Format.binary64.targetExponent (totalExponent m q) - q = k := by
    rw [targetExponent_eq, totalExponent]
    omega
  refine ⟨(⟨m, false, false⟩ : ExtendedMantissa) >>> k, k, hk, mantissa_shiftRight _ k, ?_⟩
  rw [shiftToTargetExponent, shiftToExponent, htarget]
  rfl

/-- A mantissa in front of 53 bits fills them. -/
theorem div_log2_bounds (hm : m.log2 = 52 + k) (hpos : m ≠ 0) :
    2 ^ 52 ≤ m / 2 ^ k ∧ m / 2 ^ k < 2 ^ 53 := by
  have hle : 2 ^ 52 * 2 ^ k ≤ m := by
    rw [← Nat.pow_add, ← hm]
    exact Nat.log2_self_le hpos
  have hlt : m < 2 ^ 53 * 2 ^ k := by
    have hself := Nat.lt_log2_self (n := m)
    rwa [hm, Nat.add_right_comm, Nat.pow_add] at hself
  exact ⟨(Nat.le_div_iff_mul_le (Nat.two_pow_pos k)).2 hle,
    (Nat.div_lt_iff_lt_mul (Nat.two_pow_pos k)).2 hlt⟩

/-! ### Rounding -/

/-- A greater mantissa has a greater size. -/
theorem strictMono_size (e : Int) : StrictMono fun m => size m e := fun _ _ h =>
  mul_lt_mul_of_pos_right (Nat.cast_lt.2 h) (by positivity)

/-- A mantissa that is no less has no less a size. -/
theorem size_mono (h : m ≤ n) (e : Int) : size m e ≤ size n e := (strictMono_size e).monotone h

/-- Bits that are cut off make a number smaller. -/
theorem size_div_le (m k : Nat) (q : Int) : size (m / 2 ^ k) (q + k) ≤ size m q := by
  rw [size_shifted]
  exact size_mono (Nat.div_mul_le_self m (2 ^ k)) q

/-- One step is a small part of a mantissa of 53 bits. -/
theorem size_succ_le (hn : 2 ^ 52 ≤ n) (e : Int) : size (n + 1) e ≤ size n e * slack := by
  have hcast : (2 ^ 52 : ℚ) ≤ n := by exact_mod_cast hn
  have hstep : ((n + 1 : Nat) : ℚ) ≤ n * slack := by
    rw [slack]
    push_cast
    linarith
  calc size (n + 1) e ≤ n * slack * 2 ^ e := mul_le_mul_of_nonneg_right hstep (by positivity)
    _ = size n e * slack := by rw [size]; ring

/-- What stays below the greatest double but one has an exponent of a double, and the greatest
exponent leaves the mantissa a place. -/
theorem exponent_bounds (hn : 2 ^ 52 ≤ n) (hsize : size n e < size (2 ^ 53 - 2) 971) :
    e ≤ 971 ∧ (e = 971 → n < 2 ^ 53 - 2) := by
  constructor
  · have hlow : size (2 ^ 52) e < size (2 ^ 52) (971 + (1 : Nat)) := by
      rw [size_shifted]
      exact (size_mono hn e).trans_lt (hsize.trans_le (size_mono (by decide) 971))
    have hpow : (2 : ℚ) ^ e < 2 ^ (971 + (1 : Nat) : ℤ) :=
      lt_of_mul_lt_mul_left hlow (by positivity)
    have := (zpow_lt_zpow_iff_right₀ (by norm_num : (1 : ℚ) < 2)).1 hpow
    omega
  · rintro rfl
    have hcast : (n : ℚ) < ((2 ^ 53 - 2 : Nat) : ℚ) := lt_of_mul_lt_mul_right hsize (by positivity)
    exact_mod_cast hcast

/-- A rounded mantissa is shifted to a form. -/
theorem exists_form_shifted (hn : 2 ^ 52 ≤ n) (hle : n ≤ 2 ^ 53) (hlow : -1074 ≤ e)
    (hhigh : e ≤ 971) (hlast : e = 971 → n < 2 ^ 53) :
    ∃ r f, IsForm r f ∧ 2 ^ 52 ≤ r ∧ e ≤ f ∧ size r f = size n e ∧
      shiftToTargetExponent .binary64 n e .exact = (⟨r, false, false⟩, f) := by
  rcases Nat.lt_or_ge n (2 ^ 53) with hlt | hge
  · have hform : IsForm n e := ⟨by omega, hlt, hlow, hhigh, .inl hn⟩
    have hshift := shiftToTargetExponent_scaled hform 0
    rw [Nat.pow_zero, Nat.mul_one, Int.natCast_zero, Int.sub_zero] at hshift
    exact ⟨n, e, hform, hn, Int.le_refl e, rfl, hshift⟩
  · obtain rfl : n = 2 ^ 52 * 2 ^ 1 := by omega
    have hform : IsForm (2 ^ 52) (e + 1) :=
      ⟨by decide, by decide, by omega, by omega, .inl (Nat.le_refl _)⟩
    have hshift := shiftToTargetExponent_scaled hform 1
    rw [Int.natCast_one, Int.add_sub_cancel] at hshift
    exact ⟨2 ^ 52, e + 1, hform, Nat.le_refl _, by omega, size_shifted (2 ^ 52) 1 e, hshift⟩

/-- A number that is not too large is rounded to a form, and up by less than a step. -/
theorem exists_roundWithAccuracy (hm : 2 ^ 52 ≤ m) (hq : -1074 ≤ q)
    (hsize : size m q < size (2 ^ 53 - 2) 971) (s : Sign) :
    ∃ r e, ∃ h : IsForm r e, roundWithAccuracy .binary64 s m q .exact = .finite s r e h.pos ∧
      2 ^ 52 ≤ r ∧ q ≤ e ∧ size r e ≤ size m q * slack := by
  obtain ⟨em, k, hk, hem, hshift⟩ := shiftToTargetExponent_full hm hq
  obtain ⟨hfull, hlt⟩ := div_log2_bounds hk (by omega)
  obtain ⟨hlow, hhigh⟩ := roundedMantissa_bounds em
  rw [hem] at hlow hhigh
  obtain ⟨hexponent, hlast⟩ := exponent_bounds hfull ((size_div_le m k q).trans_lt hsize)
  obtain ⟨r, e, hform, hr, he, hsame, hagain⟩ := exists_form_shifted (n := em.roundedMantissa)
    (e := q + k) (by omega) (by omega) (by omega) hexponent fun h => by
      have := hlast h
      omega
  refine ⟨r, e, hform, ?_, hr, by omega, ?_⟩
  · simp only [roundWithAccuracy, hshift, hagain, Nat.pos_iff_ne_zero.1 hform.pos, dif_neg,
      not_false_iff]
  · calc size r e = size em.roundedMantissa (q + k) := hsame
      _ ≤ size (m / 2 ^ k + 1) (q + k) := size_mono hhigh _
      _ ≤ size (m / 2 ^ k) (q + k) * slack := size_succ_le hfull _
      _ ≤ size m q * slack := mul_le_mul_of_nonneg_right (size_div_le m k q) (by norm_num [slack])

/-! ### Whole numbers and powers of ten -/

/-- Whether a double is positive, of 53 bits with a unit of at most one, and at most a number. -/
def AtMost (x : Float) (bound : ℚ) : Prop :=
  ∃ m e, ∃ h : IsForm m e, unpack x = .finite .positive m e h.pos ∧ 2 ^ 52 ≤ m ∧ -53 ≤ e ∧
    size m e ≤ bound

/-- A number that is rounded gets at most a step greater. -/
theorem atMost_of_round (hm : 2 ^ 52 ≤ m) (hq : -53 ≤ q) (hsize : size m q < size (2 ^ 53 - 2) 971)
    (hx : x = .ofModel (.pack (roundWithAccuracy .binary64 .positive m q .exact))) :
    AtMost x (size m q * slack) := by
  obtain ⟨r, e, hform, hround, hr, he, hle⟩ :=
    exists_roundWithAccuracy hm (by omega) hsize .positive
  exact ⟨r, e, hform, by rw [hx, hround, unpack_pack _ hform], hr, by omega, hle⟩

/-- A whole number is rounded once. -/
theorem atMost_ofInt (hn : 0 < n) (hsize : (n : ℚ) < size (2 ^ 53 - 2) 971) :
    AtMost (ofInt n) (n * slack) := by
  have hpos : n ≠ 0 := Nat.pos_iff_ne_zero.1 hn
  obtain ⟨k, hk⟩ : ∃ k : Nat, (0 - Format.binary64.targetExponent (totalExponent n 0)).toNat = k :=
    ⟨_, rfl⟩
  have hfull : 2 ^ 52 ≤ n * 2 ^ k := by
    rw [← Nat.le_log2 (Nat.mul_ne_zero hpos (Nat.two_pow_pos k).ne'), log2_scaled hpos]
    rw [targetExponent_eq, totalExponent] at hk
    omega
  have hlow : -53 ≤ (0 : Int) - k := by
    rw [targetExponent_eq, totalExponent] at hk
    omega
  have hsame : size (n * 2 ^ k) (0 - k) = n := by
    rw [← size_shifted, Int.sub_add_cancel, size, zpow_zero, mul_one]
  have hround : ofInt n =
      .ofModel (.pack (roundWithAccuracy .binary64 .positive (n * 2 ^ k) (0 - k) .exact)) := by
    rw [ofInt, if_neg (by omega), Int.natAbs_natCast, nearest, if_neg hpos]
    simp only [UnpackedFloat.round, decreaseExponent, hk, Nat.shiftLeft_eq]
  rw [← hsame] at hsize ⊢
  exact atMost_of_round hfull hlow hsize hround

/-- The powers of ten that are doubles are looked up. -/
theorem powerOfTen_small :
    ∀ k < 23, (Json.Numeral.powerOfTen k).toModel = (ofInt (10 ^ k : Nat)).toModel := by
  decide +kernel

/-- The others are computed. -/
theorem powerOfTen_large (hk : 23 ≤ k) (hle : k ≤ 308) : Json.Numeral.powerOfTen k =
    .ofModel (.pack (roundWithAccuracy .binary64 .positive (2 ^ 53 * 10 ^ k) (-53) .exact)) := by
  have hhigh : ¬ Int.ofNat k > 2 ^ 11 := by
    rw [Int.ofNat_eq_natCast]
    omega
  have hlow : ¬ Int.ofNat k < -(2 ^ 11 + (1 : Nat).log2) := by
    rw [Int.ofNat_eq_natCast]
    omega
  have hnonneg : 0 ≤ Int.ofNat k := Int.natCast_nonneg k
  change Float.ofScientific 1 false k = _
  rw [Float.ofScientific, dif_neg (by omega)]
  simp only [Bool.false_eq_true, if_false, Float.Model.ofScientific, UnpackedFloat.ofScientific]
  rw [dif_neg one_ne_zero, if_neg hhigh, if_neg hlow, if_pos hnonneg]
  rfl

/-- Powers of ten up to 308 are in the range. -/
theorem pow_lt_greatest : ∀ k < 309, 10 ^ k < (2 ^ 53 - 2) * 2 ^ 971 := by
  decide +kernel

/-- A power of ten is rounded once. -/
theorem atMost_powerOfTen (hk : k ≤ 308) : AtMost (Json.Numeral.powerOfTen k) (10 ^ k * slack) := by
  have hcast : ((10 ^ k : Nat) : ℚ) = 10 ^ k := by push_cast; rfl
  have hsize : ((10 ^ k : Nat) : ℚ) < size (2 ^ 53 - 2) (971 : Nat) := by
    rw [size_natCast]
    exact Nat.cast_lt.2 (pow_lt_greatest k (Nat.lt_succ_of_le hk))
  rw [← hcast]
  rcases Nat.lt_or_ge k 23 with hsmall | hlarge
  · have hequal : Json.Numeral.powerOfTen k = ofInt (10 ^ k : Nat) :=
      congrArg Float.ofModel (powerOfTen_small k hsmall)
    rw [hequal]
    exact atMost_ofInt (Nat.pow_pos (by decide)) hsize
  · have hsame : size (2 ^ 53 * 10 ^ k) (-53) = (10 ^ k : Nat) := by
      rw [Nat.mul_comm, ← size_shifted]
      norm_num [size]
    have hfull : 2 ^ 52 ≤ 2 ^ 53 * 10 ^ k :=
      Nat.le_trans (by decide) (Nat.le_mul_of_pos_right (2 ^ 53) (Nat.pow_pos (by decide)))
    rw [← hsame] at hsize ⊢
    exact atMost_of_round hfull (Int.le_refl _) hsize (powerOfTen_large hlarge hk)

/-- A product of rounded numbers is finite if the bound of the product is. -/
theorem isInf_mul (hx : AtMost x a) (hy : AtMost y b)
    (hab : a * b < size (2 ^ 53 - 2) 971) : (x * y).isInf = false := by
  obtain ⟨m, e, hm, hx, hfull, he, hle⟩ := hx
  obtain ⟨n, f, hn, hy, hfull', hf, hle'⟩ := hy
  have hproduct : 2 ^ 52 ≤ m * n := Nat.le_trans hfull (Nat.le_mul_of_pos_right m hn.pos)
  have hsize : size (m * n) (e + f) = size m e * size n f := by
    rw [size, size, size, zpow_add₀ two_ne_zero]
    push_cast
    ring
  have hbound : size (m * n) (e + f) < size (2 ^ 53 - 2) 971 := by
    rw [hsize]
    have hnonneg : 0 ≤ size n f := by rw [size]; positivity
    have hpos : 0 ≤ a := le_trans (by rw [size]; positivity) hle
    exact (mul_le_mul hle hle' hnonneg hpos).trans_lt hab
  obtain ⟨r, g, hform, hround, -⟩ :=
    exists_roundWithAccuracy hproduct (by omega) hbound (.positive * .positive)
  have hmul : x * y = .ofModel (.pack (.finite (.positive * .positive) r g hform.pos)) := by
    change Float.ofModel (.pack (UnpackedFloat.mul .binary64 (unpack x) (unpack y))) = _
    rw [hx, hy, UnpackedFloat.mul, hround]
  change (unpack (x * y)).isInf = false
  rw [hmul, unpack_pack _ hform]
  rfl

/-- **A whole number times a power of ten is finite** if the exact product is at most eight steps
below the power of two above all doubles. -/
theorem isInf_mul_powerOfTen (hn : 0 < n) (hk : k ≤ 308)
    (h : (n : ℚ) * 10 ^ k ≤ size (2 ^ 53 - 8) 971) :
    (ofInt n * Json.Numeral.powerOfTen k).isInf = false := by
  have hpow : (1 : ℚ) ≤ 10 ^ k := one_le_pow₀ (by norm_num)
  have hfits : size (2 ^ 53 - 8) 971 * (slack * slack) < size (2 ^ 53 - 2) 971 := by
    have hsteps : ((2 ^ 53 - 8 : Nat) : ℚ) * (slack * slack) < ((2 ^ 53 - 2 : Nat) : ℚ) := by
      norm_num [slack]
    calc size (2 ^ 53 - 8) 971 * (slack * slack)
        = ((2 ^ 53 - 8 : Nat) : ℚ) * (slack * slack) * 2 ^ (971 : ℤ) := by rw [size]; ring
      _ < size (2 ^ 53 - 2) 971 := mul_lt_mul_of_pos_right hsteps (by positivity)
  have hnumber : (n : ℚ) < size (2 ^ 53 - 2) 971 := by
    calc (n : ℚ) ≤ n * 10 ^ k := le_mul_of_one_le_right (Nat.cast_nonneg n) hpow
      _ ≤ size (2 ^ 53 - 8) 971 := h
      _ < size (2 ^ 53 - 2) 971 :=
        mul_lt_mul_of_pos_right (by norm_num) (by positivity)
  refine isInf_mul (atMost_ofInt hn hnumber) (atMost_powerOfTen hk) ?_
  calc (n : ℚ) * slack * (10 ^ k * slack) = n * 10 ^ k * (slack * slack) := by ring
    _ ≤ size (2 ^ 53 - 8) 971 * (slack * slack) :=
      mul_le_mul_of_nonneg_right h (by norm_num [slack])
    _ < size (2 ^ 53 - 2) 971 := hfits

end Binary64
end RecordFilter
