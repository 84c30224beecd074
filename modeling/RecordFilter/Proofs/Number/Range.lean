/-
# Which decimals are out of range

A decimal has a nearest double unless it is too great, and then it is infinite; it is always a
number.  Halfway between the greatest double `(2 ^ 53 - 1) · 2 ^ 971` and the power of two above it
stands `Binary64.outOfRange`, and a tie goes to the even mantissa, which is that power.  So the
decimals from there on are the infinite ones (`Decimal.overflowsAs_toFloat`).

A mantissa with the two bits behind it stands for an exact number (`Binary64.StandsFor`), also where
that is a quotient (`standsFor_quotient`).  Shifting divides the number (`StandsFor.shiftRight`),
and what a mantissa is rounded to depends on the number alone (`StandsFor.roundedMantissa_le_iff`).
What is rounded is then packed, and is infinite if its exponent has no place
(`overflowsAs_round`).
-/

import Mathlib
import RecordFilter.Proofs.Number.Rounding
import RecordFilter.Proofs.Number.Shortest

namespace RecordFilter
namespace Binary64

open Float.Model (UnpackedFloat Format totalExponent)
open Float.Model.UnpackedFloat

variable {s t : Sign} {em : ExtendedMantissa} {accuracy : Accuracy} {m n k r : Nat} {e f q : Int}
  {x y : Float} {a : ℚ}

/-- The least number that is rounded to an infinity. -/
def outOfRange : ℚ := size (2 ^ 54 - 1) 970

/-! ### Mantissas -/

/-- A mantissa with its two further bits stands for a number: the first bit is a half, and the
second says whether something smaller is left. -/
def StandsFor (a : ℚ) : ExtendedMantissa → Prop
  | ⟨m, false, false⟩ => a = m
  | ⟨m, false, true⟩ => (m : ℚ) < a ∧ a < m + 1 / 2
  | ⟨m, true, false⟩ => a = m + 1 / 2
  | ⟨m, true, true⟩ => (m : ℚ) + 1 / 2 < a ∧ a < m + 1

/-- A mantissa stands for a number less than one above it. -/
theorem StandsFor.bounds (h : StandsFor a em) : (em.mantissa : ℚ) ≤ a ∧ a < em.mantissa + 1 := by
  obtain ⟨m, half, more⟩ := em
  cases half <;> cases more <;> simp only [StandsFor] at h ⊢ <;> constructor <;> linarith

/-- A shift by one bit stands for the half. -/
theorem StandsFor.shiftRightOne (h : StandsFor a em) : StandsFor (a / 2) em.shiftRightOne := by
  obtain ⟨m, half, more⟩ := em
  have hm : (m : ℚ) = 2 * (m / 2 : Nat) + (m % 2 : Nat) := by
    exact_mod_cast (Nat.div_add_mod m 2).symm
  rcases Nat.mod_two_eq_zero_or_one m with hp | hp <;> rw [hp] at hm <;> cases half <;>
    cases more <;> simp [StandsFor, ExtendedMantissa.shiftRightOne, hp] at h hm ⊢ <;>
    first | linarith | constructor <;> linarith

/-- A shift by some bits stands for the number divided by their power of two. -/
theorem StandsFor.shiftRight (h : StandsFor a em) (k : Nat) : StandsFor (a / 2 ^ k) (em >>> k) := by
  induction k with
  | zero =>
    rw [pow_zero, div_one]
    exact h
  | succ k ih =>
    have hstep : a / 2 ^ (k + 1) = a / 2 ^ k / 2 := by
      rw [pow_succ, div_div]
    rw [hstep]
    exact ih.shiftRightOne

/-- A rounded mantissa is at most an odd bound if and only if the number is less than half a step
above it, as a tie goes to the even mantissa. -/
theorem StandsFor.roundedMantissa_le_iff (h : StandsFor a em) {b : Nat}
    (hodd : b % 2 = 1) : em.roundedMantissa ≤ b ↔ a < b + 1 / 2 := by
  obtain ⟨m, half, more⟩ := em
  rcases Nat.lt_trichotomy m b with hlt | rfl | hgt
  · have hcast : (m : ℚ) + 1 ≤ b := by exact_mod_cast hlt
    have hbelow : a < b + 1 / 2 := by
      have := h.bounds.2
      dsimp only at this
      linarith
    have hrounded := (roundedMantissa_bounds ⟨m, half, more⟩).2
    exact iff_of_true (hrounded.trans hlt) hbelow
  · cases half <;> cases more <;>
      simp only [StandsFor, ExtendedMantissa.roundedMantissa, ExtendedMantissa.accuracy,
        Accuracy.roundToNearestEven, hodd] at h ⊢
    · exact iff_of_true (Nat.le_refl m) (by linarith)
    · exact iff_of_true (Nat.le_refl m) h.2
    · exact iff_of_false (by omega) (by linarith)
    · exact iff_of_false (by omega) (by linarith)
  · have hcast : (b : ℚ) + 1 ≤ m := by exact_mod_cast hgt
    have hrounded := (roundedMantissa_bounds ⟨m, half, more⟩).1
    have habove : ¬ a < b + 1 / 2 := by
      have := h.bounds.1
      dsimp only at this
      linarith
    exact iff_of_false (Nat.not_le.2 (hgt.trans_le hrounded)) habove

/-! ### Rounding -/

/-- The mantissa and the exponent that a number is rounded at. -/
theorem exists_shifted (h : StandsFor a (.ofMantissaAndAccuracy m accuracy))
    (hq : q ≤ Format.binary64.targetExponent (totalExponent m q)) :
    ∃ em e, shiftToTargetExponent .binary64 m q accuracy = (em, e) ∧
      StandsFor (a * 2 ^ q / 2 ^ e) em ∧ -1074 ≤ e ∧ em.mantissa < 2 ^ 53 ∧
      (2 ^ 52 ≤ em.mantissa ∨ e = -1074) := by
  obtain ⟨k, hk⟩ := Int.le.dest hq
  have hshift : Format.binary64.targetExponent (totalExponent m q) - q = k := by omega
  rw [targetExponent_eq, totalExponent] at hk
  have hmantissa : (ExtendedMantissa.ofMantissaAndAccuracy m accuracy >>> k).mantissa =
      m / 2 ^ k := by
    rw [mantissa_shiftRight]
    cases accuracy with
    | exact => rfl
    | inexact o => cases o <;> rfl
  refine ⟨ExtendedMantissa.ofMantissaAndAccuracy m accuracy >>> k, q + k, ?_, ?_, by omega, ?_, ?_⟩
  · rw [shiftToTargetExponent, shiftToExponent, hshift]
    rfl
  · have hscaled : a * 2 ^ q / 2 ^ (q + k) = a / 2 ^ k := by
      rw [zpow_add₀ two_ne_zero, zpow_natCast]
      field_simp
    rw [hscaled]
    exact h.shiftRight k
  · have hpow : m < 2 ^ (53 + k) :=
      Nat.lt_of_lt_of_le Nat.lt_log2_self (Nat.pow_le_pow_right (by decide) (by omega))
    rw [hmantissa]
    exact (Nat.div_lt_iff_lt_mul (Nat.two_pow_pos k)).2 (by rwa [← Nat.pow_add])
  · rw [hmantissa]
    rcases Int.lt_or_le (m.log2 + 1 + q - 53) (-1074) with hsmall | hlarge
    · exact .inr (by omega)
    · have hlog : m.log2 = 52 + k := by omega
      have hm : m ≠ 0 := by
        rintro rfl
        rw [Nat.log2_zero] at hlog
        omega
      exact .inl (div_log2_bounds hlog hm).1

/-- A rounded mantissa is shifted once more if it has 54 bits. -/
theorem exists_shifted_again (hr : r ≤ 2 ^ 53) (he : -1074 ≤ e) (hfull : 2 ^ 52 ≤ r ∨ e = -1074) :
    ∃ n f, shiftToTargetExponent .binary64 r e .exact = (⟨n, false, false⟩, f) ∧ n < 2 ^ 53 ∧
      -1074 ≤ f ∧ (2 ^ 52 ≤ n ∨ f = -1074) ∧ f = (if r = 2 ^ 53 then e + 1 else e) ∧
        size n f = size r e := by
  by_cases hmost : r = 2 ^ 53
  · have htarget : Format.binary64.targetExponent (totalExponent (2 ^ 53) e) - e = (1 : Nat) := by
      rw [targetExponent_eq, totalExponent, Nat.log2_two_pow]
      omega
    refine ⟨2 ^ 52, e + 1, ?_, by decide, by omega, .inl (Nat.le_refl _), (if_pos hmost).symm,
      by rw [hmost]; exact size_shifted (2 ^ 52) 1 e⟩
    rw [hmost, shiftToTargetExponent, shiftToExponent, htarget]
    rfl
  · have htarget : Format.binary64.targetExponent (totalExponent r e) - e = (0 : Nat) := by
      rw [targetExponent_eq, totalExponent]
      rcases Nat.eq_zero_or_pos r with rfl | hpos
      · rw [Nat.log2_zero]
        omega
      · have := Nat.log2_lt (n := r) (k := 53) hpos.ne'
        have := Nat.le_log2 (n := r) (k := 52) hpos.ne'
        omega
    refine ⟨r, e, ?_, by omega, he, hfull, (if_neg hmost).symm, rfl⟩
    rw [shiftToTargetExponent, shiftToExponent, htarget]
    simp
    rfl

/-! ### Packing -/

/-- A finite number whose exponent has no place is packed as an infinity. -/
theorem unpack_pack_large (s : Sign) (hm : 0 < m) (he : 971 < e) :
    unpack (.ofModel (.pack (.finite s m e hm))) = .infinity s := by
  have hbiased : 2 ^ Format.binary64.exponentBits ≤
      (e + Format.binary64.exponentBias + Format.binary64.mantissaBitsWithoutImplicit).toNat +
        1 := by
    change 2 ^ 11 ≤ (e + 1023 + 52).toNat + 1
    omega
  change UnpackedFloat.unpack .binary64 (UnpackedFloat.pack .binary64 (.finite s m e hm)) = _
  rw [UnpackedFloat.pack, if_pos hbiased]
  cases s <;> rfl

/-- A double that is a number, and infinite just where an exact number is out of range. -/
structure OverflowsAs (x : Float) (a : ℚ) : Prop where
  /-- It is a number. -/
  isNaN : x.isNaN = false
  /-- Nothing else makes it infinite. -/
  isInf : x.isInf = true ↔ outOfRange ≤ a

/-- A sign changes nothing about that. -/
theorem OverflowsAs.neg (h : OverflowsAs x a) : OverflowsAs (-x) a := by
  have hkinds : (-x).isNaN = x.isNaN ∧ (-x).isInf = x.isInf := by
    change (unpack (-x)).isNaN = (unpack x).isNaN ∧ (unpack (-x)).isInf = (unpack x).isInf
    rw [unpack_neg]
    cases unpack x <;> exact ⟨rfl, rfl⟩
  exact ⟨hkinds.1.trans h.isNaN, by rw [hkinds.2, h.isInf]⟩

/-- Half a step above the greatest mantissa. -/
theorem outOfRange_eq : outOfRange = ((2 ^ 53 - 1 : Nat) + 1 / 2) * 2 ^ (971 : ℤ) := by
  rw [outOfRange, size, show (971 : ℤ) = 970 + 1 from rfl, zpow_add_one₀ two_ne_zero]
  generalize (2 : ℚ) ^ (970 : ℤ) = step
  norm_num
  ring

/-- The numbers out of range start between the greatest double and the next power of two. -/
theorem outOfRange_bounds :
    2 ^ 53 * 2 ^ (970 : ℤ) < outOfRange ∧ outOfRange ≤ 2 ^ 52 * 2 ^ (972 : ℤ) := by
  have hstep : (0 : ℚ) < 2 ^ (970 : ℤ) := by positivity
  rw [outOfRange, size, show (972 : ℤ) = 970 + 2 from rfl, zpow_add₀ two_ne_zero]
  generalize (2 : ℚ) ^ (970 : ℤ) = step at hstep
  constructor <;> norm_num <;> linarith

/-- A number with the greatest exponent but one is in range, and one with an exponent above the
greatest is not. -/
theorem out_of_range_iff (h : StandsFor (a / 2 ^ e) em) (hlt : em.mantissa < 2 ^ 53)
    (hfull : 2 ^ 52 ≤ em.mantissa ∨ e = -1074) :
    outOfRange ≤ a ↔ 971 < if em.roundedMantissa = 2 ^ 53 then e + 1 else e := by
  obtain ⟨hlow, hhigh⟩ := h.bounds
  have hrounded := roundedMantissa_bounds em
  have hstep : (0 : ℚ) < 2 ^ e := by positivity
  rw [le_div_iff₀ hstep] at hlow
  rw [div_lt_iff₀ hstep] at hhigh
  rcases Int.lt_trichotomy e 971 with hsmall | rfl | hlarge
  · have hmantissa : (em.mantissa : ℚ) + 1 ≤ 2 ^ 53 := by exact_mod_cast hlt
    have hexponent : (2 : ℚ) ^ e ≤ 2 ^ (970 : ℤ) := zpow_le_zpow_right₀ (by norm_num) (by omega)
    have hbound : a < outOfRange := by
      calc a < (em.mantissa + 1) * 2 ^ e := hhigh
        _ ≤ 2 ^ 53 * 2 ^ (970 : ℤ) := by gcongr
        _ < outOfRange := outOfRange_bounds.1
    refine iff_of_false (not_le.2 hbound) ?_
    split <;> omega
  · have hodd := h.roundedMantissa_le_iff (b := 2 ^ 53 - 1) (by decide)
    rw [div_lt_iff₀ hstep, ← outOfRange_eq] at hodd
    rw [← not_lt, ← hodd]
    split <;> omega
  · have hmantissa : (2 ^ 52 : ℚ) ≤ em.mantissa := by
      exact_mod_cast hfull.resolve_right (by omega)
    have hexponent : (2 : ℚ) ^ (972 : ℤ) ≤ 2 ^ e := zpow_le_zpow_right₀ (by norm_num) (by omega)
    have hbound : outOfRange ≤ a := by
      calc outOfRange ≤ 2 ^ 52 * 2 ^ (972 : ℤ) := outOfRange_bounds.2
        _ ≤ em.mantissa * 2 ^ e := by gcongr
        _ ≤ a := hlow
    refine iff_of_true hbound ?_
    split <;> omega

/-- **What is rounded is infinite if and only if it is out of range**, and it is a number. -/
theorem overflowsAs_round (h : StandsFor a (.ofMantissaAndAccuracy m accuracy))
    (hq : q ≤ Format.binary64.targetExponent (totalExponent m q)) (s : Sign) :
    OverflowsAs (.ofModel (.pack (roundWithAccuracy .binary64 s m q accuracy))) (a * 2 ^ q) := by
  obtain ⟨em, e, hshift, hstands, he, hlt, hfull⟩ := exists_shifted h hq
  have hrounded := roundedMantissa_bounds em
  obtain ⟨n, f, hagain, hn, hf, hfull', hnext, -⟩ :=
    exists_shifted_again (r := em.roundedMantissa) (e := e) (by omega) he (by omega)
  have hiff := out_of_range_iff hstands hlt hfull
  rw [← hnext] at hiff
  suffices hform : (unpack (.ofModel (.pack (roundWithAccuracy .binary64 s m q accuracy)))).isNaN =
      false ∧ ((unpack (.ofModel (.pack (roundWithAccuracy .binary64 s m q accuracy)))).isInf =
        true ↔ 971 < f) from ⟨hform.1, hform.2.trans hiff.symm⟩
  simp only [roundWithAccuracy, hshift, hagain]
  split
  · next hzero =>
    have hleast : f = -1074 := hfull'.resolve_left (by omega)
    refine ⟨by cases s <;> rfl, iff_of_false (by cases s <;> exact Bool.false_ne_true) (by omega)⟩
  · next hpos =>
    rcases Int.lt_or_le 971 f with hlarge | hsmall
    · rw [unpack_pack_large s (Nat.pos_iff_ne_zero.2 hpos) hlarge]
      exact ⟨rfl, iff_of_true rfl hlarge⟩
    · have hform : IsForm n f := ⟨Nat.pos_iff_ne_zero.2 hpos, hn, hf, hsmall, hfull'⟩
      rw [unpack_pack s hform]
      exact ⟨rfl, iff_of_false Bool.false_ne_true (Int.not_lt.2 hsmall)⟩

/-! ### Products and quotients -/

/-- A product is rounded once. -/
theorem overflowsAs_mul (s t : Sign) (hm : 0 < m) (hn : 0 < n) (hfull : 2 ^ 52 ≤ m * n) :
    OverflowsAs (.ofModel (.pack (mul .binary64 (.finite s m e hm) (.finite t n f hn))))
      (size m e * size n f) := by
  have hexact : StandsFor (m * n : Nat) (.ofMantissaAndAccuracy (m * n) .exact) := rfl
  have hq : e + f ≤ Format.binary64.targetExponent (totalExponent (m * n) (e + f)) := by
    have := (Nat.le_log2 (k := 52) (Nat.mul_pos hm hn).ne').2 hfull
    rw [targetExponent_eq, totalExponent]
    omega
  have hsize : size m e * size n f = (m * n : Nat) * 2 ^ (e + f) := by
    rw [size, size, zpow_add₀ two_ne_zero]
    push_cast
    ring
  rw [hsize]
  exact overflowsAs_round hexact hq (s * t)

/-- A quotient of whole numbers, cut to a whole number, with what is known of the rest. -/
theorem standsFor_quotient (m : Nat) (hn : 0 < n) :
    StandsFor ((m : ℚ) / n) (.ofMantissaAndAccuracy (m / n) (accuracyOfFraction (m % n) n)) := by
  have hn' : (0 : ℚ) < n := by exact_mod_cast hn
  have hsplit : (m : ℚ) = n * (m / n : Nat) + (m % n : Nat) := by
    exact_mod_cast (Nat.div_add_mod m n).symm
  have hrest : ((m % n : Nat) : ℚ) < n := by exact_mod_cast Nat.mod_lt m hn
  have hpos : m % n ≠ 0 → (0 : ℚ) < (m % n : Nat) := fun h => by
    exact_mod_cast Nat.pos_iff_ne_zero.2 h
  rw [accuracyOfFraction]
  generalize m / n = q at hsplit ⊢
  generalize m % n = r at hsplit hrest hpos ⊢
  split
  · next hzero =>
    change (m : ℚ) / n = q
    rw [div_eq_iff hn'.ne', hsplit, hzero]
    push_cast
    ring
  · next hne =>
    specialize hpos hne
    rcases hc : compare (2 * r) n with _ | _ | _
    · have hhalf : (2 : ℚ) * r < n := by exact_mod_cast Nat.compare_eq_lt.1 hc
      constructor
      · rw [lt_div_iff₀ hn']
        linarith
      · rw [div_lt_iff₀ hn']
        linarith
    · have hhalf : (2 : ℚ) * r = n := by exact_mod_cast Nat.compare_eq_eq.1 hc
      change (m : ℚ) / n = q + 1 / 2
      rw [div_eq_iff hn'.ne']
      linarith
    · have hhalf : (n : ℚ) < 2 * r := by exact_mod_cast Nat.compare_eq_gt.1 hc
      constructor
      · rw [lt_div_iff₀ hn']
        linarith
      · rw [div_lt_iff₀ hn']
        linarith

/-- The bits that a quotient starts with are enough for a mantissa. -/
theorem le_targetExponent_div (hm : 0 < m) (hn : 0 < n)
    (hq : q ≤ Format.binary64.targetExponent (totalExponent m e - totalExponent n f))
    (hk : k = e - f - q) :
    q ≤ Format.binary64.targetExponent (totalExponent (m * 2 ^ k / n) q) := by
  simp only [targetExponent_eq, totalExponent] at hq ⊢
  rcases Int.lt_or_le (-1074) q with hlarge | hleast
  · have hbits : 2 ^ 52 ≤ m * 2 ^ k / n := by
      rw [Nat.le_div_iff_mul_le hn]
      have hlog : n.log2 + 53 ≤ (m * 2 ^ k).log2 := by
        rw [log2_scaled hm.ne']
        omega
      have hpos : m * 2 ^ k ≠ 0 := (Nat.mul_pos hm (Nat.two_pow_pos k)).ne'
      calc 2 ^ 52 * n ≤ 2 ^ 52 * 2 ^ (n.log2 + 1) := Nat.mul_le_mul_left _ Nat.lt_log2_self.le
        _ = 2 ^ (n.log2 + 53) := by rw [← Nat.pow_add, Nat.add_comm]
        _ ≤ m * 2 ^ k := (Nat.le_log2 hpos).1 hlog
    have := (Nat.le_log2 (k := 52) (Nat.lt_of_lt_of_le (by decide) hbits).ne').2 hbits
    omega
  · omega

/-- A quotient is rounded once. -/
theorem overflowsAs_div (s t : Sign) (hm : 0 < m) (hn : 0 < n) :
    OverflowsAs (.ofModel (.pack (div .binary64 (.finite s m e hm) (.finite t n f hn))))
      (size m e / size n f) := by
  obtain ⟨q, hq⟩ : ∃ q, min (e - f) (Format.binary64.targetExponent
    (totalExponent m e - totalExponent n f)) = q := ⟨_, rfl⟩
  obtain ⟨k, hk⟩ : ∃ k : Nat, k = e - f - q := ⟨(e - f - q).toNat, by omega⟩
  have hsize : size m e / size n f = ((m * 2 ^ k : Nat) : ℚ) / n * 2 ^ q := by
    have hpow : (2 : ℚ) ^ e = 2 ^ k * 2 ^ f * 2 ^ q := by
      rw [← zpow_natCast, ← zpow_add₀ two_ne_zero, ← zpow_add₀ two_ne_zero, hk]
      congr 1
      omega
    have hn' : (n : ℚ) ≠ 0 := by exact_mod_cast hn.ne'
    rw [size, size, hpow]
    push_cast
    field_simp
  have htarget := le_targetExponent_div (e := e) (f := f) hm hn (by omega) hk
  have hround := overflowsAs_round (standsFor_quotient (m * 2 ^ k) hn) htarget (s / t)
  have hdiv : div .binary64 (.finite s m e hm) (.finite t n f hn) =
      roundWithAccuracy .binary64 (s / t) (m * 2 ^ k / n) q
        (accuracyOfFraction (m * 2 ^ k % n) n) := by
    have hshift : (e - f - q).toNat = k := by omega
    simp only [UnpackedFloat.div, divCore, hq, hshift, Nat.shiftLeft_eq]
  rw [hdiv, hsize]
  exact hround

/-! ### Decimals -/

/-- A double that overflows as one number in the range does so as every other one there. -/
theorem OverflowsAs.congr_lt {b : ℚ} (h : OverflowsAs x a) (ha : a < outOfRange)
    (hb : b < outOfRange) : OverflowsAs x b :=
  ⟨h.isNaN, h.isInf.trans (iff_of_false ha.not_ge hb.not_ge)⟩

/-- A zero overflows as a number in the range. -/
theorem overflowsAs_zero (s : Sign) (ha : a < outOfRange) :
    OverflowsAs (.ofModel (.pack (.zero s))) a := by
  refine ⟨by cases s <;> rfl, iff_of_false ?_ ha.not_ge⟩
  cases s <;> exact Bool.false_ne_true

/-- An infinity overflows as a number out of range. -/
theorem overflowsAs_infinity (s : Sign) (ha : outOfRange ≤ a) :
    OverflowsAs (.ofModel (.pack (.infinity s))) a := by
  refine ⟨by cases s <;> rfl, iff_of_true ?_ ha⟩
  cases s <;> rfl

/-- Powers of ten in range and out of it. -/
theorem outOfRange_powers : (10 : ℚ) ^ 76 < outOfRange ∧ outOfRange ≤ (10 : ℚ) ^ 2049 := by
  constructor
  · calc (10 : ℚ) ^ 76 ≤ 2 ^ 53 * 2 ^ (203 : ℤ) := by norm_num
      _ ≤ 2 ^ 53 * 2 ^ (970 : ℤ) := by gcongr <;> norm_num
      _ < outOfRange := outOfRange_bounds.1
  · calc outOfRange ≤ 2 ^ 52 * 2 ^ (972 : ℤ) := outOfRange_bounds.2
      _ = (2 : ℚ) ^ (1024 : ℤ) := by rw [← zpow_natCast, ← zpow_add₀ two_ne_zero]; rfl
      _ = (2 : ℚ) ^ 1024 := by rw [← zpow_natCast]; rfl
      _ ≤ (10 : ℚ) ^ 1024 := pow_le_pow_left₀ (by norm_num) (by norm_num) 1024
      _ ≤ (10 : ℚ) ^ 2049 := pow_le_pow_right₀ (by norm_num) (by norm_num)

/-- A number of 64 bits is converted to the nearest double. -/
theorem toFloat_toUInt64 (hn : n < 2 ^ 64) : n.toUInt64.toFloat = ofInt n := by
  have hmod : n.toUInt64.toNat = n := Nat.mod_eq_of_lt hn
  rw [ofInt, if_neg (by omega), Int.natAbs_natCast, nearest]
  change Float.ofModel (.pack (normalize .binary64 n.toUInt64.toNat 0 .positive)) = _
  rw [hmod, UnpackedFloat.normalize]
  rcases Nat.eq_zero_or_pos n with rfl | hpos
  · rfl
  · have hcompare : compare (n : Int) 0 = .gt := by
      rw [Int.compare_eq_gt]
      omega
    rw [hcompare, if_neg hpos.ne', Int.toNat_natCast]

/-- The powers of ten in the table are those that they stand for. -/
theorem exactPowerOfTen : ∀ k : Fin 23,
    (Float.exactlyRepresentablePowersOfTen[k]).toModel = (ofInt (10 ^ k.val : Nat)).toModel := by
  decide +kernel

/-- Doubles are multiplied as they are unpacked. -/
theorem mul_eq (x y : Float) :
    x * y = .ofModel (.pack (mul .binary64 (unpack x) (unpack y))) := rfl

/-- Doubles are divided as they are unpacked. -/
theorem div_eq (x y : Float) :
    x / y = .ofModel (.pack (div .binary64 (unpack x) (unpack y))) := rfl

/-- A number of at least a half, by which a quotient is at most doubled. -/
theorem half_le_size (hm : 2 ^ 52 ≤ m) (he : -53 ≤ e) : 1 / 2 ≤ size m e := by
  have hmantissa : (2 ^ 52 : ℚ) ≤ m := by exact_mod_cast hm
  have hexponent : (2 : ℚ) ^ (-53 : ℤ) ≤ 2 ^ e := zpow_le_zpow_right₀ (by norm_num) he
  calc (1 / 2 : ℚ) = 2 ^ 52 * 2 ^ (-53 : ℤ) := by norm_num
    _ ≤ size m e := mul_le_mul hmantissa hexponent (by positivity) (by positivity)

/-- What is given by exact operands of few digits is in range. -/
theorem overflowsAs_exact (hm : m < 2 ^ 53) (hk : k < 23) (ha : a < outOfRange) :
    OverflowsAs (m.toUInt64.toFloat * ofInt (10 ^ k : Nat)) a ∧
      OverflowsAs (m.toUInt64.toFloat / ofInt (10 ^ k : Nat)) a := by
  have hpow : ((10 ^ k : Nat) : ℚ) ≤ 10 ^ 22 := by
    exact_mod_cast Nat.pow_le_pow_right (by decide) (Nat.le_of_lt_succ hk)
  have hgreatest : (10 : ℚ) ^ 22 < size (2 ^ 53 - 2) (971 : Nat) := by
    rw [size_natCast]
    exact_mod_cast pow_lt_greatest 22 (by decide)
  obtain ⟨n, f, hform, hy, hfull, hf, hle⟩ :=
    atMost_ofInt (Nat.pow_pos (n := k) (by decide : 0 < 10)) (hpow.trans_lt hgreatest)
  rw [toFloat_toUInt64 (hm.trans (by decide))]
  rcases Nat.eq_zero_or_pos m with rfl | hpos
  · rw [mul_eq, div_eq, hy]
    exact ⟨overflowsAs_zero _ ha, overflowsAs_zero _ ha⟩
  · have hm : (m : ℚ) ≤ 2 ^ 53 := by exact_mod_cast hm.le
    obtain ⟨n', f', hform', hx, hfull', hf', hle'⟩ :=
      atMost_ofInt hpos (hm.trans_lt (lt_trans (by norm_num) hgreatest))
    have hone : size n' f' ≤ 10 ^ 17 := by
      calc size n' f' ≤ m * slack := hle'
        _ ≤ 2 ^ 53 * slack := by rw [slack]; gcongr
        _ ≤ 10 ^ 17 := by norm_num [slack]
    have hother : size n f ≤ 10 ^ 23 := by
      calc size n f ≤ (10 ^ k : Nat) * slack := hle
        _ ≤ 10 ^ 22 * slack := by rw [slack]; gcongr
        _ ≤ 10 ^ 23 := by norm_num [slack]
    have hhalf := half_le_size hfull hf
    have hnonneg : 0 ≤ size n' f' := by rw [size]; positivity
    rw [mul_eq, div_eq, hx, hy]
    constructor
    · have hproduct := Nat.le_trans hfull' (Nat.le_mul_of_pos_right n' hform.pos)
      refine (overflowsAs_mul _ _ hform'.pos hform.pos hproduct).congr_lt ?_ ha
      calc size n' f' * size n f ≤ 10 ^ 17 * 10 ^ 23 := by gcongr
        _ ≤ 10 ^ 76 := by norm_num
        _ < outOfRange := outOfRange_powers.1
    · refine (overflowsAs_div _ _ hform'.pos hform.pos).congr_lt ?_ ha
      calc size n' f' / size n f ≤ 10 ^ 17 / (1 / 2) := by gcongr
        _ ≤ 10 ^ 76 := by norm_num
        _ < outOfRange := outOfRange_powers.1

/-- A great exponent makes every number too great. -/
theorem outOfRange_le_scaled (hm : m ≠ 0) (he : 2 ^ 11 < e) : outOfRange ≤ m * 10 ^ e := by
  have hone : (1 : ℚ) ≤ m := by exact_mod_cast Nat.pos_iff_ne_zero.2 hm
  have hexponent : (10 : ℚ) ^ (2049 : ℤ) ≤ 10 ^ e :=
    zpow_le_zpow_right₀ (by norm_num) (by omega)
  calc outOfRange ≤ 10 ^ 2049 := outOfRange_powers.2
    _ = 1 * (10 : ℚ) ^ (2049 : ℤ) := by rw [one_mul, ← zpow_natCast]; rfl
    _ ≤ m * 10 ^ e := by gcongr

/-- A number is at most one if its exponent takes all its digits behind the point. -/
theorem scaled_le_one (he : e < -(2 ^ 11 + (m.log2 : Int))) : (m : ℚ) * 10 ^ e ≤ 1 := by
  have hdigits : (m : ℚ) ≤ 10 ^ (m.log2 + 1) := by
    exact_mod_cast Nat.lt_log2_self.le.trans (Nat.pow_le_pow_left (by decide) _)
  calc m * 10 ^ e ≤ 10 ^ (m.log2 + 1) * (10 : ℚ) ^ e := by gcongr
    _ = 10 ^ ((m.log2 + 1 : Nat) + e) := by rw [zpow_add₀ (by norm_num), zpow_natCast]
    _ ≤ 10 ^ (0 : ℤ) := zpow_le_zpow_right₀ (by norm_num) (by omega)
    _ = 1 := zpow_zero 10

/-- Other operands are multiplied or divided exactly. -/
theorem overflowsAs_ofScientific (m : Nat) (e : Int) :
    OverflowsAs (.ofModel (Float.Model.ofScientific m e)) (m * 10 ^ e) := by
  have hpos : 0 < outOfRange := lt_trans (by norm_num) outOfRange_powers.1
  rw [Float.Model.ofScientific, UnpackedFloat.ofScientific]
  split
  · next hzero =>
    refine overflowsAs_zero _ ?_
    rw [hzero, Nat.cast_zero, zero_mul]
    exact hpos
  next hm =>
  split
  · next hlarge => exact overflowsAs_infinity _ (outOfRange_le_scaled hm hlarge)
  split
  · next hsmall =>
    have hbelow : (1 : ℚ) < outOfRange := lt_trans (by norm_num) outOfRange_powers.1
    exact overflowsAs_zero _ ((scaled_le_one hsmall).trans_lt hbelow)
  split
  · next he =>
    obtain ⟨k, rfl⟩ := Int.eq_ofNat_of_zero_le he
    have hfull : 2 ^ 52 ≤ m <<< 53 * 10 ^ k := by
      have hpos : 0 < m * 10 ^ k :=
        Nat.mul_pos (Nat.pos_iff_ne_zero.2 hm) (Nat.pow_pos (by decide))
      rw [Nat.shiftLeft_eq, Nat.mul_right_comm]
      omega
    have hsize : (m : ℚ) * (10 : ℚ) ^ (k : Int) = size (m <<< 53) (-53) * size (10 ^ k) 0 := by
      rw [Nat.shiftLeft_eq, size, size, zpow_natCast]
      push_cast
      norm_num
      ring
    rw [hsize]
    exact overflowsAs_mul .positive .positive _ _ hfull
  · next he =>
    obtain ⟨k, hk⟩ : ∃ k : Nat, e = -k := ⟨(-e).toNat, by omega⟩
    subst hk
    have hsize : (m : ℚ) * (10 : ℚ) ^ (-k : Int) = size m 0 / size (10 ^ k) 0 := by
      rw [size, size, zpow_neg, zpow_natCast]
      push_cast
      norm_num
      ring
    rw [hsize]
    simp only [neg_neg, Int.toNat_natCast]
    exact overflowsAs_div .positive .positive _ _

end Binary64

namespace Decimal

variable {m : Nat} {e : Int}

/-- Few digits in front of a small power are in range. -/
theorem few_lt_outOfRange (hm : m < 2 ^ 53) (he : e ≤ 22) :
    (m : ℚ) * 10 ^ e < Binary64.outOfRange := by
  have hdigits : (m : ℚ) ≤ 2 ^ 53 := by exact_mod_cast hm.le
  calc (m : ℚ) * 10 ^ e ≤ 2 ^ 53 * 10 ^ (22 : ℤ) :=
      mul_le_mul hdigits (zpow_le_zpow_right₀ (by norm_num) he) (by positivity) (by positivity)
    _ ≤ 10 ^ 76 := by norm_num
    _ < Binary64.outOfRange := Binary64.outOfRange_powers.1

/-- **A decimal is read as an infinity if and only if it is out of range**, and always as a
number. -/
theorem overflowsAs_toFloat (d : Decimal) : Binary64.OverflowsAs d.toFloat d.toRat := by
  obtain ⟨m, e⟩ := d
  have hpower : ∀ k (hk : k < Float.exactlyRepresentablePowersOfTen.size),
      Float.exactlyRepresentablePowersOfTen[k] = Binary64.ofInt (10 ^ k : Nat) :=
    fun k hk => congrArg Float.ofModel (Binary64.exactPowerOfTen ⟨k, hk⟩)
  rw [toFloat, toRat]
  cases e with
  | ofNat k =>
    simp only [Float.ofScientific, Bool.false_eq_true, if_false]
    split
    · next h =>
      have hk : k < 23 := Nat.lt_succ_of_le h.2
      rw [hpower]
      exact (Binary64.overflowsAs_exact h.1 hk (few_lt_outOfRange h.1 (Int.ofNat_le.2 h.2))).1
    · exact Binary64.overflowsAs_ofScientific m (.ofNat k)
  | negSucc k =>
    simp only [Float.ofScientific, if_true]
    split
    · next h =>
      have hk : k + 1 < 23 := Nat.lt_succ_of_le h.2
      have hexponent : Int.negSucc k ≤ 22 := by omega
      rw [hpower]
      exact (Binary64.overflowsAs_exact h.1 hk (few_lt_outOfRange h.1 hexponent)).2
    · exact Binary64.overflowsAs_ofScientific m (.negSucc k)

end Decimal
end RecordFilter
