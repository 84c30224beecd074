/-
# The word of a double

A double is taken to a word by operations on doubles: it is cut to a whole number, reduced modulo
`2 ^ 32` by a remainder that is raised where it is negative, and converted.  Each step is exact
(`toRat?_truncate`, `toRat?_euclideanRemainder`, `toNat_toUInt32`), as whole numbers below `2 ^ 53`
are doubles, so the word is the whole part modulo `2 ^ 32` (`toNat_word`).
-/

import Mathlib
import RecordFilter.Proofs.Number.Order

namespace RecordFilter
namespace Binary64

open Float.Model (UnpackedFloat)
open Float.Model.UnpackedFloat

variable {x y : Float} {a b : ℚ} {i j : ℤ}

/-- The absolute value of a double is that of its number. -/
theorem toRat?_abs (h : toRat? x = some a) : toRat? x.abs = some |a| := by
  have habs : x.abs = .ofModel (.pack (unpack x).abs) := rfl
  rcases toRat?_cases h with ⟨s, hs, rfl⟩ | ⟨s, m, e, hm, hs, rfl⟩
  · rw [habs, hs, abs_zero]
    cases s <;> rfl
  · have hunpack := unpack_pack .positive (isForm hs)
    rw [habs, hs, UnpackedFloat.abs, toRat?_finite hunpack, abs_withSign,
      abs_of_nonneg (size_nonneg m e), withSign]

/-- The rest of a division that is not negative, from the rest that has the sign of the dividend. -/
theorem emod_eq_tmod (i : ℤ) (hj : j ≠ 0) :
    i % j = if i.tmod j < 0 then i.tmod j + |j| else i.tmod j := by
  have hnonneg := Int.emod_nonneg i hj
  have hlt := Int.emod_lt_abs i hj
  have habs : |j| = j.natAbs := Int.abs_eq_natAbs j
  rw [Int.tmod_eq_emod]
  split_ifs <;> omega

/-- **The Euclidean remainder of whole numbers is exact**: so is the sum that raises it, as long as
the divisor has at most 53 bits. -/
theorem toRat?_euclideanRemainder (hx : toRat? x = some (i : ℚ)) (hy : toRat? y = some (j : ℚ))
    (hj : j ≠ 0) (hsmall : j.natAbs < 2 ^ 53) :
    toRat? (euclideanRemainder x y) = some ((i % j : ℤ) : ℚ) := by
  have hrest := toRat?_remainder hx hy hj
  have hzero : toRat? 0.0 = some ((0 : ℤ) : ℚ) := rfl
  have hneg : remainder x y < 0.0 ↔ i.tmod j < 0 := by
    rw [lt_iff_of_toRat? hrest hzero, Int.cast_lt]
  rw [euclideanRemainder]
  split
  · next h =>
    have hmod : i % j = i.tmod j + |j| := by rw [emod_eq_tmod i hj, if_pos (hneg.1 h)]
    have hnonneg := Int.emod_nonneg i hj
    have hlt := Int.emod_lt i hj
    have hdouble : IsDouble ((i % j : ℤ) : ℚ) := isDouble_intCast (by omega)
    rw [hmod, Int.cast_add, Int.cast_abs] at hdouble ⊢
    exact toRat?_add hrest (toRat?_abs hy) hdouble
  · next h =>
    have hmod : i % j = i.tmod j := by rw [emod_eq_tmod i hj, if_neg (mt hneg.2 h)]
    rw [hmod]
    exact hrest

/-- The modulus of words is a double. -/
theorem toRat?_modulus : toRat? (ofInt (2 ^ (32 : Nat))) = some ((2 ^ 32 : ℤ) : ℚ) := by
  have hdouble : IsDouble ((2 ^ 32 : ℤ) : ℚ) := isDouble_intCast (by decide)
  exact toRat?_ofInt hdouble

/-- **The word of a double is its whole part modulo `2 ^ 32`.** -/
theorem toNat_word (h : toRat? x = some a) : ((word x).toNat : ℤ) = cut a % 2 ^ 32 := by
  have hfinite : x.isFinite = true := by
    rw [← Bool.not_eq_false, ← toRat?_eq_none_iff, h]
    exact nofun
  have hwhole : toRat? (truncate x) = some ((cut a : ℤ) : ℚ) := by
    rw [toRat?_truncate, h, Option.map_some]
  have hrest := toRat?_euclideanRemainder hwhole toRat?_modulus (by decide) (by decide)
  obtain ⟨n, hn⟩ := Int.eq_ofNat_of_zero_le (Int.emod_nonneg (cut a) (b := 2 ^ 32) (by decide))
  have hlt := Int.emod_lt_of_pos (cut a) (b := 2 ^ 32) (by decide)
  rw [hn, Int.cast_natCast] at hrest
  rw [word, if_pos hfinite, toNat_toUInt32 hrest (by omega), hn]

/-- What is not finite has the word zero. -/
theorem word_of_not_finite (h : x.isFinite = false) : word x = 0 := by
  rw [word, h]
  rfl

/-- The zeros have one word. -/
theorem word_congr (h : same x y = true) : word x = word y := by
  rcases same_iff.1 h with rfl | ⟨s, t, hx, hy⟩
  · rfl
  · have hwords := (toNat_word (toRat?_zero hx)).trans (toNat_word (toRat?_zero hy)).symm
    exact UInt32.toNat_inj.1 (by exact_mod_cast hwords)

end Binary64
end RecordFilter
