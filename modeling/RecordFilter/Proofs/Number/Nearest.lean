/-
# Rounding crosses no double

Between a mantissa that fills its bits and the next one there is no double
(`IsDouble.le_or_succ_le`), and a number is rounded to one of the two that it lies between.  So a
double that is at least a number is at least what the number is rounded to, and the same downwards
(`RoundsTo`): of a number that is not too large (`exists_nearest`), and of the exact sum of two
doubles (`exists_add`).

That is all that is needed to find the whole part of a rounded number (`RoundsTo.floor_eq`): it is
the whole part of the exact one, if some double lies between the exact number and the next whole
number.
-/

import Mathlib
import RecordFilter.Proofs.Number.Order
import RecordFilter.Proofs.Number.Range

namespace RecordFilter
namespace Binary64

open Float.Model (UnpackedFloat Format totalExponent)
open Float.Model.UnpackedFloat

variable {s : Sign} {em : ExtendedMantissa} {m n : Nat} {e f q : Int}
  {x y : Float} {a b c d : ℚ}

/-- A number `a` is rounded to `b`, as far as comparing with doubles can tell. -/
structure RoundsTo (a b : ℚ) : Prop where
  /-- No double is crossed upwards. -/
  up : ∀ d, IsDouble d → a ≤ d → b ≤ d
  /-- No double is crossed downwards. -/
  down : ∀ d, IsDouble d → d ≤ a → d ≤ b

/-- A number rounds to itself. -/
theorem RoundsTo.refl (a : ℚ) : RoundsTo a a := ⟨fun _ _ => id, fun _ _ => id⟩

/-- Rounding is the same on both sides of zero. -/
theorem RoundsTo.neg (h : RoundsTo a b) : RoundsTo (-a) (-b) where
  up d hd hle := neg_le.1 (h.down (-d) (isDouble_neg hd) (neg_le.1 hle))
  down d hd hle := le_neg.1 (h.up (-d) (isDouble_neg hd) (le_neg.1 hle))

/-- Rounding keeps the sign. -/
theorem RoundsTo.withSign (s : Sign) (h : RoundsTo a b) :
    RoundsTo (withSign s a) (withSign s b) := by
  cases s
  · exact h.neg
  · exact h

/-- **No double lies between two mantissas that follow each other** and fill their bits. -/
theorem IsDouble.le_or_succ_le (hd : IsDouble d) (hpos : 0 ≤ d) (hfull : 2 ^ 52 ≤ m ∨ e = -1074) :
    d ≤ size m e ∨ size (m + 1) e ≤ d := by
  obtain ⟨n, f, hn, hf, -, hsize⟩ := hd
  rw [abs_of_nonneg hpos] at hsize
  rw [hsize]
  rcases Int.lt_or_le f e with hlt | hle
  · obtain ⟨k, rfl⟩ : ∃ k : Nat, e = f + (k + 1 : Nat) := ⟨(e - f - 1).toNat, by omega⟩
    have hm : 2 ^ 52 ≤ m := hfull.resolve_right (by omega)
    left
    rw [size_shifted]
    refine size_mono ?_ f
    calc n ≤ 2 ^ 52 * 2 ^ 1 := hn.le
      _ ≤ m * 2 ^ (k + 1) := Nat.mul_le_mul hm (Nat.pow_le_pow_right (by decide) (by omega))
  · obtain ⟨k, rfl⟩ : ∃ k : Nat, f = e + k := ⟨(f - e).toNat, by omega⟩
    rw [size_shifted]
    rcases Nat.lt_or_ge m (n * 2 ^ k) with hlt | hge
    · exact .inr (size_mono hlt e)
    · exact .inl (size_mono hge e)

/-- A mantissa without further bits is rounded to itself. -/
theorem StandsFor.roundedMantissa_eq (h : StandsFor a em) (ha : a = em.mantissa) :
    em.roundedMantissa = em.mantissa := by
  obtain ⟨m, half, more⟩ := em
  subst ha
  cases half <;> cases more <;> simp only [StandsFor] at h
  · rfl
  · exact absurd h.1 (lt_irrefl _)
  · linarith
  · linarith

/-- A mantissa is rounded without crossing a double. -/
theorem StandsFor.roundsTo (h : StandsFor (a / 2 ^ e) em)
    (hfull : 2 ^ 52 ≤ em.mantissa ∨ e = -1074) : RoundsTo a (size em.roundedMantissa e) := by
  have hstep : (0 : ℚ) < 2 ^ e := by positivity
  obtain ⟨hlow, hhigh⟩ := h.bounds
  obtain ⟨hround, hround'⟩ := roundedMantissa_bounds em
  have hlow' : size em.mantissa e ≤ a := (le_div_iff₀ hstep).1 hlow
  have hhigh' : a < size (em.mantissa + 1) e := by
    rw [size, Nat.cast_succ]
    exact (div_lt_iff₀ hstep).1 hhigh
  have hnonneg := (size_nonneg em.mantissa e).trans hlow'
  constructor
  · intro d hd hle
    rcases hd.le_or_succ_le (hnonneg.trans hle) hfull with hbelow | habove
    · -- The number lies on the mantissa, so nothing is rounded.
      have hexact : a = size em.mantissa e := le_antisymm (hle.trans hbelow) hlow'
      have hkept := h.roundedMantissa_eq ((div_eq_iff hstep.ne').2 hexact)
      rw [hkept, ← hexact]
      exact hle
    · exact (size_mono hround' e).trans habove
  · intro d hd hle
    rcases le_or_gt 0 d with hpos | hneg
    · rcases hd.le_or_succ_le hpos hfull with hbelow | habove
      · exact hbelow.trans (size_mono hround e)
      · exact absurd (habove.trans hle) (not_le.2 hhigh')
    · exact hneg.le.trans (size_nonneg _ e)

/-- What is at most a double has the exponent of one. -/
theorem exponent_le_of_size_le (hd : IsDouble d) (hle : size n f ≤ d)
    (hfull : 2 ^ 52 ≤ n ∨ f = -1074) : f ≤ 971 := by
  obtain ⟨m, e, hm, -, he, hsize⟩ := hd
  rw [abs_of_nonneg ((size_nonneg n f).trans hle)] at hsize
  rw [hsize] at hle
  by_contra hlarge
  have hn : 2 ^ 52 ≤ n := hfull.resolve_right (by omega)
  obtain ⟨k, rfl⟩ : ∃ k : Nat, f = e + (k + 1 : Nat) := ⟨(f - e - 1).toNat, by omega⟩
  rw [size_shifted] at hle
  refine absurd hle (not_le.2 (strictMono_size e ?_))
  calc m < 2 ^ 52 * 2 ^ 1 := hm
    _ ≤ n * 2 ^ (k + 1) := Nat.mul_le_mul hn (Nat.pow_le_pow_right (by decide) (by omega))

/-- **A number that is at most a double is rounded to a double**, and crosses none. -/
theorem exists_nearest (s : Sign) (hd : IsDouble d) (hle : size n q ≤ d) :
    ∃ b, toRat? (nearest s n q) = some (withSign s b) ∧ RoundsTo (size n q) b := by
  rcases Nat.eq_zero_or_pos n with rfl | hn
  · refine ⟨0, ?_, ?_⟩
    · rw [withSign_zero, nearest, if_pos rfl]
      cases s <;> rfl
    · rw [size_zero]
      exact .refl 0
  obtain ⟨k, hk⟩ : ∃ k : Nat, (q - Format.binary64.targetExponent (totalExponent n q)).toNat = k :=
    ⟨_, rfl⟩
  have hround : UnpackedFloat.round .binary64 s n q =
      roundWithAccuracy .binary64 s (n * 2 ^ k) (q - k) .exact := by
    simp only [UnpackedFloat.round, decreaseExponent, hk, Nat.shiftLeft_eq]
  have hsize : ((n * 2 ^ k : Nat) : ℚ) * 2 ^ (q - k) = size n q := by
    have hshift := size_shifted n k (q - k)
    rw [Int.sub_add_cancel] at hshift
    exact hshift.symm
  have hexact : StandsFor (n * 2 ^ k : Nat) (.ofMantissaAndAccuracy (n * 2 ^ k) .exact) := rfl
  have hq : q - k ≤ Format.binary64.targetExponent (totalExponent (n * 2 ^ k) (q - k)) := by
    rw [totalExponent_scaled hn.ne']
    omega
  obtain ⟨em, e, hshift, hstands, he, hlt, hfull⟩ := exists_shifted hexact hq
  rw [hsize] at hstands
  have hrounds := hstands.roundsTo hfull
  have hrounded := roundedMantissa_bounds em
  obtain ⟨r, f, hagain, hr, hf, hfull', -, hsame⟩ :=
    exists_shifted_again (r := em.roundedMantissa) (e := e) (by omega) he (by omega)
  rw [← hsame] at hrounds
  refine ⟨size r f, ?_, hrounds⟩
  rw [nearest, if_neg hn.ne', hround]
  simp only [roundWithAccuracy, hshift, hagain]
  split
  · next hzero =>
    rw [hzero, size_zero, withSign_zero]
    cases s <;> rfl
  · next hpos =>
    have hhigh := exponent_le_of_size_le hd (hrounds.up d hd hle) hfull'
    have hform : IsForm r f := ⟨Nat.pos_iff_ne_zero.2 hpos, hr, hf, hhigh, hfull'⟩
    exact toRat?_finite (unpack_pack s hform)

/-- **A sum that is not too large is a double that the exact sum is rounded to.** -/
theorem exists_add (hx : toRat? x = some a) (hy : toRat? y = some b) (hd : IsDouble d)
    (hle : |a + b| ≤ d) : ∃ c, toRat? (x + y) = some c ∧ RoundsTo (a + b) c := by
  rcases add_cases hx hy with hexact | ⟨z, q, hexact, hround⟩
  · exact ⟨a + b, hexact, .refl _⟩
  rw [← hexact, ← withSign_natAbs, abs_withSign, abs_of_nonneg (size_nonneg _ q)] at hle
  rw [hround, ofModel_normalize, ← hexact]
  split
  · next hz =>
    refine ⟨0, rfl, ?_⟩
    rw [hz, Int.cast_zero, zero_mul]
    exact .refl 0
  · obtain ⟨c, hc, hrounds⟩ :=
      exists_nearest (if z < 0 then Sign.negative else Sign.positive) hd hle
    rw [← withSign_natAbs]
    exact ⟨_, hc, hrounds.withSign _⟩

/-- **The whole part survives rounding** if a double lies between the number and the next whole
number. -/
theorem RoundsTo.floor_eq (h : RoundsTo a c) (hfloor : IsDouble ⌊a⌋) (hd : IsDouble d)
    (hle : a ≤ d) (hlt : d < ⌊a⌋ + 1) : ⌊c⌋ = ⌊a⌋ :=
  Int.floor_eq_iff.2 ⟨h.down _ hfloor (Int.floor_le a), (h.up d hd hle).trans_lt hlt⟩

end Binary64
end RecordFilter
