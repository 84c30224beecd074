/-
# Doubles as rational numbers

A finite double is one rational number (`Binary64.toRat?`), and the rational numbers that are
doubles are rounded to themselves, however they are scaled (`toRat?_nearest`).  So an operation is
exact wherever its exact result is a double: cutting to a whole number (`toRat?_truncate`), the
remainder of whole numbers (`toRat?_remainder`) and sums (`toRat?_add`).
-/

import Mathlib
import RecordFilter.Proofs.Number.Rounding

namespace RecordFilter
namespace Binary64

open Float.Model (UnpackedFloat)
open Float.Model.UnpackedFloat

variable {s t : Sign} {m n k : Nat} {e f q : Int} {x y : Float} {a b : ℚ} {i j : ℤ}

/-- A number with a sign. -/
def withSign (s : Sign) (a : ℚ) : ℚ :=
  match s with
  | .positive => a
  | .negative => -a

/-- The number that a finite double is. -/
def toRat? (x : Float) : Option ℚ :=
  match unpack x with
  | .notANumber | .infinity _ => none
  | .zero _ => some 0
  | .finite s m e _ => some (withSign s (size m e))

/-- Whether a number is a double, up to its sign. -/
def IsDouble (a : ℚ) : Prop :=
  ∃ m e, m < 2 ^ 53 ∧ -1074 ≤ e ∧ e ≤ 971 ∧ |a| = size m e

/-- A zero is the same under either sign. -/
theorem withSign_zero (s : Sign) : withSign s 0 = 0 := by
  cases s
  · exact neg_zero
  · rfl

/-- A sign does not change the absolute value. -/
theorem abs_withSign (s : Sign) (a : ℚ) : |withSign s a| = |a| := by
  cases s
  · exact abs_neg a
  · rfl

/-- No size is negative. -/
theorem size_nonneg (m : Nat) (e : Int) : 0 ≤ size m e := by
  rw [size]
  positivity

/-- A mantissa of zero has the size zero. -/
theorem size_zero (e : Int) : size 0 e = 0 := by
  rw [size, Nat.cast_zero, zero_mul]

/-- Other mantissas have a positive size. -/
theorem size_pos (hm : 0 < m) (e : Int) : 0 < size m e :=
  mul_pos (Nat.cast_pos.2 hm) (by positivity)

/-- Only a mantissa of zero has the size zero. -/
theorem size_eq_zero : size m e = 0 ↔ m = 0 := by
  constructor
  · intro h
    by_contra hm
    exact (size_pos (Nat.pos_of_ne_zero hm) e).ne' h
  · rintro rfl
    exact size_zero e

/-- A number is the same mantissa with its exponent in two ways only by a shift. -/
theorem size_inj (h : size m e = size n e) : m = n := (strictMono_size e).injective h

/-- A zero is the number zero, whatever its sign. -/
theorem toRat?_zero (h : unpack x = .zero s) : toRat? x = some 0 := by
  rw [toRat?, h]

/-- A finite double is its size with its sign. -/
theorem toRat?_finite {hm : 0 < m} (h : unpack x = .finite s m e hm) :
    toRat? x = some (withSign s (size m e)) := by
  rw [toRat?, h]

/-- What a double is that is a number. -/
theorem toRat?_cases (h : toRat? x = some a) :
    (∃ s, unpack x = .zero s ∧ a = 0) ∨
      ∃ s m e, ∃ hm : 0 < m, unpack x = .finite s m e hm ∧ a = withSign s (size m e) := by
  unfold toRat? at h
  split at h
  · cases h
  · cases h
  · next s hx => exact .inl ⟨s, hx, (Option.some.inj h).symm⟩
  · next s m e hm hx => exact .inr ⟨s, m, e, hm, hx, (Option.some.inj h).symm⟩

/-- Exactly the doubles that are not finite are no numbers. -/
theorem toRat?_eq_none_iff : toRat? x = none ↔ x.isFinite = false := by
  change _ ↔ (unpack x).isFinite = false
  rw [toRat?]
  cases unpack x <;> simp [UnpackedFloat.isFinite]

/-! ### Rounding -/

/-- A mantissa of at most 53 bits has a form with all of its bits. -/
theorem exists_form (hm : 0 < m) (hlt : m < 2 ^ 53) (hlow : -1074 ≤ e) (hhigh : e ≤ 971) :
    ∃ k : Nat, IsForm (m * 2 ^ k) (e - k) := by
  obtain ⟨k, hk⟩ : ∃ k, min (52 - m.log2) (e + 1074).toNat = k := ⟨_, rfl⟩
  have hne := Nat.pos_iff_ne_zero.1 hm
  have hlog := (Nat.log2_lt hne).2 hlt
  have hscaled := log2_scaled hne k
  have hpos : m * 2 ^ k ≠ 0 := Nat.mul_ne_zero hne (Nat.two_pow_pos k).ne'
  refine ⟨k, Nat.pos_of_ne_zero hpos, (Nat.log2_lt hpos).1 (by omega), by omega, by omega, ?_⟩
  rcases Nat.lt_or_ge (e + 1074).toNat (52 - m.log2) with hleast | hfull
  · exact .inr (by omega)
  · exact .inl ((Nat.le_log2 hpos).1 (by omega))

/-- A number that has a form is rounded to it, however it is scaled. -/
theorem round_form (s : Sign) (h : IsForm m e) (hn : size n q = size m e) :
    UnpackedFloat.round .binary64 s n q = .finite s m e h.pos := by
  rcases Int.le_total q e with hq | hq
  · obtain ⟨k, rfl⟩ : ∃ k : Nat, q = e - k := ⟨(e - q).toNat, by omega⟩
    have hshift := size_shifted m k (e - k)
    rw [Int.sub_add_cancel, ← hn] at hshift
    rw [size_inj hshift]
    exact round_shifted s h k
  · obtain ⟨k, rfl⟩ : ∃ k : Nat, e = q - k := ⟨(q - e).toNat, by omega⟩
    have hshift := size_shifted n k (q - k)
    rw [Int.sub_add_cancel, hn] at hshift
    obtain rfl := size_inj hshift
    exact round_unshifted s h

/-- **A double is rounded to itself.** -/
theorem toRat?_nearest (s : Sign) (h : IsDouble (size n q)) :
    toRat? (nearest s n q) = some (withSign s (size n q)) := by
  obtain ⟨m, e, hlt, hlow, hhigh, hsize⟩ := h
  rw [abs_of_nonneg (size_nonneg n q)] at hsize
  rcases Nat.eq_zero_or_pos n with rfl | hn
  · rw [size_zero, withSign_zero, nearest, if_pos rfl]
    cases s <;> rfl
  · have hm : 0 < m := by
      rw [Nat.pos_iff_ne_zero]
      rintro rfl
      rw [size_zero, size_eq_zero] at hsize
      omega
    obtain ⟨k, hform⟩ := exists_form hm hlt hlow hhigh
    have hscaled := size_shifted m k (e - k)
    rw [Int.sub_add_cancel] at hscaled
    have hround := round_form s hform (hsize.trans hscaled)
    rw [nearest, if_neg hn.ne', hround, toRat?_finite (unpack_pack s hform), hsize, hscaled]

/-! ### Whole numbers -/

/-- What is a double is one with the other sign. -/
theorem isDouble_neg (h : IsDouble a) : IsDouble (-a) := by
  rwa [IsDouble, abs_neg]

/-- A sign does not change whether a number is a double. -/
theorem isDouble_withSign (s : Sign) : IsDouble (withSign s a) ↔ IsDouble a := by
  rw [IsDouble, IsDouble, abs_withSign]

/-- A mantissa of at most 53 bits with an exponent within the range is a double. -/
theorem isDouble_size (hm : m < 2 ^ 53) (hlow : -1074 ≤ e) (hhigh : e ≤ 971) :
    IsDouble (size m e) :=
  ⟨m, e, hm, hlow, hhigh, abs_of_nonneg (size_nonneg m e)⟩

/-- Without an exponent, the size is the mantissa. -/
theorem size_whole (n : Nat) : size n 0 = n := by
  rw [size, zpow_zero, mul_one]

/-- A whole number of at most 53 bits is a double. -/
theorem isDouble_natCast (h : n < 2 ^ 53) : IsDouble n := by
  rw [← size_whole]
  exact isDouble_size h (by decide) (by decide)

/-- An integer of at most 53 bits is a double. -/
theorem isDouble_intCast (h : i.natAbs < 2 ^ 53) : IsDouble i := by
  have hdouble := isDouble_natCast h
  rw [Nat.cast_natAbs] at hdouble
  rcases abs_choice i with hi | hi
  · rwa [hi] at hdouble
  · rw [hi, Int.cast_neg] at hdouble
    simpa using isDouble_neg hdouble

/-- A whole number and a power of two, by the sign and the absolute value. -/
theorem withSign_natAbs (i : ℤ) (q : Int) :
    withSign (if i < 0 then .negative else .positive) (size i.natAbs q) = (i : ℚ) * 2 ^ q := by
  rw [size, Nat.cast_natAbs, Int.cast_abs]
  split
  · next hi =>
    have hneg : (i : ℚ) < 0 := by exact_mod_cast hi
    rw [abs_of_neg hneg, withSign, neg_mul, neg_neg]
  · next hi =>
    have hpos : (0 : ℚ) ≤ i := by exact_mod_cast Int.not_lt.1 hi
    rw [abs_of_nonneg hpos, withSign]

/-- An integer that is scaled to a double is rounded to itself. -/
theorem toRat?_nearest_natAbs (h : IsDouble ((i : ℚ) * 2 ^ q)) :
    toRat? (nearest (if i < 0 then .negative else .positive) i.natAbs q) =
      some ((i : ℚ) * 2 ^ q) := by
  rw [← withSign_natAbs, isDouble_withSign] at h
  rw [toRat?_nearest _ h, withSign_natAbs]

/-- **A whole number that is a double is found again.** -/
theorem toRat?_ofInt (h : IsDouble i) : toRat? (ofInt i) = some (i : ℚ) := by
  have hexact := toRat?_nearest_natAbs (i := i) (q := 0) (by rwa [zpow_zero, mul_one])
  rwa [zpow_zero, mul_one] at hexact

/-- A signed integer is its number with the sign. -/
theorem cast_signed (s : Sign) (n : Nat) : (signed s n : ℚ) = withSign s n := by
  cases s <;> simp [signed, withSign]

/-! ### Whole parts -/

/-- A number cut to a whole number, towards zero. -/
def cut (a : ℚ) : ℤ := if 0 ≤ a then ⌊a⌋ else ⌈a⌉

/-- The whole part of a size is what is split off. -/
theorem floor_size (m : Nat) (e : Int) : ⌊size m e⌋ = (splitScaled m e).1 := by
  cases e with
  | ofNat k =>
    rw [splitScaled, Int.ofNat_eq_natCast, size_natCast, Int.floor_natCast, Nat.shiftLeft_eq]
  | negSucc k =>
    have hsize : size m (.negSucc k) = (m : ℚ) / (2 ^ (k + 1) : Nat) := by
      rw [size, Int.negSucc_eq, zpow_neg, ← div_eq_mul_inv]
      push_cast
      rfl
    rw [hsize, ← Int.natCast_floor_eq_floor (by positivity), Nat.floor_div_natCast,
      Nat.floor_natCast, splitScaled, Nat.shiftRight_eq_div_pow]

/-- A number is cut to its whole part with its sign. -/
theorem cut_withSign (s : Sign) (m : Nat) (e : Int) :
    cut (withSign s (size m e)) = signed s (splitScaled m e).1 := by
  have hfloor := floor_size m e
  have hnonneg := size_nonneg m e
  cases s with
  | positive => rw [withSign, cut, if_pos hnonneg, hfloor, signed]
  | negative =>
    rw [withSign, cut, signed, ← hfloor]
    split
    · next h =>
      have hzero : size m e = 0 := le_antisymm (neg_nonneg.1 h) hnonneg
      rw [hzero]
      rfl
    · exact Int.ceil_neg

/-- A size is a whole number if the mantissa is, scaled by the exponent. -/
theorem size_eq_natCast : size m e = n ↔ n * 2 ^ (-e).toNat = m * 2 ^ e.toNat := by
  cases e with
  | ofNat k =>
    have hnone : (-(Int.ofNat k)).toNat = 0 := Int.toNat_of_nonpos (Int.neg_natCast_le_natCast k 0)
    rw [hnone, Nat.pow_zero, Nat.mul_one, Int.ofNat_eq_natCast, size_natCast, Nat.cast_inj]
    exact eq_comm
  | negSucc k =>
    have hscaled : size (n * 2 ^ (k + 1)) (.negSucc k) = n := by
      rw [← size_shifted, Int.negSucc_eq, Nat.cast_succ, Int.add_left_neg, size_whole]
    rw [← hscaled]
    exact ⟨fun h => (size_inj h).symm.trans (Nat.mul_one m).symm,
      fun h => congrArg (size · _) ((Nat.mul_one m).symm.trans h.symm)⟩

/-- The size of an integer is its absolute value. -/
theorem size_eq_natAbs (h : (i : ℚ) = withSign s (size m e)) : size m e = i.natAbs := by
  rw [Nat.cast_natAbs, Int.cast_abs, h, abs_withSign, abs_of_nonneg (size_nonneg m e)]

/-- An integer has the sign of the double that it is. -/
theorem eq_signed (h : (i : ℚ) = withSign s (size m e)) : i = signed s i.natAbs := by
  rw [size_eq_natAbs h, ← cast_signed] at h
  exact_mod_cast h

/-- **A double is a whole number if the number that it is is one.** -/
theorem whole?_eq_some_iff : whole? x = some i ↔ toRat? x = some (i : ℚ) := by
  constructor
  · intro h
    rcases whole_cases h with ⟨rfl, s, hx⟩ | ⟨s, m, e, hm, hx, -, hi, hform⟩
    · rw [toRat?_zero hx, Int.cast_zero]
    · rw [toRat?_finite hx, size_eq_natCast.2 hform, ← cast_signed, ← hi]
  · intro h
    rcases toRat?_cases h with ⟨s, hx, hzero⟩ | ⟨s, m, e, hm, hx, hi⟩
    · obtain rfl : i = 0 := by exact_mod_cast hzero
      simp [whole?, isWhole, truncated?, hx]
    · have hsplit := splitScaled_eq (size_eq_natCast.1 (size_eq_natAbs hi))
      have hsigned := eq_signed hi
      simp [whole?, isWhole, truncated?, hx, hsplit, ← hsigned]

/-- An infinity is rounded to itself. -/
theorem roundWhole_infinity (away : Sign → Bool) (h : unpack x = .infinity s) :
    roundWhole away x = x := by
  rw [roundWhole, h]

/-- A zero is rounded to itself. -/
theorem roundWhole_zero (away : Sign → Bool) (h : unpack x = .zero s) : roundWhole away x = x := by
  rw [roundWhole, h]

/-- The whole part of a double is one, and so is the next whole number if there is a fraction. -/
theorem isDouble_whole (h : IsForm m e) :
    IsDouble (size (splitScaled m e).1 0) ∧
      ((splitScaled m e).2 ≠ 0 → IsDouble (size ((splitScaled m e).1 + 1) 0)) := by
  cases e with
  | ofNat k =>
    rw [size_whole, splitScaled, Nat.shiftLeft_eq, ← size_natCast]
    exact ⟨isDouble_size h.lt h.least h.greatest, fun hnone => absurd rfl hnone⟩
  | negSucc k =>
    have hhalf : m >>> (k + 1) ≤ m / 2 := by
      rw [Nat.shiftRight_eq_div_pow]
      exact Nat.div_le_div_left (Nat.le_self_pow (Nat.succ_ne_zero k) 2) (by decide)
    have hlt := h.lt
    simp only [size_whole, splitScaled]
    exact ⟨isDouble_natCast (by omega), fun _ => isDouble_natCast (by omega)⟩

/-- **Moving a double to a whole number is exact.** -/
theorem toRat?_roundWhole (away : Sign → Bool) {hm : 0 < m} (hx : unpack x = .finite s m e hm) :
    toRat? (roundWhole away x) =
      some ((signed s (if (splitScaled m e).2 ≠ 0 && away s then (splitScaled m e).1 + 1
        else (splitScaled m e).1) : ℤ) : ℚ) := by
  have hdouble := isDouble_whole (isForm hx)
  have hmoved : IsDouble (size (if (splitScaled m e).2 ≠ 0 && away s then (splitScaled m e).1 + 1
      else (splitScaled m e).1) 0) := by
    split
    · next hfraction =>
      rw [Bool.and_eq_true, decide_eq_true_eq] at hfraction
      exact hdouble.2 hfraction.1
    · exact hdouble.1
  simp only [roundWhole, hx]
  rw [toRat?_nearest s hmoved, size_whole, cast_signed]

/-- **Cutting a double is exact.** -/
theorem toRat?_truncate (x : Float) :
    toRat? (truncate x) = (toRat? x).map fun a => (cut a : ℚ) := by
  cases hx : unpack x with
  | notANumber =>
    have hsame : truncate x = x := by rw [truncate, roundWhole, hx]
    rw [hsame, toRat?, hx]
    rfl
  | infinity s =>
    rw [truncate, roundWhole_infinity _ hx, toRat?, hx]
    rfl
  | zero s =>
    rw [truncate, roundWhole_zero _ hx, toRat?_zero hx]
    rfl
  | finite s m e hm =>
    rw [truncate, toRat?_roundWhole _ hx, toRat?_finite hx, Option.map_some, cut_withSign,
      Bool.and_false, if_neg Bool.false_ne_true]

/-- The next whole number above a number with a fraction. -/
theorem ceil_size (m : Nat) (e : Int) :
    ⌈size m e⌉ =
      (if (splitScaled m e).2 ≠ 0 then (splitScaled m e).1 + 1 else (splitScaled m e).1 : Nat) := by
  split
  · next hfraction =>
    have hpart : size m e ∉ Set.range (Int.cast : ℤ → ℚ) := by
      rintro ⟨i, hi⟩
      have hsize := size_eq_natAbs (s := .positive) hi
      rw [splitScaled_eq (size_eq_natCast.1 hsize)] at hfraction
      exact hfraction rfl
    rw [(Int.ceil_eq_floor_add_one_iff_notMem _).2 hpart, floor_size, Nat.cast_succ]
  · next hnone =>
    have hwhole := size_eq_natCast.2 (splitScaled_whole (not_not.1 hnone))
    rw [hwhole, Int.ceil_natCast]

/-- **The whole number below a double is exact.** -/
theorem toRat?_floor (h : toRat? x = some a) : toRat? (floor x) = some (⌊a⌋ : ℚ) := by
  rcases toRat?_cases h with ⟨s, hx, rfl⟩ | ⟨s, m, e, hm, hx, rfl⟩
  · rw [floor, roundWhole_zero _ hx, h, Int.floor_zero, Int.cast_zero]
  · rw [floor, toRat?_roundWhole _ hx]
    cases s with
    | positive =>
      have hkept : (Sign.positive == Sign.negative) = false := rfl
      rw [withSign, floor_size, hkept, Bool.and_false, if_neg Bool.false_ne_true, signed]
    | negative =>
      rw [withSign, Int.floor_neg, ceil_size, beq_self_eq_true, Bool.and_true, signed]
      simp only [decide_eq_true_eq]

/-! ### Remainders -/

/-- A mantissa with more bits at a smaller exponent. -/
theorem size_aligned (m : Nat) (h : q ≤ e) : size (m <<< (e - q).toNat) q = size m e := by
  obtain ⟨k, rfl⟩ : ∃ k : Nat, e = q + k := ⟨(e - q).toNat, by omega⟩
  have hshift : (q + k - q).toNat = k := by omega
  rw [hshift, Nat.shiftLeft_eq, size_shifted]

/-- Mantissas of whole numbers leave the mantissa of their remainder. -/
theorem size_mod {p r : Nat} (hm : size m q = p) (hn : size n q = r) :
    size (m % n) q = (p % r : Nat) := by
  rcases Int.le_total 0 q with hq | hq
  · obtain ⟨k, rfl⟩ := Int.eq_ofNat_of_zero_le hq
    rw [size_natCast, Nat.cast_inj] at hm hn
    rw [size_natCast, ← hm, ← hn, Nat.mul_mod_mul_right]
  · obtain ⟨k, rfl⟩ : ∃ k : Nat, q = -k := ⟨(-q).toNat, by omega⟩
    have hscaled (p : Nat) : size (p * 2 ^ k) (-k) = p := by
      rw [← size_shifted, Int.add_left_neg, size_whole]
    rw [← hscaled p] at hm
    rw [← hscaled r] at hn
    rw [size_inj hm, size_inj hn, Nat.mul_mod_mul_right, hscaled]

/-- A remainder has the sign of what is divided. -/
theorem signed_tmod (s : Sign) (p : Nat) (j : ℤ) :
    (signed s p).tmod j = signed s (p % j.natAbs) := by
  have hpos : (p : ℤ).tmod j = (p % j.natAbs : Nat) := by
    rcases Int.natAbs_eq j with hj | hj
    · rw [hj]
      rfl
    · rw [hj, Int.tmod_neg, Int.natAbs_neg]
      rfl
  cases s with
  | positive => exact hpos
  | negative => rw [signed, Int.neg_tmod, hpos, signed]

/-- **The remainder of whole numbers is exact**, with the sign of the dividend. -/
theorem toRat?_remainder (hx : toRat? x = some (i : ℚ)) (hy : toRat? y = some (j : ℚ))
    (hj : j ≠ 0) : toRat? (remainder x y) = some ((i.tmod j : ℤ) : ℚ) := by
  rcases toRat?_cases hy with ⟨t, hy, hzero⟩ | ⟨t, n, f, hn, hy, hj'⟩
  · exact absurd (by exact_mod_cast hzero) hj
  rcases toRat?_cases hx with ⟨s, hx, hzero⟩ | ⟨s, m, e, hm, hx, hi⟩
  · have hi : i = 0 := by exact_mod_cast hzero
    have hsame : remainder x y = x := by rw [remainder, hx, hy]
    rw [hsame, toRat?_zero hx, hi, Int.zero_tmod, Int.cast_zero]
  · have hrest : remainder x y = nearest s
        ((m <<< (e - min e f).toNat) % (n <<< (f - min e f).toNat)) (min e f) := by
      rw [remainder, hx, hy]
    have hm' := size_aligned m (min_le_left e f)
    have hn' := size_aligned n (min_le_right e f)
    have hmod := size_mod (hm'.trans (size_eq_natAbs hi)) (hn'.trans (size_eq_natAbs hj'))
    have hdouble : IsDouble (size ((m <<< (e - min e f).toNat) % (n <<< (f - min e f).toNat))
        (min e f)) := by
      have hform := isForm hx
      have hform' := isForm hy
      rcases Int.le_total e f with hle | hle
      · rw [min_eq_left hle, Int.sub_self, Int.toNat_zero, Nat.shiftLeft_zero]
        exact isDouble_size (Nat.lt_of_le_of_lt (Nat.mod_le _ _) hform.lt) hform.least
          hform.greatest
      · rw [min_eq_right hle, Int.sub_self, Int.toNat_zero, Nat.shiftLeft_zero]
        exact isDouble_size ((Nat.mod_lt _ hn).trans hform'.lt) hform'.least hform'.greatest
    have hsigned := eq_signed hi
    rw [hrest, toRat?_nearest s hdouble, hmod, hsigned, signed_tmod, natAbs_signed, cast_signed]

/-! ### Sums -/

/-- What an exact sum is rounded to. -/
theorem ofModel_normalize (z : ℤ) (q : Int) (s : Sign) :
    Float.ofModel (.pack (UnpackedFloat.normalize .binary64 z q s)) =
      if z = 0 then .ofModel (.pack (.zero s))
      else nearest (if z < 0 then .negative else .positive) z.natAbs q := by
  rcases Int.lt_trichotomy z 0 with hz | rfl | hz
  · have habs : z.natAbs = (-z).toNat := by omega
    rw [UnpackedFloat.normalize, Int.compare_eq_lt.2 hz, if_neg hz.ne, if_pos hz, nearest,
      if_neg (by omega), habs]
  · rfl
  · have habs : z.natAbs = z.toNat := by omega
    rw [UnpackedFloat.normalize, Int.compare_eq_gt.2 hz, if_neg hz.ne', if_neg hz.not_gt, nearest,
      if_neg (by omega), habs]

/-- An integer that is scaled to a double is normalized to it. -/
theorem toRat?_normalize {z : ℤ} (h : IsDouble ((z : ℚ) * 2 ^ q)) (s : Sign) :
    toRat? (.ofModel (.pack (UnpackedFloat.normalize .binary64 z q s))) =
      some ((z : ℚ) * 2 ^ q) := by
  rw [ofModel_normalize]
  split
  · next hz =>
    rw [hz, Int.cast_zero, zero_mul]
    cases s <;> rfl
  · exact toRat?_nearest_natAbs h

/-- Doubles are added as they are unpacked. -/
theorem add_eq (x y : Float) :
    x + y = .ofModel (.pack (UnpackedFloat.add .binary64 (unpack x) (unpack y))) := rfl

/-- A sum is rounded once, unless an operand is zero, which changes nothing. -/
theorem add_cases (hx : toRat? x = some a) (hy : toRat? y = some b) :
    toRat? (x + y) = some (a + b) ∨ ∃ (z : ℤ) (q : Int), (z : ℚ) * 2 ^ q = a + b ∧
      x + y = .ofModel (.pack (UnpackedFloat.normalize .binary64 z q .positive)) := by
  rcases toRat?_cases hx with ⟨s, hs, rfl⟩ | ⟨s, m, e, hm, hs, rfl⟩
  · rcases toRat?_cases hy with ⟨t, ht, rfl⟩ | ⟨t, n, f, hn, ht, rfl⟩
    · rw [add_eq, hs, ht, add_zero]
      left
      cases s <;> cases t <;> rfl
    · have hsum : x + y = .ofModel (.pack (unpack y)) := by
        rw [add_eq, hs, ht]
        rfl
      left
      rw [hsum, pack_unpack, hy, zero_add]
  · rcases toRat?_cases hy with ⟨t, ht, rfl⟩ | ⟨t, n, f, hn, ht, rfl⟩
    · have hsum : x + y = .ofModel (.pack (unpack x)) := by
        rw [add_eq, hs, ht]
        rfl
      left
      rw [hsum, pack_unpack, hx, add_zero]
    · have hsigned (s : Sign) (m : Nat) {e q : Int} (hq : q ≤ e) :
          ((s.apply (m <<< (e - q).toNat : Nat) : ℤ) : ℚ) * 2 ^ q = withSign s (size m e) := by
        rw [← size_aligned m hq, size]
        cases s with
        | positive => rw [Sign.apply, Int.cast_natCast, withSign]
        | negative => rw [Sign.apply, Int.cast_neg, Int.cast_natCast, withSign, neg_mul]
      have hexact : ((s.apply (m <<< (e - min e f).toNat : Nat) +
          t.apply (n <<< (f - min e f).toNat : Nat) : ℤ) : ℚ) * 2 ^ min e f =
            withSign s (size m e) + withSign t (size n f) := by
        rw [Int.cast_add, add_mul, hsigned s m (min_le_left e f), hsigned t n (min_le_right e f)]
      right
      exact ⟨_, _, hexact, by rw [add_eq, hs, ht]; rfl⟩

/-- **A sum that is a double is exact.** -/
theorem toRat?_add (hx : toRat? x = some a) (hy : toRat? y = some b) (h : IsDouble (a + b)) :
    toRat? (x + y) = some (a + b) := by
  rcases add_cases hx hy with hexact | ⟨z, q, hexact, hround⟩
  · exact hexact
  · rw [← hexact] at h ⊢
    rw [hround]
    exact toRat?_normalize h .positive

/-! ### Words -/

/-- A form is turned to an integer by cutting off its fraction. -/
theorem roundToInt_eq (s : Sign) (m : Nat) (e : Int) :
    roundToInt s m e = cut (withSign s (size m e)) := by
  have happly (n : Nat) : s.apply n = signed s n := by cases s <;> rfl
  have hround : roundToInt s m e =
      s.apply ((⟨m <<< (e - 0).toNat, false, false⟩ : ExtendedMantissa) >>>
        (0 - (e - (e - 0).toNat)).toNat).mantissa := rfl
  rw [cut_withSign, ← happly, hround, mantissa_shiftRight]
  refine congrArg (fun n : Nat => s.apply n) ?_
  cases e with
  | ofNat k =>
    have hnone : (0 - (Int.ofNat k - ((Int.ofNat k - 0).toNat : Int))).toNat = 0 := by
      rw [Int.ofNat_eq_natCast]
      omega
    rw [hnone, Nat.pow_zero, Nat.div_one]
    rfl
  | negSucc k =>
    have hbits : (0 - (Int.negSucc k - ((Int.negSucc k - 0).toNat : Int))).toNat = k + 1 := by
      rw [Int.negSucc_eq]
      omega
    rw [hbits, splitScaled, Nat.shiftRight_eq_div_pow]
    rfl

/-- A double in the range of words is converted to the word that it is. -/
theorem toNat_toUInt32 (h : toRat? x = some (n : ℚ)) (hn : n < 2 ^ 32) :
    x.toUInt32.toNat = n := by
  have hcut : cut (n : ℚ) = n := by
    rw [cut, if_pos (Nat.cast_nonneg n), Int.floor_natCast]
  have hint : UnpackedFloat.toInt 0 (UInt32.size - 1) (unpack x) = n := by
    rcases toRat?_cases h with ⟨s, hs, hzero⟩ | ⟨s, m, e, hm, hs, hn⟩
    · rw [hs, UnpackedFloat.toInt]
      exact_mod_cast hzero.symm
    · rw [hs, UnpackedFloat.toInt, roundToInt_eq, ← hn, hcut]
  change (UInt32.ofNatClamp (UnpackedFloat.toInt 0 (UInt32.size - 1) (unpack x)).toNat).toNat = n
  have hsize : n < UInt32.size := hn
  rw [hint, Int.toNat_natCast, UInt32.ofNatClamp, dif_pos hsize]
  rfl

end Binary64
end RecordFilter
