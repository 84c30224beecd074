/-
# The shortest decimal reads back

What rounds to a double reaches half a step up from it and half a step down, or a quarter of one
below a power of two (`lowGap`).  A decimal in that range, its ends included, is near the double
(`IsNear`).  The search only ends with such a decimal: of seventeen digits there is always one,
since the power of ten under the seventeenth digit is less than the length of the range
(`step_lt_width`).  So the shortest decimal of a double is near it (`isNear_shortest`).  It is less
than a whole step above the double (`IsNear.le_succ`), and where it is a whole number of at most 53
bits it is the double (`IsNear.eq_of_whole`).
-/

import Mathlib
import RecordFilter.Proofs.Number.Decimal
import RecordFilter.Proofs.Number.Rounding

namespace RecordFilter
namespace Decimal

open Binary64 (IsForm size)

variable {d : Decimal} {m n k : Nat} {e p top : Int} {tie : Tie} {i : Interval}

/-- The number that a decimal is. -/
def toRat (d : Decimal) : ℚ := d.digits * 10 ^ d.exponent

/-- How far the reals that round to a double go down from it, in quarters of a step. -/
def lowGap (m : Nat) (e : Int) : Nat :=
  if m == 2 ^ 52 && decide (-1074 < e) then 1 else 2

/-- Whether a decimal is one of the reals that round to a double, or the limit of those. -/
structure IsNear (d : Decimal) (m : Nat) (e : Int) : Prop where
  /-- It is not below them. -/
  low : size (4 * m - lowGap m e) (e - 2) ≤ d.toRat
  /-- It is not above them. -/
  high : d.toRat ≤ size (4 * m + 2) (e - 2)

/-- The gap below a double is one or two quarters of a step. -/
theorem lowGap_bounds (m : Nat) (e : Int) : 1 ≤ lowGap m e ∧ lowGap m e ≤ 2 := by
  rw [lowGap]
  split <;> omega

/-- A mantissa counted in quarters has the same size. -/
theorem size_quarters (m : Nat) (e : Int) : size (4 * m) (e - 2) = size m e := by
  rw [Nat.mul_comm, show 4 = 2 ^ 2 from rfl, ← Binary64.size_shifted]
  congr 1
  omega

/-- What is near a double other than zero has digits. -/
theorem IsNear.pos (h : d.IsNear m e) (hm : 0 < m) : 0 < d.digits := by
  have hgap := lowGap_bounds m e
  have hquarters : 0 < 4 * m - lowGap m e := by omega
  have hlow : 0 < size (4 * m - lowGap m e) (e - 2) :=
    mul_pos (Nat.cast_pos.2 hquarters) (by positivity)
  refine Nat.pos_iff_ne_zero.2 fun hzero => ?_
  have hrat := hlow.trans_le h.low
  rw [toRat, hzero, Nat.cast_zero, zero_mul] at hrat
  exact lt_irrefl 0 hrat

/-- What is near a double is less than a step above it. -/
theorem IsNear.le_succ (h : d.IsNear m e) : d.toRat ≤ size (m + 1) e := by
  rw [← size_quarters]
  exact h.high.trans (Binary64.size_mono (by omega) _)

/-! ### Neighbours -/

/-- A power with an integer exponent is a quotient of two with natural ones. -/
theorem pow_toNat {a : ℚ} (ha : a ≠ 0) (z : Int) : a ^ z.toNat = a ^ z * a ^ (-z).toNat := by
  rw [← zpow_natCast, ← zpow_natCast, ← zpow_add₀ ha]
  congr 1
  omega

/-- The whole numbers of an interval are the exact ones, all scaled by the same factor. -/
theorem interval_scaled (m : Nat) (e p : Int) : ∃ c : ℚ, 0 < c ∧
    ((interval m e p).step : ℚ) = 10 ^ p * c ∧
    ((interval m e p).low : ℚ) = size (4 * m - lowGap m e) (e - 2) * c ∧
    ((interval m e p).value : ℚ) = size (4 * m) (e - 2) * c ∧
    ((interval m e p).high : ℚ) = size (4 * m + 2) (e - 2) * c := by
  have htwo := pow_toNat (a := 2) two_ne_zero (e - 2)
  have hten := pow_toNat (a := 10) (by norm_num) p
  rw [Int.neg_sub] at htwo
  have hscaled (k : Nat) : ((k * (2 ^ (e - 2).toNat * 10 ^ (-p).toNat) : Nat) : ℚ) =
      size k (e - 2) * (2 ^ (2 - e).toNat * 10 ^ (-p).toNat) := by
    push_cast
    rw [htwo, size]
    ring
  refine ⟨2 ^ (2 - e).toNat * 10 ^ (-p).toNat, by positivity, ?_, hscaled _, hscaled _, hscaled _⟩
  simp only [interval, Nat.cast_mul, Nat.cast_pow, Nat.cast_ofNat]
  rw [hten]
  ring

/-- A multiple that reads back lies in the interval. -/
theorem holds_bounds (h : i.holds k = true) : i.low ≤ k * i.step ∧ k * i.step ≤ i.high := by
  rw [Interval.holds] at h
  split at h <;> simp only [Bool.and_eq_true, decide_eq_true_eq] at h
  · exact h
  · exact ⟨Nat.le_of_lt h.1, Nat.le_of_lt h.2⟩

/-- A multiple inside of the interval reads back. -/
theorem holds_of_between (hlow : i.low < k * i.step) (hhigh : k * i.step < i.high) :
    i.holds k = true := by
  rw [Interval.holds]
  split <;> simp only [Bool.and_eq_true, decide_eq_true_eq]
  · exact ⟨Nat.le_of_lt hlow, Nat.le_of_lt hhigh⟩
  · exact ⟨hlow, hhigh⟩

/-- A multiple that reads back to a double is near it. -/
theorem isNear_of_holds (h : (interval m e p).holds k = true) : IsNear ⟨k, p⟩ m e := by
  obtain ⟨hlow, hhigh⟩ := holds_bounds h
  obtain ⟨c, hc, hstep, hlow', -, hhigh'⟩ := interval_scaled m e p
  have hlow : ((interval m e p).low : ℚ) ≤ k * (interval m e p).step := by exact_mod_cast hlow
  have hhigh : (k * (interval m e p).step : ℚ) ≤ (interval m e p).high := by exact_mod_cast hhigh
  rw [hlow', hstep, ← mul_assoc] at hlow
  rw [hhigh', hstep, ← mul_assoc] at hhigh
  exact ⟨le_of_mul_le_mul_right hlow hc, le_of_mul_le_mul_right hhigh hc⟩

/-- The best multiple reads back. -/
theorem holds_of_best? (h : i.best? tie = some k) : i.holds k = true := by
  simp only [Interval.best?] at h
  split at h
  · cases h
  · next hholds _ => exact Option.some.inj h ▸ hholds
  · next hholds => exact Option.some.inj h ▸ hholds
  · next hbelow habove =>
    split at h
    · exact Option.some.inj h ▸ hbelow
    split at h
    · exact Option.some.inj h ▸ habove
    split at h
    · exact Option.some.inj h ▸ habove
    split at h
    · exact Option.some.inj h ▸ hbelow
    · exact Option.some.inj h ▸ habove

/-- Where there is no best multiple, neither neighbour reads back. -/
theorem neighbours_of_best? (h : i.best? tie = none) :
    i.holds (i.value / i.step) = false ∧ i.holds (i.value / i.step + 1) = false := by
  simp only [Interval.best?] at h
  split at h
  · next hbelow habove => exact ⟨hbelow, habove⟩
  · cases h
  · cases h
  · split at h
    · cases h
    split at h
    · cases h
    split at h <;> cases h

/-- A step that is shorter than the interval has a multiple in it next to the value. -/
theorem best?_ne_none (hlow : i.low ≤ i.value) (hhigh : i.value < i.high) (hstep : 0 < i.step)
    (hwidth : i.low + i.step < i.high) (tie : Tie) : i.best? tie ≠ none := by
  intro hnone
  obtain ⟨hbelow, habove⟩ := neighbours_of_best? hnone
  obtain ⟨below, hquotient⟩ : ∃ k, i.value / i.step = k := ⟨_, rfl⟩
  have hle : below * i.step ≤ i.value := hquotient ▸ Nat.div_mul_le_self _ _
  have hlt : i.value < (below + 1) * i.step :=
    (Nat.div_lt_iff_lt_mul hstep).1 (hquotient ▸ Nat.lt_succ_self _)
  have hnext : (below + 1) * i.step = below * i.step + i.step := Nat.succ_mul _ _
  rw [hquotient] at hbelow habove
  rcases Nat.lt_or_ge i.low (below * i.step) with hinside | houtside
  · rw [holds_of_between hinside (by omega)] at hbelow
    cases hbelow
  · rw [holds_of_between (by omega) (by omega)] at habove
    cases habove

/-! ### The search -/

/-- A number other than zero has a first digit. -/
theorem exists_digitCount (hn : 0 < n) : ∃ k, digitCount n = k + 1 ∧ 10 ^ k ≤ n := by
  have hpos : digitCount n ≠ 0 := by
    rw [digitCount, if_neg (Nat.pos_iff_ne_zero.1 hn)]
    exact Nat.length_toDigits_pos.ne'
  obtain ⟨k, hk⟩ := Nat.exists_eq_add_one_of_ne_zero hpos
  refine ⟨k, hk, ?_⟩
  rcases Nat.eq_zero_or_pos k with rfl | hmore
  · exact hn
  · refine Nat.not_lt.1 fun hlt => ?_
    have := (digitCount_le hn hmore).2 hlt
    omega

/-- Three bits are less than a decimal digit. -/
theorem two_pow_le_ten_pow {bits places : Nat} (h : bits ≤ 3 * places) :
    2 ^ bits ≤ 10 ^ places :=
  calc 2 ^ bits ≤ 2 ^ (3 * places) := Nat.pow_le_pow_right Nat.two_pos h
    _ = (2 ^ 3) ^ places := Nat.pow_mul 2 3 places
    _ ≤ 10 ^ places := Nat.pow_le_pow_left (by decide) places

/-- A positive number with enough places behind the point has its first digit at its magnitude. -/
theorem pow_digitCount_le {places : Nat} (hm : 0 < m) (he : (-e).toNat ≤ 3 * places) :
    (10 : ℚ) ^ (digitCount (m * 2 ^ e.toNat * 10 ^ places / 2 ^ (-e).toNat) - places - 1 : Int) ≤
      size m e := by
  obtain ⟨n, hn⟩ : ∃ n, m * 2 ^ e.toNat * 10 ^ places / 2 ^ (-e).toNat = n := ⟨_, rfl⟩
  have hpos : 0 < n := by
    have hscaled : 10 ^ places ≤ m * 2 ^ e.toNat * 10 ^ places :=
      Nat.le_mul_of_pos_left _ (Nat.mul_pos hm (Nat.two_pow_pos _))
    exact hn ▸ Nat.div_pos ((two_pow_le_ten_pow he).trans hscaled) (Nat.two_pow_pos _)
  obtain ⟨k, hcount, hdigit⟩ := exists_digitCount hpos
  have hscaled : (n : ℚ) ≤ size m e * 10 ^ places := by
    have hdiv : (n : ℚ) * 2 ^ (-e).toNat ≤ m * 2 ^ e.toNat * 10 ^ places := by
      rw [← hn]
      exact_mod_cast Nat.div_mul_le_self _ _
    rw [pow_toNat two_ne_zero e] at hdiv
    have hpow : (0 : ℚ) < 2 ^ (-e).toNat := by positivity
    refine le_of_mul_le_mul_right ?_ hpow
    rw [size]
    linarith
  have hfirst : (digitCount n - places - 1 : Int) = k - places := by
    rw [hcount]
    push_cast
    ring
  have hdigit : (10 : ℚ) ^ k ≤ n := by exact_mod_cast hdigit
  rw [hn, hfirst, zpow_sub₀ (by norm_num), zpow_natCast, zpow_natCast,
    div_le_iff₀ (by positivity)]
  exact hdigit.trans hscaled

/-- The first digit of a double stands at its magnitude. -/
theorem pow_magnitude_le (hm : 0 < m) (he : -1074 ≤ e) :
    (10 : ℚ) ^ (magnitude m e - 1) ≤ size m e := by
  obtain ⟨places, hplaces⟩ : ∃ places, places = 400 := ⟨_, rfl⟩
  rw [magnitude_eq hplaces]
  exact pow_digitCount_le hm (by omega)

/-- A quarter of a step reaches further than the seventeenth digit of a number of 53 bits, taken as
often as a range is long. -/
theorem mantissa_lt_width (hlt : m < 2 ^ 53) (e : Int) :
    4 * m < (lowGap m e + 2) * 10 ^ 16 := by
  rw [lowGap]
  split
  · next hleast =>
    simp only [Bool.and_eq_true, beq_iff_eq] at hleast
    omega
  · omega

/-- The power of ten under the seventeenth digit is less than the range of what reads back. -/
theorem step_lt_width (hlt : m < 2 ^ 53) (htop : (10 : ℚ) ^ (top - 1) ≤ size m e) :
    (10 : ℚ) ^ (top - 17) < size (lowGap m e + 2) (e - 2) := by
  have hdigits : (10 : ℚ) ^ (top - 17) * 10 ^ 16 = 10 ^ (top - 1) := by
    rw [← zpow_natCast, ← zpow_add₀ (by norm_num)]
    congr 1
    push_cast
    ring
  refine lt_of_mul_lt_mul_right (a := (10 : ℚ) ^ 16) ?_ (by positivity)
  calc (10 : ℚ) ^ (top - 17) * 10 ^ 16 = 10 ^ (top - 1) := hdigits
    _ ≤ size m e := htop
    _ = size (4 * m) (e - 2) := (size_quarters m e).symm
    _ < size ((lowGap m e + 2) * 10 ^ 16) (e - 2) :=
      Binary64.strictMono_size _ (mantissa_lt_width hlt e)
    _ = size (lowGap m e + 2) (e - 2) * 10 ^ 16 := by
      rw [size, size]
      push_cast
      ring

/-- Seventeen digits suffice. -/
theorem best?_seventeen (hm : 0 < m) (hlt : m < 2 ^ 53) (htop : (10 : ℚ) ^ (top - 1) ≤ size m e)
    (tie : Tie) : (interval m e (top - (17 : Nat))).best? tie ≠ none := by
  obtain ⟨c, hc, hstep, hlow, hvalue, hhigh⟩ := interval_scaled m e (top - (17 : Nat))
  have hgap := lowGap_bounds m e
  have hless {a b : Nat} (h : a < b) : size a (e - 2) * c < size b (e - 2) * c :=
    mul_lt_mul_of_pos_right (Binary64.strictMono_size _ h) hc
  have hbelow := hless (a := 4 * m - lowGap m e) (b := 4 * m) (by omega)
  have habove := hless (a := 4 * m) (b := 4 * m + 2) (by omega)
  rw [← hlow, ← hvalue, Nat.cast_lt] at hbelow
  rw [← hvalue, ← hhigh, Nat.cast_lt] at habove
  have hpos : (0 : ℚ) < (interval m e (top - (17 : Nat))).step := by
    rw [hstep]
    positivity
  refine best?_ne_none hbelow.le habove (Nat.cast_pos.1 hpos) ?_ tie
  have hsplit : size (4 * m + 2) (e - 2) =
      size (4 * m - lowGap m e) (e - 2) + size (lowGap m e + 2) (e - 2) := by
    rw [size, size, size, ← add_mul, ← Nat.cast_add]
    congr 2
    omega
  have hwidth := mul_lt_mul_of_pos_right (step_lt_width hlt htop) hc
  rw [← Nat.cast_lt (α := ℚ), Nat.cast_add, hlow, hstep, hhigh, hsplit, add_mul]
  exact add_lt_add_right hwidth _

/-- The search ends with a decimal that reads back. -/
theorem isNear_search (hm : 0 < m) (hlt : m < 2 ^ 53) (htop : (10 : ℚ) ^ (top - 1) ≤ size m e)
    (tie : Tie) {limit count : Nat} (hcount : count ≤ 17) (hlimit : 17 < count + limit) :
    IsNear (search tie m e top limit count) m e := by
  induction limit generalizing count with
  | zero => omega
  | succ limit ih =>
    rw [search]
    split
    · next hbest => exact isNear_of_holds (holds_of_best? hbest)
    · next hnone =>
      have hmore : count ≠ 17 := fun h => best?_seventeen hm hlt htop tie (h ▸ hnone)
      exact ih (by omega) (by omega)

/-- Zeros that go from the digits into the exponent leave the number as it is. -/
theorem toRat_stripped (limit : Nat) (d : Decimal) : (stripped limit d).toRat = d.toRat := by
  induction limit generalizing d with
  | zero => rfl
  | succ limit ih =>
    rw [stripped]
    split
    · next hzero =>
      simp only [Bool.and_eq_true, beq_iff_eq] at hzero
      have hdivides : d.digits / 10 * 10 = d.digits :=
        Nat.div_mul_cancel (Nat.dvd_of_mod_eq_zero hzero.2)
      have hcast : ((d.digits / 10 : Nat) : ℚ) * 10 = d.digits := by exact_mod_cast hdivides
      rw [ih, toRat, toRat, zpow_add_one₀ (by norm_num), ← hcast]
      ring
    · rfl

/-- **The shortest decimal of a double is near it.** -/
theorem isNear_shortest (h : IsForm m e) (tie : Tie) : IsNear (shortest tie m e) m e := by
  have hsearch : IsNear (search tie m e (magnitude m e) 17 1) m e :=
    isNear_search h.pos h.lt (pow_magnitude_le h.pos h.least) tie (by decide) (by decide)
  refine ⟨?_, ?_⟩
  · rw [shortest, toRat_stripped]
    exact hsearch.low
  · rw [shortest, toRat_stripped]
    exact hsearch.high

/-! ### Whole numbers -/

/-- Bits that the exponent takes back do not change a whole number. -/
theorem size_neg (n k : Nat) : size (n * 2 ^ k) (-k) = n := by
  rw [← Binary64.size_shifted, Int.add_left_neg, size, zpow_zero, mul_one]

/-- What rounds to a double with a step of two and more is not below `2 ^ 53 - 1 / 2`. -/
theorem le_low (hm : 2 ^ 52 ≤ m) (he : 0 < e) : 2 ^ 54 - 1 ≤ 4 * m - lowGap m e := by
  have hgap := lowGap_bounds m e
  rcases Nat.eq_or_lt_of_le hm with rfl | hmore
  · have hleast : lowGap (2 ^ 52) e = 1 :=
      if_pos (Bool.and_eq_true_iff.2 ⟨beq_self_eq_true _, decide_eq_true (by omega)⟩)
    omega
  · omega

/-- A whole number below `2 ^ 53` is near to no double but itself. -/
theorem IsNear.eq_of_whole (h : d.IsNear m e) (hform : IsForm m e) (hn : n < 2 ^ 53)
    (hd : d.toRat = n) : n * 2 ^ (-e).toNat = m * 2 ^ e.toNat := by
  obtain ⟨hlow, hhigh⟩ := h
  rw [hd] at hlow hhigh
  rcases Int.lt_or_le 0 e with he | he
  · exfalso
    obtain ⟨k, rfl⟩ : ∃ k : Nat, e = 1 + k := ⟨(e - 1).toNat, by omega⟩
    have hexponent : (1 + k - 2 : Int) = -(1 : Nat) + k := by omega
    rw [hexponent, Binary64.size_shifted, ← size_neg n 1,
      (Binary64.strictMono_size _).le_iff_le] at hlow
    have hfull := le_low (hform.full.resolve_right (by omega)) he
    have hscaled := Nat.le_mul_of_pos_right (4 * m - lowGap m (1 + k)) (Nat.two_pow_pos k)
    omega
  · obtain ⟨k, rfl⟩ : ∃ k : Nat, e = -k := ⟨(-e).toNat, by omega⟩
    have hexponent : (-k - 2 : Int) = -(k + 2 : Nat) := by omega
    rw [hexponent, ← size_neg n (k + 2), (Binary64.strictMono_size _).le_iff_le, Nat.pow_add,
      ← Nat.mul_assoc] at hlow hhigh
    have hgap := lowGap_bounds m (-k)
    rw [Int.neg_neg, Int.toNat_natCast, Int.toNat_of_nonpos he]
    omega

end Decimal
end RecordFilter
