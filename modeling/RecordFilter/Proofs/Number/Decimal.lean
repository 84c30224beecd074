/-
# Decimals of whole doubles

A whole double of at most 53 bits has a step of at most one to its neighbours, so no other integer
is rounded to it.  Of the multiples of a power of ten only the number itself reads back to it
(`holds_interval`), and the search for the fewest digits ends with its digits, some trailing zeros
of them in the exponent (`isWhole_shortest`).
-/

import Mathlib
import RecordFilter.Json.Value
import RecordFilter.Proofs.Number.Binary64
import RecordFilter.Value.Text

namespace RecordFilter

/-! ### Digits -/

/-- Digits with zeros behind them. -/
theorem toDigits_mul_pow {n : Nat} (hn : 0 < n) (p : Nat) :
    Nat.toDigits 10 (n * 10 ^ p) = Nat.toDigits 10 n ++ List.replicate p '0' := by
  induction p with
  | zero => rw [Nat.pow_zero, Nat.mul_one, List.replicate_zero, List.append_nil]
  | succ p ih =>
    have hpos : 0 < n * 10 ^ p := Nat.mul_pos hn (Nat.pow_pos (by decide))
    have hlast := Nat.toDigits_append_toDigits (b := 10) (d := 0) (by decide) hpos (by decide)
    rw [Nat.pow_succ', Nat.mul_left_comm, List.replicate_succ', ← List.append_assoc, ← ih,
      ← Nat.add_zero (10 * _), ← hlast]
    rfl

namespace Decimal

variable {m n p : Nat} {e : Int}

/-- The value of digits is that of the library. -/
theorem ofDigits_eq (cs : List Char) : ofDigits cs = Nat.ofDigitChars 10 cs 0 := by
  have hsame : (fun n (c : Char) => n * 10 + (c.toNat - '0'.toNat)) =
      fun n (c : Char) => 10 * n + (c.toNat - '0'.toNat) :=
    funext₂ fun n _ => by rw [Nat.mul_comm]
  rw [ofDigits, hsame]
  rfl

/-- The digits of a number write the number. -/
theorem ofDigits_toDigits (n : Nat) : ofDigits (Nat.toDigits 10 n) = n := by
  rw [ofDigits_eq]
  exact Nat.ofDigitChars_ten_toDigits

/-- A power of ten adds its zeros to the digits. -/
theorem digitCount_mul_pow (hn : 0 < n) (p : Nat) :
    digitCount (n * 10 ^ p) = digitCount n + p := by
  have hpos : 0 < n * 10 ^ p := Nat.mul_pos hn (Nat.pow_pos (by decide))
  rw [digitCount, if_neg (Nat.pos_iff_ne_zero.1 hpos), digitCount,
    if_neg (Nat.pos_iff_ne_zero.1 hn), toDigits_mul_pow hn, List.length_append,
    List.length_replicate]

/-- A number has so many digits if it is below that power of ten. -/
theorem digitCount_le (hn : 0 < n) (hp : 0 < p) : digitCount n ≤ p ↔ n < 10 ^ p := by
  rw [digitCount, if_neg (Nat.pos_iff_ne_zero.1 hn), Nat.length_toDigits_le_iff (by decide) hp]

/-! ### Neighbours -/

/-- Multiples of a power of ten that is a whole number. -/
theorem interval_whole (he : e ≤ 0) (m p : Nat) :
    interval m e p = {
      low := 4 * m - if m == 2 ^ 52 && decide (-1074 < e) then 1 else 2
      value := 4 * m
      high := 4 * m + 2
      closed := m % 2 == 0
      step := 2 ^ (2 - e).toNat * 10 ^ p } := by
  have hbits : (e - 2).toNat = 0 := by omega
  have hdigits : (-(p : Int)).toNat = 0 := by omega
  simp only [interval, hbits, hdigits, Nat.pow_zero, Nat.mul_one, Int.toNat_natCast]

section Places

-- The power of ten is written as in the definition, so that no proof evaluates it.
attribute [local instance (1100)] instPowNat

/-- The magnitude, for the number of places that are looked at. -/
theorem magnitude_eq {places : Nat} (h : places = 400) : magnitude m e =
    digitCount (m * 2 ^ e.toNat * 10 ^ places / 2 ^ (-e).toNat) - places := by
  rw [h, magnitude, Nat.cast_ofNat]

end Places

section Whole

variable (he : e ≤ 0) (hm : 0 < m) (hn : n * 2 ^ (-e).toNat = m)
include he hn

/-- In quarters of the last bit, a whole number is four times its mantissa. -/
theorem quarters_whole : n * 2 ^ (2 - e).toNat = 4 * m := by
  have hbits : (2 - e).toNat = (-e).toNat + 2 := by omega
  rw [hbits, Nat.pow_add, ← Nat.mul_assoc, hn, Nat.mul_comm]

/-- The first digit of a whole number stands where its digits begin. -/
theorem magnitude_whole (hpos : 0 < n) : magnitude m e = digitCount n := by
  have hbits : e.toNat = 0 := by omega
  have hscaled (q : Nat) : m * 2 ^ e.toNat * q / 2 ^ (-e).toNat = n * q := by
    rw [hbits, Nat.pow_zero, Nat.mul_one, ← hn, Nat.mul_right_comm,
      Nat.mul_div_cancel _ (Nat.two_pow_pos _)]
  obtain ⟨places, hplaces⟩ : ∃ places, places = 400 := ⟨_, rfl⟩
  rw [magnitude_eq hplaces, hscaled, digitCount_mul_pow hpos places]
  omega

include hm

/-- No multiple but the number itself is as near as half a step. -/
theorem holds_interval (p k : Nat) : (interval m e p).holds k = decide (k * 10 ^ p = n) := by
  have hquarters := quarters_whole he hn
  have hstep : 4 ≤ 2 ^ (2 - e).toNat :=
    Nat.pow_le_pow_right (n := 2) (i := 2) (by decide) (by omega)
  have hmultiple : k * (2 ^ (2 - e).toNat * 10 ^ p) = k * 10 ^ p * 2 ^ (2 - e).toNat := by
    rw [Nat.mul_comm (2 ^ _), Nat.mul_assoc]
  have hlow : ∀ isLeast : Bool,
      (if isLeast then 1 else 2) = 1 ∨ (if isLeast then 1 else 2) = 2 := by
    decide
  rw [interval_whole he]
  simp only [Interval.holds, hmultiple]
  generalize 2 ^ (2 - e).toNat = step at hquarters hstep
  generalize k * 10 ^ p = number
  specialize hlow (m == 2 ^ 52 && decide (-1074 < e))
  generalize (if (m == 2 ^ 52 && decide (-1074 < e)) = true then 1 else 2) = half at hlow
  rcases Nat.lt_trichotomy number n with hlt | heq | hgt
  · have : (number + 1) * step ≤ n * step := Nat.mul_le_mul_right step hlt
    rw [Nat.succ_mul] at this
    rw [decide_eq_false (Nat.ne_of_lt hlt)]
    split <;> simp only [Bool.and_eq_false_iff, decide_eq_false_iff_not] <;> omega
  · subst heq
    rw [decide_eq_true rfl]
    split <;> simp only [Bool.and_eq_true, decide_eq_true_eq] <;> omega
  · have : (n + 1) * step ≤ number * step := Nat.mul_le_mul_right step hgt
    rw [Nat.succ_mul] at this
    rw [decide_eq_false (Nat.ne_of_gt hgt)]
    split <;> simp only [Bool.and_eq_false_iff, decide_eq_false_iff_not] <;> omega

/-- In the interval of a whole number, the best multiple of a power of ten is the number itself, if
it is one. -/
theorem best?_interval (tie : Tie) (p : Nat) :
    (interval m e p).best? tie = if n / 10 ^ p * 10 ^ p = n then some (n / 10 ^ p) else none := by
  have hbelow : (interval m e p).value / (interval m e p).step = n / 10 ^ p := by
    rw [interval_whole he]
    change 4 * m / (2 ^ (2 - e).toNat * 10 ^ p) = _
    rw [← quarters_whole he hn, Nat.mul_comm n, Nat.mul_div_mul_left _ _ (Nat.two_pow_pos _)]
  have habove : (n / 10 ^ p + 1) * 10 ^ p ≠ n :=
    Nat.ne_of_gt ((Nat.div_lt_iff_lt_mul (Nat.pow_pos (by decide))).1 (Nat.lt_succ_self _))
  simp only [Interval.best?, hbelow, holds_interval he hm hn, habove, decide_false]
  by_cases h : n / 10 ^ p * 10 ^ p = n
  · rw [decide_eq_true h, if_pos h]
  · rw [decide_eq_false h, if_neg h]

end Whole

/-! ### The search -/

/-- A decimal is the integer `n`, written with as many zeros as its exponent says. -/
def IsWhole (d : Decimal) (n : Nat) : Prop :=
  0 ≤ d.exponent ∧ d.digits * 10 ^ d.exponent.toNat = n

/-- The search ends with the last digit, if not before. -/
theorem isWhole_search (he : e ≤ 0) (hm : 0 < m) (hn : n * 2 ^ (-e).toNat = m) (tie : Tie)
    {top limit count : Nat} (hcount : count ≤ top) (hlimit : top < count + limit) :
    IsWhole (search tie m e top limit count) n := by
  induction limit generalizing count with
  | zero => omega
  | succ limit ih =>
    obtain ⟨p, rfl⟩ := Nat.exists_eq_add_of_le hcount
    have hp : ((count + p : Nat) : Int) - count = p := by omega
    rw [search, hp, best?_interval he hm hn]
    by_cases h : n / 10 ^ p * 10 ^ p = n
    · rw [if_pos h]
      exact ⟨Int.natCast_nonneg p, h⟩
    · rw [if_neg h]
      have hpos : p ≠ 0 := fun h0 => h (by rw [h0, Nat.pow_zero, Nat.div_one, Nat.mul_one])
      exact ih (by omega) (by omega)

/-- A decimal stays the same number when zeros are taken off its end. -/
theorem isWhole_stripped {d : Decimal} (h : IsWhole d n) (limit : Nat) :
    IsWhole (stripped limit d) n := by
  induction limit generalizing d with
  | zero => exact h
  | succ limit ih =>
    rw [stripped]
    split
    · next hzero =>
      simp only [Bool.and_eq_true, beq_iff_eq] at hzero
      obtain ⟨hexponent, hdigits⟩ := h
      refine ih ⟨by simp only; omega, ?_⟩
      have hnext : (d.exponent + 1).toNat = d.exponent.toNat + 1 := by omega
      rw [← hdigits, hnext, Nat.pow_succ', ← Nat.mul_assoc,
        Nat.div_mul_cancel (Nat.dvd_of_mod_eq_zero hzero.2)]
    · exact h

/-- The shortest decimal of a whole double is the integer, if that has at most 17 digits. -/
theorem isWhole_shortest (he : e ≤ 0) (hm : 0 < m) (hn : n * 2 ^ (-e).toNat = m) (tie : Tie)
    (hdigits : n < 10 ^ 17) : IsWhole (shortest tie m e) n := by
  have hpos : 0 < n := Nat.pos_iff_ne_zero.2 fun h0 => by
    rw [h0, Nat.zero_mul] at hn
    omega
  have hcount := (digitCount_le hpos (p := 17) (by decide)).2 hdigits
  have hdigit : 0 < digitCount n := by
    rw [digitCount, if_neg (Nat.pos_iff_ne_zero.1 hpos)]
    exact Nat.length_toDigits_pos
  rw [shortest, magnitude_whole he hn hpos]
  exact isWhole_stripped (isWhole_search he hm hn tie hdigit (by omega)) 400

end Decimal

/-! ### Text -/

/-- A point stands among the digits of a fraction, and behind a whole number that gets one. -/
theorem Number.Layout.point_mem_plain (layout : Number.Layout) (ds : List Char) {exponent : Int}
    (h : layout.pointed = true ∨ exponent < 0) : '.' ∈ layout.plain ds exponent := by
  cases exponent with
  | ofNat e =>
    rw [plain, if_pos (h.resolve_right (Int.not_lt.2 (Int.natCast_nonneg e)))]
    exact List.mem_append_right _ List.mem_cons_self
  | negSucc e =>
    rw [plain]
    split
    · exact List.mem_append_right _ List.mem_cons_self
    · exact List.mem_cons_of_mem _ List.mem_cons_self

namespace Value

/-- Without exponents, an integer is laid out as its digits. -/
theorem renderDecimal_isWhole {d : Decimal} {n : Nat} (h : d.IsWhole n) (hn : 0 < n) :
    numberLayout.renderDecimal d = Nat.toDigits 10 n := by
  obtain ⟨hexponent, rfl⟩ := h
  have hdigits : 0 < d.digits := Nat.pos_iff_ne_zero.2 fun h0 => by
    rw [h0, Nat.zero_mul] at hn
    exact Nat.lt_irrefl 0 hn
  obtain ⟨p, hp⟩ := Int.eq_ofNat_of_zero_le hexponent
  rw [hp, Int.toNat_natCast, toDigits_mul_pow hdigits]
  change Number.Layout.plain numberLayout _ d.exponent = _
  rw [hp]
  exact List.append_assoc _ _ _ |>.trans (congrArg _ (List.append_nil _))

/-- The double above all that are counted one by one is written out, too. -/
theorem renderDecimal_greatest (tie : Decimal.Tie) :
    numberLayout.renderDecimal (.shortest tie (2 ^ 52) 1) = Nat.toDigits 10 (2 ^ 53) := by
  cases tie <;> decide +kernel

/-- An integer is written with its sign and its digits. -/
theorem integerText_signed (s : Float.Model.UnpackedFloat.Sign) {n : Nat} (hn : n ≠ 0) :
    integerText (Binary64.signed s n) = Number.Layout.sign s ++ Nat.toDigits 10 n := by
  rw [integerText, Binary64.natAbs_signed]
  cases s with
  | negative => rw [if_pos (by rw [Binary64.signed]; omega)]; rfl
  | positive => rw [if_neg (by rw [Binary64.signed]; omega)]; rfl

/-- The text of a whole number of at most 53 bits is its integer. -/
theorem numberText_whole {x : Float} {n : Int} (h : Binary64.whole? x = some n)
    (hn : n.natAbs ≤ 2 ^ 53) : (numberText x).toList = integerText n := by
  rw [numberText, Number.Layout.render, String.toList_ofList]
  rcases Binary64.whole_cases h with ⟨rfl, s, hx⟩ | ⟨s, m, e, hm, hx, hpos, hs, hform⟩
  · rw [hx]
    rfl
  · have hpos : n.natAbs ≠ 0 := mt Int.natAbs_eq_zero.1 hpos
    have hbits := Binary64.isForm hx
    rw [hx, hs, integerText_signed s hpos]
    refine congrArg (Number.Layout.sign s ++ ·) ?_
    rcases Int.lt_or_le 0 e with he | he
    · -- Only one number of at most 53 bits has a step of two.
      obtain ⟨k, rfl⟩ := Int.eq_ofNat_of_zero_le (Int.le_of_lt he)
      rw [Int.toNat_of_nonpos (by omega), Nat.pow_zero, Nat.mul_one, Int.toNat_natCast] at hform
      have hfull : 2 ^ 52 ≤ m := hbits.full.resolve_right (by omega)
      have hk : k = 1 := by
        have hbound : 2 ^ 52 * 2 ^ k ≤ 2 ^ 53 := by
          rw [hform] at hn
          exact Nat.le_trans (Nat.mul_le_mul_right _ hfull) hn
        rw [← Nat.pow_add, Nat.pow_le_pow_iff_right (by decide)] at hbound
        omega
      subst hk
      obtain rfl : m = 2 ^ 52 := by omega
      rw [hform]
      exact renderDecimal_greatest _
    · rw [Int.toNat_of_nonpos he, Nat.pow_zero, Nat.mul_one] at hform
      exact renderDecimal_isWhole (Decimal.isWhole_shortest he hm hform _ (by omega)) (by omega)

end Value
end RecordFilter
