/-
# Every number is read again

A number in JSON is written with the fewest digits that read back to it, but it is read by rounding
its digits and a power of ten one after the other, so it may be read as a neighbour.  It is certain
that it is read (`exists_numberJson`).  The one thing that could go wrong is that the product is
infinite: the decimal that is written is less than a step above the number
(`Decimal.IsNear.le_succ`), so only the eight greatest doubles come near that, and these are tried
(`isSome_greatest`).

What is written is a numeral (`ofDecimal`), so its digits, its value and the text are compared once,
for each place where the point can stand (`Spells`).
-/

import Mathlib
import RecordFilter.Proofs.Json.Scan
import RecordFilter.Proofs.Number.Shortest

namespace RecordFilter
namespace Json
namespace Numeral

open Binary64 (IsForm size)
open RecordFilter.Numeral (IsRun isDigit_of_mem_toDigits isRun_toDigits)

variable {n : Numeral} {l : Leading} {d : Decimal} {c : Char} {cs : List Char} {k : Nat} {m : Nat}
  {e : Int} {negative : Bool}

/-! ### Leading digits -/

/-- The number that a numeral with digits after the point is, without its sign and exponent. -/
def fixed (n : Numeral) : ℚ :=
  Nat.ofDigitChars 10 (n.whole ++ n.fraction) 0 * 10 ^ (-(n.fraction.length : Int))

/-- A digit of a fraction is taken up, or there is no room for it. -/
theorem pushFraction_cases (l : Leading) (c : Char) :
    l.pushFraction c = ⟨l.digits * 10 + (c.toNat - '0'.toNat), l.exponent - 1, false⟩ ∧
        l.full = false ∨
      l.pushFraction c = { l with full := true } := by
  simp only [Leading.pushFraction, Leading.push?]
  by_cases hfits : !l.full && decide (l.digits * 10 + (c.toNat - '0'.toNat) < 2 ^ 64)
  · left
    rw [if_pos hfits]
    simp only [Bool.and_eq_true, Bool.not_eq_true'] at hfits
    exact ⟨rfl, hfits.1⟩
  · right
    rw [if_neg hfits]

/-- Digits that are dropped after the point only make a number smaller. -/
theorem foldl_pushFraction_le (cs : List Char) (value places : Nat)
    (hle : (l.digits : ℚ) * 10 ^ l.exponent ≤ value * 10 ^ (-(places : Int)))
    (hexact : l.full = false → l.exponent = -places) :
    ((cs.foldl Leading.pushFraction l).digits : ℚ) *
        10 ^ (cs.foldl Leading.pushFraction l).exponent ≤
      Nat.ofDigitChars 10 cs value * 10 ^ (-((places + cs.length : Nat) : Int)) := by
  induction cs generalizing l value places with
  | nil => exact hle
  | cons c cs ih =>
    have hplace : (10 : ℚ) ^ (-(places : Int)) = 10 * 10 ^ (-((places + 1 : Nat) : Int)) := by
      rw [← zpow_one_add₀ (by norm_num)]
      congr 1
      omega
    have hpos : (0 : ℚ) < 10 ^ (-((places + 1 : Nat) : Int)) := by positivity
    rw [List.foldl_cons, Nat.ofDigitChars_cons, List.length_cons, Nat.add_comm cs.length,
      ← Nat.add_assoc]
    rcases pushFraction_cases l c with ⟨hpush, hfull⟩ | hpush
    · rw [hpush]
      have hexponent := hexact hfull
      refine ih _ _ ?_ fun _ => by rw [hexponent]; dsimp only; omega
      have hdigits : (l.digits : ℚ) ≤ value := by
        rw [hexponent] at hle
        exact le_of_mul_le_mul_right hle (by positivity)
      have hnext : l.exponent - 1 = -((places + 1 : Nat) : Int) := by
        rw [hexponent]
        omega
      rw [hnext]
      refine mul_le_mul_of_nonneg_right ?_ hpos.le
      push_cast
      linarith
    · rw [hpush]
      refine ih _ _ ?_ nofun
      have hdigit : (0 : ℚ) ≤ (c.toNat - '0'.toNat : Nat) := Nat.cast_nonneg _
      calc (l.digits : ℚ) * 10 ^ l.exponent ≤ value * 10 ^ (-(places : Int)) := hle
        _ = (10 * value : Nat) * 10 ^ (-((places + 1 : Nat) : Int)) := by
          rw [hplace]
          push_cast
          ring
        _ ≤ (10 * value + (c.toNat - '0'.toNat) : Nat) * 10 ^ (-((places + 1 : Nat) : Int)) := by
          refine mul_le_mul_of_nonneg_right ?_ hpos.le
          push_cast
          linarith

/-- The leading digits of a numeral are at most the numeral, if the digits before the point all
count. -/
theorem leading_le (hwhole : Nat.ofDigitChars 10 n.whole 0 < 2 ^ 64) :
    (n.leading.digits : ℚ) * 10 ^ n.leading.exponent ≤ n.fixed := by
  have hfraction := foldl_pushFraction_le (l := ⟨Nat.ofDigitChars 10 n.whole 0, 0, false⟩)
    n.fraction (Nat.ofDigitChars 10 n.whole 0) 0 (by simp) (by simp)
  rw [leading, foldl_pushWhole n.whole hwhole, fixed, Nat.ofDigitChars_append]
  rwa [Nat.zero_add] at hfraction

/-! ### Scaling -/

/-- A power of ten within a bound has an exponent below that of the bound. -/
theorem lt_of_pow_le {bound e q : Nat} (hpos : 0 < k) (h : (k : ℚ) * 10 ^ e ≤ bound)
    (hbound : bound < 10 ^ q) : e < q := by
  have hle : k * 10 ^ e ≤ bound := by exact_mod_cast h
  have hpow : 10 ^ e < 10 ^ q :=
    Nat.lt_of_le_of_lt (Nat.le_trans (Nat.le_mul_of_pos_left _ hpos) hle) hbound
  exact (Nat.pow_lt_pow_iff_right (by decide)).1 hpow

/-- The greatest doubles have 309 digits. -/
theorem greatest_lt_pow : (2 ^ 53 - 8) * 2 ^ 971 < 10 ^ 309 := by
  have hbits : 53 + 971 = 93 * 11 + 1 := rfl
  have hdigits : 309 = 28 * 11 + 1 := rfl
  calc (2 ^ 53 - 8) * 2 ^ 971 ≤ 2 ^ 53 * 2 ^ 971 := Nat.mul_le_mul_right _ (Nat.sub_le _ _)
    _ = (2 ^ 93) ^ 11 * 2 := by rw [← pow_add, hbits, pow_succ 2 (93 * 11), pow_mul 2 93 11]
    _ ≤ (10 ^ 28) ^ 11 * 2 := Nat.mul_le_mul_right _ (Nat.pow_le_pow_left (by decide) 11)
    _ < (10 ^ 28) ^ 11 * 10 := Nat.mul_lt_mul_of_pos_left (by decide) (by positivity)
    _ = 10 ^ 309 := by rw [hdigits, pow_succ 10 (28 * 11), pow_mul 10 28 11]

/-- A number within the range of doubles can be scaled. -/
theorem isSome_scale? {z : Int} (hbound : (k : ℚ) * 10 ^ z ≤ size (2 ^ 53 - 8) 971) :
    (scale? (Binary64.ofInt k) z).isSome := by
  cases z with
  | negSucc e =>
    simp only [scale?]
    split
    · rfl
    split <;> rfl
  | ofNat e =>
    rw [scale?]
    split
    · rfl
    · next hzero =>
      have hpos : 0 < k := Nat.pos_iff_ne_zero.2 fun hk => hzero (by rw [hk]; rfl)
      have hbound : (k : ℚ) * 10 ^ e ≤ size (2 ^ 53 - 8) 971 := by
        rwa [Int.ofNat_eq_natCast, zpow_natCast] at hbound
      have hnatural := hbound.trans_eq (Binary64.size_natCast (2 ^ 53 - 8) 971)
      have he : e ≤ 308 := Nat.le_of_lt_succ (lt_of_pow_le (q := 309) hpos hnatural greatest_lt_pow)
      have hfinite := Binary64.isInf_mul_powerOfTen hpos he hbound
      simp only [he, if_true, hfinite]
      rfl

/-- The exponent of a numeral. -/
def power (n : Numeral) : Int :=
  match n.exponent with
  | none => 0
  | some (negative, ds) => if negative then -(Decimal.ofDigits ds : Int) else Decimal.ofDigits ds

/-- A numeral whose digits before the point all count has a value, if it is not too large. -/
theorem isSome_value? (hwhole : Nat.ofDigitChars 10 n.whole 0 < 2 ^ 64) (hpower : n.power < 2 ^ 31)
    (hbound : n.fixed * 10 ^ n.power ≤ size (2 ^ 53 - 8) 971) : n.value?.isSome := by
  have hscale :
      (scale? (Binary64.ofInt n.leading.digits) (n.leading.exponent + n.power)).isSome := by
    refine isSome_scale? ?_
    calc (n.leading.digits : ℚ) * 10 ^ (n.leading.exponent + n.power)
        = n.leading.digits * 10 ^ n.leading.exponent * 10 ^ n.power := by
          rw [zpow_add₀ (by norm_num)]
          ring
      _ ≤ n.fixed * 10 ^ n.power := mul_le_mul_of_nonneg_right (leading_le hwhole) (by positivity)
      _ ≤ size (2 ^ 53 - 8) 971 := hbound
  rw [value?, Option.isSome_map, magnitude?]
  unfold power at hscale hpower
  split
  · next hnone =>
    rw [hnone] at hscale
    rwa [Int.add_zero] at hscale
  · next negative ds hsome =>
    rw [hsome] at hscale hpower
    dsimp only at hscale hpower ⊢
    split
    · exact hscale
    · next hlarge =>
      have hnegative : negative = true := by
        by_contra hpositive
        rw [if_neg hpositive] at hpower
        omega
      rw [if_pos (.inr hnegative)]
      rfl

/-! ### Decimals -/

/-- The numeral that a decimal is written as. -/
def ofDecimal (negative : Bool) (d : Decimal) : Numeral :=
  let digits := Nat.toDigits 10 d.digits
  let leading := d.exponent + digits.length - 1
  if Value.jsonLayout.isPlain leading then
    match d.exponent with
    | .ofNat e => ⟨negative, digits ++ List.replicate e '0', ['0'], none⟩
    | .negSucc e =>
      let places := e + 1
      if places < digits.length then
        ⟨negative, digits.take (digits.length - places), digits.drop (digits.length - places), none⟩
      else ⟨negative, ['0'], List.replicate (places - digits.length) '0' ++ digits, none⟩
  else
    ⟨negative, digits.take 1, digits.drop 1,
      some (decide (leading < 0), Nat.toDigits 10 leading.natAbs)⟩

/-- A decimal keeps its sign. -/
@[simp]
theorem negative_ofDecimal (negative : Bool) (d : Decimal) :
    (ofDecimal negative d).negative = negative := by
  simp only [ofDecimal]
  split
  · split
    · rfl
    · split <;> rfl
  · rfl

/-- Whether a numeral has a text and a value behind its sign. -/
structure Spells (n : Numeral) (text : List Char) (value : ℚ) : Prop where
  /-- It is written as the text. -/
  written : n.written = (if n.negative then ['-'] else []) ++ text
  /-- It is read off the text again. -/
  proper : n.IsProper
  /-- It is the number. -/
  value : n.fixed * 10 ^ n.power = value
  /-- It has few digits before the point. -/
  short : n.whole.length ≤ 16
  /-- Its exponent makes it larger only if there is something before the point. -/
  grows : n.power ≤ 0 ∨ 1 ≤ n.fixed

/-- Some digits of a run are a run. -/
theorem isRun_take {ds : List Char} (hds : IsRun ds) (hk : 0 < k) : IsRun (ds.take k) := by
  refine ⟨fun hnil => ?_, fun d hd => hds.2 d (List.mem_of_mem_take hd)⟩
  rcases List.take_eq_nil_iff.1 hnil with rfl | hnone
  · exact Nat.lt_irrefl 0 hk
  · exact hds.1 hnone

/-- The first digits of a positive number do not start with a zero. -/
theorem head?_take_toDigits (hk : 0 < k) (j : Nat) :
    ((Nat.toDigits 10 k).take j).head? ≠ some '0' := by
  intro hzero
  rcases Nat.eq_zero_or_pos j with rfl | hj
  · cases hzero
  · rw [List.head?_take, if_neg (Nat.pos_iff_ne_zero.1 hj)] at hzero
    exact head?_toDigits hk hzero

/-- A whole number, with zeros behind its digits. -/
theorem spells_whole (hk : 0 < k) {j : Nat} (hlength : (Nat.toDigits 10 k).length + j ≤ 16) :
    Spells ⟨negative, Nat.toDigits 10 k ++ List.replicate j '0', ['0'], none⟩
      (Nat.toDigits 10 k ++ List.replicate j '0' ++ ['.', '0']) (k * 10 ^ (j : Int)) := by
  have hdigits := toDigits_mul_pow hk j
  have hpos : 0 < k * 10 ^ j := Nat.mul_pos hk (Nat.pow_pos (by decide))
  rw [← hdigits]
  refine ⟨rfl, ⟨isRun_toDigits _, fun h => absurd h (head?_toDigits hpos), fun _ => ?_, nofun⟩,
    ?_, ?_, ?_⟩
  · exact ⟨List.cons_ne_nil _ _, List.forall_mem_singleton.2 rfl⟩
  · have hvalue : Nat.ofDigitChars 10 (Nat.toDigits 10 (k * 10 ^ j) ++ ['0']) 0 =
        10 * (k * 10 ^ j) := by
      rw [Nat.ofDigitChars_append, Nat.ofDigitChars_ten_toDigits]
      rfl
    simp only [fixed, hvalue, power, List.length_singleton, zpow_zero, mul_one, zpow_natCast]
    push_cast
    ring
  · simpa [hdigits] using hlength
  · exact .inl (Int.le_refl 0)

/-- A number whose point stands among its digits. -/
theorem spells_among (hk : 0 < k) {places : Nat} (hplaces : places < (Nat.toDigits 10 k).length)
    (hsome : 0 < places) (hlength : (Nat.toDigits 10 k).length - places ≤ 16) :
    Spells ⟨negative, (Nat.toDigits 10 k).take ((Nat.toDigits 10 k).length - places),
        (Nat.toDigits 10 k).drop ((Nat.toDigits 10 k).length - places), none⟩
      ((Nat.toDigits 10 k).take ((Nat.toDigits 10 k).length - places) ++
        '.' :: (Nat.toDigits 10 k).drop ((Nat.toDigits 10 k).length - places))
      (k * 10 ^ (-(places : Int))) := by
  have hdrop :
      ((Nat.toDigits 10 k).drop ((Nat.toDigits 10 k).length - places)).length = places := by
    rw [List.length_drop]
    omega
  refine ⟨?_, ⟨isRun_take (isRun_toDigits k) (by omega),
    fun h => absurd h (head?_take_toDigits hk _), fun h => ⟨h, fun d hd => ?_⟩, nofun⟩, ?_, ?_,
    .inl (Int.le_refl 0)⟩
  · obtain ⟨d, ds, hds⟩ := List.exists_cons_of_length_pos (hdrop.symm ▸ hsome)
    rw [written, hds]
    simp [fractionText, exponentText]
  · exact isDigit_of_mem_toDigits (List.mem_of_mem_drop hd)
  · simp only [fixed, power, hdrop, List.take_append_drop, Nat.ofDigitChars_ten_toDigits, zpow_zero,
      mul_one]
  · rw [List.length_take]
    omega

/-- A number whose point stands in front of its digits. -/
theorem spells_inFront {places : Nat} (hplaces : (Nat.toDigits 10 k).length ≤ places) :
    Spells ⟨negative, ['0'],
        List.replicate (places - (Nat.toDigits 10 k).length) '0' ++ Nat.toDigits 10 k, none⟩
      ('0' :: '.' ::
        (List.replicate (places - (Nat.toDigits 10 k).length) '0' ++ Nat.toDigits 10 k))
      (k * 10 ^ (-(places : Int))) := by
  obtain ⟨j, hj⟩ : ∃ j, places - (Nat.toDigits 10 k).length = j := ⟨_, rfl⟩
  obtain ⟨ds, hds⟩ : ∃ ds, List.replicate j '0' ++ Nat.toDigits 10 k = ds := ⟨_, rfl⟩
  have hlength : ds.length = places := by
    rw [← hds, List.length_append, List.length_replicate]
    omega
  have hvalue : Nat.ofDigitChars 10 (['0'] ++ ds) 0 = k := by
    rw [← hds, Nat.ofDigitChars_append, Nat.ofDigitChars_append, Nat.ofDigitChars_replicate_zero]
    exact Nat.ofDigitChars_ten_toDigits
  have hrun : IsRun ds := by
    rw [← hds]
    refine ⟨List.append_ne_nil_of_right_ne_nil _ Nat.toDigits_ne_nil, fun d hd => ?_⟩
    rcases List.mem_append.1 hd with hzero | hdigit
    · rw [List.eq_of_mem_replicate hzero]
      rfl
    · exact isDigit_of_mem_toDigits hdigit
  rw [hj, hds]
  refine ⟨?_, ⟨⟨List.cons_ne_nil _ _, List.forall_mem_singleton.2 rfl⟩, fun _ => rfl,
    fun _ => hrun, nofun⟩, ?_, Nat.one_le_ofNat, .inl (Int.le_refl 0)⟩
  · obtain ⟨d, more, rfl⟩ := List.exists_cons_of_ne_nil hrun.1
    simp [written, fractionText, exponentText]
  · simp only [fixed, hvalue, power, hlength, zpow_zero, mul_one]

/-- A number with an exponent. -/
theorem spells_scientific (hk : 0 < k) (leading : Int) :
    Spells ⟨negative, (Nat.toDigits 10 k).take 1, (Nat.toDigits 10 k).drop 1,
        some (decide (leading < 0), Nat.toDigits 10 leading.natAbs)⟩
      (Number.Layout.scientific (Nat.toDigits 10 k) leading)
      (k * 10 ^ (leading + 1 - (Nat.toDigits 10 k).length)) := by
  obtain ⟨count, hcount, hle⟩ := Decimal.exists_digitCount hk
  rw [Decimal.digitCount, if_neg (Nat.pos_iff_ne_zero.1 hk)] at hcount
  obtain ⟨n, hn⟩ : ∃ n : Numeral, n = ⟨negative, (Nat.toDigits 10 k).take 1,
      (Nat.toDigits 10 k).drop 1, some (decide (leading < 0), Nat.toDigits 10 leading.natAbs)⟩ :=
    ⟨_, rfl⟩
  have hfixed : n.fixed = k * 10 ^ (-(count : Int)) := by
    have hlength : ((Nat.toDigits 10 k).drop 1).length = count := by
      rw [List.length_drop, hcount]
      rfl
    simp only [hn, fixed, hlength, List.take_append_drop, Nat.ofDigitChars_ten_toDigits]
  have hpower : n.power = leading := by
    simp only [hn, power, Decimal.ofDigits_toDigits, decide_eq_true_eq]
    split <;> omega
  rw [← hn]
  refine ⟨?_, ⟨?_, ?_, ?_, ?_⟩, ?_, ?_, ?_⟩
  · rw [hn]
    generalize Nat.toDigits 10 k = ds
    rcases ds with _ | ⟨first, _ | ⟨second, more⟩⟩
    all_goals simp [written, fractionText, exponentText, Number.Layout.scientific]
  · rw [hn]
    exact isRun_take (isRun_toDigits k) Nat.one_pos
  · rw [hn]
    exact fun h => absurd h (head?_take_toDigits hk _)
  · rw [hn]
    exact fun h => ⟨h, fun d hd => isDigit_of_mem_toDigits (List.mem_of_mem_drop hd)⟩
  · rintro negative ds hds
    rw [hn] at hds
    cases hds
    exact isRun_toDigits _
  · rw [hfixed, hpower, hcount, mul_assoc, ← zpow_add₀ (by norm_num)]
    congr 2
    push_cast
    ring
  · rw [hn, List.length_take]
    omega
  · right
    have hle : (10 : ℚ) ^ count ≤ k := by exact_mod_cast hle
    rw [hfixed, zpow_neg, zpow_natCast, ← div_eq_mul_inv]
    exact (one_le_div₀ (by positivity)).2 hle

/-- **A decimal is written as a numeral.** -/
theorem spells_ofDecimal (negative : Bool) (hd : 0 < d.digits) :
    Spells (ofDecimal negative d) (Value.jsonLayout.renderDecimal d) d.toRat := by
  obtain ⟨digits, exponent⟩ := d
  replace hd : 0 < digits := hd
  have hpos : 0 < (Nat.toDigits 10 digits).length := Nat.length_toDigits_pos
  simp only [ofDecimal, Number.Layout.renderDecimal, Decimal.toRat]
  split
  · next hplain =>
    have hgreatest : exponent + (Nat.toDigits 10 digits).length - 1 ≤ 15 := by
      simp only [Number.Layout.isPlain, Value.jsonLayout, Option.all_some, Bool.and_eq_true,
        decide_eq_true_eq] at hplain
      exact hplain.2
    cases exponent with
    | ofNat e =>
      rw [Int.ofNat_eq_natCast] at hgreatest
      exact spells_whole hd (by omega)
    | negSucc e =>
      rw [Int.negSucc_eq] at hgreatest
      simp only [Number.Layout.plain]
      split
      · next hamong => exact spells_among hd hamong (Nat.succ_pos e) (by omega)
      · next hinFront => exact spells_inFront (Nat.not_lt.1 hinFront)
  · have hscientific := @spells_scientific _ negative hd
      (exponent + (Nat.toDigits 10 digits).length - 1)
    rwa [Int.sub_add_cancel, Int.add_sub_cancel] at hscientific

/-! ### Doubles -/

/-- Digits write less than the next power of ten. -/
theorem ofDigitChars_lt (hcs : ∀ c ∈ cs, RecordFilter.Numeral.isDigit c = true) (init : Nat) :
    Nat.ofDigitChars 10 cs init < (init + 1) * 10 ^ cs.length := by
  induction cs generalizing init with
  | nil => exact (Nat.lt_succ_self init).trans_eq (Nat.mul_one _).symm
  | cons c cs ih =>
    obtain ⟨hc, hcs⟩ := List.forall_mem_cons.1 hcs
    have hdigit : c.toNat - '0'.toNat < 10 := by
      simp only [RecordFilter.Numeral.isDigit, Bool.and_eq_true, decide_eq_true_eq] at hc
      have hle : c.toNat ≤ '9'.toNat := hc.2
      have hnine : '9'.toNat = '0'.toNat + 9 := rfl
      omega
    rw [Nat.ofDigitChars_cons, List.length_cons]
    calc Nat.ofDigitChars 10 cs (10 * init + (c.toNat - '0'.toNat))
        < (10 * init + (c.toNat - '0'.toNat) + 1) * 10 ^ cs.length := ih hcs _
      _ ≤ (init + 1) * 10 * 10 ^ cs.length := Nat.mul_le_mul_right _ (by omega)
      _ = (init + 1) * 10 ^ (cs.length + 1) := by ring

/-- The greatest double has 309 digits. -/
theorem size_greatest_lt_pow : size (2 ^ 53 - 8) (971 : Nat) < 10 ^ (309 : ℤ) := by
  have hcast : (10 : ℚ) ^ (309 : ℤ) = (10 ^ 309 : Nat) := by
    rw [Nat.cast_pow]
    rfl
  rw [Binary64.size_natCast, hcast]
  exact Nat.cast_lt.2 greatest_lt_pow

/-- What spells a number that is not too large has a value. -/
theorem Spells.isSome_value? {text : List Char} {value : ℚ} (h : Spells n text value)
    (hvalue : value ≤ size (2 ^ 53 - 8) 971) : n.value?.isSome := by
  have hwhole : Nat.ofDigitChars 10 n.whole 0 < 2 ^ 64 := by
    calc Nat.ofDigitChars 10 n.whole 0 < (0 + 1) * 10 ^ n.whole.length :=
        ofDigitChars_lt h.proper.whole.2 0
      _ ≤ (0 + 1) * 10 ^ 16 := Nat.mul_le_mul_left _ (Nat.pow_le_pow_right (by decide) h.short)
      _ < 2 ^ 64 := by decide
  have hbound := h.value.trans_le hvalue
  refine Numeral.isSome_value? hwhole ?_ hbound
  rcases h.grows with hpower | hfixed
  · omega
  · have hpow : (10 : ℚ) ^ n.power < 10 ^ (309 : ℤ) := by
      calc (10 : ℚ) ^ n.power ≤ n.fixed * 10 ^ n.power :=
          le_mul_of_one_le_left (by positivity) hfixed
        _ ≤ size (2 ^ 53 - 8) 971 := hbound
        _ < 10 ^ (309 : ℤ) := size_greatest_lt_pow
    have := (zpow_lt_zpow_iff_right₀ (by norm_num : (1 : ℚ) < 10)).1 hpow
    omega

/-- The decimals of the eight greatest doubles have a value. -/
theorem isSome_greatest : ∀ negative : Bool, ∀ j < 8,
    (ofDecimal negative (.shortest .even (2 ^ 53 - 1 - j) 971)).value?.isSome := by
  decide +kernel

/-- A step above a double is not too large, apart from the eight greatest. -/
theorem size_succ_le_greatest (h : IsForm m e) (hless : e = 971 → m < 2 ^ 53 - 8) :
    size (m + 1) e ≤ size (2 ^ 53 - 8) 971 := by
  rcases Int.lt_or_le e 971 with hlt | hge
  · have hdouble : m + 1 ≤ 2 ^ 52 * 2 ^ 1 := by
      have := h.lt
      omega
    calc size (m + 1) e ≤ size (2 ^ 52 * 2 ^ 1) e := Binary64.size_mono hdouble e
      _ = size (2 ^ 52) (e + (1 : Nat)) := (Binary64.size_shifted _ 1 e).symm
      _ ≤ size (2 ^ 52) 971 := by
        refine mul_le_mul_of_nonneg_left ?_ (Nat.cast_nonneg _)
        exact zpow_le_zpow_right₀ (by norm_num) (by omega)
      _ ≤ size (2 ^ 53 - 8) 971 := Binary64.size_mono (by decide) 971
  · obtain rfl : e = 971 := Int.le_antisymm h.greatest hge
    exact Binary64.size_mono (hless rfl) 971

/-- The shortest decimal of a double has a value. -/
theorem isSome_shortest (negative : Bool) (h : IsForm m e) :
    (ofDecimal negative (.shortest .even m e)).value?.isSome := by
  by_cases hgreatest : e = 971 ∧ 2 ^ 53 - 8 ≤ m
  · obtain ⟨rfl, hm⟩ := hgreatest
    have hlt := h.lt
    have hj := isSome_greatest negative (2 ^ 53 - 1 - m) (by omega)
    rwa [Nat.sub_sub_self (by omega)] at hj
  · have hnear := Decimal.isNear_shortest h .even
    refine (spells_ofDecimal negative (hnear.pos h.pos)).isSome_value? (hnear.le_succ.trans ?_)
    exact size_succ_le_greatest h fun he => Nat.not_le.1 fun hm => hgreatest ⟨he, hm⟩

/-- **Every finite number is read again**, as some number. -/
theorem exists_numberJson {x : Float} (hx : x.isFinite = true) :
    ∃ n : Numeral, n.IsProper ∧ n.written = Value.numberJson x ∧ n.value?.isSome := by
  rw [Value.numberJson]
  split
  · next i hi =>
    refine ⟨ofInt i, isProper_ofInt i, written_ofInt i, ?_⟩
    simp only [Value.jsonInteger?] at hi
    split at hi
    · next i' hwhole =>
      split at hi
      · next hrange =>
        obtain rfl := Option.some.inj hi
        rw [value?_integer hwhole (by omega)]
        rfl
      · cases hi
    · cases hi
  · next hnone =>
    rw [Value.pointedText, if_pos hx, Number.Layout.render, String.toList_ofList]
    cases hunpack : Binary64.unpack x with
    | notANumber =>
      change (Binary64.unpack x).isFinite = true at hx
      rw [hunpack] at hx
      cases hx
    | infinity s =>
      change (Binary64.unpack x).isFinite = true at hx
      rw [hunpack] at hx
      cases hx
    | zero s =>
      have hzero : Value.jsonInteger? x = some 0 := by
        simp [Value.jsonInteger?, Binary64.whole?, Binary64.isWhole, Binary64.truncated?, hunpack]
      rw [hzero] at hnone
      cases hnone
    | finite s m e hm =>
      have hform := Binary64.isForm hunpack
      have hpos := (Decimal.isNear_shortest hform .even).pos hm
      have hspells := spells_ofDecimal (s == .negative) hpos
      refine ⟨_, hspells.proper, hspells.written.trans ?_, isSome_shortest _ hform⟩
      rw [negative_ofDecimal]
      cases s <;> rfl

end Numeral
end Json
end RecordFilter
