/-
# Doubles that are whole numbers

A positive double is kept as a mantissa and an exponent of fixed ranges (`Binary64.IsForm`), and
taking a double apart and putting it together again loses nothing (`pack_unpack`, `unpack_pack`).
Rounding a number that has such a form gives back the form (`round_exact`), so a whole double is
found again from its absolute value and its sign (`signed_ofInt`), unless it is a zero.
-/

import Mathlib
import RecordFilter.Number.Binary64

namespace RecordFilter
namespace Binary64

open Float.Model (UnpackedFloat Format totalExponent)
open Float.Model.UnpackedFloat

/-- The mantissas and exponents of finite doubles. -/
structure IsForm (m : Nat) (e : Int) : Prop where
  /-- No double but zero has the mantissa zero. -/
  pos : 0 < m
  /-- A mantissa has 53 bits. -/
  lt : m < 2 ^ 53
  /-- The least exponent. -/
  least : -1074 ≤ e
  /-- The greatest exponent. -/
  greatest : e ≤ 971
  /-- All bits of the mantissa are used, unless the exponent is the least. -/
  full : 2 ^ 52 ≤ m ∨ e = -1074

variable {s : Sign} {m : Nat} {e : Int} {x y : Float}

/-! ### Bits -/

/-- The bits of an exponent; none is set for a mantissa that is not full. -/
def exponentBits (m : Nat) (e : Int) : BitVec 11 :=
  if 2 ^ 52 ≤ m then .ofNat 11 (e + 1075).toNat else 0#11

/-- A sign is told from its bit. -/
theorem ofBitVec_toBitVec (s : Sign) : Sign.ofBitVec s.toBitVec = s := by
  cases s <;> rfl

/-- A bit is that of its sign. -/
theorem toBitVec_ofBitVec (b : BitVec 1) : (Sign.ofBitVec b).toBitVec = b := by
  revert b
  decide

/-- A word of 64 bits is made of its three parts. -/
theorem packComponents_unpack (b : BitVec Format.binary64.numBits) :
    packComponents .binary64 (.ofBitVec (unpackSign b)) (unpackExponent b) (unpackMantissa b) =
      b := by
  rw [packComponents, toBitVec_ofBitVec]
  ext i hi
  simp only [BitVec.getElem_append, unpackMantissa, unpackExponent, unpackSign]
  grind

/-- The sign bit of a word is the one that it was made of. -/
theorem unpackSign_packComponents (s : Sign) (e : BitVec 11) (m : BitVec 52) :
    unpackSign (packComponents .binary64 s e m) = s.toBitVec := by
  ext i hi
  simp only [packComponents, unpackSign]
  grind

/-- The hidden bit of a mantissa is worth its power of two. -/
theorem toNat_one_append (b : BitVec 52) : (1#1 ++ b).toNat = 2 ^ 52 + b.toNat := by
  rw [BitVec.toNat_append, Nat.shiftLeft_eq]
  exact (Nat.two_pow_add_eq_or_of_lt b.isLt 1).symm

/-- What a word of 64 bits holds that is a finite double. -/
theorem isForm_of_unpack {b : BitVec Format.binary64.numBits} {hm : 0 < m}
    (h : UnpackedFloat.unpack .binary64 b = .finite s m e hm) :
    IsForm m e ∧ Sign.ofBitVec (unpackSign b) = s ∧ exponentBits m e = unpackExponent b ∧
      BitVec.ofNat 52 m = unpackMantissa b := by
  have hM : (unpackMantissa b).toNat < 2 ^ 52 := (unpackMantissa b).isLt
  have hE : (unpackExponent b).toNat < 2 ^ 11 := (unpackExponent b).isLt
  rw [UnpackedFloat.unpack] at h
  split at h
  · split at h <;> cases h
  next hmax =>
  replace hmax : (unpackExponent b).toNat ≠ 2047 := fun hE => hmax (BitVec.eq_of_toNat_eq hE)
  split at h
  · next hzero =>
    split at h
    · cases h
    · injection h with hs hm he
      replace hzero : (unpackExponent b).toNat = 0 := congrArg BitVec.toNat hzero
      change (unpackExponent b).toNat - ((1023 : Int) + 52) + 1 = e at he
      refine ⟨⟨by omega, by omega, by omega, by omega, by omega⟩, hs, ?_, ?_⟩
      · rw [exponentBits, if_neg (by omega), ← BitVec.toNat_inj, hzero]
        rfl
      · rw [← hm, BitVec.ofNat_toNat, BitVec.setWidth_eq]
  · next hzero =>
    replace hzero : (unpackExponent b).toNat ≠ 0 := fun hE => hzero (BitVec.eq_of_toNat_eq hE)
    injection h with hs hm he
    rw [toNat_one_append] at hm
    change (unpackExponent b).toNat - ((1023 : Int) + 52) = e at he
    refine ⟨⟨by omega, by omega, by omega, by omega, by omega⟩, hs, ?_, ?_⟩
    · rw [exponentBits, if_pos (by omega), ← BitVec.toNat_inj, BitVec.toNat_ofNat]
      omega
    · rw [← BitVec.toNat_inj, BitVec.toNat_ofNat]
      omega

/-- A word made of the parts of a form is unpacked to it. -/
theorem unpack_components (s : Sign) (h : IsForm m e) :
    UnpackedFloat.unpack .binary64
      (packComponents .binary64 s (exponentBits m e) (.ofNat 52 m)) = .finite s m e h.pos := by
  have hlt := h.lt
  have hpos : m ≠ 0 := Nat.pos_iff_ne_zero.1 h.pos
  have hge := h.least
  have hle := h.greatest
  rw [UnpackedFloat.unpack]
  simp only [unpackMantissa_packComponents, unpackExponent_packComponents,
    unpackSign_packComponents, ofBitVec_toBitVec]
  unfold exponentBits
  split
  · next hm =>
    have hE : (BitVec.ofNat 11 (e + 1075).toNat).toNat = (e + 1075).toNat := by
      rw [BitVec.toNat_ofNat]
      omega
    rw [if_neg (by rw [← BitVec.toNat_inj, hE]; change _ ≠ 2047; omega),
      if_neg (by rw [← BitVec.toNat_inj, hE]; change _ ≠ 0; omega)]
    congr
    · rw [toNat_one_append, BitVec.toNat_ofNat]
      omega
    · change ((BitVec.ofNat 11 (e + 1075).toNat).toNat : Int) - (1023 + 52) = e
      omega
  · next hm =>
    have hM : (BitVec.ofNat 52 m).toNat = m := by
      rw [BitVec.toNat_ofNat]
      omega
    rw [if_neg (by decide), if_pos rfl,
      dif_neg fun hzero => hpos (hM.symm.trans (congrArg BitVec.toNat hzero))]
    congr
    change (0 : Int) - (1023 + 52) + 1 = e
    have := h.full
    omega

/-- A form is packed to the word made of its parts. -/
theorem pack_finite (s : Sign) (h : IsForm m e) :
    UnpackedFloat.pack .binary64 (.finite s m e h.pos) =
      packComponents .binary64 s (exponentBits m e) (.ofNat 52 m) := by
  have hlt := h.lt
  have hpos : m ≠ 0 := Nat.pos_iff_ne_zero.1 h.pos
  have hge := h.least
  have hle := h.greatest
  have hbias : e + (Format.binary64.exponentBias : Int) +
      (Format.binary64.mantissaBitsWithoutImplicit : Int) = e + 1075 := by
    change e + 1023 + 52 = e + 1075
    omega
  rw [UnpackedFloat.pack, hbias]
  rw [if_neg (by change ¬ 2 ^ 11 ≤ _; omega)]
  have hlog : m.log2 + 1 = Format.binary64.mantissaBits ↔ 2 ^ 52 ≤ m := by
    change m.log2 + 1 = 53 ↔ _
    have := Nat.le_log2 (n := m) (k := 52) (by omega)
    have := Nat.log2_lt (n := m) (k := 53) (by omega)
    omega
  unfold exponentBits
  split
  · next hm => rw [if_pos (hlog.1 hm)]
  · next hm => rw [if_neg (mt hlog.2 hm)]

/-- Nothing is lost of a word of 64 bits that stands for a double. -/
theorem pack_unpack_word {b : BitVec Format.binary64.numBits} (hvalid : Format.binary64.Valid b) :
    UnpackedFloat.pack .binary64 (UnpackedFloat.unpack .binary64 b) = b := by
  have hparts := packComponents_unpack b
  by_cases hfinite : ∃ s m e hm, UnpackedFloat.unpack .binary64 b = .finite s m e hm
  · obtain ⟨s, m, e, hm, h⟩ := hfinite
    obtain ⟨hform, hs, he, hmantissa⟩ := isForm_of_unpack h
    rw [h, pack_finite s hform, he, hmantissa, ← hs, hparts]
  · rw [UnpackedFloat.unpack] at hfinite ⊢
    split
    · next hexponent =>
      split
      · next hmantissa =>
        rw [hexponent, hmantissa] at hparts
        exact hparts
      · next hmantissa => exact (hvalid.eq_packedNaN hexponent hmantissa).symm
    · next hmax =>
      rw [if_neg hmax] at hfinite
      split
      · next hexponent =>
        rw [if_pos hexponent] at hfinite
        split
        · next hmantissa =>
          rw [hexponent, hmantissa] at hparts
          exact hparts
        · next hmantissa => exact absurd ⟨_, _, _, _, dif_neg hmantissa⟩ hfinite
      · next hexponent => exact absurd ⟨_, _, _, _, if_neg hexponent⟩ hfinite

/-- A double is unpacked and packed to itself. -/
theorem pack_unpack (x : Float) : .ofModel (.pack (unpack x)) = x := by
  obtain ⟨⟨bits, hvalid⟩⟩ := x
  simp only [unpack, Float.Model.unpack, Float.Model.pack, pack_unpack_word hvalid]

/-- A form is packed and unpacked to itself. -/
theorem unpack_pack (s : Sign) (h : IsForm m e) :
    unpack (.ofModel (.pack (.finite s m e h.pos))) = .finite s m e h.pos := by
  change UnpackedFloat.unpack .binary64 (UnpackedFloat.pack .binary64 _) = _
  rw [pack_finite s h, unpack_components s h]

/-- The parts of a finite double have a form. -/
theorem isForm {hm : 0 < m} (h : unpack x = .finite s m e hm) : IsForm m e :=
  (isForm_of_unpack h).1

/-! ### Rounding -/

/-- Rounding leaves 53 bits, or the least exponent. -/
theorem targetExponent_eq (t : Int) : Format.binary64.targetExponent t = max (t - 53) (-1074) := rfl

/-- Each factor of two is another bit. -/
theorem log2_scaled (hm : m ≠ 0) (k : Nat) : (m * 2 ^ k).log2 = m.log2 + k := by
  induction k with
  | zero => rw [Nat.pow_zero, Nat.mul_one]; rfl
  | succ k ih =>
    have hpos : m * 2 ^ k ≠ 0 := Nat.mul_ne_zero hm (Nat.pos_iff_ne_zero.1 (Nat.two_pow_pos k))
    rw [Nat.pow_succ', Nat.mul_left_comm, Nat.log2_two_mul hpos, ih, Nat.add_assoc]

/-- A form has the exponent that is aimed at. -/
theorem IsForm.targetExponent (h : IsForm m e) :
    Format.binary64.targetExponent (totalExponent m e) = e := by
  rw [targetExponent_eq, totalExponent]
  have hpos := Nat.pos_iff_ne_zero.1 h.pos
  have := (Nat.log2_lt hpos).2 h.lt
  have := Nat.le_log2 (k := 52) hpos
  have := h.full
  have := h.least
  omega

/-- The total exponent does not depend on how a number is scaled. -/
theorem totalExponent_scaled (hm : m ≠ 0) (k : Nat) :
    totalExponent (m * 2 ^ k) (e - k) = totalExponent m e := by
  rw [totalExponent, totalExponent, log2_scaled hm]
  omega

/-- Bits without value are shifted out of a mantissa. -/
theorem shiftRight_scaled (m k : Nat) :
    (⟨m * 2 ^ k, false, false⟩ : ExtendedMantissa) >>> k = ⟨m, false, false⟩ := by
  induction k generalizing m with
  | zero => rw [Nat.pow_zero, Nat.mul_one]; rfl
  | succ k ih =>
    have hone : (⟨m * 2, false, false⟩ : ExtendedMantissa).shiftRightOne = ⟨m, false, false⟩ := by
      rw [ExtendedMantissa.shiftRightOne, Nat.mul_div_cancel m (by decide), Nat.mul_mod_left]
      rfl
    rw [Nat.pow_succ', ← Nat.mul_assoc]
    exact (congrArg ExtendedMantissa.shiftRightOne (ih (m * 2))).trans hone

/-- A form that is scaled up is shifted back to itself exactly. -/
theorem shiftToTargetExponent_scaled (h : IsForm m e) (k : Nat) :
    shiftToTargetExponent .binary64 (m * 2 ^ k) (e - k) .exact = (⟨m, false, false⟩, e) := by
  have hshift : (e - (e - k)).toNat = k := by omega
  rw [shiftToTargetExponent, totalExponent_scaled (Nat.pos_iff_ne_zero.1 h.pos),
    h.targetExponent, shiftToExponent, hshift, ExtendedMantissa.ofMantissaAndAccuracy,
    shiftRight_scaled, Int.sub_add_cancel]

/-- Nothing is rounded where only bits without value are cut off. -/
theorem roundWithAccuracy_scaled (s : Sign) (h : IsForm m e) (k : Nat) :
    roundWithAccuracy .binary64 s (m * 2 ^ k) (e - k) .exact = .finite s m e h.pos := by
  have hagain : shiftToTargetExponent .binary64 m e .exact = (⟨m, false, false⟩, e) := by
    have := shiftToTargetExponent_scaled h 0
    rwa [Nat.pow_zero, Nat.mul_one, Int.natCast_zero, Int.sub_zero] at this
  have hround : (⟨m, false, false⟩ : ExtendedMantissa).roundedMantissa = m := rfl
  simp only [roundWithAccuracy, shiftToTargetExponent_scaled h k, hround, hagain,
    Nat.pos_iff_ne_zero.1 h.pos, dif_neg, not_false_iff]

/-- Bits without value are cut off a mantissa that is too long. -/
theorem round_shifted (s : Sign) (h : IsForm m e) (k : Nat) :
    UnpackedFloat.round .binary64 s (m * 2 ^ k) (e - k) = .finite s m e h.pos := by
  have htotal := totalExponent_scaled (e := e) (Nat.pos_iff_ne_zero.1 h.pos) k
  have hnone : (e - k - e).toNat = 0 := by omega
  simp only [UnpackedFloat.round, htotal, h.targetExponent, decreaseExponent, hnone]
  rw [Nat.shiftLeft_zero, Int.natCast_zero, Int.sub_zero]
  exact roundWithAccuracy_scaled s h k

/-- A mantissa that is too short is filled up with zeros. -/
theorem round_unshifted (s : Sign) {n k : Nat} {q : Int} (h : IsForm (n * 2 ^ k) (q - k)) :
    UnpackedFloat.round .binary64 s n q = .finite s (n * 2 ^ k) (q - k) h.pos := by
  have hn : n ≠ 0 := fun h0 => Nat.pos_iff_ne_zero.1 h.pos (by rw [h0, Nat.zero_mul])
  have htotal := totalExponent_scaled (e := q) hn k
  have hshift : (q - (q - k)).toNat = k := by omega
  have hscaled := roundWithAccuracy_scaled s h 0
  rw [Nat.pow_zero, Nat.mul_one, Int.natCast_zero, Int.sub_zero] at hscaled
  simp only [UnpackedFloat.round, ← htotal, h.targetExponent, decreaseExponent, hshift,
    Nat.shiftLeft_eq]
  exact hscaled

/-- A whole number that has a form is rounded to it. -/
theorem round_exact (s : Sign) (h : IsForm m e) {n : Nat}
    (hn : n * 2 ^ (-e).toNat = m * 2 ^ e.toNat) :
    UnpackedFloat.round .binary64 s n 0 = .finite s m e h.pos := by
  rcases Int.le_total 0 e with he | he
  · have hzero : e - e.toNat = 0 := by omega
    rw [Int.toNat_of_nonpos (by omega), Nat.pow_zero, Nat.mul_one] at hn
    rw [hn, ← hzero]
    exact round_shifted s h e.toNat
  · have hexponent : e = 0 - (-e).toNat := by omega
    rw [Int.toNat_of_nonpos he, Nat.pow_zero, Nat.mul_one] at hn
    generalize (-e).toNat = k at hn hexponent
    subst hn hexponent
    exact round_unshifted s h

/-! ### Whole numbers -/

/-- The whole part of a number without a fraction, without division. -/
theorem splitScaled_whole (h : (splitScaled m e).2 = 0) :
    (splitScaled m e).1 * 2 ^ (-e).toNat = m * 2 ^ e.toNat := by
  cases e with
  | ofNat k =>
    have hnone : (-(Int.ofNat k)).toNat = 0 := Int.toNat_of_nonpos (Int.neg_natCast_le_natCast k 0)
    rw [hnone, Nat.pow_zero, Nat.mul_one, splitScaled, Nat.shiftLeft_eq]
    rfl
  | negSucc k =>
    have hdiv : m / 2 ^ (k + 1) * 2 ^ (k + 1) = m :=
      Nat.div_mul_cancel (Nat.dvd_of_mod_eq_zero h)
    rw [splitScaled, Nat.shiftRight_eq_div_pow]
    exact hdiv.trans (Nat.mul_one m).symm

/-- A number without a fraction is its whole part. -/
theorem splitScaled_eq (h : n * 2 ^ (-e).toNat = m * 2 ^ e.toNat) : splitScaled m e = (n, 0) := by
  cases e with
  | ofNat k =>
    have hnone : (-(Int.ofNat k)).toNat = 0 := Int.toNat_of_nonpos (Int.neg_natCast_le_natCast k 0)
    rw [hnone, Nat.pow_zero, Nat.mul_one] at h
    rw [splitScaled, Nat.shiftLeft_eq, h]
    rfl
  | negSucc k =>
    have hbits : m = n * 2 ^ (k + 1) := (Nat.mul_one m).symm.trans h.symm
    rw [splitScaled, Nat.shiftRight_eq_div_pow, hbits, Nat.mul_div_cancel _ (Nat.two_pow_pos _),
      Nat.mul_mod_left]

/-- A positive form that is a whole number is found to be it. -/
theorem whole?_eq_some {hm : 0 < m} (hx : unpack x = .finite .positive m e hm)
    (h : n * 2 ^ (-e).toNat = m * 2 ^ e.toNat) : whole? x = some n := by
  have hsplit := splitScaled_eq h
  simp [whole?, isWhole, truncated?, hx, hsplit, signed]

/-- A sign does not change the size. -/
theorem natAbs_signed (s : Sign) (n : Nat) : (signed s n).natAbs = n := by
  cases s <;> simp [signed]

/-- A whole double is zero, or has the form of a positive whole number. -/
theorem whole_cases {n : Int} (h : whole? x = some n) :
    (n = 0 ∧ ∃ s, unpack x = .zero s) ∨
      ∃ s m e hm, unpack x = .finite s m e hm ∧ n ≠ 0 ∧ n = signed s n.natAbs ∧
        n.natAbs * 2 ^ (-e).toNat = m * 2 ^ e.toNat := by
  rw [whole?] at h
  split at h
  · next hwhole =>
    unfold isWhole at hwhole
    unfold truncated? at h
    split at h
    · cases h
    · cases h
    · next s hx => exact .inl ⟨(Option.some.inj h).symm, s, hx⟩
    · next s m e hm hx =>
      rw [hx] at hwhole
      have hform := splitScaled_whole (eq_of_beq hwhole)
      have hn := Option.some.inj h
      have habs : n.natAbs = (splitScaled m e).1 := by rw [← hn, natAbs_signed]
      have hpos : 0 < m * 2 ^ e.toNat := Nat.mul_pos hm (Nat.two_pow_pos _)
      refine .inr ⟨s, m, e, hm, hx, fun h0 => ?_, by rw [habs, hn], by rw [habs, hform]⟩
      rw [← hform, ← habs, h0, Int.natAbs_zero, Nat.zero_mul] at hpos
      exact Nat.lt_irrefl 0 hpos
  · cases h

/-- Numbers of a form are rounded to the double that has it. -/
theorem nearest_exact (hx : unpack x = .finite s m e hm) (t : Sign) {n : Nat} (hn : n ≠ 0)
    (hform : n * 2 ^ (-e).toNat = m * 2 ^ e.toNat) :
    nearest t n 0 = .ofModel (.pack (.finite t m e hm)) := by
  rw [nearest, if_neg hn, round_exact t (isForm hx) hform]

/-- A product with one is exact. -/
theorem mul_one_form {y : Float} (h : IsForm m e) (hx : unpack x = .finite s m e h.pos)
    (hy : unpack y = .finite .positive (2 ^ 52) (-52) (by decide)) : x * y = x := by
  have hsign : s * Sign.positive = s := by cases s <;> rfl
  change Float.ofModel (.pack (UnpackedFloat.mul .binary64 (unpack x) (unpack y))) = x
  rw [hx, hy, UnpackedFloat.mul, hsign, show e + (-52) = e - (52 : Nat) from rfl,
    roundWithAccuracy_scaled s h 52, ← hx, pack_unpack]

/-! ### Signs -/

/-- The opposite of the positive double of a form. -/
theorem neg_pack (h : IsForm m e) :
    -(.ofModel (.pack (.finite .positive m e h.pos)) : Float) =
      .ofModel (.pack (.finite .negative m e h.pos)) := by
  change Float.ofModel (.pack (unpack _).neg) = _
  rw [unpack_pack .positive h]
  rfl

/-- The opposite of a double is made of the same parts. -/
theorem unpack_neg (x : Float) : unpack (-x) = (unpack x).neg := by
  have hneg : -x = .ofModel (.pack (unpack x).neg) := rfl
  rw [hneg]
  cases h : unpack x with
  | finite s m e hm => exact unpack_pack (-s) (isForm h)
  | zero s => cases s <;> rfl
  | infinity s => cases s <;> rfl
  | notANumber => rfl

/-- A whole double is found from its absolute value and its sign. -/
theorem signed_ofInt {hm : 0 < m} (hx : unpack x = .finite s m e hm) {n : Nat} (hn : n ≠ 0)
    (hform : n * 2 ^ (-e).toNat = m * 2 ^ e.toNat) :
    unpack (ofInt n) = .finite .positive m e hm ∧
      (if signed s n < 0 then -ofInt n else ofInt n) = x := by
  have hbits := isForm hx
  have hofInt : ofInt n = .ofModel (.pack (.finite .positive m e hm)) := by
    rw [ofInt, if_neg (by omega), Int.natAbs_natCast, nearest_exact hx .positive hn hform]
  refine ⟨by rw [hofInt, unpack_pack .positive hbits], ?_⟩
  cases s with
  | negative =>
    rw [if_pos (by rw [signed]; omega), hofInt, neg_pack hbits, ← hx, pack_unpack]
  | positive => rw [if_neg (by rw [signed]; omega), hofInt, ← hx, pack_unpack]

/-- The double without the sign of a zero. -/
def unsignedZero (x : Float) : Float :=
  match unpack x with
  | .zero _ => ofInt 0
  | _ => x

/-- A zero loses its sign. -/
theorem unsignedZero_zero (h : unpack x = .zero s) : unsignedZero x = ofInt 0 := by
  rw [unsignedZero, h]

/-- Other doubles than zero keep their sign. -/
theorem unsignedZero_finite {hm : 0 < m} (h : unpack x = .finite s m e hm) :
    unsignedZero x = x := by
  rw [unsignedZero, h]

/-- Doubles are the same if they are equal, or if neither is a number. -/
theorem same_eq (x y : Float) :
    same x y = ((unpack x).beq (unpack y) || (unpack x).isNaN && (unpack y).isNaN) := rfl

/-- Doubles that are unpacked to the same are the same. -/
theorem unpack_inj (h : unpack x = unpack y) : x = y := by
  rw [← pack_unpack x, h, pack_unpack]

/-- A double that is a number equals itself. -/
theorem beq_self {a : UnpackedFloat} (h : a.isNaN = false) : a.beq a = true := by
  cases a with
  | notANumber => cases h
  | infinity s => cases s <;> rfl
  | zero s => rfl
  | finite s m e hm => cases s <;> simp [UnpackedFloat.beq, UnpackedFloat.compare]

/-- There is one double that is not a number. -/
theorem eq_notANumber {a : UnpackedFloat} (h : a.isNaN = true) : a = .notANumber := by
  cases a with
  | notANumber => rfl
  | _ => cases h

/-- Forms that compare as equal are one form, or two zeros. -/
theorem eq_or_zero_of_beq {a b : UnpackedFloat} (h : a.beq b = true) :
    a = b ∨ ∃ s t, a = .zero s ∧ b = .zero t := by
  cases a with
  | notANumber => cases h
  | infinity s =>
    left
    cases b with
    | infinity t => cases s <;> cases t <;> first | rfl | cases h
    | _ => cases s <;> cases h
  | zero s =>
    cases b with
    | zero t => exact .inr ⟨s, t, rfl, rfl⟩
    | notANumber => cases h
    | infinity t | finite t => cases t <;> cases h
  | finite s m e hm =>
    left
    cases b with
    | finite t n f hn =>
      have hparts : s = t ∧ compare e f = .eq ∧ compare m n = .eq := by
        cases s <;> cases t
        · simpa [UnpackedFloat.beq, UnpackedFloat.compare, Ordering.swap_eq_eq,
            Ordering.then_eq_eq] using h
        · cases h
        · cases h
        · simpa [UnpackedFloat.beq, UnpackedFloat.compare, Ordering.then_eq_eq] using h
      obtain ⟨rfl, he, hm⟩ := hparts
      obtain rfl := Int.compare_eq_eq.1 he
      obtain rfl := Nat.compare_eq_eq.1 hm
      rfl
    | notANumber => cases s <;> cases h
    | zero t => cases s <;> cases h
    | infinity t => cases s <;> cases t <;> cases h

/-- **Two doubles are the same number if they are one double, or zeros.** -/
theorem same_iff : same x y = true ↔ x = y ∨ ∃ s t, unpack x = .zero s ∧ unpack y = .zero t := by
  rw [same_eq, Bool.or_eq_true, Bool.and_eq_true]
  constructor
  · rintro (h | ⟨hx, hy⟩)
    · exact (eq_or_zero_of_beq h).imp_left unpack_inj
    · exact .inl (unpack_inj ((eq_notANumber hx).trans (eq_notANumber hy).symm))
  · rintro (rfl | ⟨s, t, hx, hy⟩)
    · cases hnan : (unpack x).isNaN
      · exact .inl (beq_self hnan)
      · exact .inr ⟨rfl, rfl⟩
    · rw [hx, hy]
      exact .inl rfl

/-- The two zeros are the same number. -/
theorem same_unsignedZero (x : Float) : same (unsignedZero x) x = true := by
  rw [same_iff]
  cases h : unpack x with
  | zero s => exact .inr ⟨.positive, s, by rw [unsignedZero_zero h]; rfl, rfl⟩
  | notANumber | infinity s | finite s m e hm => exact .inl (by rw [unsignedZero, h])

end Binary64
end RecordFilter
