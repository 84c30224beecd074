/-
# Bitwise operators compute in two's complement

A word holds a whole number modulo `2 ^ 32`, and the sign of its highest bit goes on for ever in the
two's complement of that number (`testBit_toInt`).  So the bitwise operators on words are those on
whole numbers, bit by bit (`eq_of_testBit`), and a shift multiplies, or divides downwards, by a
power of two.  Every word is a double, so nothing is lost on the way back (`isWholeIn_ofInt`).
-/

import Mathlib
import RecordFilter.Operator.Apply
import RecordFilter.Proofs.Number.Word

namespace RecordFilter

open Binary64 (toRat? cut)

/-! ### Two's complement -/

section TwosComplement

variable {i j : ℤ} {k : ℕ}

/-- Whole numbers with the same bits are the same: no number that is not negative has the same bits
as one that is, as the high bits are zeros for one and ones for the other. -/
theorem eq_of_testBit (h : ∀ k, Int.testBit i k = Int.testBit j k) : i = j := by
  have hhigh (m n : ℕ) : ∃ k, m.testBit k = false ∧ n.testBit k = false := by
    have hpow {l : ℕ} (hl : l ≤ m + n) : l < 2 ^ (m + n) :=
      Nat.lt_two_pow_self.trans_le (Nat.pow_le_pow_right (by decide) hl)
    exact ⟨m + n, Nat.testBit_lt_two_pow (hpow (Nat.le_add_right m n)),
      Nat.testBit_lt_two_pow (hpow (Nat.le_add_left n m))⟩
  cases i with
  | ofNat m =>
    cases j with
    | ofNat n => exact congrArg Int.ofNat (Nat.eq_of_testBit_eq h)
    | negSucc n =>
      obtain ⟨k, hm, hn⟩ := hhigh m n
      have hk := h k
      rw [Int.testBit, Int.testBit, hm, hn] at hk
      cases hk
  | negSucc m =>
    cases j with
    | ofNat n =>
      obtain ⟨k, hm, hn⟩ := hhigh m n
      have hk := h k
      rw [Int.testBit, Int.testBit, hm, hn] at hk
      cases hk
    | negSucc n =>
      refine congrArg Int.negSucc (Nat.eq_of_testBit_eq fun k => ?_)
      exact Bool.not_inj (h k)

/-- The highest bit of a word is repeated without end in its number. -/
theorem testBit_toInt (w : Int32) (k : ℕ) :
    Int.testBit w.toInt k = if k < 32 then w.toBitVec.getLsbD k else w.toBitVec.msb := by
  have hlt := w.toBitVec.isLt
  rw [← Int32.toInt_toBitVec, BitVec.toInt_eq_msb_cond]
  cases hw : w.toBitVec.msb with
  | false =>
    change w.toBitVec.toNat.testBit k = _
    split
    · rfl
    · exact BitVec.getLsbD_of_ge _ k (by omega)
  | true =>
    have hneg : (w.toBitVec.toNat : ℤ) - (2 ^ 32 : ℕ) =
        .negSucc (2 ^ 32 - (w.toBitVec.toNat + 1)) := by
      rw [Int.negSucc_eq]
      omega
    rw [if_pos rfl, hneg, Int.testBit, Nat.testBit_two_pow_sub_succ hlt]
    split
    · next hk => rw [decide_eq_true hk, Bool.true_and, Bool.not_not, BitVec.getLsbD]
    · next hk => rw [decide_eq_false hk, Bool.false_and, Bool.not_false]

/-- An operator that works bit by bit on whole numbers and on words gives the number of a word. -/
theorem toInt_bitwise {f : Bool → Bool → Bool} {g : ℤ → ℤ → ℤ} {u v w : Int32}
    (hg : ∀ i j k, Int.testBit (g i j) k = f (Int.testBit i k) (Int.testBit j k))
    (hlow : ∀ k, w.toBitVec.getLsbD k = f (u.toBitVec.getLsbD k) (v.toBitVec.getLsbD k))
    (hhigh : w.toBitVec.msb = f u.toBitVec.msb v.toBitVec.msb) :
    w.toInt = g u.toInt v.toInt := by
  refine eq_of_testBit fun k => ?_
  rw [hg, testBit_toInt, testBit_toInt, testBit_toInt]
  split
  · exact hlow k
  · exact hhigh

variable (u v : Int32)

/-- The words of a conjunction of bits are those of the integers. -/
theorem toInt_and : (u &&& v).toInt = Int.land u.toInt v.toInt :=
  toInt_bitwise Int.testBit_land (fun _ => BitVec.getLsbD_and) BitVec.msb_and

/-- The words of a disjunction of bits are those of the integers. -/
theorem toInt_or : (u ||| v).toInt = Int.lor u.toInt v.toInt :=
  toInt_bitwise Int.testBit_lor (fun _ => BitVec.getLsbD_or) BitVec.msb_or

/-- The words of an exclusive disjunction of bits are those of the integers. -/
theorem toInt_xor : (u ^^^ v).toInt = Int.xor u.toInt v.toInt :=
  toInt_bitwise Int.testBit_lxor (fun _ => BitVec.getLsbD_xor) BitVec.msb_xor

/-- The word of a complement is that of the integer. -/
theorem toInt_not : (~~~u).toInt = Int.lnot u.toInt := by
  refine eq_of_testBit fun k => ?_
  rw [Int.testBit_lnot, testBit_toInt, testBit_toInt, Int32.toBitVec_not]
  split
  · next hk => rw [BitVec.getLsbD_not, decide_eq_true hk, Bool.true_and]
  · rw [BitVec.msb_not, decide_eq_true (by decide), Bool.true_and]

end TwosComplement

namespace Value

variable {v : Value} {a : ℚ} {z low high : ℤ}

/-! ### Shifts -/

/-- A shift takes its distance from the lowest five bits of a word. -/
theorem toNat_shiftCount (w : Value) : w.shiftCount.toNat = w.toWord.toNat % 32 :=
  UInt32.toNat_mod _ _

/-- No distance is changed by the bound of a shift. -/
theorem smod_shiftCount (w : Value) :
    (w.shiftCount.toInt32.toBitVec.smod 32).toNat = w.toWord.toNat % 32 := by
  have hlt : w.toWord.toNat % 32 < 32 := Nat.mod_lt _ (by decide)
  have hword : w.shiftCount.toInt32.toBitVec = BitVec.ofNat 32 (w.toWord.toNat % 32) := by
    apply BitVec.eq_of_toNat_eq
    change w.shiftCount.toNat = _
    rw [toNat_shiftCount, BitVec.toNat_ofNat, Nat.mod_eq_of_lt (hlt.trans (by decide))]
  rw [hword]
  generalize w.toWord.toNat % 32 = n at hlt
  interval_cases n <;> rfl

/-- A shift to the left multiplies by a power of two, modulo the words. -/
theorem toInt_shiftLeft (u : Int32) (w : Value) :
    (u <<< w.shiftCount.toInt32).toInt = (u.toInt * 2 ^ (w.toWord.toNat % 32)).bmod (2 ^ 32) := by
  rw [← Int32.toInt_toBitVec, Int32.toBitVec_shiftLeft, BitVec.shiftLeft_eq', smod_shiftCount,
    BitVec.toInt_shiftLeft, ← Int32.toInt_toBitVec, BitVec.toInt_eq_toNat_bmod u.toBitVec,
    Int.bmod_mul_bmod, Nat.shiftLeft_eq]
  push_cast
  rfl

/-- A shift to the right divides by a power of two, and keeps the sign. -/
theorem toInt_shiftRight (u : Int32) (w : Value) :
    (u >>> w.shiftCount.toInt32).toInt = u.toInt / 2 ^ (w.toWord.toNat % 32) := by
  rw [← Int32.toInt_toBitVec, Int32.toBitVec_shiftRight, BitVec.toInt_sshiftRight',
    smod_shiftCount, Int.shiftRight_eq_div_pow, Int32.toInt_toBitVec]
  push_cast
  rfl

/-- A shift to the right of a word without a sign divides by a power of two. -/
theorem toNat_shiftRight (u : UInt32) (w : Value) :
    (u >>> w.shiftCount).toNat = u.toNat / 2 ^ (w.toWord.toNat % 32) := by
  rw [UInt32.toNat_shiftRight, toNat_shiftCount, Nat.mod_mod, Nat.shiftRight_eq_div_pow]

/-! ### Words as numbers -/

/-- A value that is the whole number `z` exactly, where `z` is at least `low` and below `high`. -/
structure IsWholeIn (low high z : ℤ) (v : Value) : Prop where
  /-- The value is the number that `z` is made into. -/
  eq : v = number (Binary64.ofInt z)
  /-- That number is `z`. -/
  exact : toRat? (Binary64.ofInt z) = some (z : ℚ)
  /-- The lower bound. -/
  low_le : low ≤ z
  /-- The upper bound, which is not reached. -/
  lt_high : z < high

/-- The value is a whole number in the range of words with a sign. -/
abbrev IsSigned (z : ℤ) (v : Value) : Prop := IsWholeIn (-2 ^ 31) (2 ^ 31) z v

/-- The value is a whole number in the range of words without a sign. -/
abbrev IsUnsigned (z : ℤ) (v : Value) : Prop := IsWholeIn 0 (2 ^ 32) z v

/-- An integer in a range that a double has exactly is a whole number there. -/
theorem isWholeIn_ofInt (hlow : low ≤ z) (hhigh : z < high) (hsmall : z.natAbs < 2 ^ 53) :
    IsWholeIn low high z (number (Binary64.ofInt z)) :=
  ⟨rfl, Binary64.toRat?_ofInt (Binary64.isDouble_intCast hsmall), hlow, hhigh⟩

/-- A signed word is a whole number in the range of those. -/
theorem isSigned_ofSignedWord (w : Int32) : IsSigned w.toInt (ofSignedWord w) := by
  have hlow := w.le_toInt
  have hhigh := w.toInt_lt
  exact isWholeIn_ofInt hlow hhigh (by omega)

/-- A word is a whole number in the range of those. -/
theorem isUnsigned_ofWord (w : UInt32) : IsUnsigned w.toNat (ofWord w) := by
  have hhigh := w.toNat_lt
  exact isWholeIn_ofInt (by omega) (by omega) (by omega)

/-- A signed word is the integer that it stands for. -/
theorem IsSigned.ofSignedWord {w : Int32} (h : w.toInt = z) : IsSigned z (ofSignedWord w) := by
  rw [← h]
  exact isSigned_ofSignedWord w

/-! ### Values as words -/

/-- The word of a value is its number modulo `2 ^ 32`. -/
theorem toNat_toWord (h : toRat? v.toNumber = some a) : (v.toWord.toNat : ℤ) = cut a % 2 ^ 32 :=
  Binary64.toNat_word h

/-- With its highest bit as a sign, a word holds the same number up to a multiple of `2 ^ 32`. -/
theorem toInt_toSignedWord (v : Value) :
    v.toSignedWord.toInt = (v.toWord.toNat : ℤ).bmod (2 ^ 32) :=
  BitVec.toInt_eq_toNat_bmod _

/-- The signed word of a value is its number without the fraction, modulo the words. -/
theorem toSignedWord_modEq (h : toRat? v.toNumber = some a) :
    v.toSignedWord.toInt ≡ cut a [ZMOD 2 ^ 32] := by
  rw [toInt_toSignedWord, toNat_toWord h]
  exact (Int.bmod_emod ..).trans (Int.emod_emod_of_dvd _ dvd_rfl)

/-- An integer has no fraction to be cut off. -/
theorem cut_intCast (z : ℤ) : cut (z : ℚ) = z := by
  rw [cut, Int.floor_intCast, Int.ceil_intCast, ite_self]

/-- A word goes through a number unchanged. -/
theorem toSignedWord_ofSignedWord (w : Int32) : (ofSignedWord w).toSignedWord = w := by
  have hword := toSignedWord_modEq (v := ofSignedWord w) (isSigned_ofSignedWord w).exact
  rw [cut_intCast] at hword
  have hlow := w.le_toInt
  have hhigh := w.toInt_lt
  have hlow' := (ofSignedWord w).toSignedWord.le_toInt
  have hhigh' := (ofSignedWord w).toSignedWord.toInt_lt
  rw [Int.ModEq] at hword
  exact Int32.toInt_inj.1 (by omega)

/-- Zero has the word zero. -/
theorem toWord_zero : (number 0.0).toWord = 0 := by
  have hzero := toNat_toWord (v := number 0.0) (a := 0) rfl
  exact UInt32.toNat_inj.1 (Int.ofNat_inj.1 hzero)

/-- Zero has the signed word zero. -/
theorem toSignedWord_zero : (number 0.0).toSignedWord = 0 := by
  rw [toSignedWord, toWord_zero]
  rfl

/-- Zero shifts nothing. -/
theorem shiftCount_zero : (number 0.0).shiftCount = 0 := by
  rw [shiftCount, toWord_zero]
  rfl

/-- **Bitwise operators are exact.**  The word of a value is its number cut towards zero and taken
modulo `2 ^ 32`, with its highest bit as a sign the number between `-2 ^ 31` and `2 ^ 31` that is
the same modulo `2 ^ 32`, and zero where the number is not finite.  On words the operators compute
in two's complement, shift by at most 31 bits, and give back exactly the number of the word that
results; those that change nothing give the word of their operand. -/
theorem words_exact :
    (∀ v : Value,
      (v.toNumber.isFinite = true → ∃ a, toRat? v.toNumber = some a ∧
        (v.toWord.toNat : ℤ) = cut a % 2 ^ 32 ∧
        v.toSignedWord.toInt ≡ cut a [ZMOD 2 ^ 32] ∧
        -2 ^ 31 ≤ v.toSignedWord.toInt ∧ v.toSignedWord.toInt < 2 ^ 31) ∧
      (v.toNumber.isFinite = false → v.toWord = 0 ∧ v.toSignedWord = 0)) ∧
    (∀ v w : Value,
      IsSigned (Int.land v.toSignedWord.toInt w.toSignedWord.toInt) (BinaryOp.bitAnd.apply v w) ∧
      IsSigned (Int.lor v.toSignedWord.toInt w.toSignedWord.toInt) (BinaryOp.bitOr.apply v w) ∧
      IsSigned (Int.xor v.toSignedWord.toInt w.toSignedWord.toInt) (BinaryOp.bitXor.apply v w) ∧
      IsSigned (Int.lnot v.toSignedWord.toInt) (UnaryOp.bitNot.apply v) ∧
      IsSigned ((v.toSignedWord.toInt * 2 ^ (w.toWord.toNat % 32)).bmod (2 ^ 32))
        (BinaryOp.shiftLeft.apply v w) ∧
      IsSigned (v.toSignedWord.toInt / 2 ^ (w.toWord.toNat % 32))
        (BinaryOp.shiftRight.apply v w) ∧
      IsUnsigned (v.toWord.toNat / 2 ^ (w.toWord.toNat % 32) : ℕ)
        (BinaryOp.unsignedShiftRight.apply v w)) ∧
    ∀ v : Value,
      IsSigned v.toSignedWord.toInt (UnaryOp.bitNot.apply (UnaryOp.bitNot.apply v)) ∧
      IsSigned v.toSignedWord.toInt (BinaryOp.bitOr.apply v (number 0.0)) ∧
      IsSigned v.toSignedWord.toInt (BinaryOp.shiftLeft.apply v (number 0.0)) ∧
      IsSigned v.toSignedWord.toInt (BinaryOp.shiftRight.apply v (number 0.0)) ∧
      IsUnsigned v.toWord.toNat (BinaryOp.unsignedShiftRight.apply v (number 0.0)) := by
  refine ⟨fun v => ⟨?_, ?_⟩, fun v w => ⟨?_, ?_, ?_, ?_, ?_, ?_, ?_⟩, fun v => ?_⟩
  · intro hfinite
    cases h : toRat? v.toNumber with
    | none =>
      rw [Binary64.toRat?_eq_none_iff.1 h] at hfinite
      cases hfinite
    | some a =>
      exact ⟨a, rfl, toNat_toWord h, toSignedWord_modEq h, Int32.le_toInt _, Int32.toInt_lt _⟩
  · intro h
    have hzero : v.toWord = 0 := Binary64.word_of_not_finite h
    rw [toSignedWord, hzero]
    exact ⟨rfl, rfl⟩
  · exact .ofSignedWord (toInt_and _ _)
  · exact .ofSignedWord (toInt_or _ _)
  · exact .ofSignedWord (toInt_xor _ _)
  · exact .ofSignedWord (toInt_not _)
  · exact .ofSignedWord (toInt_shiftLeft _ _)
  · exact .ofSignedWord (toInt_shiftRight _ _)
  · rw [← toNat_shiftRight]
    exact isUnsigned_ofWord _
  · refine ⟨.ofSignedWord ?_, .ofSignedWord ?_, .ofSignedWord ?_, .ofSignedWord ?_, ?_⟩
    · rw [UnaryOp.apply, toSignedWord_ofSignedWord, Int32.not_not]
    · rw [toSignedWord_zero, Int32.or_zero]
    · rw [shiftCount_zero, UInt32.toInt32_ofNat, Int32.shiftLeft_zero]
    · rw [shiftCount_zero, UInt32.toInt32_ofNat, Int32.shiftRight_zero]
    · rw [BinaryOp.apply, shiftCount_zero, UInt32.shiftRight_zero]
      exact isUnsigned_ofWord _

/-- A text of a number below `-2 ^ 32`, with a fraction. -/
theorem words_exact_text :
    (string "-4294967297.5").toNumber.isFinite = true ∧
      (string "-4294967297.5").toWord = 4294967295 ∧
      ∃ a, toRat? (string "-4294967297.5").toNumber = some a ∧
        ((string "-4294967297.5").toWord.toNat : ℤ) = cut a % 2 ^ 32 ∧
        (string "-4294967297.5").toSignedWord.toInt ≡ cut a [ZMOD 2 ^ 32] := by
  have hfinite : (string "-4294967297.5").toNumber.isFinite = true := by decide
  obtain ⟨a, ha, hword, hsigned, -⟩ := (words_exact.1 _).1 hfinite
  exact ⟨hfinite, by decide, a, ha, hword, hsigned⟩

end Value
end RecordFilter
