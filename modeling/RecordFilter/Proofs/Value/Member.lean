/-
# Keys and their text

A map is looked up by the text of a key, a list and a string by the position that a key asks for.  A
number asks for the position that it is, a text for the one that its digits write.  Below `2 ^ 53`
the two agree (`asksAlike_propertyKey`): a whole number is written as its position
(`numberText_of_whole`), and no other number is, since the decimal that a number is written as is
near it (`numberText_cases`).  Keys of other kinds ask for nothing, and their texts have a character
that stands in no position (`isForeign`).  So a key may be replaced by its text
(`member_propertyKey`).
-/

import Mathlib
import RecordFilter.Proofs.Number.Numeral
import RecordFilter.Proofs.Number.Shortest
import RecordFilter.Value.Member

namespace RecordFilter
namespace Value

open Float.Model (UnpackedFloat)
open Numeral (isDigit isDigit_of_mem_toDigits isRun_toDigits)

variable {v k l : Value} {s : String} {c : Char} {i m n : Nat} {e : Int} {hm : 0 < m}
  {x : Float} {sign : UnpackedFloat.Sign}

/-! ### Texts that ask for a member -/

/-- Whether a character stands in no position, and not in the name of the length. -/
def isForeign (c : Char) : Bool := !isDigit c && c != '+' && !"length".toList.contains c

/-- What a foreign character stands in is not a position. -/
theorem index?_foreign (hc : c ∈ s.toList) (hf : isForeign c = true) :
    (string s).index? = none := by
  simp only [isForeign, Bool.and_eq_true, Bool.not_eq_true', bne_iff_ne] at hf
  have hall {cs : List Char} (hmem : c ∈ cs) : cs.all isDigit = false :=
    List.all_eq_false.2 ⟨c, hmem, Bool.not_eq_true _ ▸ hf.1.1⟩
  simp only [index?]
  split
  · next rest hs =>
    rw [hs] at hc
    simp [hall ((List.mem_cons.1 hc).resolve_left hf.1.2)]
  · simp [hall hc]

/-- A text with a foreign character is not `length`. -/
theorem ne_length_of_foreign (hc : c ∈ s.toList) (hf : isForeign c = true) : s ≠ "length" := by
  rintro rfl
  simp only [isForeign, Bool.and_eq_true, Bool.not_eq_true'] at hf
  rw [List.contains_iff_mem.2 hc] at hf
  exact Bool.noConfusion hf.2

/-- A run of digits is the position that it writes, if that has 64 bits. -/
theorem index?_toDigits (n : Nat) :
    (string (.ofList (Nat.toDigits 10 n))).index? = if n < 2 ^ 64 then some n else none := by
  have hrun := isRun_toDigits n
  have hvalue := Decimal.ofDigits_toDigits n
  generalize Nat.toDigits 10 n = ds at hrun hvalue
  have hall : ds.all isDigit = true := List.all_eq_true.2 hrun.2
  obtain ⟨d, more, rfl⟩ := List.exists_cons_of_ne_nil hrun.1
  have hplus : d ≠ '+' := by
    rintro rfl
    exact absurd (hrun.2 '+' List.mem_cons_self) (by decide)
  simp [index?, hplus, hall, hvalue]

/-- Whether two keys ask for the same of any sequence with fewer than `2 ^ 53` elements. -/
structure AsksAlike (k l : Value) : Prop where
  /-- Both ask for the length, or neither does. -/
  length : k.text? = some "length" ↔ l.text? = some "length"
  /-- Both ask for the same position. -/
  index : ∀ i < 2 ^ 53, k.index? = some i ↔ l.index? = some i

/-- Keys that ask for the same have the same member. -/
theorem AsksAlike.sequenceMember {α : Type} {elements : List α} (h : AsksAlike k l)
    (hshort : elements.length < 2 ^ 53) (toValue : α → Value) :
    sequenceMember elements toValue k = sequenceMember elements toValue l := by
  have helement : (k.index?.bind fun i => elements[i]?) = l.index?.bind fun i => elements[i]? := by
    ext a
    simp only [Option.bind_eq_some_iff]
    refine exists_congr fun i => and_congr_left fun ha => h.index i ?_
    have hi := (List.getElem?_eq_some_iff.1 ha).1
    omega
  simp only [Value.sequenceMember, h.length, helement]

/-! ### The text of a number -/

/-- The index of a number is the whole number that it is, below 64 bits. -/
theorem index?_number :
    (number x).index? = some i ↔ Binary64.whole? x = some (i : Int) ∧ i < 2 ^ 64 := by
  rw [index?]
  split
  · next n hn =>
    rw [hn, Option.some.injEq]
    split
    · rw [Option.some.injEq]
      omega
    · simp only [reduceCtorEq, false_iff]
      omega
  · next hn => simp [hn]

/-- A whole number of at most 53 bits is written as its position. -/
theorem numberText_of_whole (h : Binary64.whole? x = some (i : Int)) (hi : i < 2 ^ 53) :
    numberText x = .ofList (Nat.toDigits 10 i) := by
  have htext := numberText_whole h (by omega)
  rw [integerText, if_neg (by omega), Int.natAbs_natCast, List.nil_append] at htext
  rw [← String.ofList_toList (s := numberText x), htext]

/-- The digits of a number are laid out without an exponent. -/
theorem toList_numberText (hx : Binary64.unpack x = .finite sign m e hm) :
    (numberText x).toList = Number.Layout.sign sign ++ numberLayout.plain
      (Nat.toDigits 10 (Decimal.shortest .up m e).digits) (Decimal.shortest .up m e).exponent := by
  rw [numberText, Number.Layout.render, String.toList_ofList, hx]
  rfl

/-- A positive number is written with a point, or as the digits of a whole number.  Those of at most
53 bits are the number. -/
theorem numberText_positive (hx : Binary64.unpack x = .finite .positive m e hm) :
    '.' ∈ (numberText x).toList ∨ ∃ n, numberText x = .ofList (Nat.toDigits 10 n) ∧
      (n < 2 ^ 53 → Binary64.whole? x = some (n : Int)) := by
  have htext := toList_numberText hx
  have hform := Binary64.isForm hx
  have hnear := Decimal.isNear_shortest hform .up
  generalize Decimal.shortest .up m e = d at htext hnear
  obtain ⟨digits, exponent⟩ := d
  cases exponent with
  | ofNat p =>
    right
    refine ⟨digits * 10 ^ p, ?_, fun hn => ?_⟩
    · rw [← String.ofList_toList (s := numberText x), htext, toDigits_mul_pow (hnear.pos hm)]
      exact congrArg String.ofList (List.append_nil _)
    · have hrat : Decimal.toRat ⟨digits, .ofNat p⟩ = (digits * 10 ^ p : Nat) := by
        rw [Decimal.toRat, Int.ofNat_eq_natCast, zpow_natCast]
        push_cast
        rfl
      exact Binary64.whole?_eq_some hx (hnear.eq_of_whole hform hn hrat)
  | negSucc p =>
    left
    rw [htext]
    exact List.mem_append_right _
      (Number.Layout.point_mem_plain _ _ (.inr (Int.negSucc_lt_zero p)))

/-- A number is written with a foreign character, or as the digits of a whole number.  Those of at
most 53 bits are the number. -/
theorem numberText_cases (x : Float) :
    (∃ c ∈ (numberText x).toList, isForeign c = true) ∨
      ∃ n, numberText x = .ofList (Nat.toDigits 10 n) ∧
        (n < 2 ^ 53 → Binary64.whole? x = some (n : Int)) := by
  cases hx : Binary64.unpack x with
  | notANumber =>
    have htext : numberText x = "NaN" := by
      rw [numberText, Number.Layout.render, hx]
    exact .inl ⟨'N', by rw [htext]; decide, by decide⟩
  | infinity sign =>
    have htext : (numberText x).toList = Number.Layout.sign sign ++ "Infinity".toList := by
      rw [numberText, Number.Layout.render, String.toList_ofList, hx]
      rfl
    exact .inl ⟨'I', by rw [htext]; exact List.mem_append_right _ (by decide), by decide⟩
  | zero sign =>
    have hwhole : Binary64.whole? x = some ((0 : Nat) : Int) := by
      simp [Binary64.whole?, Binary64.isWhole, Binary64.truncated?, hx]
    exact .inr ⟨0, numberText_of_whole hwhole (by decide), fun _ => hwhole⟩
  | finite sign m e hm =>
    cases sign with
    | positive =>
      exact (numberText_positive hx).imp_left fun hpoint => ⟨'.', hpoint, by decide⟩
    | negative =>
      have hminus : '-' ∈ (numberText x).toList := by
        rw [toList_numberText hx]
        exact List.mem_append_left _ (List.mem_singleton_self '-')
      exact .inl ⟨'-', hminus, by decide⟩

/-! ### Keys and their text -/

/-- A key that asks for nothing may be replaced by a text with a foreign character. -/
theorem asksAlike_foreign (htext : k.text? = none) (hindex : ∀ i < 2 ^ 53, k.index? ≠ some i)
    (hc : c ∈ s.toList) (hf : isForeign c = true) : AsksAlike k (string s) := by
  have hlength : some s ≠ some "length" := fun h => ne_length_of_foreign hc hf (Option.some.inj h)
  constructor
  · rw [htext]
    exact iff_of_false nofun hlength
  · intro i hi
    rw [index?_foreign hc hf]
    exact iff_of_false (hindex i hi) nofun

/-- A number may be replaced by its text. -/
theorem asksAlike_number (x : Float) : AsksAlike (number x) (string (numberText x)) := by
  have hwritten {i : Nat} (hi : i < 2 ^ 53) (h : (number x).index? = some i) :
      (string (numberText x)).index? = some i := by
    obtain ⟨hwhole, hbits⟩ := index?_number.1 h
    rw [numberText_of_whole hwhole hi, index?_toDigits, if_pos hbits]
  rcases numberText_cases x with ⟨c, hc, hf⟩ | ⟨n, htext, hwhole⟩
  · refine asksAlike_foreign rfl (fun i hi h => ?_) hc hf
    have hsome := hwritten hi h
    rw [index?_foreign hc hf] at hsome
    cases hsome
  · constructor
    · refine iff_of_false nofun fun h => ?_
      have hlength : numberText x = "length" := Option.some.inj h
      have hletter : 'l' ∈ (numberText x).toList := by
        rw [hlength]
        decide
      rw [htext, String.toList_ofList] at hletter
      exact absurd (isDigit_of_mem_toDigits hletter) (by decide)
    · intro i hi
      refine ⟨hwritten hi, fun h => ?_⟩
      rw [htext, index?_toDigits, Option.ite_none_right_eq_some, Option.some.injEq] at h
      obtain ⟨hbits, rfl⟩ := h
      exact index?_number.2 ⟨hwhole hi, hbits⟩

/-- A key may be replaced by its text wherever a position or the length is asked for. -/
theorem asksAlike_propertyKey (k : Value) : AsksAlike k (string k.propertyKey) := by
  have hforeign {k : Value} {c : Char} (htext : k.text? = none) (hindex : k.index? = none)
      (hc : c ∈ k.shown) (hf : isForeign c = true) : AsksAlike k (string k.text) :=
    asksAlike_foreign htext (by simp [hindex]) (by rwa [text, String.toList_ofList]) hf
  cases k with
  | null => exact hforeign (c := 'u') rfl rfl (by decide) (by decide)
  | absent => exact hforeign (c := 'u') rfl rfl (by decide) (by decide)
  | bool b =>
    cases b with
    | true => exact hforeign (c := 'r') rfl rfl (by decide) (by decide)
    | false => exact hforeign (c := 'f') rfl rfl (by decide) (by decide)
  | number x =>
    have htext : (number x).propertyKey = numberText x := String.ofList_toList
    rw [htext]
    exact asksAlike_number x
  | string s => exact ⟨Iff.rfl, fun _ _ => Iff.rfl⟩
  | list items => exact hforeign (c := '[') rfl rfl List.mem_cons_self (by decide)
  | map fields => exact hforeign (c := '\x7b') rfl rfl List.mem_cons_self (by decide)

/-! ### Members -/

/-- Whether a value is no list and no string of `2 ^ 53` elements or more.  What it holds may be. -/
def IsShort : Value → Prop
  | list items => items.length < 2 ^ 53
  | string s => s.length < 2 ^ 53
  | _ => True

/-- **A key may be replaced by its text.**  In a map this is how fields are found; in a list and a
string both ask for the same position, as long as positions are whole numbers of 53 bits. -/
theorem member_propertyKey (h : v.IsShort) (k : Value) :
    v.member k = v.member (string k.propertyKey) := by
  have hkey := asksAlike_propertyKey k
  cases v with
  | map fields => rfl
  | list items => exact hkey.sequenceMember h id
  | string s => exact hkey.sequenceMember h fun c => string c.toString
  | _ => rfl

/-- The second item of a list, by a number and by its text. -/
theorem member_propertyKey_second :
    (list [null, bool true]).IsShort ∧ (number 1.0).propertyKey = "1" ∧
      (list [null, bool true]).member (number 1.0) =
        (list [null, bool true]).member (string "1") := by
  have hshort : (list [null, bool true]).IsShort := by
    change 2 < 2 ^ 53
    decide
  have hkey : (number 1.0).propertyKey = "1" := by decide +kernel
  refine ⟨hshort, hkey, ?_⟩
  rw [← hkey]
  exact member_propertyKey hshort (number 1.0)

end Value
end RecordFilter
