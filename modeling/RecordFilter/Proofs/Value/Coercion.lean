/-
# The texts that stand for numbers

The number of a string is decided by what is left of it without the white space at its ends
(`Value.IsTrimmed`).  That is a number where it is empty, one of three spellings of an infinity
(`Value.IsInfinity`), or a decimal with a sign or without one (`Numeral.Signed`), and nowhere else
(`toNumber_string`).

The other names of doubles have a letter that no decimal has (`hasOtherLetter_of_name`), so they are
kept out before a decimal is looked for, and no decimal is (`hasOtherLetter_of_signed`).
-/

import Mathlib
import RecordFilter.Proofs.Number.Numeral
import RecordFilter.Proofs.Number.Range
import RecordFilter.Proofs.Unicode.Character
import RecordFilter.Value.Coercion

namespace RecordFilter
namespace Value

open Numeral (IsSign IsRun Signed Unsigned)

/-- The three spellings of an infinity, and whether its sign is a minus. -/
inductive IsInfinity : List Char → Bool → Prop where
  | intro {sign negative} (hs : IsSign sign negative) :
      IsInfinity (sign ++ "Infinity".toList) negative

variable {s : String} {cs t before behind sign name : List Char} {negative : Bool} {d : Decimal}
  {x y : Float} {c : Char}

/-! ### White space at the ends -/

/-- A text without the white space in front of it and behind it. -/
def IsTrimmed (cs t : List Char) : Prop :=
  ∃ before behind, cs = before ++ (t ++ behind) ∧
    (∀ c ∈ before, Unicode.isWhiteSpace c = true) ∧ (∀ c ∈ behind, Unicode.isWhiteSpace c = true) ∧
    (∀ c ∈ t.head?, Unicode.isWhiteSpace c = false) ∧
    ∀ c ∈ t.getLast?, Unicode.isWhiteSpace c = false

/-- Characters are dropped up to a text that starts with no such one. -/
theorem dropWhile_append_front {p : Char → Bool} (hb : ∀ c ∈ before, p c = true)
    (ht : ∀ c ∈ t.head?, p c = false) : (before ++ t).dropWhile p = t := by
  rw [List.dropWhile_append_of_pos hb]
  cases t with
  | nil => rfl
  | cons c t => exact List.dropWhile_cons_of_neg (Bool.eq_false_iff.1 (ht c rfl))

/-- There is one way to trim a text. -/
theorem IsTrimmed.trimmed_eq (h : IsTrimmed cs t) : trimmed cs = t := by
  obtain ⟨before, behind, rfl, hbefore, hbehind, hhead, hlast⟩ := h
  rcases List.eq_nil_or_concat t with rfl | ⟨u, c, rfl⟩
  · have hall : ∀ c ∈ before ++ behind, Unicode.isWhiteSpace c = true :=
      List.forall_mem_append.2 ⟨hbefore, hbehind⟩
    rw [trimmed, List.nil_append, List.dropWhile_eq_nil_iff.2 hall]
    rfl
  · have hfront : ∀ d ∈ (u.concat c ++ behind).head?, Unicode.isWhiteSpace d = false := by
      rwa [List.head?_append_of_ne_nil _ (by simp)]
    have hback : ∀ d ∈ (u.concat c).reverse.head?, Unicode.isWhiteSpace d = false := by
      rwa [List.head?_reverse]
    have hspace : ∀ d ∈ behind.reverse, Unicode.isWhiteSpace d = true := by
      simpa using hbehind
    rw [trimmed, dropWhile_append_front hbefore hfront, List.reverse_append,
      dropWhile_append_front hspace hback, List.reverse_reverse]

/-- What is left when characters are dropped starts with no such one. -/
theorem head?_dropWhile (p : Char → Bool) (cs : List Char) :
    ∀ c ∈ (cs.dropWhile p).head?, p c = false := by
  intro c hc
  have hstop := List.head?_dropWhile_not p cs
  rwa [Option.mem_def.1 hc] at hstop

/-- A text that is trimmed has no white space at its ends. -/
theorem isTrimmed_trimmed (cs : List Char) : IsTrimmed cs (trimmed cs) := by
  obtain ⟨rest, hrest⟩ : ∃ rest, cs.dropWhile Unicode.isWhiteSpace = rest := ⟨_, rfl⟩
  have hcs := List.takeWhile_append_dropWhile (p := Unicode.isWhiteSpace) (l := cs)
  have hback := List.takeWhile_append_dropWhile (p := Unicode.isWhiteSpace) (l := rest.reverse)
  have hall : rest = trimmed cs ++ (rest.reverse.takeWhile Unicode.isWhiteSpace).reverse := by
    rw [trimmed, hrest, ← List.reverse_append, hback, List.reverse_reverse]
  refine ⟨cs.takeWhile Unicode.isWhiteSpace,
    (rest.reverse.takeWhile Unicode.isWhiteSpace).reverse, ?_,
    fun c hc => List.mem_takeWhile_imp hc, ?_, ?_, ?_⟩
  · rw [← hall, ← hrest, hcs]
  · intro c hc
    exact List.mem_takeWhile_imp (List.mem_reverse.1 hc)
  · intro c hc
    refine head?_dropWhile Unicode.isWhiteSpace cs c ?_
    rw [hrest, hall, List.head?_append, Option.mem_def.1 hc]
    rfl
  · intro c hc
    rw [trimmed, hrest, List.getLast?_reverse] at hc
    exact head?_dropWhile Unicode.isWhiteSpace rest.reverse c hc

/-- **Every text has one text that is left of it** without the white space at its ends. -/
theorem isTrimmed_iff : IsTrimmed cs t ↔ t = trimmed cs := by
  constructor
  · intro h
    exact h.trimmed_eq.symm
  · rintro rfl
    exact isTrimmed_trimmed cs

/-! ### Letters -/

/-- Two texts have another letter if one of them does. -/
theorem hasOtherLetter_append (cs t : List Char) :
    hasOtherLetter (cs ++ t) = (hasOtherLetter cs || hasOtherLetter t) := List.any_append

/-- A letter other than `e` is another letter. -/
theorem hasOtherLetter_cons (c : Char) (cs : List Char) :
    hasOtherLetter (c :: cs) = ((c.isAlpha && c ≠ 'e' && c ≠ 'E') || hasOtherLetter cs) := rfl

/-- A digit is no letter. -/
theorem isAlpha_of_isDigit (h : Numeral.isDigit c = true) : c.isAlpha = false := by
  refine Bool.eq_false_iff.2 fun ha => ?_
  have hle := (Unicode.toNat_of_isAlpha ha).1.trans (Numeral.toNat_of_isDigit h)
  exact absurd hle (by decide)

/-- Digits have no other letter. -/
theorem hasOtherLetter_digits (h : ∀ c ∈ cs, Numeral.isDigit c = true) :
    hasOtherLetter cs = false := by
  simp only [hasOtherLetter, List.any_eq_false, Bool.and_eq_true, not_and]
  intro c hc ha
  rw [isAlpha_of_isDigit (h c hc)] at ha
  cases ha.1

/-- A sign has no other letter. -/
theorem hasOtherLetter_sign (h : IsSign sign negative) : hasOtherLetter sign = false := by
  cases h <;> decide

/-- No letter but that of the exponent stands in a numeral. -/
theorem hasOtherLetter_of_signed (h : Signed t negative d) : hasOtherLetter t = false := by
  obtain ⟨hs, hm, he⟩ := h
  rw [hasOtherLetter_append, hasOtherLetter_append, hasOtherLetter_sign hs]
  have hmantissa : ∀ {cs ds fs}, Numeral.Mantissa cs ds fs → hasOtherLetter cs = false := by
    intro cs ds fs h
    cases h with
    | whole hd => exact hasOtherLetter_digits hd.2
    | pointed hd =>
      obtain ⟨hds, hfs⟩ := List.forall_mem_append.1 hd.2
      rw [hasOtherLetter_append, hasOtherLetter_cons, hasOtherLetter_digits hds,
        hasOtherLetter_digits hfs]
      rfl
  have hexponent : ∀ {cs power}, Numeral.Exponent cs power → hasOtherLetter cs = false := by
    intro cs power h
    cases h with
    | none => rfl
    | digits hl hs hd =>
      rw [hasOtherLetter_cons, hasOtherLetter_append, hasOtherLetter_sign hs,
        hasOtherLetter_digits hd.2]
      rcases hl with rfl | rfl <;> rfl
  rw [hmantissa hm, hexponent he]
  rfl

/-- Every name of a double has an `n`, in one case or the other. -/
theorem hasOtherLetter_of_name (h : (Numeral.named? name).isSome = true) :
    hasOtherLetter name = true := by
  obtain ⟨x, hx⟩ := Option.isSome_iff_exists.1 h
  have hn : 'n' ∈ name.map Char.toLower := by
    obtain ⟨front, back, hnames, -⟩ := List.lookup_eq_some_iff.1 hx
    have hall : ∀ named ∈ Numeral.names, 'n' ∈ named.1.toList := by decide
    have hmem := hall _ (hnames ▸ List.mem_append_right front List.mem_cons_self)
    rwa [String.toList_ofList] at hmem
  obtain ⟨c, hc, hlower⟩ := List.mem_map.1 hn
  have hletter : c.isAlpha = true := by
    rw [Char.toLower] at hlower
    split at hlower
    · next hupper =>
      rw [Char.isAlpha, Char.isUpper, Bool.or_eq_true, decide_eq_true_eq]
      exact .inl hupper
    · rw [hlower]
      rfl
  have hother : c ≠ 'e' ∧ c ≠ 'E' := by
    constructor <;>
    · rintro rfl
      exact absurd hlower (by decide)
  refine List.any_eq_true.2 ⟨c, hc, ?_⟩
  simp [hletter, hother]

/-! ### Numbers of texts -/

/-- The double of a decimal overflows as the decimal does, with either sign. -/
theorem overflowsAs_signed (negative : Bool) (d : Decimal) :
    Binary64.OverflowsAs (if negative then -d.toFloat else d.toFloat) d.toRat := by
  cases negative with
  | false => exact d.overflowsAs_toFloat
  | true => exact d.overflowsAs_toFloat.neg

section Trimmed

variable (h : IsTrimmed s.toList t)
include h

/-- An empty text is zero. -/
theorem numberOfText_empty (he : t = []) : numberOfText s = 0.0 := by
  simp only [numberOfText, h.trimmed_eq, he, if_true]

/-- A text that names an infinity is it. -/
theorem numberOfText_infinity (hi : IsInfinity t negative) :
    numberOfText s = if negative then Binary64.negativeInfinity else Binary64.infinity := by
  obtain ⟨hs⟩ := hi
  simp only [numberOfText, h.trimmed_eq]
  cases hs <;> rfl

/-- A text with a signed decimal is the double nearest to it. -/
theorem numberOfText_signed (hd : Signed t negative d) :
    numberOfText s = if negative then -d.toFloat else d.toFloat := by
  have hletter := hasOtherLetter_of_signed hd
  have hempty : t ≠ [] := by
    obtain ⟨-, hu⟩ := hd
    obtain ⟨c, hc, -⟩ := hu.head?
    rintro hnil
    rw [(List.append_eq_nil_iff.1 hnil).2] at hc
    cases hc
  have hspelled : ∀ u, hasOtherLetter u = true → t ≠ u := by
    rintro u hu rfl
    exact Bool.false_ne_true (hletter.symm.trans hu)
  simp only [numberOfText, h.trimmed_eq]
  rw [if_neg hempty, if_neg (not_or.2 ⟨hspelled _ (by decide), hspelled _ (by decide)⟩),
    if_neg (hspelled _ (by decide)), if_neg (Bool.eq_false_iff.1 hletter), hd.double?,
    Option.getD_some]

/-- Every other text is not a number. -/
theorem numberOfText_other (he : t ≠ []) (hi : ∀ negative, ¬ IsInfinity t negative)
    (hd : ∀ negative d, ¬ Signed t negative d) : numberOfText s = Binary64.nan := by
  have hplain : t ≠ "Infinity".toList ∧ t ≠ "+Infinity".toList ∧ t ≠ "-Infinity".toList := by
    refine ⟨?_, ?_, ?_⟩ <;> rintro rfl
    · exact hi false (.intro .none)
    · exact hi false (.intro .plus)
    · exact hi true (.intro .minus)
  simp only [numberOfText, h.trimmed_eq]
  rw [if_neg he, if_neg (not_or.2 ⟨hplain.1, hplain.2.1⟩), if_neg hplain.2.2]
  split
  · rfl
  · next hletter =>
    cases hx : Numeral.double? t with
    | none => rfl
    | some x =>
      rcases Numeral.exists_of_double? hx with ⟨negative, d, hsigned⟩ | ⟨_, _, _, _, rfl, hname⟩
      · exact absurd hsigned (hd negative d)
      · rw [hasOtherLetter_append, hasOtherLetter_of_name hname, Bool.or_true] at hletter
        exact absurd rfl hletter

/-- A string is a number if and only if a number is written in it. -/
theorem isNaN_numberOfText : (numberOfText s).isNaN = false ↔
    t = [] ∨ (∃ negative, IsInfinity t negative) ∨ ∃ negative d, Signed t negative d := by
  constructor
  · intro hnan
    by_contra hnone
    simp only [not_or, not_exists] at hnone
    rw [numberOfText_other h hnone.1 hnone.2.1 hnone.2.2] at hnan
    cases hnan
  · rintro (he | ⟨negative, hi⟩ | ⟨negative, d, hd⟩)
    · rw [numberOfText_empty h he]
      rfl
    · rw [numberOfText_infinity h hi]
      cases negative <;> rfl
    · rw [numberOfText_signed h hd]
      exact (overflowsAs_signed negative d).isNaN

/-- A string is infinite if an infinity is spelled out in it, or a decimal that is out of range. -/
theorem isInf_numberOfText : (numberOfText s).isInf = true ↔
    (∃ negative, IsInfinity t negative) ∨
      ∃ negative d, Signed t negative d ∧ Binary64.outOfRange ≤ d.toRat := by
  constructor
  · intro hinf
    have hnumber : (numberOfText s).isNaN = false := by
      change (Binary64.unpack (numberOfText s)).isInf = true at hinf
      change (Binary64.unpack (numberOfText s)).isNaN = false
      cases hx : Binary64.unpack (numberOfText s) with
      | notANumber =>
        rw [hx] at hinf
        cases hinf
      | _ => rfl
    rcases (isNaN_numberOfText h).1 hnumber with he | hi | ⟨negative, d, hd⟩
    · rw [numberOfText_empty h he] at hinf
      cases hinf
    · exact .inl hi
    · rw [numberOfText_signed h hd, (overflowsAs_signed negative d).isInf] at hinf
      exact .inr ⟨negative, d, hd, hinf⟩
  · rintro (⟨negative, hi⟩ | ⟨negative, d, hd, hlarge⟩)
    · rw [numberOfText_infinity h hi]
      cases negative <;> rfl
    · rw [numberOfText_signed h hd]
      exact (overflowsAs_signed negative d).isInf.2 hlarge

/-- The names of doubles are no numbers, but for the spellings of the infinities. -/
theorem isNaN_of_name (hname : (Numeral.named? name).isSome) (ht : t = sign ++ name)
    (hi : ∀ negative, ¬ IsInfinity t negative) :
    (numberOfText s).isNaN = true := by
  have hletter : hasOtherLetter t = true := by
    rw [ht, hasOtherLetter_append, hasOtherLetter_of_name hname, Bool.or_true]
  have he : t ≠ [] := by
    rintro rfl
    cases hletter
  have hd : ∀ negative d, ¬ Signed t negative d := by
    intro negative d hd
    exact Bool.false_ne_true ((hasOtherLetter_of_signed hd).symm.trans hletter)
  rw [numberOfText_other h he hi hd]
  rfl

end Trimmed

/-- **The number of a string** is decided by what is left of it without the white space at its ends.
It is a number if and only if that is empty, a spelling of an infinity, or a decimal with a sign or
without one, and then the number that is written.  No other name of a double is a number, in letters
of either case, so the infinities are those that are spelled out and the decimals out of range. -/
theorem toNumber_string (h : IsTrimmed s.toList t) :
    ((string s).toNumber.isNaN = false ↔
      t = [] ∨ (∃ negative, IsInfinity t negative) ∨ ∃ negative d, Signed t negative d) ∧
    ((t = [] → (string s).toNumber = 0.0) ∧
      (∀ negative, IsInfinity t negative → (string s).toNumber =
        if negative then Binary64.negativeInfinity else Binary64.infinity) ∧
      ∀ negative d, Signed t negative d → (string s).toNumber =
        if negative then -d.toFloat else d.toFloat) ∧
    (∀ sign negative name, IsSign sign negative → (Numeral.named? name).isSome →
      t = sign ++ name → (∀ negative, ¬ IsInfinity t negative) →
        (string s).toNumber.isNaN = true) ∧
    ((string s).toNumber.isInf = true ↔ (∃ negative, IsInfinity t negative) ∨
      ∃ negative d, Signed t negative d ∧ Binary64.outOfRange ≤ d.toRat) := by
  have hnumber : (string s).toNumber = numberOfText s := rfl
  rw [hnumber]
  refine ⟨isNaN_numberOfText h, ⟨numberOfText_empty h, ?_, ?_⟩, ?_, isInf_numberOfText h⟩
  · exact fun negative => numberOfText_infinity h
  · exact fun negative d => numberOfText_signed h
  · exact fun sign negative name _ => isNaN_of_name h

/-- A sign, a point without digits in front of it, an exponent, and white space on either side. -/
theorem toNumber_string_spaced : IsTrimmed "\u00A0-.5e3\n".toList "-.5e3".toList ∧
    (string "\u00A0-.5e3\n").toNumber = -Decimal.toFloat ⟨5, 2⟩ := by
  have htrimmed : IsTrimmed "\u00A0-.5e3\n".toList "-.5e3".toList := isTrimmed_iff.2 (by decide)
  have hfraction : IsRun ([] ++ ['5']) := ⟨nofun, List.forall_mem_singleton.2 rfl⟩
  have hpower : IsRun ['3'] := ⟨nofun, List.forall_mem_singleton.2 rfl⟩
  have hexponent := Numeral.Exponent.digits (.inl rfl : 'e' = 'e' ∨ 'e' = 'E') .none hpower
  have hsigned : Signed "-.5e3".toList true ⟨5, 2⟩ :=
    .intro .minus (.intro (.pointed hfraction) hexponent)
  exact ⟨htrimmed, (toNumber_string htrimmed).2.1.2.2 true ⟨5, 2⟩ hsigned⟩

end Value
end RecordFilter
