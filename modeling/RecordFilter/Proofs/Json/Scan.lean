/-
# Pieces of JSON read back

What is written piece by piece is read piece by piece, whatever text stands behind it.  Two ways to
write the characters of a string are read back by one reader (`charsUpTo_quoted`), as each of them
gives every character a text that stands for it (`StandsFor`).  A number is read back as it was
written (`number_written`), if the text behind it does not go on with it (`Ends`), and an integer is
the double that it was written for, a zero without its sign (`Numeral.value?_integer`).
-/

import Mathlib
import RecordFilter.Json.Value
import RecordFilter.Proofs.Number.Binary64
import RecordFilter.Proofs.Number.Numeral

namespace RecordFilter
namespace Json

/-! ### Strings -/

variable {α : Type} {c : Char} {text rest : List Char} {encode : Char → List Char}

/-- Inside a string, a text is read as one character. -/
def StandsFor (text : List Char) (c : Char) : Prop :=
  ∀ limit rest, charsUpTo true (limit + 1) (text ++ rest) =
    (charsUpTo true limit rest).map fun (cs, rest) => (c :: cs, rest)

/-- A character that is neither a quote, a backslash nor a control stands for itself. -/
theorem standsFor_self (hq : c ≠ '"') (hs : c ≠ '\\') (hc : ¬ c < ' ') : StandsFor [c] c := by
  intro limit rest
  rw [List.cons_append, List.nil_append, charsUpTo, if_neg hq, if_neg hc, if_neg hs]
  dsimp only
  cases charsUpTo true limit rest <;> rfl

/-- An escape stands for the character that it is read as. -/
theorem standsFor_escape (h : ∀ rest, escape true (text ++ rest) = .ok (c, rest)) :
    StandsFor ('\\' :: text) c := by
  intro limit rest
  rw [List.cons_append, charsUpTo, if_neg (by decide), if_neg (by decide), if_pos rfl, h]
  dsimp only
  cases charsUpTo true limit rest <;> rfl

/-- A backslash and a letter stand for the character of the escape. -/
theorem standsFor_letter {letter : Char} (hu : letter ≠ 'u') (h : letterEscape? letter = some c) :
    StandsFor ['\\', letter] c :=
  standsFor_escape fun rest => by
    rw [List.cons_append, List.nil_append, escape, h]
    exact hu

/-- The four digits of a control are a code unit that is no half. -/
theorem fourDigitEscape_control : ∀ n < 32, Text.fourDigitEscape (.ofNat n) =
      ['\\', 'u', '0', '0', (n / 16).digitChar, (n % 16).digitChar] ∧
    codeUnit? '0' '0' (n / 16).digitChar (n % 16).digitChar = some n := by
  decide

/-- The four digits of a control stand for it. -/
theorem standsFor_control (h : c < ' ') : StandsFor (Text.fourDigitEscape c) c := by
  have hn : c.toNat < 32 := h
  obtain ⟨htext, hunit⟩ := fourDigitEscape_control c.toNat hn
  rw [Char.ofNat_toNat] at htext
  rw [htext]
  refine standsFor_escape fun rest => ?_
  have hhigh : isHighHalf c.toNat = false := by
    rw [isHighHalf, decide_eq_false (by omega), Bool.false_and]
  have hlow : isLowHalf c.toNat = false := by
    rw [isLowHalf, decide_eq_false (by omega), Bool.false_and]
  simp only [List.cons_append, List.nil_append, escape, unicodeEscape, codeUnit, hunit, hhigh, hlow,
    Char.ofNat_toNat]
  rfl

/-- What is written for a character in JSON stands for it. -/
theorem standsFor_jsonChar (c : Char) : StandsFor (Text.jsonChar c) c := by
  unfold Text.jsonChar
  split
  · next h => subst h; exact standsFor_letter (by decide) rfl
  next hquote =>
  split
  · next h => subst h; exact standsFor_letter (by decide) rfl
  next hslash =>
  iterate 5
    split
    · next h => subst h; exact standsFor_letter (by decide) rfl
  split
  · next h => exact standsFor_control h
  · next h => exact standsFor_self hquote hslash h

/-- What is shown for a character stands for it. -/
theorem standsFor_shownChar (c : Char) : StandsFor (Text.shownChar c) c := by
  unfold Text.shownChar
  split
  · next h =>
    refine standsFor_control ?_
    rcases h with rfl | rfl <;> decide
  · exact standsFor_jsonChar c

/-- A string is read back character by character. -/
theorem charsUpTo_quoted (h : ∀ c, StandsFor (encode c) c) {chars : List Char} {limit : Nat}
    (hlimit : chars.length < limit) (rest : List Char) :
    charsUpTo true limit (chars.flatMap encode ++ '"' :: rest) = .ok (chars, rest) := by
  induction chars generalizing limit with
  | nil =>
    obtain ⟨limit, rfl⟩ := Nat.exists_eq_succ_of_ne_zero (Nat.ne_of_gt hlimit)
    rfl
  | cons c chars ih =>
    obtain ⟨limit, rfl⟩ := Nat.exists_eq_succ_of_ne_zero (Nat.ne_of_gt (Nat.zero_lt_of_lt hlimit))
    rw [List.flatMap_cons, List.append_assoc, h c, ih (Nat.lt_of_succ_lt_succ hlimit)]
    rfl

/-- Every character is written with some text. -/
theorem StandsFor.length_pos (h : StandsFor text c) : 0 < text.length := by
  cases text with
  | nil => cases h 0 ['"']
  | cons c text => exact Nat.succ_pos _

/-- There are no more parts than characters in them. -/
theorem length_le_flatMap {f : α → List Char} (h : ∀ a, 0 < (f a).length) (as : List α) :
    as.length ≤ (as.flatMap f).length := by
  induction as with
  | nil => exact Nat.le_refl 0
  | cons a as ih =>
    have := h a
    rw [List.length_cons, List.flatMap_cons, List.length_append]
    omega

/-- A string is read back after its opening quote. -/
theorem stringBody_quoted (h : ∀ c, StandsFor (encode c) c) (s : String) (rest : List Char) :
    stringBody (s.toList.flatMap encode ++ '"' :: rest) = .ok (s, rest) := by
  have hlimit : s.toList.length < (s.toList.flatMap encode ++ '"' :: rest).length := by
    have := length_le_flatMap (fun c => (h c).length_pos) s.toList
    rw [List.length_append, List.length_cons]
    omega
  rw [stringBody, charsUpTo_quoted h hlimit]
  exact congrArg (fun t => Except.ok (t, rest)) String.ofList_toList

/-! ### Numerals -/

/-- A text is empty, or starts with a blank or with what closes or separates parts of an array or
object. -/
def Ends (rest : List Char) : Prop :=
  ∀ c ∈ rest.head?, isBlank c = true ∨ c = ',' ∨ c = ']' ∨ c = '\x7d'

namespace Numeral

open RecordFilter.Numeral (IsRun digits_append isDigit isRun_toDigits startsWithDigit)

variable {n : Nat}

/-- What ends a number goes on with none of its parts. -/
theorem ends_cases (hrest : Ends rest) : rest = [] ∨
    ∃ c more, rest = c :: more ∧ isDigit c = false ∧ c ≠ '.' ∧ ¬ (c = 'e' ∨ c = 'E') := by
  cases rest with
  | nil => exact .inl rfl
  | cons c more =>
    refine .inr ⟨c, more, rfl, ?_⟩
    simp only [Ends, isBlank, List.head?_cons, Option.mem_def, Option.some.injEq, forall_eq',
      Bool.or_eq_true, beq_iff_eq] at hrest
    rcases hrest with (((rfl | rfl) | rfl) | rfl) | rfl | rfl | rfl <;> decide

/-- How the digits after a point are written. -/
def fractionText : List Char → List Char
  | [] => []
  | ds => '.' :: ds

/-- How an exponent is written. -/
def exponentText : Option (Bool × List Char) → List Char
  | none => []
  | some (negative, ds) => 'e' :: (if negative then '-' else '+') :: ds

/-- How a numeral is written. -/
def written (n : Numeral) : List Char :=
  (if n.negative then ['-'] else []) ++
    (n.whole ++ (fractionText n.fraction ++ exponentText n.exponent))

/-- Whether a numeral has the parts that are read off the front of a text. -/
structure IsProper (n : Numeral) : Prop where
  /-- There are digits before the point. -/
  whole : IsRun n.whole
  /-- No other digit follows a leading zero. -/
  zero : n.whole.head? = some '0' → n.whole = ['0']
  /-- There are digits after the point, if there is one. -/
  fraction : n.fraction ≠ [] → IsRun n.fraction
  /-- There are digits in the exponent, if there is one. -/
  exponent : ∀ negative ds, n.exponent = some (negative, ds) → IsRun ds

/-- A run of digits is read up to what is no digit. -/
theorem someDigits_append {ds : List Char} (hds : IsRun ds)
    (hrest : startsWithDigit rest = false) : someDigits (ds ++ rest) = .ok (ds, rest) := by
  obtain ⟨hdigits, hbehind⟩ := digits_append hds.2 hrest
  unfold someDigits
  split
  · next h => exact absurd (List.append_eq_nil_iff.1 h).1 hds.1
  · rw [if_pos (hds.startsWithDigit rest), hdigits, hbehind]

/-- A run of digits without a leading zero is read as a whole part. -/
theorem wholePart_append {ds : List Char} (hds : IsRun ds)
    (hzero : ds.head? = some '0' → ds = ['0']) (hrest : startsWithDigit rest = false) :
    wholePart (ds ++ rest) = .ok (ds, rest) := by
  unfold wholePart
  split
  · next more h =>
    obtain ⟨d, ds, rfl⟩ := List.exists_cons_of_ne_nil hds.1
    obtain ⟨rfl, hmore⟩ := List.cons.inj h
    obtain ⟨-, rfl⟩ := List.cons.inj (hzero rfl)
    obtain rfl : rest = more := hmore
    rw [hrest]
    rfl
  · exact someDigits_append hds hrest

/-- In front of what has no point, no fraction is read. -/
theorem fractionPart_append {ds : List Char} (hds : ds ≠ [] → IsRun ds)
    (hrest : startsWithDigit rest = false) (hpoint : rest.head? ≠ some '.') :
    fractionPart (fractionText ds ++ rest) = .ok (ds, rest) := by
  cases ds with
  | nil =>
    rw [fractionText, List.nil_append, fractionPart]
    rintro more rfl
    exact hpoint rfl
  | cons d ds => exact someDigits_append (hds (List.cons_ne_nil _ _)) hrest

section Rest

variable (hrest : Ends rest)
include hrest

/-- No digit follows a number. -/
theorem startsWithDigit_ends : startsWithDigit rest = false := by
  rcases ends_cases hrest with rfl | ⟨c, more, rfl, hc, -⟩
  · rfl
  · exact hc

/-- An exponent with digits is read back. -/
theorem exponentPart_append {exponent : Option (Bool × List Char)}
    (h : ∀ negative ds, exponent = some (negative, ds) → IsRun ds) :
    exponentPart (exponentText exponent ++ rest) = .ok (exponent, rest) := by
  cases exponent with
  | none =>
    rcases ends_cases hrest with rfl | ⟨c, more, rfl, -, -, hc⟩
    · rfl
    · rw [exponentText, List.nil_append, exponentPart, if_neg hc]
  | some exponent =>
    obtain ⟨negative, ds⟩ := exponent
    have hds := someDigits_append (h negative ds rfl) (startsWithDigit_ends hrest)
    cases negative
    all_goals
      change (someDigits (ds ++ rest)).map _ = _
      rw [hds]
      rfl

/-- An exponent goes on with neither a digit nor a point. -/
theorem head?_exponentText (exponent : Option (Bool × List Char)) :
    startsWithDigit (exponentText exponent ++ rest) = false ∧
      (exponentText exponent ++ rest).head? ≠ some '.' := by
  cases exponent with
  | none =>
    rcases ends_cases hrest with rfl | ⟨c, more, rfl, hc, hpoint, -⟩
    · exact ⟨rfl, nofun⟩
    · exact ⟨hc, fun h => hpoint (Option.some.inj h)⟩
  | some exponent => exact ⟨rfl, by simp [exponentText]⟩

/-- **A numeral is read back as its parts.** -/
theorem read_written {n : Numeral} (h : n.IsProper) : read (n.written ++ rest) = .ok (n, rest) := by
  obtain ⟨negative, whole, fraction, exponent⟩ := n
  obtain ⟨hwhole, hzero, hfraction, hexponent⟩ := h
  obtain ⟨hdigit, hpoint⟩ := head?_exponentText hrest exponent
  have hbehind : startsWithDigit (fractionText fraction ++ (exponentText exponent ++ rest)) =
      false := by
    cases fraction with
    | nil => exact hdigit
    | cons d ds => rfl
  have hw := wholePart_append hwhole hzero hbehind
  have hf := fractionPart_append hfraction hdigit hpoint
  have he := exponentPart_append hrest hexponent
  simp only [written, List.append_assoc]
  cases negative with
  | true =>
    rw [if_pos rfl, List.singleton_append, read]
    simp only [hw, hf, he, bind, Except.bind, pure, Except.pure]
  | false =>
    rw [if_neg Bool.false_ne_true, List.nil_append, read]
    · simp only [hw, hf, he, bind, Except.bind, pure, Except.pure]
    · intro more hminus
      have hd := hwhole.startsWithDigit (fractionText fraction ++ (exponentText exponent ++ rest))
      rw [hminus] at hd
      exact absurd (show isDigit '-' = true from hd) (by decide)

end Rest

/-! ### Integers -/

/-- The numeral that an integer is written as. -/
def ofInt (i : Int) : Numeral := ⟨decide (i < 0), Nat.toDigits 10 i.natAbs, [], none⟩

/-- The digits of a positive number do not start with a zero. -/
theorem head?_toDigits (hn : 0 < n) : (Nat.toDigits 10 n).head? ≠ some '0' := by
  induction n using Nat.strongRecOn with
  | _ n ih =>
    rcases Nat.lt_or_ge n 10 with hlt | hge
    · have hdigit : ∀ n < 10, 0 < n → Nat.digitChar n ≠ '0' := by decide
      rw [Nat.toDigits_of_lt_base hlt]
      exact fun h => hdigit n hlt hn (Option.some.inj h)
    · have hhead := ih (n / 10) (by omega) (by omega)
      rw [Nat.toDigits_of_base_le (by decide) hge]
      cases hdigits : Nat.toDigits 10 (n / 10) with
      | nil => exact absurd hdigits Nat.toDigits_ne_nil
      | cons d ds => rwa [hdigits] at hhead

/-- An integer is a proper number. -/
theorem isProper_ofInt (i : Int) : (ofInt i).IsProper := by
  refine ⟨isRun_toDigits i.natAbs, fun h => ?_, fun h => absurd rfl h, fun _ _ h => nomatch h⟩
  have hzero : i.natAbs = 0 := Nat.eq_zero_of_not_pos fun hpos => head?_toDigits hpos h
  rw [ofInt, hzero]
  rfl

/-- An integer is written with its sign and digits. -/
theorem written_ofInt (i : Int) : (ofInt i).written = Value.integerText i := by
  simp [written, ofInt, fractionText, exponentText, Value.integerText]

/-! ### Values of integers -/

/-- Further digits do not make a number less. -/
theorem le_ofDigitChars (cs : List Char) (n : Nat) : n ≤ Nat.ofDigitChars 10 cs n := by
  induction cs generalizing n with
  | nil => exact Nat.le_refl n
  | cons c cs ih =>
    rw [Nat.ofDigitChars_cons]
    exact Nat.le_trans (by omega) (ih _)

/-- Digits that fit into 64 bits are all leading ones. -/
theorem foldl_pushWhole (cs : List Char) (hfits : Nat.ofDigitChars 10 cs n < 2 ^ 64) :
    cs.foldl Leading.pushWhole ⟨n, 0, false⟩ = ⟨Nat.ofDigitChars 10 cs n, 0, false⟩ := by
  induction cs generalizing n with
  | nil => rfl
  | cons c cs ih =>
    rw [Nat.ofDigitChars_cons] at hfits ⊢
    have hnext := Nat.lt_of_le_of_lt (le_ofDigitChars cs _) hfits
    have hpush :
        Leading.pushWhole ⟨n, 0, false⟩ c = ⟨10 * n + (c.toNat - '0'.toNat), 0, false⟩ := by
      rw [Leading.pushWhole, Leading.push?, Nat.mul_comm n 10, if_pos]
      simp only [Bool.not_false, Bool.true_and, decide_eq_true_eq]
      exact hnext
    rw [List.foldl_cons, hpush, ih hfits]

/-- The digits of a number of 64 bits are all taken up. -/
theorem leading_toDigits {negative : Bool} (hn : n < 2 ^ 64) :
    leading ⟨negative, Nat.toDigits 10 n, [], none⟩ = ⟨n, 0, false⟩ := by
  have hvalue : Nat.ofDigitChars 10 (Nat.toDigits 10 n) 0 = n := Nat.ofDigitChars_ten_toDigits
  rw [leading, foldl_pushWhole _ (by rw [hvalue]; exact hn), hvalue]
  rfl

/-- A finite double is scaled by one. -/
theorem scale?_finite {x : Float} {s : Float.Model.UnpackedFloat.Sign} {m : Nat} {e : Int}
    {hm : 0 < m} (hx : Binary64.unpack x = .finite s m e hm) : scale? x 0 = some x := by
  have hone : Binary64.unpack (powerOfTen 0) = .finite .positive (2 ^ 52) (-52) (by decide) := rfl
  have hzero : (x == 0.0) = false := by
    change (Binary64.unpack x).beq (.zero .positive) = false
    rw [hx]
    cases s <;> rfl
  have hinf : x.isInf = false := by
    change (Binary64.unpack x).isInf = false
    rw [hx]
    rfl
  change (if (x == 0.0) = true then some x else _) = _
  rw [hzero, Binary64.mul_one_form (Binary64.isForm hx) hx hone]
  dsimp only
  rw [hinf]
  rfl

/-- The greatest integer of 64 bits with sign is read as the double above it. -/
theorem ofInt_natAbs_min {i : Int} (hi : i.natAbs ≤ 2 ^ 63) :
    Binary64.ofInt (min i (2 ^ 63 - 1)).natAbs = Binary64.ofInt i.natAbs := by
  rcases Int.lt_or_le (2 ^ 63 - 1) i with hgreat | hle
  · obtain rfl : i = 2 ^ 63 := by omega
    rfl
  · rw [Int.min_eq_left hle]

/-- The value of an integer that a double is written as. -/
theorem value?_integer {x : Float} {i : Int} (h : Binary64.whole? x = some i)
    (hi : i.natAbs ≤ 2 ^ 63) :
    value? (ofInt (min i (2 ^ 63 - 1))) = some (Binary64.unsignedZero x) := by
  have hsign : (min i (2 ^ 63 - 1) < 0) = (i < 0) := by
    apply propext
    omega
  have hbits : (min i (2 ^ 63 - 1)).natAbs < 2 ^ 64 := by omega
  rw [value?, magnitude?, ofInt, leading_toDigits hbits]
  change (scale? (Binary64.ofInt _) 0).map _ = _
  rw [ofInt_natAbs_min hi]
  simp only [hsign]
  rcases Binary64.whole_cases h with ⟨rfl, s, hx⟩ | ⟨s, m, e, hm, hx, hpos, hs, hform⟩
  · rw [Binary64.unsignedZero_zero hx]
    rfl
  · obtain ⟨hunpack, hvalue⟩ := Binary64.signed_ofInt hx (mt Int.natAbs_eq_zero.1 hpos) hform
    rw [scale?_finite hunpack, Option.map_some, Binary64.unsignedZero_finite hx]
    rw [← hs] at hvalue
    simp only [decide_eq_true_eq, hvalue]

end Numeral

/-- **A number is read back as it was written**, with its value. -/
theorem number_written {n : Numeral} {x : Float} (h : n.IsProper) (hx : n.value? = some x)
    (hrest : Ends rest) : number (n.written ++ rest) = .ok ((n, x), rest) := by
  rw [number, Numeral.read_written hrest h]
  dsimp only
  rw [hx]

end Json
end RecordFilter
