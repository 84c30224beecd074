/-
# The texts that are numerals

What a numeral is, said without a reader: digits with at most one point among them
(`Numeral.Mantissa`), perhaps an exponent behind them (`Numeral.Exponent`), and perhaps a sign in
front (`Numeral.IsSign`).  A text is read as a decimal if and only if it is a numeral
(`unsigned?_eq_some_iff`).

A text that is read as a double is a numeral with or without a sign, or one of the names of
`Numeral.names` (`exists_of_double?`).  No numeral is a name, so each is read as its decimal
(`Signed.double?`).
-/

import Mathlib
import RecordFilter.Number.Numeral

namespace RecordFilter
namespace Numeral

/-- Digits one after the other, one at least. -/
def IsRun (ds : List Char) : Prop := ds ≠ [] ∧ ∀ d ∈ ds, isDigit d = true

/-- A sign or none, and whether it is a minus. -/
inductive IsSign : List Char → Bool → Prop where
  | none : IsSign [] false
  | plus : IsSign ['+'] false
  | minus : IsSign ['-'] true

/-- Digits with at most one point among them, and the digits on either side of the point. -/
inductive Mantissa : List Char → List Char → List Char → Prop where
  | whole {ds} (h : IsRun ds) : Mantissa ds ds []
  | pointed {ds fs} (h : IsRun (ds ++ fs)) : Mantissa (ds ++ '.' :: fs) ds fs

/-- An exponent or none, and the power of ten that it writes. -/
inductive Exponent : List Char → Int → Prop where
  | none : Exponent [] 0
  | digits {letter sign negative ds} (hl : letter = 'e' ∨ letter = 'E') (hs : IsSign sign negative)
      (hd : IsRun ds) : Exponent (letter :: (sign ++ ds)) (signedDigits negative ds)

/-- A numeral without a sign, and the decimal that it writes. -/
inductive Unsigned : List Char → Decimal → Prop where
  | intro {mantissa whole fraction exponent power} (hm : Mantissa mantissa whole fraction)
      (he : Exponent exponent power) :
      Unsigned (mantissa ++ exponent) (.ofParts whole fraction power)

/-- A numeral with a sign or without one, whether the sign is a minus, and the decimal behind it. -/
inductive Signed : List Char → Bool → Decimal → Prop where
  | intro {sign negative cs d} (hs : IsSign sign negative) (h : Unsigned cs d) :
      Signed (sign ++ cs) negative d

variable {c : Char} {cs ds fs rest sign mantissa whole fraction exponent : List Char}
  {negative : Bool} {power : Int} {d : Decimal} {x : Float}

/-! ### Runs of digits -/

/-- Digits come no later than the nine. -/
theorem toNat_of_isDigit (h : isDigit c = true) : c.toNat ≤ '9'.toNat := by
  simp only [isDigit, Bool.and_eq_true, decide_eq_true_eq] at h
  exact UInt32.le_iff_toNat_le.1 h.2

/-- A number is written with digits. -/
theorem isDigit_of_mem_toDigits {n : Nat} (h : c ∈ Nat.toDigits 10 n) : isDigit c = true := by
  have hdigit := Nat.isDigit_of_mem_toDigits (by decide) (Nat.le_refl 10) h
  simp only [Char.isDigit, isDigit, Bool.and_eq_true, decide_eq_true_eq] at hdigit ⊢
  exact hdigit

/-- The digits of a number are a run. -/
theorem isRun_toDigits (n : Nat) : IsRun (Nat.toDigits 10 n) :=
  ⟨Nat.toDigits_ne_nil, fun _ => isDigit_of_mem_toDigits⟩

/-- Digits are taken up to the first character that is none. -/
theorem digits_append (hd : ∀ d ∈ ds, isDigit d = true) (hr : startsWithDigit rest = false) :
    digits (ds ++ rest) = ds ∧ afterDigits (ds ++ rest) = rest := by
  have hstop : digits rest = [] ∧ afterDigits rest = rest := by
    cases rest with
    | nil => exact ⟨rfl, rfl⟩
    | cons c more =>
      have hc : isDigit c = false := hr
      simp [digits, afterDigits, hc]
  rw [digits, afterDigits] at *
  rw [List.takeWhile_append_of_pos hd, List.dropWhile_append_of_pos hd, hstop.1, hstop.2]
  exact ⟨List.append_nil ds, rfl⟩

/-- Digits and what is behind them are the whole text. -/
theorem digits_append_afterDigits (cs : List Char) : digits cs ++ afterDigits cs = cs :=
  List.takeWhile_append_dropWhile

/-- Only digits are taken as digits. -/
theorem isDigit_of_mem_digits (cs : List Char) : ∀ d ∈ digits cs, isDigit d = true :=
  fun _ hd => List.mem_takeWhile_imp hd

/-- Digits that are taken are a run, if there are any. -/
theorem isRun_digits (h : (digits cs).isEmpty = false) : IsRun (digits cs) :=
  ⟨List.isEmpty_eq_false_iff.1 h, isDigit_of_mem_digits cs⟩

/-- A text with a run in front starts with a digit. -/
theorem IsRun.startsWithDigit (h : IsRun ds) (rest : List Char) :
    startsWithDigit (ds ++ rest) = true := by
  obtain ⟨d, more, rfl⟩ := List.exists_cons_of_ne_nil h.1
  exact h.2 d List.mem_cons_self

/-! ### Signs -/

/-- What a sign does not stand in front of is read without one. -/
theorem takeSign_eq (hp : cs.head? ≠ some '+') (hm : cs.head? ≠ some '-') :
    takeSign cs = (false, cs) := by
  refine takeSign.eq_3 cs ?_ ?_
  · rintro rest rfl
    exact hp rfl
  · rintro rest rfl
    exact hm rfl

/-- A sign is taken in front of what starts with none. -/
theorem IsSign.takeSign (h : IsSign sign negative) (hp : cs.head? ≠ some '+')
    (hm : cs.head? ≠ some '-') : takeSign (sign ++ cs) = (negative, cs) := by
  cases h with
  | none => exact takeSign_eq hp hm
  | plus => rfl
  | minus => rfl

/-- What is taken as a sign is one, and perhaps empty. -/
theorem exists_sign (cs : List Char) :
    ∃ sign, IsSign sign (takeSign cs).1 ∧ cs = sign ++ (takeSign cs).2 := by
  unfold Numeral.takeSign
  split
  · exact ⟨['+'], .plus, rfl⟩
  · exact ⟨['-'], .minus, rfl⟩
  · exact ⟨[], .none, rfl⟩

/-- A digit is no sign. -/
theorem head?_ne_of_startsWithDigit (h : startsWithDigit cs = true) :
    cs.head? ≠ some '+' ∧ cs.head? ≠ some '-' := by
  cases cs with
  | nil => cases h
  | cons c cs =>
    have hc : isDigit c = true := h
    constructor <;>
    · intro he
      obtain rfl := Option.some.inj he
      exact absurd hc (by decide)

/-! ### Exponents -/

/-- What stands behind the letter of an exponent. -/
theorem exponent?_append (hs : IsSign sign negative) (hd : IsRun ds) :
    exponent? (sign ++ ds) = some (signedDigits negative ds) := by
  have hstart := hd.startsWithDigit []
  have hdigits : digits (ds ++ []) = ds ∧ afterDigits (ds ++ []) = [] := digits_append hd.2 rfl
  rw [List.append_nil] at hstart hdigits
  obtain ⟨hp, hm⟩ := head?_ne_of_startsWithDigit hstart
  rw [exponent?, hs.takeSign hp hm]
  simp [hstart, hdigits.2]

/-- An exponent that is read is a sign with a run of digits. -/
theorem exists_of_exponent? (h : exponent? cs = some power) :
    ∃ sign negative ds, cs = sign ++ ds ∧ IsSign sign negative ∧ IsRun ds ∧
      power = signedDigits negative ds := by
  obtain ⟨sign, hs, hcs⟩ := exists_sign cs
  simp only [exponent?] at h
  split at h
  · next hrun =>
    rw [Bool.and_eq_true, List.isEmpty_iff] at hrun
    have hall := digits_append_afterDigits (takeSign cs).2
    rw [hrun.2, List.append_nil] at hall
    refine ⟨sign, _, _, hcs, hs, ⟨?_, ?_⟩, (Option.some.inj h).symm⟩
    · intro hnil
      rw [hnil] at hrun
      exact Bool.false_ne_true hrun.1
    · rw [← hall]
      exact isDigit_of_mem_digits _
  · cases h

/-- No exponent starts with a digit or a point. -/
theorem Exponent.starts (h : Exponent exponent power) :
    startsWithDigit exponent = false ∧ exponent.head? ≠ some '.' := by
  cases h with
  | none => exact ⟨rfl, nofun⟩
  | digits hl => rcases hl with rfl | rfl <;> exact ⟨rfl, by simp⟩

/-! ### Numerals without a sign -/

/-- The digits after a point, and what follows them. -/
def fractionAndRest : List Char → List Char × List Char
  | '.' :: more => (digits more, afterDigits more)
  | more => ([], more)

/-- What a text is read as, once its mantissa is taken apart. -/
def ofPieces? (whole fraction : List Char) : List Char → Option Decimal
  | [] => some (.ofParts whole fraction 0)
  | letter :: more =>
    if letter = 'e' ∨ letter = 'E' then (exponent? more).map (.ofParts whole fraction) else none

/-- An unsigned decimal is read from its digits, its fraction and its exponent. -/
theorem unsigned?_eq (cs : List Char) : unsigned? cs =
    if (digits cs).isEmpty && (fractionAndRest (afterDigits cs)).1.isEmpty then none
    else ofPieces? (digits cs) (fractionAndRest (afterDigits cs)).1
      (fractionAndRest (afterDigits cs)).2 := rfl

/-- Without a point there is no fraction. -/
theorem fractionAndRest_of_ne (h : cs.head? ≠ some '.') : fractionAndRest cs = ([], cs) := by
  refine fractionAndRest.eq_2 cs ?_
  rintro more rfl
  exact h rfl

/-- With an exponent behind it, a mantissa is a decimal. -/
theorem ofPieces?_exponent (he : Exponent exponent power) :
    ofPieces? whole fraction exponent = some (.ofParts whole fraction power) := by
  cases he with
  | none => rfl
  | digits hl hs hd => rw [ofPieces?, if_pos hl, exponent?_append hs hd, Option.map_some]

/-- A mantissa is a decimal only with an exponent behind it, perhaps an empty one. -/
theorem exists_of_ofPieces? (h : ofPieces? whole fraction cs = some d) :
    ∃ power, Exponent cs power ∧ d = .ofParts whole fraction power := by
  cases cs with
  | nil => exact ⟨0, .none, (Option.some.inj h).symm⟩
  | cons letter more =>
    rw [ofPieces?] at h
    split at h
    · next hl =>
      obtain ⟨power, hp, rfl⟩ := Option.map_eq_some_iff.1 h
      obtain ⟨sign, negative, ds, rfl, hs, hd, rfl⟩ := exists_of_exponent? hp
      exact ⟨_, .digits hl hs hd, rfl⟩
    · cases h

/-- An unsigned decimal is read. -/
theorem Unsigned.unsigned? (h : Unsigned cs d) : unsigned? cs = some d := by
  cases h with | @intro mantissa ds fs exponent power hm he => ?_
  obtain ⟨hdigit, hpoint⟩ := he.starts
  rw [unsigned?_eq]
  cases hm with
  | whole hd =>
    obtain ⟨hds, hafter⟩ := digits_append hd.2 hdigit
    rw [hds, hafter, fractionAndRest_of_ne hpoint, ofPieces?_exponent he, if_neg]
    simp [hd.1]
  | pointed hd =>
    have hwhole : ∀ d ∈ ds, isDigit d = true := fun d h => hd.2 d (List.mem_append_left _ h)
    have hfraction : ∀ d ∈ fs, isDigit d = true := fun d h => hd.2 d (List.mem_append_right _ h)
    rw [List.append_assoc, List.cons_append]
    have hstop : startsWithDigit ('.' :: (fs ++ exponent)) = false := rfl
    obtain ⟨hds, hafter⟩ := digits_append hwhole hstop
    obtain ⟨hfs, hbehind⟩ := digits_append hfraction hdigit
    rw [hds, hafter, fractionAndRest, hfs, hbehind, ofPieces?_exponent he, if_neg]
    simpa [imp_iff_not_or] using hd.1

/-- What is read as an unsigned decimal is one. -/
theorem unsigned_of_unsigned? (h : Numeral.unsigned? cs = some d) : Unsigned cs d := by
  rw [unsigned?_eq] at h
  split at h
  · cases h
  next hne =>
  obtain ⟨power, he, rfl⟩ := exists_of_ofPieces? h
  have hcs := digits_append_afterDigits cs
  by_cases hpoint : (afterDigits cs).head? = some '.'
  · obtain ⟨more, hmore⟩ := List.head?_eq_some_iff.1 hpoint
    rw [hmore] at hne he hcs ⊢
    simp only [fractionAndRest] at hne he ⊢
    rw [← digits_append_afterDigits more, ← List.cons_append, ← List.append_assoc] at hcs
    have hrun : IsRun (digits cs ++ digits more) := by
      constructor
      · simpa [imp_iff_not_or] using hne
      · exact List.forall_mem_append.2 ⟨isDigit_of_mem_digits cs, isDigit_of_mem_digits more⟩
    have hall := Unsigned.intro (.pointed hrun) he
    rwa [hcs] at hall
  · rw [fractionAndRest_of_ne hpoint] at hne he ⊢
    simp only [List.isEmpty_nil, Bool.and_true, Bool.not_eq_true] at hne
    have hall := Unsigned.intro (.whole (isRun_digits hne)) he
    rwa [hcs] at hall

/-- **A text is read as a decimal if and only if it is a numeral.** -/
theorem unsigned?_eq_some_iff : Numeral.unsigned? cs = some d ↔ Unsigned cs d :=
  ⟨unsigned_of_unsigned?, Unsigned.unsigned?⟩

/-! ### Doubles -/

/-- A numeral starts with a digit or with a point. -/
theorem Unsigned.head? (h : Unsigned cs d) :
    ∃ c ∈ cs.head?, isDigit c = true ∨ c = '.' := by
  cases h with | @intro mantissa ds fs exponent power hm he => ?_
  cases hm with
  | whole hd =>
    obtain ⟨c, ds, rfl⟩ := List.exists_cons_of_ne_nil hd.1
    exact ⟨c, rfl, .inl (hd.2 c List.mem_cons_self)⟩
  | pointed hd =>
    cases ds with
    | nil => exact ⟨'.', rfl, .inr rfl⟩
    | cons c ds => exact ⟨c, rfl, .inl (hd.2 c List.mem_cons_self)⟩

/-- An unsigned decimal starts with no sign. -/
theorem Unsigned.head?_ne (h : Unsigned cs d) : cs.head? ≠ some '+' ∧ cs.head? ≠ some '-' := by
  obtain ⟨c, hc, h⟩ := h.head?
  rw [Option.mem_def.1 hc]
  constructor <;>
  · intro he
    obtain rfl := Option.some.inj he
    exact absurd h (by decide)

/-- **A numeral is read as the double nearest to its decimal**, with its sign. -/
theorem Signed.double? (h : Signed cs negative d) :
    double? cs = some (if negative then -d.toFloat else d.toFloat) := by
  obtain ⟨hs, h⟩ := h
  obtain ⟨hp, hm⟩ := h.head?_ne
  rw [Numeral.double?, hs.takeSign hp hm]
  dsimp only
  rw [h.unsigned?]
  rfl

/-- What is read as a double is a numeral, or a name behind a sign or none. -/
theorem exists_of_double? (h : Numeral.double? cs = some x) :
    (∃ negative d, Signed cs negative d) ∨
      ∃ sign negative rest, IsSign sign negative ∧ cs = sign ++ rest ∧ (named? rest).isSome := by
  obtain ⟨sign, hs, hcs⟩ := exists_sign cs
  cases hd : Numeral.unsigned? (takeSign cs).2 with
  | some d =>
    left
    rw [hcs]
    exact ⟨_, d, .intro hs (unsigned_of_unsigned? hd)⟩
  | none =>
    right
    refine ⟨sign, _, _, hs, hcs, ?_⟩
    rw [Numeral.double?] at h
    dsimp only at h
    rw [hd, Option.map_none, Option.none_or] at h
    obtain ⟨y, hy, -⟩ := Option.map_eq_some_iff.1 h
    rw [hy, Option.isSome_some]

end Numeral
end RecordFilter
