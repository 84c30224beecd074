/-
# How JSON may be written

What a text of JSON may look like, said without a reader.  A character of a string has up to four
ways to be written (`Json.Piece`), a count has one (`Json.IsCount`), and blanks may stand in front
of each part of a text (`Json.Spaced`).  Reading takes off a text what is written there, and nothing
else: a string is read if and only if one is written (`stringBody_eq_ok_iff`), and so are the
punctuation and the counts (`nextKey_eq_true_iff`, `colon_eq_ok_iff`, `exists_of_count`).
-/

import Mathlib
import RecordFilter.Proofs.Json.Number
import RecordFilter.Proofs.Json.Structure

namespace RecordFilter
namespace Json

/-! ### Strings -/

/-- Four hexadecimal digits, and the number that they write. -/
def IsUnit (ds : List Char) (n : Nat) : Prop :=
  ∃ a b c d, ds = [a, b, c, d] ∧ codeUnit? a b c d = some n

/-- How a character is written inside a string. -/
inductive Piece : List Char → Char → Prop where
  /-- By itself, unless it is a quote, a backslash or a control. -/
  | plain {c} (hq : c ≠ '"') (hs : c ≠ '\\') (hc : ¬ c < ' ') : Piece [c] c
  /-- By a letter behind a backslash. -/
  | letter {l c} (h : letterEscape? l = some c) : Piece ['\\', l] c
  /-- By its number. -/
  | unit {ds n} (h : IsUnit ds n) (hl : isLowHalf n = false) (hh : isHighHalf n = false) :
    Piece ('\\' :: 'u' :: ds) (.ofNat n)
  /-- By two numbers, if its own has too many digits. -/
  | halves {ds es n m} (hn : IsUnit ds n) (hl : isLowHalf n = false) (hh : isHighHalf n = true)
      (hm : IsUnit es m) (hm' : isLowHalf m = true) :
    Piece ('\\' :: 'u' :: (ds ++ '\\' :: 'u' :: es))
      (.ofNat (0x10000 + (n - 0xD800) * 0x400 + (m - 0xDC00)))

/-- How characters are written inside a string. -/
inductive Pieces : List Char → List Char → Prop where
  | nil : Pieces [] []
  | cons {text c more cs} (h : Piece text c) (hmore : Pieces more cs) :
      Pieces (text ++ more) (c :: cs)

/-- A string in its quotes. -/
def IsString (text : List Char) (s : String) : Prop :=
  ∃ inner, text = '"' :: (inner ++ ['"']) ∧ Pieces inner s.toList

variable {c : Char} {cs ds text rest chars gap close : List Char} {n limit : Nat} {s : String}

/-! ### Blanks -/

/-- A text is blanks and what stands behind them. -/
theorem exists_of_skipBlanks (cs : List Char) :
    ∃ gap, IsBlanks gap ∧ cs = gap ++ skipBlanks cs :=
  ⟨cs.takeWhile isBlank, fun _ h => List.mem_takeWhile_imp h, List.takeWhile_append_dropWhile.symm⟩

/-! ### Characters -/

/-- The four digits of a number are read as that. -/
theorem IsUnit.codeUnit (h : IsUnit ds n) (rest : List Char) :
    codeUnit (ds ++ rest) = .ok (n, rest) := by
  obtain ⟨a, b, c, d, rfl, hn⟩ := h
  simp only [List.cons_append, List.nil_append, Json.codeUnit, hn]

/-- What is read as the digits of a number is written like that. -/
theorem exists_of_codeUnit (h : codeUnit cs = .ok (n, rest)) :
    ∃ ds, IsUnit ds n ∧ cs = ds ++ rest := by
  unfold codeUnit at h
  split at h
  · next a b c d more =>
    split at h
    · next m hm =>
      cases h
      exact ⟨[a, b, c, d], ⟨a, b, c, d, rfl, hm⟩, rfl⟩
    · cases h
  · cases h

/-- Each way to write a character is read as the character. -/
theorem Piece.standsFor (h : Piece text c) : StandsFor text c := by
  cases h with
  | plain hq hs hc => exact standsFor_self hq hs hc
  | @letter l c h =>
    have hu : l ≠ 'u' := by
      rintro rfl
      cases h
    exact standsFor_letter hu h
  | unit h hl hh =>
    refine standsFor_escape fun rest => ?_
    rw [List.cons_append, escape, unicodeEscape, h.codeUnit]
    simp only [Bool.not_true, Bool.false_eq_true, if_false, hl, hh]
  | halves hn hl hh hm hm' =>
    refine standsFor_escape fun rest => ?_
    simp only [List.cons_append, List.append_assoc]
    rw [escape, unicodeEscape, hn.codeUnit]
    simp only [Bool.not_true, Bool.false_eq_true, if_false, if_true, hl, hh, lowHalf, hm.codeUnit,
      hm']

/-- What is read as the second half of a character is an escape of its own. -/
theorem exists_of_lowHalf (h : lowHalf cs = .ok (n, rest)) :
    ∃ ds, IsUnit ds n ∧ isLowHalf n = true ∧ cs = '\\' :: 'u' :: (ds ++ rest) := by
  unfold lowHalf at h
  split at h
  · cases h
  · cases h
  · split at h
    · next m more hm =>
      obtain ⟨ds, hds, rfl⟩ := exists_of_codeUnit hm
      split at h
      · next hlow =>
        cases h
        exact ⟨ds, hds, hlow, rfl⟩
      · cases h
    · cases h
  · cases h

/-- What is read behind `\u` is one way to write a character, or two halves of one. -/
theorem exists_of_unicodeEscape (h : unicodeEscape true cs = .ok (c, rest)) :
    ∃ text, Piece ('\\' :: 'u' :: text) c ∧ cs = text ++ rest := by
  unfold unicodeEscape at h
  split at h
  · cases h
  next n more hn =>
  obtain ⟨ds, hds, rfl⟩ := exists_of_codeUnit hn
  rw [if_neg (by decide)] at h
  cases hl : isLowHalf n with
  | true =>
    rw [hl] at h
    cases h
  | false =>
  rw [hl, if_neg Bool.false_ne_true] at h
  cases hh : isHighHalf n with
  | false =>
    rw [hh, if_neg Bool.false_ne_true] at h
    obtain ⟨rfl, rfl⟩ := Prod.mk.inj (Except.ok.inj h)
    exact ⟨ds, .unit hds hl hh, rfl⟩
  | true =>
    rw [hh, if_pos rfl] at h
    split at h
    · next m behind hm =>
      obtain ⟨es, hes, hlow, rfl⟩ := exists_of_lowHalf hm
      obtain ⟨rfl, rfl⟩ := Prod.mk.inj (Except.ok.inj h)
      exact ⟨_, .halves hds hl hh hes hlow, by simp⟩
    · cases h

/-- What is read behind a backslash is one way to write a character. -/
theorem exists_of_escape (h : escape true cs = .ok (c, rest)) :
    ∃ text, Piece ('\\' :: text) c ∧ cs = text ++ rest := by
  unfold escape at h
  split at h
  · cases h
  · obtain ⟨text, htext, rfl⟩ := exists_of_unicodeEscape h
    exact ⟨_, htext, rfl⟩
  · split at h
    · next hd =>
      cases h
      exact ⟨_, .letter hd, rfl⟩
    · cases h

/-- What is read as the characters of a string is written like that, and a quote behind it. -/
theorem exists_of_charsUpTo (h : charsUpTo true limit cs = .ok (chars, rest)) :
    ∃ text, Pieces text chars ∧ cs = text ++ '"' :: rest := by
  induction limit generalizing cs chars with
  | zero => cases cs <;> cases h
  | succ limit ih =>
    cases cs with
    | nil => cases h
    | cons c cs =>
      rw [charsUpTo] at h
      by_cases hq : c = '"'
      · rw [if_pos hq] at h
        cases h
        exact ⟨[], .nil, by rw [hq]; rfl⟩
      rw [if_neg hq] at h
      by_cases hc : c < ' '
      · rw [if_pos hc] at h
        cases h
      rw [if_neg hc] at h
      split at h
      · cases h
      next d more hd =>
      split at h
      · next ds behind hds =>
        cases h
        obtain ⟨text, htext, rfl⟩ := ih hds
        split at hd
        · next hs =>
          obtain ⟨front, hfront, rfl⟩ := exists_of_escape hd
          exact ⟨_, .cons hfront htext, by rw [hs]; simp⟩
        · next hs =>
          cases hd
          exact ⟨_, .cons (.plain hq hs hc) htext, rfl⟩
      · cases h

/-- Characters are read however they are written. -/
theorem Pieces.charsUpTo (h : Pieces text chars) (hlimit : chars.length < limit)
    (rest : List Char) : charsUpTo true limit (text ++ '"' :: rest) = .ok (chars, rest) := by
  induction h generalizing limit with
  | nil =>
    obtain ⟨limit, rfl⟩ := Nat.exists_eq_succ_of_ne_zero (Nat.ne_of_gt hlimit)
    rfl
  | cons h _ ih =>
    obtain ⟨limit, rfl⟩ := Nat.exists_eq_succ_of_ne_zero (Nat.ne_of_gt (Nat.zero_lt_of_lt hlimit))
    rw [List.append_assoc, h.standsFor, ih (Nat.lt_of_succ_lt_succ hlimit)]
    rfl

/-- A character is written with at least one character. -/
theorem Pieces.length_le (h : Pieces text chars) : chars.length ≤ text.length := by
  induction h with
  | nil => exact Nat.le_refl 0
  | cons h _ ih =>
    have := h.standsFor.length_pos
    rw [List.length_cons, List.length_append]
    omega

/-- **A string is read if and only if one is written**, behind its opening quote. -/
theorem stringBody_eq_ok_iff :
    stringBody cs = .ok (s, rest) ↔ ∃ text, Pieces text s.toList ∧ cs = text ++ '"' :: rest := by
  constructor
  · intro h
    obtain ⟨⟨chars, behind⟩, hchars, h⟩ := map_eq_ok h
    cases h
    rw [String.toList_ofList]
    exact exists_of_charsUpTo hchars
  · rintro ⟨text, htext, rfl⟩
    have hlimit : s.toList.length < (text ++ '"' :: rest).length := by
      have := htext.length_le
      rw [List.length_append, List.length_cons]
      omega
    rw [stringBody, htext.charsUpTo hlimit]
    exact congrArg (fun t => Except.ok (t, rest)) String.ofList_toList

/-! ### Counts -/

/-- How a count is written: in digits, of which the first is no zero unless it is the only one. -/
structure IsCount (text : List Char) (n : Nat) : Prop where
  /-- It is made of digits. -/
  digits : RecordFilter.Numeral.IsRun text
  /-- No other digit follows a leading zero. -/
  zero : text.head? = some '0' → text = ['0']
  /-- The digits write the count. -/
  value : Nat.ofDigitChars 10 text 0 = n
  /-- The count has at most 64 bits. -/
  bits : n < 2 ^ 64

namespace Numeral

open RecordFilter.Numeral (IsRun digits_append_afterDigits isRun_digits startsWithDigit)

/-- What is read as digits is digits. -/
theorem isRun_of_someDigits (h : someDigits cs = .ok (ds, rest)) : IsRun ds ∧ cs = ds ++ rest := by
  unfold someDigits at h
  split at h
  · cases h
  · next hne =>
    split at h
    · next hdigit =>
      cases h
      obtain ⟨c, more, rfl⟩ := List.exists_cons_of_ne_nil hne
      have hc : RecordFilter.Numeral.isDigit c = true := hdigit
      refine ⟨isRun_digits ?_, (digits_append_afterDigits _).symm⟩
      unfold RecordFilter.Numeral.digits
      rw [List.takeWhile_cons, if_pos hc]
      rfl
    · cases h

/-- What is read in front of a point is digits, without a zero in front of others. -/
theorem isRun_of_wholePart (h : wholePart cs = .ok (ds, rest)) :
    IsRun ds ∧ (ds.head? = some '0' → ds = ['0']) ∧ cs = ds ++ rest := by
  unfold wholePart at h
  split at h
  · next more =>
    split at h
    · cases h
    · cases h
      exact ⟨⟨List.cons_ne_nil _ _, List.forall_mem_singleton.2 rfl⟩, fun _ => rfl, rfl⟩
  · next hzero =>
    obtain ⟨hrun, rfl⟩ := isRun_of_someDigits h
    refine ⟨hrun, fun hhead => ?_, rfl⟩
    obtain ⟨more, rfl⟩ := List.head?_eq_some_iff.1 hhead
    exact absurd rfl (hzero (more ++ rest))

/-- Where no fraction is read, no point stands. -/
theorem eq_of_fractionPart (h : fractionPart cs = .ok ([], rest)) : cs = rest := by
  unfold fractionPart at h
  split at h
  · exact absurd rfl (isRun_of_someDigits h).1.1
  · cases h
    rfl

/-- Where no exponent is read, none stands. -/
theorem eq_of_exponentPart (h : exponentPart cs = .ok (none, rest)) : cs = rest := by
  unfold exponentPart at h
  split at h
  · cases h
    rfl
  · split at h
    · obtain ⟨_, -, h⟩ := map_eq_ok h
      cases h
    · cases h
      rfl

/-- A number without sign, point and exponent is its digits. -/
theorem digits_of_read {whole : List Char} (h : read cs = .ok (⟨false, whole, [], none⟩, rest)) :
    IsRun whole ∧ (whole.head? = some '0' → whole = ['0']) ∧ cs = whole ++ rest := by
  unfold read at h
  split at h
  next hminus =>
  obtain ⟨⟨ds, behind⟩, hwhole, h⟩ := bind_eq_ok h
  obtain ⟨⟨fs, behind'⟩, hfraction, h⟩ := bind_eq_ok h
  obtain ⟨⟨exponent, behind''⟩, hexponent, h⟩ := bind_eq_ok h
  cases h
  obtain rfl := eq_of_fractionPart hfraction
  obtain rfl := eq_of_exponentPart hexponent
  split at hminus
  · cases hminus
  · cases hminus
    exact isRun_of_wholePart hwhole

/-- A number of a few bits is no greater than one with many zeros behind its bits. -/
theorem natCast_le_size {n m j k : Nat} (hn : n < 2 ^ j) (hjk : j ≤ k) (hm : 0 < m) :
    (n : ℚ) ≤ Binary64.size m k := by
  have hnat : n ≤ m * 2 ^ k :=
    calc n ≤ 2 ^ j := Nat.le_of_lt hn
      _ ≤ 2 ^ k := Nat.pow_le_pow_right Nat.two_pos hjk
      _ ≤ m * 2 ^ k := Nat.le_mul_of_pos_left _ hm
  exact (Nat.cast_le.2 hnat).trans_eq (Binary64.size_natCast m k).symm

/-- A count has a value. -/
theorem exists_value?_of_isCount {n : Nat} (h : IsCount text n) :
    ∃ x, value? ⟨false, text, [], none⟩ = some x := by
  have hleading : leading ⟨false, text, [], none⟩ = ⟨n, 0, false⟩ := by
    rw [leading, foldl_pushWhole text (h.value.symm ▸ h.bits), h.value]
    rfl
  have hbound : (n : ℚ) * 10 ^ (0 : Int) ≤ Binary64.size (2 ^ 53 - 8) 971 := by
    rw [zpow_zero, mul_one]
    exact natCast_le_size h.bits (by decide) (by decide)
  obtain ⟨x, hx⟩ := Option.isSome_iff_exists.1 (isSome_scale? hbound)
  refine ⟨x, ?_⟩
  rw [value?, magnitude?, hleading]
  dsimp only
  rw [hx]
  rfl

end Numeral

/-- What is read as a count is one, behind blanks. -/
theorem exists_of_count (h : count cs = .ok (n, rest)) :
    ∃ gap text, IsBlanks gap ∧ IsCount text n ∧ cs = gap ++ (text ++ rest) := by
  obtain ⟨gap, hgap, hcs⟩ := exists_of_skipBlanks cs
  unfold count at h
  split at h
  · cases h
  next c more hmore =>
  rw [← hmore] at h
  split at h
  · split at h
    · cases h
    next numeral x behind hnumber =>
    split at h
    · next m hm =>
      cases h
      unfold number at hnumber
      split at hnumber
      · cases hnumber
      next hread =>
      split at hnumber
      · cases hnumber
        obtain ⟨negative, whole, fraction, exponent⟩ := numeral
        simp only [Numeral.count?, Bool.and_eq_true, Bool.not_eq_true', List.isEmpty_iff,
          Option.isNone_iff_eq_none, decide_eq_true_eq, Option.ite_none_right_eq_some,
          Option.some.injEq] at hm
        obtain ⟨⟨⟨⟨rfl, rfl⟩, rfl⟩, hbits⟩, hvalue⟩ := hm
        obtain ⟨hrun, hzero, hwhole⟩ := Numeral.digits_of_read hread
        rw [Decimal.ofDigits_eq] at hbits hvalue
        exact ⟨gap, whole, hgap, ⟨hrun, hzero, hvalue, hvalue ▸ hbits⟩, by rw [← hwhole]; exact hcs⟩
      · cases hnumber
    · cases h
  · cases h

/-- A count starts with a digit. -/
theorem IsCount.exists_cons (h : IsCount text n) :
    ∃ c more, text = c :: more ∧ RecordFilter.Numeral.isDigit c = true ∧ isBlank c = false := by
  obtain ⟨c, more, rfl⟩ := List.exists_cons_of_ne_nil h.digits.1
  have hdigit := h.digits.2 c List.mem_cons_self
  refine ⟨c, more, rfl, hdigit, ?_⟩
  rw [← Bool.not_eq_true]
  intro hblank
  simp only [isBlank, Bool.or_eq_true, beq_iff_eq] at hblank
  rcases hblank with ((rfl | rfl) | rfl) | rfl <;> cases hdigit

/-- A count may stand where an element is expected. -/
theorem IsCount.starts (h : IsCount text n) : Starts text := by
  obtain ⟨c, more, rfl, hdigit, hblank⟩ := h.exists_cons
  refine ⟨c, more, rfl, hblank, ?_⟩
  rintro rfl
  cases hdigit

/-- A count is read behind blanks, in front of what does not go on with it. -/
theorem IsCount.count (h : IsCount text n) (hgap : IsBlanks gap) (hrest : Ends rest) :
    count (gap ++ (text ++ rest)) = .ok (n, rest) := by
  obtain ⟨c, more, rfl, hdigit, hblank⟩ := h.exists_cons
  obtain ⟨x, hx⟩ := Numeral.exists_value?_of_isCount h
  have hproper : (⟨false, c :: more, [], none⟩ : Numeral).IsProper :=
    ⟨h.digits, h.zero, fun hne => absurd rfl hne, nofun⟩
  have hnumber := number_written hproper hx hrest
  have hwritten : Numeral.written ⟨false, c :: more, [], none⟩ = c :: more := by
    simp [Numeral.written, Numeral.fractionText, Numeral.exponentText]
  have hcount : Numeral.count? ⟨false, c :: more, [], none⟩ = some n := by
    simp only [Numeral.count?, Decimal.ofDigits_eq, h.value]
    exact if_pos (by simpa using h.bits)
  rw [hwritten, List.cons_append] at hnumber
  rw [Json.count, skipBlanks_append hgap, List.cons_append, skipBlanks_cons hblank]
  simp only [hdigit, or_true, if_true, hnumber, hcount]

/-! ### Parts of a text -/

/-- Parts one behind the other, with blanks in front of each. -/
def Spaced : (parts : List (List Char)) → List Char → Prop
  | [], text => text = []
  | part :: more, text =>
    ∃ gap rest, IsBlanks gap ∧ Spaced more rest ∧ text = gap ++ (part ++ rest)

/-- What separates an item of a container from what stands in front of it. -/
def comma : (isFirst : Bool) → List (List Char)
  | true => []
  | false => [[',']]

/-- The parts of items, with commas between the items; behind other items one stands in front. -/
def parted : (isFirst : Bool) → (items : List (List (List Char))) → List (List Char)
  | _, [] => []
  | isFirst, item :: more => comma isFirst ++ (item ++ parted false more)

/-- Some parts, and others behind them. -/
theorem spaced_append {parts more : List (List Char)} :
    Spaced (parts ++ more) text ↔
      ∃ front rest, Spaced parts front ∧ Spaced more rest ∧ text = front ++ rest := by
  induction parts generalizing text with
  | nil =>
    constructor
    · intro h
      exact ⟨[], text, rfl, h, rfl⟩
    · rintro ⟨front, rest, rfl, h, rfl⟩
      exact h
  | cons part parts ih =>
    constructor
    · rintro ⟨gap, rest, hgap, hrest, rfl⟩
      obtain ⟨front, behind, hfront, hbehind, rfl⟩ := ih.1 hrest
      exact ⟨_, behind, ⟨gap, front, hgap, hfront, rfl⟩, hbehind, by simp⟩
    · rintro ⟨_, behind, ⟨gap, front, hgap, hfront, rfl⟩, hbehind, rfl⟩
      exact ⟨gap, front ++ behind, hgap, ih.2 ⟨front, behind, hfront, hbehind, rfl⟩, by simp⟩

/-- One part. -/
theorem spaced_singleton {part : List Char} :
    Spaced [part] text ↔ ∃ gap, IsBlanks gap ∧ text = gap ++ part := by
  constructor
  · rintro ⟨gap, _, hgap, rfl, rfl⟩
    exact ⟨gap, hgap, by rw [List.append_nil]⟩
  · rintro ⟨gap, hgap, rfl⟩
    exact ⟨gap, [], hgap, rfl, by rw [List.append_nil]⟩

/-- A part that ends a number does so behind blanks, too. -/
theorem Spaced.ends {parts : List (List Char)} (h : Spaced ([c] :: parts) text)
    (hc : c = ',' ∨ c = ']' ∨ c = '\x7d') (rest : List Char) : Ends (text ++ rest) := by
  obtain ⟨gap, more, hgap, -, rfl⟩ := h
  rw [List.append_assoc]
  exact hgap.ends (ends_cons hc _)

/-- What stands behind blanks. -/
theorem exists_of_skipBlanks_eq (h : skipBlanks cs = text) :
    ∃ gap, IsBlanks gap ∧ cs = gap ++ text := by
  obtain ⟨gap, hgap, hcs⟩ := exists_of_skipBlanks cs
  exact ⟨gap, hgap, h ▸ hcs⟩

/-- A colon is read if and only if one is written. -/
theorem colon_eq_ok_iff : colon cs = .ok rest ↔ ∃ gap, IsBlanks gap ∧ cs = gap ++ ':' :: rest := by
  constructor
  · intro h
    unfold colon at h
    split at h
    · cases h
    · next hcs =>
      cases h
      exact exists_of_skipBlanks_eq hcs
    · cases h
  · rintro ⟨gap, hgap, rfl⟩
    unfold colon
    rw [skipBlanks_append hgap]
    rfl

/-- Blanks may stand in front of the comma in front of a key. -/
theorem nextKey_append {isFirst : Bool} (hgap : IsBlanks gap) (cs : List Char) :
    nextKey isFirst (gap ++ cs) = nextKey isFirst cs := by
  unfold nextKey
  rw [skipBlanks_append hgap]

/-- A key is found if and only if one is written, behind a comma unless it is the first. -/
theorem nextKey_eq_true_iff {isFirst : Bool} :
    nextKey isFirst cs = .ok (true, rest) ↔
      ∃ front, Spaced (comma isFirst ++ [['"']]) front ∧ cs = front ++ rest := by
  constructor
  · intro h
    unfold nextKey at h
    split at h
    · cases h
    · cases h
    · next hcs =>
      split at h
      · next hfirst =>
        cases h
        obtain ⟨gap, hgap, rfl⟩ := exists_of_skipBlanks_eq hcs
        rw [hfirst]
        exact ⟨gap ++ ['"'], spaced_singleton.2 ⟨gap, hgap, rfl⟩, by simp⟩
      · cases h
    · next hcs =>
      split at h
      · cases h
      next hfirst =>
      split at h
      · cases h
      · next hmore =>
        cases h
        obtain ⟨gap, hgap, rfl⟩ := exists_of_skipBlanks_eq hcs
        obtain ⟨gap', hgap', rfl⟩ := exists_of_skipBlanks_eq hmore
        rw [Bool.eq_false_iff.2 hfirst]
        exact ⟨_, ⟨gap, _, hgap, spaced_singleton.2 ⟨gap', hgap', rfl⟩, rfl⟩, by simp⟩
      · cases h
    · cases h
  · rintro ⟨front, hfront, rfl⟩
    cases isFirst with
    | true =>
      obtain ⟨gap, hgap, rfl⟩ := spaced_singleton.1 hfront
      rw [List.append_assoc]
      exact nextKey_first hgap rest
    | false =>
      obtain ⟨gap, more, hgap, hmore, rfl⟩ := hfront
      obtain ⟨gap', hgap', rfl⟩ := spaced_singleton.1 hmore
      simp only [List.append_assoc, List.cons_append, List.nil_append]
      rw [nextKey_append hgap]
      exact nextKey_comma hgap' rest

/-- Where no key is found the object is closed. -/
theorem exists_of_nextKey_close {isFirst : Bool} (h : nextKey isFirst cs = .ok (false, rest)) :
    ∃ gap more, IsBlanks gap ∧ rest = '\x7d' :: more ∧ cs = gap ++ rest := by
  unfold nextKey at h
  split at h
  · cases h
  · next hcs =>
    cases h
    obtain ⟨gap, hgap, rfl⟩ := exists_of_skipBlanks_eq hcs
    exact ⟨gap, _, hgap, rfl, rfl⟩
  · split at h <;> cases h
  · split at h
    · cases h
    · split at h <;> cases h
  · cases h

/-- Blanks may stand in front of the comma in front of an element. -/
theorem nextElement_append {isFirst : Bool} (hgap : IsBlanks gap) (cs : List Char) :
    nextElement isFirst (gap ++ cs) = nextElement isFirst cs := by
  unfold nextElement
  rw [skipBlanks_append hgap]

/-- An element is found where one starts, behind a comma unless it is the first. -/
theorem nextElement_spaced {isFirst : Bool} (hfront : Spaced (comma isFirst) gap)
    (hblanks : IsBlanks close) (h : Starts text) :
    nextElement isFirst (gap ++ (close ++ text)) = .ok (true, text) := by
  cases isFirst with
  | true =>
    obtain rfl := hfront
    exact nextElement_first hblanks h
  | false =>
    obtain ⟨gap, hgap, rfl⟩ := spaced_singleton.1 hfront
    rw [List.append_assoc, nextElement_append hgap]
    exact nextElement_comma hblanks h

/-- Where an element is found, a comma stands in front of it unless it is the first. -/
theorem exists_of_nextElement {isFirst : Bool} (h : nextElement isFirst cs = .ok (true, rest)) :
    ∃ front gap, Spaced (comma isFirst) front ∧ IsBlanks gap ∧ cs = front ++ (gap ++ rest) := by
  unfold nextElement at h
  split at h
  · cases h
  · cases h
  · next hcs =>
    obtain ⟨gap, hgap, rfl⟩ := exists_of_skipBlanks_eq hcs
    split at h
    · next hfirst =>
      cases h
      rw [hfirst]
      exact ⟨[], gap, rfl, hgap, rfl⟩
    · next hfirst =>
      split at h
      · next hcomma =>
        split at h
        · cases h
        · cases h
        · cases h
          obtain ⟨gap', hgap', hmore⟩ := exists_of_skipBlanks _
          rw [Bool.eq_false_iff.2 hfirst, hcomma]
          exact ⟨_, gap', spaced_singleton.2 ⟨gap, hgap, rfl⟩, hgap', by rw [← hmore]; simp⟩
      · cases h

/-- Where no element is found the array is closed. -/
theorem exists_of_nextElement_close {isFirst : Bool}
    (h : nextElement isFirst cs = .ok (false, rest)) :
    ∃ gap more, IsBlanks gap ∧ rest = ']' :: more ∧ cs = gap ++ rest := by
  unfold nextElement at h
  split at h
  · cases h
  · next hcs =>
    cases h
    obtain ⟨gap, hgap, rfl⟩ := exists_of_skipBlanks_eq hcs
    exact ⟨gap, _, hgap, rfl, rfl⟩
  · split at h
    · cases h
    · split at h
      · split at h <;> cases h
      · cases h

end Json
end RecordFilter
