/-
# Texts cut behind a token

A token is read off a text with a look at what follows it, to see that it does not go on there.  If
the text is cut behind the token, the same token is read: what goes on with nothing goes on with
nothing where less follows (`front_of_append`).  This is the other half of `front_append`, and says
that the part of a text up to a token has the tokens up to there.

White space goes on with no token (`separates_of_isWhiteSpace`), so it may be put in where the text
was cut.
-/

import Mathlib
import RecordFilter.Proofs.Expr.Scanning

namespace RecordFilter
namespace Scan

variable {cs ds rest : List Char} {c d first quote letter : Char} {t : Token} {n start : Nat}

/-! ### White space -/

/-- Symbols are written with characters of one byte that can be seen. -/
theorem toNat_of_mem_text (s : Symbol) (h : d ∈ s.text.toList) :
    0x21 ≤ d.toNat ∧ d.toNat ≤ 0x7E := by
  have hs : s.text.toList.all (fun d => decide (0x21 ≤ d.toNat ∧ d.toNat ≤ 0x7E)) = true := by
    cases s <;> rfl
  exact of_decide_eq_true (List.all_eq_true.1 hs d h)

/-- No token goes on with white space. -/
theorem separates_of_isWhiteSpace (h : Unicode.isWhiteSpace d = true) : Separates d where
  name := by
    rw [continuesName, Unicode.isAlphanumeric_of_isWhiteSpace h, Bool.false_or,
      Bool.or_eq_false_iff, beq_eq_false_iff_ne, beq_eq_false_iff_ne]
    constructor <;> rintro rfl <;> exact absurd h (by decide)
  point := by
    rintro rfl
    exact absurd h (by decide)
  symbol s _ hd :=
    Unicode.not_mem_of_isWhiteSpace h (by decide) (toNat_of_mem_text s (List.mem_of_mem_tail hd))

/-- What starts with white space ends a token in front of it. -/
theorem ends_append_of_isWhiteSpace {ws : List Char}
    (hw : ∀ c ∈ ws, Unicode.isWhiteSpace c = true) (hne : ws ≠ []) (ds : List Char) :
    Ends (ws ++ ds) := by
  obtain ⟨w, ws, rfl⟩ := List.exists_cons_of_ne_nil hne
  intro d hd
  obtain rfl := Option.some.inj hd
  exact separates_of_isWhiteSpace (hw w List.mem_cons_self)

/-! ### Runs of characters -/

/-- Characters that are taken in front of a cut are taken without what is cut off. -/
theorem takeWhile_of_append {p : Char → Bool}
    (h : ((cs ++ ds).takeWhile p).length ≤ cs.length) :
    (cs ++ ds).takeWhile p = cs.takeWhile p := by
  rw [List.takeWhile_append] at h ⊢
  split at h
  · next hc =>
    rw [if_pos hc]
    rw [List.length_append] at h
    have hd : (ds.takeWhile p).length = 0 := by omega
    rw [List.length_eq_zero_iff.1 hd, List.append_nil]
    exact ((List.takeWhile_prefix p).eq_of_length hc).symm
  · next hc => rw [if_neg hc]

/-- Digits that end in front of a cut are taken without what is cut off. -/
theorem digits_of_append (h : (Numeral.digits (cs ++ ds)).length ≤ cs.length) :
    Numeral.digits (cs ++ ds) = Numeral.digits cs :=
  takeWhile_of_append h

/-! ### Texts in quotes -/

/-- An escape that ends in front of a cut is read without what is cut off. -/
theorem escapePiece_of_append (h : escapePiece letter (rest ++ ds) = .char c n)
    (hn : n ≤ rest.length + 2) : escapePiece letter rest = .char c n ∧ 0 < n := by
  unfold escapePiece at *
  cases hc : escapedChar? letter with
  | some _ =>
    simp only [hc] at h ⊢
    cases h
    exact ⟨rfl, Nat.succ_pos _⟩
  | none =>
    cases hl : hexEscapeLength? letter with
    | none => simp only [hc, hl] at h; cases h
    | some count =>
      simp only [hc, hl] at h ⊢
      by_cases hle : count ≤ rest.length
      · rw [List.take_append_of_le_length hle] at h
        refine ⟨h, ?_⟩
        split at h
        · cases h; omega
        · cases h
      · -- The digits would go on behind the cut.
        exfalso
        split at h
        · cases h; omega
        · cases h

/-- An escape has a backslash and a letter at least. -/
theorem two_le_of_escapePiece (h : escapePiece letter rest = .char c n) : 2 ≤ n := by
  unfold escapePiece at h
  split at h
  · cases h
    exact Nat.le_refl _
  · dsimp only at h
    split at h
    · cases h
      exact Nat.le_add_right ..
    · cases h
  · cases h

/-- A piece that ends in front of a cut is read without what is cut off. -/
theorem piece_of_append (h : piece first (rest ++ ds) = .char c n)
    (hn : n ≤ rest.length + 1) : piece first rest = .char c n ∧ 0 < n := by
  unfold piece at *
  split at h
  · next hf =>
    rw [if_pos hf]
    cases rest with
    | nil =>
      cases ds with
      | nil => cases h
      | cons letter more =>
        -- An escape takes its letter at least.
        exfalso
        have := two_le_of_escapePiece h
        rw [List.length_nil] at hn
        omega
    | cons letter more => exact escapePiece_of_append h hn
  · next hf =>
    rw [if_neg hf]
    cases h
    exact ⟨rfl, Nat.succ_pos _⟩

/-- The closing quote takes a character at least. -/
theorem length_pos_of_body {text : List Char} (h : body quote cs = .closed text n) : 0 < n := by
  fun_induction body quote cs generalizing text n with
  | case1 => cases h
  | case2 => cases h; exact Nat.one_pos
  | case3 c rest hq d length hp ih =>
    obtain ⟨text', k, hb, rfl, rfl⟩ := afterChar_eq_closed h
    exact Nat.lt_of_lt_of_le (ih hb) (Nat.le_add_left ..)
  | case4 => cases h
  | case5 => cases h

/-- A text in quotes that ends in front of a cut is read without what is cut off. -/
theorem body_of_append {text : List Char} (h : body quote (cs ++ ds) = .closed text n)
    (hn : n ≤ cs.length) : body quote cs = .closed text n := by
  induction hl : cs.length using Nat.strong_induction_on generalizing cs text n with
  | _ k ih =>
    cases cs with
    | nil =>
      exfalso
      obtain rfl := Nat.le_zero.1 hn
      rw [List.nil_append] at h
      exact absurd (length_pos_of_body h) (Nat.lt_irrefl _)
    | cons c rest =>
      rw [List.cons_append, body] at h
      rw [body]
      split at h
      · next hq => rw [if_pos hq, h]
      · next hq =>
        rw [if_neg hq]
        split at h
        · next d length hp =>
          obtain ⟨text', j, hb, rfl, rfl⟩ := afterChar_eq_closed h
          rw [List.length_cons] at hn hl
          obtain ⟨hp', hpos⟩ := piece_of_append hp (by omega)
          rw [List.drop_append_of_le_length (by omega)] at hb
          have hlen : (rest.drop (length - 1)).length = rest.length - (length - 1) :=
            List.length_drop
          rw [hp']
          dsimp only
          rw [ih _ (by omega) hb (by omega) rfl]
          rfl
        · cases h
        · cases h

/-- A string that ends in front of a cut is read without what is cut off, at any position. -/
theorem string_of_append (h : string quote start (rest ++ ds) = .token t n)
    (hn : n ≤ rest.length + 1) (p : Nat) : string quote p rest = .token t n := by
  unfold string at *
  cases hb : body quote (rest ++ ds) with
  | closed text length =>
    rw [hb] at h
    cases h
    rw [body_of_append hb (by omega)]
  | unclosed | badEscape =>
    rw [hb] at h
    cases h

/-! ### Numbers -/

/-- A fraction that ends in front of a cut is taken without what is cut off. -/
theorem fraction_of_append (h : fractionLength (fraction (cs ++ ds)) ≤ cs.length) :
    fraction (cs ++ ds) = fraction cs := by
  cases cs with
  | nil =>
    unfold fractionLength at h
    split at h
    · next he => exact List.isEmpty_iff.1 he
    · exact absurd h (Nat.not_succ_le_zero _)
  | cons c cs =>
    by_cases hc : c = '.'
    · subst hc
      refine digits_of_append ?_
      change fractionLength (Numeral.digits (cs ++ ds)) ≤ _ at h
      unfold fractionLength at h
      split at h
      · next he =>
        rw [List.isEmpty_iff.1 he]
        exact Nat.zero_le _
      · exact Nat.le_of_succ_le_succ h
    · rw [List.cons_append, fraction.eq_2 _ fun _ hr => hc (List.cons.inj hr).1,
        fraction.eq_2 _ fun _ hr => hc (List.cons.inj hr).1]

/-- An exponent is a letter, a sign or none, and digits. -/
theorem exponent_eq_iff (hc : c = 'e' ∨ c = 'E') :
    exponent (c :: rest) = (n, true) ↔
      Numeral.digits (Numeral.takeSign rest).2 ≠ [] ∧
        n = 1 + (rest.length - (Numeral.takeSign rest).2.length) +
          (Numeral.digits (Numeral.takeSign rest).2).length := by
  rw [exponent, if_pos hc]
  dsimp only
  rw [Prod.mk.injEq, Bool.not_eq_true', List.isEmpty_eq_false_iff, and_comm, @eq_comm _ n]

/-- An exponent that ends in front of a cut is measured without what is cut off. -/
theorem exponent_of_append (he : exponent (cs ++ ds) = (n, true))
    (hn : n ≤ cs.length) : exponent cs = (n, true) := by
  cases cs with
  | nil =>
    obtain rfl := Nat.le_zero.1 hn
    cases ds with
    | nil => exact he
    | cons d ds =>
      by_cases hd : d = 'e' ∨ d = 'E'
      · have := ((exponent_eq_iff hd).1 he).2
        omega
      · rw [List.nil_append, exponent, if_neg hd] at he
        exact he
  | cons c rest =>
    by_cases hc : c = 'e' ∨ c = 'E'
    · rw [List.cons_append] at he
      obtain ⟨hd, hl⟩ := (exponent_eq_iff hc).1 he
      have hpos := List.length_pos_iff.2 hd
      have hr : rest ≠ [] := by
        rintro rfl
        rw [List.length_singleton] at hn
        omega
      have hle := length_takeSign_le rest
      rw [takeSign_append hr] at hd hl
      dsimp only at hd hl
      rw [List.length_append, List.length_append, Nat.add_sub_add_right] at hl
      rw [List.length_cons] at hn
      have hlen : (Numeral.digits ((Numeral.takeSign rest).2 ++ ds)).length ≤
        (Numeral.takeSign rest).2.length := by omega
      have hdigits := digits_of_append hlen
      rw [hdigits] at hd hl
      exact (exponent_eq_iff hc).2 ⟨hd, hl⟩
    · rw [List.cons_append, exponent, if_neg hc] at he
      rw [exponent, if_neg hc, he]

/-- Where no name starts, none starts without what is cut off. -/
theorem nameLength_of_append (h : nameLength (cs ++ ds) = 0) : nameLength cs = 0 := by
  cases cs with
  | nil => rfl
  | cons c cs =>
    rw [List.cons_append, nameLength] at h
    rw [nameLength]
    split at h
    · next hs =>
      rw [List.takeWhile_cons, if_pos (continuesName_of_startsName hs)] at h
      cases h
    · next hs => rw [if_neg hs]

/-- The mantissa of a number that ends before the cut. -/
theorem mantissaLength_of_append (h : mantissaLength (cs ++ ds) ≤ cs.length) :
    mantissaLength (cs ++ ds) = mantissaLength cs := by
  unfold mantissaLength at h ⊢
  have hdigits := digits_of_append (Nat.le_trans (Nat.le_add_right ..) h)
  rw [hdigits, List.drop_append_of_le_length (length_digits_le cs)] at h ⊢
  have hlen : fractionLength (fraction (cs.drop (Numeral.digits cs).length ++ ds)) ≤
      (cs.drop (Numeral.digits cs).length).length := by
    rw [List.length_drop]
    omega
  rw [fraction_of_append hlen]

/-- A number that ends in front of a cut is read without what is cut off, at any position. -/
theorem number_of_append (h : number start (cs ++ ds) = .token t n) (hn : n ≤ cs.length)
    (p : Nat) : number p cs = .token t n := by
  obtain ⟨k, x, he, hz, hx, rfl, rfl⟩ := number_eq_token_iff.1 h
  have hm := mantissaLength_of_append (Nat.le_trans (Nat.le_add_right ..) hn)
  have hle := mantissaLength_le cs
  rw [hm] at hn he hz hx ⊢
  rw [List.drop_append_of_le_length hle] at he
  rw [List.drop_append_of_le_length hn] at hz
  rw [List.take_append_of_le_length hn] at hx
  refine number_eq_token_iff.2 ⟨k, x, exponent_of_append he ?_, nameLength_of_append hz, hx, rfl,
    rfl⟩
  rw [List.length_drop]
  omega

/-! ### Names and symbols -/

/-- A name that ends in front of a cut is read without what is cut off. -/
theorem name_of_append (h : name (first :: (rest ++ ds)) = .token t n)
    (hn : n ≤ rest.length + 1) : name (first :: rest) = .token t n := by
  unfold name at h ⊢
  dsimp only at h ⊢
  have hlen : ((first :: rest ++ ds).takeWhile continuesName).length ≤
      (first :: rest).length := by
    cases h
    exact hn
  rw [← takeWhile_of_append hlen]
  exact h

/-- The longest symbol in front of a text is the longest in front of the text cut off behind it. -/
theorem ofFront?_of_append {s : Symbol} (h : Symbol.ofFront? (cs ++ ds) = some s)
    (hn : s.text.toList.length ≤ cs.length) : Symbol.ofFront? cs = some s := by
  obtain ⟨hp, as, bs, hl, has⟩ := List.find?_eq_some_iff_append.1 h
  refine List.find?_eq_some_iff_append.2 ⟨?_, as, bs, hl, fun a ha => ?_⟩
  · rw [List.isPrefixOf_iff_prefix] at hp ⊢
    exact List.prefix_of_prefix_length_le hp (List.prefix_append cs ds) hn
  · have hno := has a ha
    rw [Bool.not_eq_true', ← Bool.not_eq_true, List.isPrefixOf_iff_prefix] at hno ⊢
    exact fun h => hno (h.trans (List.prefix_append cs ds))

/-- A symbol that ends in front of a cut is read without what is cut off, at any position. -/
theorem symbol_of_append (h : symbol start first (rest ++ ds) = .token t n)
    (hn : n ≤ rest.length + 1) (p : Nat) : symbol p first rest = .token t n := by
  unfold symbol at h ⊢
  cases hs : Symbol.ofFront? (first :: (rest ++ ds)) with
  | none =>
    rw [hs] at h
    cases h
  | some s =>
    have hs' : Symbol.ofFront? (first :: rest ++ ds) = some s := hs
    rw [hs] at h
    cases h
    rw [ofFront?_of_append hs' (by rw [String.length_toList]; exact hn)]

/-! ### What stands at the front -/

/-- A number that ends before the cut starts there with a digit, or with a point and a digit. -/
theorem startsNumber_of_append (hm : mantissaLength (first :: rest ++ ds) ≤ rest.length + 1)
    (h : startsNumber first (rest ++ ds) = true) : startsNumber first rest = true := by
  cases rest with
  | cons => exact h
  | nil =>
    cases hf : Numeral.isDigit first with
    | true => rw [startsNumber, hf, Bool.true_or]
    | false =>
      -- A point and a digit are two characters.
      exfalso
      rw [startsNumber, hf, Bool.false_or, Bool.and_eq_true, beq_iff_eq] at h
      obtain ⟨rfl, hd⟩ := h
      cases ds with
      | nil => cases hd
      | cons d ds =>
        have hw : Numeral.digits ('.' :: d :: ds) = [] :=
          List.takeWhile_cons_of_neg (Bool.eq_false_iff.1 hf)
        have hx : fraction ('.' :: d :: ds) = d :: ds.takeWhile Numeral.isDigit :=
          List.takeWhile_cons_of_pos hd
        rw [List.cons_append, List.nil_append, mantissaLength, hw, List.length_nil, List.drop_zero,
          hx, fractionLength, List.isEmpty_cons, if_neg Bool.false_ne_true,
          List.length_cons] at hm
        omega

/-- What starts a number does so whatever follows. -/
theorem startsNumber_append_of (h : startsNumber first rest = true) (ds : List Char) :
    startsNumber first (rest ++ ds) = true := by
  cases rest with
  | cons => exact h
  | nil =>
    have hn : Numeral.startsWithDigit [] = false := rfl
    rw [startsNumber, hn, Bool.and_false, Bool.or_false] at h
    rw [startsNumber, h, Bool.true_or]

/-- **A token is read in the text cut off behind it**, with or without some of what follows it. -/
theorem front_of_append (h : front start first (rest ++ ds) = .token t n)
    (hn : n ≤ rest.length + 1) (p : Nat) : front p first rest = .token t n := by
  unfold front at h ⊢
  split_ifs at h with hq hs hname
  · rw [if_pos hq]
    exact string_of_append h hn p
  · have hnumber : number start (first :: rest ++ ds) = .token t n := h
    have hm := (number_append ends_nil h p).2.1
    rw [if_neg hq, if_pos (startsNumber_of_append (Nat.le_trans hm hn) hs)]
    exact number_of_append hnumber hn p
  · rw [if_neg hq, if_neg fun h => hs (startsNumber_append_of h ds), if_pos hname]
    exact name_of_append h hn
  · rw [if_neg hq, if_neg fun h => hs (startsNumber_append_of h ds), if_neg hname]
    exact symbol_of_append h hn p

end Scan
end RecordFilter
