/-
# Texts in quotes

What may stand between two quotes, said without a reader: pieces, each of which denotes one
character (`Quotation.Piece`).  A piece is a character that is neither the quote nor a backslash, or
a backslash with one of the letters of `escapes`, or one with `x` or `u` and the hexadecimal digits
of a code point that is no surrogate.

Pieces are read one after the other (`body_pieces`), and a text either goes on with the closing
quote behind its pieces, or with a backslash that starts none, or ends there (`exists_pieces`).  So
what follows a quote is read as the text that its pieces denote, and is otherwise refused for the
first backslash that starts no piece, or else for want of the closing quote (`string_refused`,
`next_quotation`).
-/

import Mathlib
import RecordFilter.Proofs.Expr.Tokenization

namespace RecordFilter

namespace Quotation

/-- The escape letters that stand for one character, with that character. -/
def escapes : List (Char × Char) := [
  ('"', '"'), ('\'', '\''), ('\\', '\\'), ('/', '/'), ('b', '\x08'), ('f', '\x0C'), ('v', '\x0B'),
  ('0', '\x00'), ('n', '\n'), ('r', '\r'), ('t', '\t')]

/-- The escape letters that a code point follows, with the number of its digits. -/
def codeEscapes : List (Char × Nat) := [('x', 2), ('u', 4)]

/-- The hexadecimal digits of either case, by value. -/
def HasValue (digit : Char) (value : Nat) : Prop :=
  "0123456789abcdef".toList[value]? = some digit ∨ "0123456789ABCDEF".toList[value]? = some digit

/-- The number that hexadecimal digits write. -/
inductive Writes : List Char → Nat → Prop where
  | nil : Writes [] 0
  | append {digits code d v} (h : Writes digits code) (hd : HasValue d v) :
      Writes (digits ++ [d]) (16 * code + v)

/-- The pieces of what stands between two quotes, and the characters that they denote. -/
inductive Piece (quote : Char) : List Char → Char → Prop where
  /-- A character that stands for itself. -/
  | plain {c} (hq : c ≠ quote) (hb : c ≠ '\\') : Piece quote [c] c
  /-- An escape that stands for one character. -/
  | escape {letter c} (h : (letter, c) ∈ escapes) : Piece quote ['\\', letter] c
  /-- A character by its code point, which is no surrogate. -/
  | code {letter count digits code} (h : (letter, count) ∈ codeEscapes)
      (hl : digits.length = count) (hw : Writes digits code) (hs : code < 0xD800 ∨ 0xDFFF < code) :
      Piece quote ('\\' :: letter :: digits) (.ofNat code)

/-- Pieces one after the other, and the text that they denote. -/
inductive Pieces (quote : Char) : List Char → List Char → Prop where
  | nil : Pieces quote [] []
  | cons {cs c ds text} (h : Piece quote cs c) (hs : Pieces quote ds text) :
      Pieces quote (cs ++ ds) (c :: text)

/-- A quote, pieces that denote a text, and the quote again. -/
def IsLiteral (quote : Char) (cs : List Char) (text : String) : Prop :=
  ∃ inner, cs = quote :: (inner ++ [quote]) ∧ Pieces quote inner text.toList

/-- Behind a quote, `inner` is made of pieces, and what comes next is the first backslash that
starts none, with the character `letter` behind it. -/
def BreaksAt (quote : Char) (rest inner : List Char) (letter : Char) (more : List Char) : Prop :=
  rest = inner ++ '\\' :: letter :: more ∧ (∃ text, Pieces quote inner text) ∧
    ¬ ∃ cs c, Piece quote cs c ∧ cs <+: '\\' :: letter :: more

variable {quote first letter c d : Char} {rest more cs ds inner text digits shown :
  List Char} {n m count code value : Nat}

/-! ### Hexadecimal digits -/

/-- A character of a range is the first one moved on by some places. -/
theorem exists_offset {a b : Char} (h : a ≤ d ∧ d ≤ b) :
    ∃ k, k ≤ b.toNat - a.toNat ∧ d = .ofNat (a.toNat + k) ∧ d.toNat - a.toNat = k := by
  have ha : a.toNat ≤ d.toNat := UInt32.le_iff_toNat_le.1 h.1
  have hb : d.toNat ≤ b.toNat := UInt32.le_iff_toNat_le.1 h.2
  refine ⟨d.toNat - a.toNat, Nat.sub_le_sub_right hb _, ?_, rfl⟩
  rw [Nat.add_sub_cancel' ha, Char.ofNat_toNat]

/-- A hexadecimal digit that is scanned has its value. -/
theorem hasValue_of_hexDigit? (h : Scan.hexDigit? d = some value) : HasValue d value := by
  unfold Scan.hexDigit? CodeSet.hexDigit? at h
  split_ifs at h with h₁ h₂ h₃
  · obtain ⟨k, hk, rfl, hd⟩ := exists_offset h₁
    rw [hd] at h
    cases h
    left
    change value ≤ 9 at hk
    interval_cases value <;> rfl
  · obtain ⟨k, hk, rfl, hd⟩ := exists_offset h₂
    rw [hd] at h
    cases h
    left
    change k ≤ 5 at hk
    interval_cases k <;> rfl
  · obtain ⟨k, hk, rfl, hd⟩ := exists_offset h₃
    rw [hd] at h
    cases h
    right
    change k ≤ 5 at hk
    interval_cases k <;> rfl

/-- A hexadecimal digit is scanned as its value. -/
theorem hexDigit?_of_hasValue (h : HasValue d value) : Scan.hexDigit? d = some value := by
  have hv : value < 16 := by
    rcases h with h | h <;> exact (List.getElem?_eq_some_iff.1 h).1
  rcases h with h | h <;> interval_cases value <;> cases h <;> rfl

/-- The value of a hexadecimal digit is below sixteen. -/
theorem hexDigit?_lt (h : Scan.hexDigit? d = some value) : value < 16 := by
  rcases hasValue_of_hexDigit? h with h | h <;> exact (List.getElem?_eq_some_iff.1 h).1

/-- The number that a scan makes of digits. -/
def codeOf (digits : List Char) : Nat :=
  digits.foldl (fun n c => n * 16 + (Scan.hexDigit? c).getD 0) 0

/-- One more digit adds its value to the sixteenfold. -/
theorem codeOf_append (hd : Scan.hexDigit? d = some value) (digits : List Char) :
    codeOf (digits ++ [d]) = 16 * codeOf digits + value := by
  rw [codeOf, List.foldl_append, List.foldl_cons, List.foldl_nil, hd, Option.getD_some,
    Nat.mul_comm]
  rfl

/-- Hexadecimal digits write the number that a scan makes of them. -/
theorem writes_codeOf (h : ∀ d ∈ digits, (Scan.hexDigit? d).isSome = true) :
    Writes digits (codeOf digits) := by
  induction digits using List.reverseRecOn with
  | nil => exact .nil
  | append_singleton digits d ih =>
    obtain ⟨hall, hd⟩ := List.forall_mem_append.1 h
    obtain ⟨v, hv⟩ := Option.isSome_iff_exists.1 (hd d List.mem_cons_self)
    rw [codeOf_append hv]
    exact (ih hall).append (hasValue_of_hexDigit? hv)

/-- What digits write is what a scan makes of them. -/
theorem Writes.scanned (h : Writes digits code) :
    (∀ d ∈ digits, (Scan.hexDigit? d).isSome = true) ∧ codeOf digits = code := by
  induction h with
  | nil => exact ⟨fun _ h => absurd h List.not_mem_nil, rfl⟩
  | @append digits code d v _ hd ih =>
    obtain ⟨hall, rfl⟩ := ih
    have hd := hexDigit?_of_hasValue hd
    refine ⟨List.forall_mem_append.2 ⟨hall, List.forall_mem_singleton.2 ?_⟩,
      codeOf_append hd digits⟩
    rw [hd, Option.isSome_some]

/-- Digits write a number below the power of sixteen with as many places. -/
theorem Writes.lt (h : Writes digits code) : code < 16 ^ digits.length := by
  induction h with
  | nil => exact Nat.one_pos
  | append _ hd ih =>
    have := hexDigit?_lt (hexDigit?_of_hasValue hd)
    rw [List.length_append, List.length_singleton, Nat.pow_succ]
    omega

/-! ### One piece -/

/-- The letter of an escape with digits is scanned as such, with as many digits. -/
theorem scanned_of_codeEscape (h : (letter, count) ∈ codeEscapes) :
    Scan.escapedChar? letter = none ∧ Scan.hexEscapeLength? letter = some count ∧ count ≤ 4 := by
  simp only [codeEscapes, List.mem_cons, Prod.mk.injEq, List.not_mem_nil, or_false] at h
  rcases h with ⟨rfl, rfl⟩ | ⟨rfl, rfl⟩ <;> exact ⟨rfl, rfl, by decide⟩

/-- Escapes with digits start with an `x` or a `u`. -/
theorem eq_of_codeEscape (h : (letter, count) ∈ codeEscapes) : letter = 'x' ∨ letter = 'u' := by
  simp only [codeEscapes, List.mem_cons, Prod.mk.injEq, List.not_mem_nil, or_false] at h
  exact h.imp And.left And.left

/-- Other letters than `x` and `u` start no escape with digits. -/
theorem ne_of_hexEscapeLength? (h : Scan.hexEscapeLength? letter = none) :
    ¬ (letter = 'x' ∨ letter = 'u') := by
  rintro (rfl | rfl) <;> cases h

/-- An escape of one letter is scanned as its character. -/
theorem escapedChar?_of_escape (h : (letter, c) ∈ escapes) : Scan.escapedChar? letter = some c := by
  simp only [escapes, List.mem_cons, Prod.mk.injEq, List.not_mem_nil, or_false] at h
  rcases h with ⟨rfl, rfl⟩ | ⟨rfl, rfl⟩ | ⟨rfl, rfl⟩ | ⟨rfl, rfl⟩ | ⟨rfl, rfl⟩ | ⟨rfl, rfl⟩ |
    ⟨rfl, rfl⟩ | ⟨rfl, rfl⟩ | ⟨rfl, rfl⟩ | ⟨rfl, rfl⟩ | ⟨rfl, rfl⟩ <;> rfl

/-- A letter that is scanned as a character is an escape of it. -/
theorem escape_of_escapedChar? (h : Scan.escapedChar? letter = some c) :
    (letter, c) ∈ escapes := by
  unfold Scan.escapedChar? at h
  split at h <;> cases h <;> decide

/-- A letter that is scanned with digits behind it starts an escape of these. -/
theorem codeEscape_of_hexEscapeLength? (h : Scan.hexEscapeLength? letter = some count) :
    (letter, count) ∈ codeEscapes := by
  unfold Scan.hexEscapeLength? at h
  split at h <;> cases h <;> decide

/-- Two or four digits write a character unless their number is a surrogate. -/
theorem charOfCode?_of_writes (hw : Writes digits code) (hl : digits.length ≤ 4) :
    Scan.charOfCode? code =
      if code < 0xD800 ∨ 0xDFFF < code then some (.ofNat code) else none := by
  have hlt : code < 16 ^ 4 := Nat.lt_of_lt_of_le hw.lt (Nat.pow_le_pow_right (by decide) hl)
  unfold Scan.charOfCode? Nat.isValidChar
  refine if_congr ?_ rfl rfl
  omega

/-- How far into a piece that means nothing its error stands: at the backslash, or where the digits
of a code point should stand. -/
def faultOffset (letter : Char) : Nat := if letter = 'x' ∨ letter = 'u' then 2 else 0

/-- The digits that a scan takes for a code point. -/
def codeDigits (count : Nat) (more : List Char) : List Char :=
  (more.take count).takeWhile fun c => (Scan.hexDigit? c).isSome

/-- The digits of an escape are taken whatever follows them. -/
theorem codeDigits_append (hw : Writes digits code) (ds : List Char) :
    codeDigits digits.length (digits ++ ds) = digits := by
  rw [codeDigits, List.take_left, List.takeWhile_eq_self_iff.2 hw.scanned.1]

/-- The digits of an escape stand in front. -/
theorem codeDigits_isPrefix (count : Nat) (more : List Char) : codeDigits count more <+: more :=
  (List.takeWhile_prefix _).trans (List.take_prefix _ _)

/-- The digits of an escape write their number. -/
theorem writes_codeDigits (count : Nat) (more : List Char) :
    Writes (codeDigits count more) (codeOf (codeDigits count more)) :=
  writes_codeOf fun _ hd =>
    List.mem_takeWhile_imp (p := fun c => (Scan.hexDigit? c).isSome) hd

/-- An escape of one letter is read as its character. -/
theorem escapePiece_char (h : (letter, c) ∈ escapes) (more : List Char) :
    Scan.escapePiece letter more = .char c 2 := by
  rw [Scan.escapePiece, escapedChar?_of_escape h]

/-- An escape by code point is read if it has as many digits as it takes, and no surrogate. -/
theorem escapePiece_code (h : (letter, count) ∈ codeEscapes) (more : List Char) :
    Scan.escapePiece letter more =
      if (codeDigits count more).length = count ∧ (codeOf (codeDigits count more) < 0xD800 ∨
        0xDFFF < codeOf (codeDigits count more)) then
        .char (.ofNat (codeOf (codeDigits count more))) (2 + count)
      else .fault ('\\' :: letter :: codeDigits count more) 2
        (2 + (codeDigits count more).length) := by
  obtain ⟨he, hx, hle⟩ := scanned_of_codeEscape h
  have hdigits : (more.take count).takeWhile (fun c => (Scan.hexDigit? c).isSome) =
    codeDigits count more := rfl
  have hcode : (codeDigits count more).foldl (fun n c => n * 16 + (Scan.hexDigit? c).getD 0) 0 =
    codeOf (codeDigits count more) := rfl
  rw [Scan.escapePiece, he, hx]
  dsimp only
  rw [hdigits, hcode]
  by_cases hl : (codeDigits count more).length = count
  · have hlen : (codeDigits count more).length ≤ 4 := Nat.le_trans (Nat.le_of_eq hl) hle
    rw [if_pos hl, charOfCode?_of_writes (writes_codeDigits count more) hlen]
    by_cases hs : codeOf (codeDigits count more) < 0xD800 ∨ 0xDFFF < codeOf (codeDigits count more)
    · rw [if_pos hs, if_pos ⟨hl, hs⟩]
    · rw [if_neg hs, if_neg fun h => hs h.2]
  · rw [if_neg hl, if_neg fun h => hl h.1]

/-- A piece is read, whatever follows it. -/
theorem Piece.scanned (h : Piece quote (first :: cs) c) (ds : List Char) :
    Scan.piece first (cs ++ ds) = .char c (cs.length + 1) := by
  cases h with
  | plain hq hb => exact if_neg hb
  | escape h => exact escapePiece_char h ds
  | @code letter count digits code h hl hw hs =>
    have hd := codeDigits_append hw ds
    change Scan.escapePiece letter (digits ++ ds) = _
    rw [escapePiece_code h, ← hl, hd, hw.scanned.2, if_pos ⟨rfl, hs⟩, List.length_cons,
      Nat.add_comm]

/-- A piece stands in front, or a backslash that starts none. -/
theorem piece_cases (hq : first ≠ quote) (rest : List Char) :
    (∃ cs ds c, rest = cs ++ ds ∧ Piece quote (first :: cs) c) ∨
      (∃ letter more shown n, first = '\\' ∧ rest = letter :: more ∧
        Scan.piece first rest = .fault shown (faultOffset letter) n ∧ n ≤ rest.length + 1 ∧
        shown <+: '\\' :: letter :: more) ∨
      first = '\\' ∧ rest = [] := by
  by_cases hf : first = '\\'
  · subst hf
    cases rest with
    | nil => exact .inr (.inr ⟨rfl, rfl⟩)
    | cons letter more =>
      cases he : Scan.escapedChar? letter with
      | some c => exact .inl ⟨[letter], more, c, rfl, .escape (escape_of_escapedChar? he)⟩
      | none =>
        cases hx : Scan.hexEscapeLength? letter with
        | none =>
          refine .inr (.inl ⟨letter, more, ['\\', letter], 1, rfl, rfl, ?_, Nat.le_add_left ..,
            more, rfl⟩)
          change Scan.escapePiece letter more = _
          rw [faultOffset, if_neg (ne_of_hexEscapeLength? hx), Scan.escapePiece, he, hx]
        | some count =>
          have h := codeEscape_of_hexEscapeLength? hx
          obtain ⟨ds, hds⟩ := codeDigits_isPrefix count more
          have hlen := (codeDigits_isPrefix count more).length_le
          have hp := escapePiece_code h more
          split_ifs at hp with hc
          · exact .inl ⟨letter :: codeDigits count more, ds, _, by rw [List.cons_append, hds],
              .code h hc.1 (writes_codeDigits count more) hc.2⟩
          · have hf : faultOffset letter = 2 := if_pos (eq_of_codeEscape h)
            rw [← hf] at hp
            exact .inr (.inl ⟨letter, more, _, _, rfl, rfl, hp, by rw [List.length_cons]; omega, ds,
              by rw [List.cons_append, List.cons_append, hds]⟩)
  · exact .inl ⟨[], rest, first, rfl, .plain hq hf⟩

/-! ### What follows a quote -/

/-- Pieces that denote a text, in front of what is read behind them. -/
def behind (text : List Char) (n : Nat) : Scan.Body → Scan.Body
  | .closed rest length => .closed (text ++ rest) (n + length)
  | .unclosed => .unclosed
  | .badEscape shown offset length => .badEscape shown (n + offset) (n + length)

/-- A piece starts with another character than the quote. -/
theorem Piece.exists_cons (hb : quote ≠ '\\') (h : Piece quote cs c) :
    ∃ first tail, cs = first :: tail ∧ first ≠ quote := by
  cases h with
  | plain hq => exact ⟨_, _, rfl, hq⟩
  | escape | code => exact ⟨_, _, rfl, hb.symm⟩

/-- **Pieces are read as the text that they denote.** -/
theorem body_pieces (hb : quote ≠ '\\') (h : Pieces quote inner text) (ds : List Char) :
    Scan.body quote (inner ++ ds) = behind text inner.length (Scan.body quote ds) := by
  induction h with
  | nil =>
    rw [List.nil_append]
    cases Scan.body quote ds <;> simp [behind]
  | @cons cs c ds' text hp _ ih =>
    obtain ⟨first, tail, rfl, hq⟩ := hp.exists_cons hb
    rw [List.append_assoc, List.cons_append, Scan.body, if_neg hq, hp.scanned]
    dsimp only
    rw [Nat.add_sub_cancel, List.drop_left, ih]
    have hl : (first :: tail ++ ds').length = tail.length + 1 + ds'.length := by
      rw [List.length_append, List.length_cons]
    rw [hl]
    cases Scan.body quote ds <;>
      simp only [behind, Scan.Body.afterChar, List.cons_append, Nat.add_assoc]

/-- No piece starts with a backslash that the scan refuses. -/
theorem not_piece_of_fault (hf : Scan.piece '\\' (letter :: more) = .fault shown n m) :
    ¬ ∃ cs c, Piece quote cs c ∧ cs <+: '\\' :: letter :: more := by
  rintro ⟨cs, c, hp, ds, hds⟩
  obtain ⟨tail, rfl⟩ : ∃ tail, cs = '\\' :: tail := by
    cases hp with
    | plain _ hb => exact absurd (List.cons.inj hds).1 hb
    | escape | code => exact ⟨_, rfl⟩
  have htail : tail ++ ds = letter :: more := (List.cons.inj hds).2
  have hs := hp.scanned ds
  rw [htail, hf] at hs
  cases hs

/-- Pieces end before the closing quote, before a backslash that starts none of them, or with the
text. -/
theorem exists_pieces (quote : Char) (rest : List Char) :
    ∃ inner text, Pieces quote inner text ∧
      ((∃ more, rest = inner ++ quote :: more) ∨
        (∃ letter more, BreaksAt quote rest inner letter more) ∨
        rest = inner ∨ rest = inner ++ ['\\']) := by
  induction hn : rest.length using Nat.strong_induction_on generalizing rest with
  | _ n ih =>
    cases rest with
    | nil => exact ⟨[], [], .nil, .inr (.inr (.inl rfl))⟩
    | cons first rest =>
      by_cases hq : first = quote
      · exact ⟨[], [], .nil, .inl ⟨rest, by rw [hq, List.nil_append]⟩⟩
      · rcases piece_cases hq rest with ⟨cs, ds, c, rfl, hp⟩ |
          ⟨letter, more, shown, n, rfl, rfl, hf, -⟩ | ⟨rfl, rfl⟩
        · have hlt : ds.length < n := by
            rw [← hn, List.length_cons, List.length_append]
            omega
          obtain ⟨inner, text, hps, hstop⟩ := ih ds.length hlt ds rfl
          refine ⟨first :: cs ++ inner, c :: text, Pieces.cons hp hps, ?_⟩
          rcases hstop with ⟨more, rfl⟩ | ⟨letter, more, rfl, -, hno⟩ | rfl | rfl
          · exact .inl ⟨more, by simp⟩
          · exact .inr (.inl ⟨letter, more, by simp, ⟨_, Pieces.cons hp hps⟩, hno⟩)
          · exact .inr (.inr (.inl rfl))
          · exact .inr (.inr (.inr (by simp)))
        · exact ⟨[], [], .nil, .inr (.inl ⟨letter, more, rfl, ⟨[], .nil⟩, not_piece_of_fault hf⟩)⟩
        · exact ⟨[], [], .nil, .inr (.inr (.inr rfl))⟩

section Scanned

variable {start : Nat}

/-- Pieces and a quote behind them are read as the string that they denote. -/
theorem string_closed (hb : quote ≠ '\\') (h : Pieces quote inner text) (more : List Char) :
    Scan.string quote start (inner ++ quote :: more) =
      .token (.string (.ofList text)) (inner.length + 2) := by
  have hc : Scan.body quote (quote :: more) = .closed [] 1 := by rw [Scan.body, if_pos rfl]
  rw [Scan.string, body_pieces hb h, hc]
  simp only [behind, List.append_nil, Nat.add_comm 1]

/-- A backslash that starts no piece is an invalid escape at its place. -/
theorem string_breaks (start : Nat) (hb : quote ≠ '\\')
    (h : BreaksAt quote rest inner letter more) :
    ∃ shown n, shown <+: '\\' :: letter :: more ∧ n ≤ rest.length + 1 ∧
      Scan.string quote start rest = .fault (.invalidEscape (.ofList shown)
        (start + 1 + inner.length + faultOffset letter)) n := by
  obtain ⟨rfl, ⟨text, hp⟩, hno⟩ := h
  rcases piece_cases hb.symm (letter :: more) with ⟨cs, ds, c, hds, hpc⟩ |
    ⟨_, _, shown, n, -, hlm, hf, hn, hs⟩ | ⟨-, h⟩
  · exact absurd ⟨_, c, hpc, ds, by rw [List.cons_append, hds]⟩ hno
  · cases hlm
    have hc : Scan.body quote ('\\' :: letter :: more) =
        .badEscape shown (faultOffset letter) n := by
      rw [Scan.body, if_neg hb.symm, hf]
    refine ⟨shown, 1 + (inner.length + n), hs, ?_, ?_⟩
    · simp only [List.length_append, List.length_cons] at hn ⊢
      omega
    · rw [Scan.string, body_pieces hb hp, hc]
      simp only [behind, Nat.add_assoc]
  · cases h

/-- Pieces without a quote behind them are an unclosed string at its first quote. -/
theorem string_unclosed (hb : quote ≠ '\\') (h : Pieces quote inner text)
    (hr : rest = inner ∨ rest = inner ++ ['\\']) :
    Scan.string quote start rest = .fault (.unclosedString start) (1 + rest.length) := by
  have hc : Scan.body quote rest = .unclosed := by
    rcases hr with rfl | rfl
    · rw [← List.append_nil rest, body_pieces hb h, Scan.body]
      rfl
    · rw [body_pieces hb h, Scan.body, if_neg hb.symm]
      rfl
  rw [Scan.string, hc]

/-- What starts at a quote is refused only if no literal stands there: for the first backslash that
starts no piece, or for the quote where there is none.  No more is passed over than there is. -/
theorem string_refused {e : SyntaxError} (hb : quote ≠ '\\')
    (h : Scan.string quote start rest = .fault e n) :
    (¬ ∃ cs text, cs <+: quote :: rest ∧ IsLiteral quote cs text) ∧ n ≤ rest.length + 1 ∧
      ((∃ inner letter more shown, BreaksAt quote rest inner letter more ∧
          shown <+: '\\' :: letter :: more ∧
          e = .invalidEscape (.ofList shown) (start + 1 + inner.length + faultOffset letter)) ∨
        (¬ ∃ inner letter more, BreaksAt quote rest inner letter more) ∧
          e = .unclosedString start) := by
  refine ⟨?_, ?_⟩
  · rintro ⟨_, text, ⟨more, hm⟩, inner, rfl, hp⟩
    have hr : rest = inner ++ quote :: more := by
      rw [List.cons_append, List.append_assoc] at hm
      exact (List.cons.inj hm).2.symm
    rw [hr, string_closed hb hp] at h
    cases h
  · obtain ⟨inner, text, hp, ⟨more, hr⟩ | ⟨letter, more, hbreaks⟩ | hr⟩ := exists_pieces quote rest
    · rw [hr, string_closed hb hp] at h
      cases h
    · obtain ⟨shown, k, hshown, hk, hs⟩ := string_breaks start hb hbreaks
      cases h.symm.trans hs
      exact ⟨hk, .inl ⟨inner, letter, more, shown, hbreaks, hshown, rfl⟩⟩
    · have hunclosed : Scan.string quote start rest =
          .fault (.unclosedString start) (1 + rest.length) := string_unclosed hb hp hr
      cases h.symm.trans hunclosed
      refine ⟨Nat.le_of_eq (Nat.add_comm ..), .inr ⟨?_, rfl⟩⟩
      rintro ⟨inner, letter, more, hbreaks⟩
      obtain ⟨shown, k, -, -, hs⟩ := string_breaks start hb hbreaks
      cases hunclosed.symm.trans hs

end Scanned

/-! ### Writing -/

/-- A text as the pieces between two quotes: the quote and the backslash have one in front. -/
def written (quote : Char) (text : List Char) : List Char :=
  text.flatMap fun c => if c = quote ∨ c = '\\' then ['\\', c] else [c]

/-- What is written for a text is made of pieces that denote it. -/
theorem pieces_written (hq : quote = '"' ∨ quote = '\'') (text : List Char) :
    Pieces quote (written quote text) text := by
  induction text with
  | nil => exact .nil
  | cons c text ih =>
    rw [written, List.flatMap_cons]
    refine .cons ?_ ih
    split_ifs with h
    · refine .escape ?_
      rcases hq with rfl | rfl <;> rcases h with rfl | rfl <;> decide
    · exact .plain (fun hc => h (.inl hc)) fun hc => h (.inr hc)

end Quotation

/-! ### Reading -/

open Quotation

namespace Source

variable {s : Source} {quote letter : Char} {rest more inner text : List Char}

/-- What starts at a quote is scanned at once: there is no white space to pass over. -/
theorem next_quote (hq : quote = '"' ∨ quote = '\'') (hs : s.rest = quote :: rest) :
    s.next = s.reading (Scan.string quote s.position rest) := by
  have hw : Unicode.isWhiteSpace quote = false := by rcases hq with rfl | rfl <;> decide
  have hfront : Scan.front s.position quote rest = Scan.string quote s.position rest := if_pos hq
  rw [next_front hw hs, hfront]

/-- A quote is no backslash. -/
theorem ne_backslash_of_quote (hq : quote = '"' ∨ quote = '\'') : quote ≠ '\\' := by
  rcases hq with rfl | rfl <;> decide

/-- In front of a closed string, the next lexeme is the string. -/
theorem next_closed (hq : quote = '"' ∨ quote = '\'') (hp : Pieces quote inner text)
    (hs : s.rest = quote :: (inner ++ quote :: more)) :
    s.next = .lexeme ⟨.string (.ofList text), s.position, s.position + (inner.length + 2)⟩
      (s.skip (inner.length + 2)) := by
  rw [next_quote hq hs, string_closed (ne_backslash_of_quote hq) hp]
  rfl

/-- In front of a string with an invalid escape, there is a fault at the escape. -/
theorem next_breaks (hq : quote = '"' ∨ quote = '\'') (hs : s.rest = quote :: rest)
    (h : BreaksAt quote rest inner letter more) :
    ∃ shown after, shown <+: '\\' :: letter :: more ∧
      s.next = .fault (.invalidEscape (.ofList shown)
        (s.position + 1 + inner.length + faultOffset letter)) after := by
  obtain ⟨shown, n, hshown, -, hscan⟩ :=
    string_breaks s.position (ne_backslash_of_quote hq) h
  refine ⟨shown, s.skip n, hshown, ?_⟩
  rw [next_quote hq hs, hscan]
  rfl

/-- In front of an unclosed string, there is a fault at its quote. -/
theorem next_unclosed (hq : quote = '"' ∨ quote = '\'') (hs : s.rest = quote :: rest)
    (hp : Pieces quote inner text) (hr : rest = inner ∨ rest = inner ++ ['\\']) :
    ∃ after, s.next = .fault (.unclosedString s.position) after := by
  rw [next_quote hq hs, string_unclosed (ne_backslash_of_quote hq) hp hr]
  exact ⟨_, rfl⟩

/-- **What a quote starts is a text if pieces and the same quote follow, and the text is what the
pieces denote.**  Otherwise it is refused: for the first backslash that starts no piece, if some
character stands behind that, or else for the quote, which is not closed.  Every text has a literal
that is read back. -/
theorem next_quotation (hq : quote = '"' ∨ quote = '\'') (hs : s.rest = quote :: rest) :
    (∀ text n after,
      s.next = .lexeme ⟨.string text, s.position, s.position + n⟩ after ↔
        after = s.skip n ∧ ∃ cs, cs <+: s.rest ∧ cs.length = n ∧ IsLiteral quote cs text) ∧
    (∀ inner letter more, BreaksAt quote rest inner letter more →
      ∃ shown after, shown <+: '\\' :: letter :: more ∧
        s.next = .fault (.invalidEscape (.ofList shown)
          (s.position + 1 + inner.length + faultOffset letter)) after) ∧
    ((¬ ∃ cs text, cs <+: s.rest ∧ IsLiteral quote cs text) →
      (¬ ∃ inner letter more, BreaksAt quote rest inner letter more) →
      ∃ after, s.next = .fault (.unclosedString s.position) after) ∧
    ∀ text : String, ∃ literal : String, (ofText literal).next =
      .lexeme ⟨.string text, 0, literal.length⟩ ⟨[], literal.length⟩ := by
  -- One of three things stands behind the pieces, and a source has one next reading.
  obtain ⟨inner, text, hp, hstop⟩ := exists_pieces quote rest
  have hliteral {more} (hr : rest = inner ++ quote :: more) :
      quote :: (inner ++ [quote]) <+: s.rest ∧
        IsLiteral quote (quote :: (inner ++ [quote])) (.ofList text) := by
    refine ⟨⟨more, by rw [hs, hr]; simp⟩, inner, rfl, ?_⟩
    rwa [String.toList_ofList]
  refine ⟨fun text' n after => ⟨fun h => ?_, fun ⟨ha, cs, ⟨more, hm⟩, hn, inner', hcs, hp'⟩ => ?_⟩,
    fun inner' letter more hb => next_breaks hq hs hb, fun hno hnb => ?_, fun text' => ?_⟩
  · rcases hstop with ⟨more, hr⟩ | ⟨letter, more, hb⟩ | hr
    · rw [next_closed hq hp (by rw [hs, hr])] at h
      simp only [Reading.lexeme.injEq, Lexeme.mk.injEq, Token.string.injEq] at h
      obtain ⟨⟨rfl, -, hn⟩, rfl⟩ := h
      obtain rfl : inner.length + 2 = n := Nat.add_left_cancel hn
      obtain ⟨hshown, hlit⟩ := hliteral hr
      exact ⟨rfl, _, hshown, by simp, hlit⟩
    · obtain ⟨shown, after', -, hf⟩ := next_breaks hq hs hb
      cases h.symm.trans hf
    · obtain ⟨after', hf⟩ := next_unclosed hq hs hp hr
      cases h.symm.trans hf
  · have hr : s.rest = quote :: (inner' ++ quote :: more) := by rw [← hm, hcs]; simp
    have hn' : n = inner'.length + 2 := by rw [← hn, hcs]; simp
    rw [next_closed hq hp' hr, String.ofList_toList, ha, hn']
  · rcases hstop with ⟨more, hr⟩ | ⟨letter, more, hb⟩ | hr
    · exact absurd ⟨_, _, hliteral hr⟩ hno
    · exact absurd ⟨inner, letter, more, hb⟩ hnb
    · exact next_unclosed hq hs hp hr
  · refine ⟨.ofList (quote :: (written quote text'.toList ++ [quote])), ?_⟩
    rw [next_closed hq (pieces_written hq text'.toList) (String.toList_ofList ..),
      String.ofList_toList]
    simp only [ofText, skip, String.toList_ofList, String.length_ofList, List.length_cons,
      List.length_append, List.length_nil, Nat.zero_add]
    rw [List.drop_eq_nil_of_le (by simp)]

/-- A letter, an escape by code point and an escaped quote are read as a text; the code point of a
surrogate is refused where its digits start. -/
theorem next_quotation_escapes :
    (ofText "'a\\x41\\''+1").next = .lexeme ⟨.string "aA'", 0, 9⟩ ⟨['+', '1'], 9⟩ ∧
      ∃ shown after, shown <+: "\\ud800'".toList ∧
        (ofText "'a\\ud800'").next = .fault (.invalidEscape (.ofList shown) 4) after := by
  have plain : Piece '\'' ['a'] 'a' := .plain (by decide) (by decide)
  have writes : Writes ['4', '1'] 0x41 :=
    .append (.append (v := 4) .nil (.inl rfl)) (v := 1) (.inl rfl)
  have code : Piece '\'' ['\\', 'x', '4', '1'] 'A' :=
    .code (show ('x', 2) ∈ codeEscapes by decide) rfl writes (by decide)
  have escape : Piece '\'' ['\\', '\''] '\'' := .escape (by decide)
  have hp : Pieces '\'' "a\\x41\\'".toList "aA'".toList :=
    .cons plain (.cons code (.cons escape .nil))
  have hb : BreaksAt '\'' "a\\ud800'".toList ['a'] 'u' "d800'".toList :=
    ⟨rfl, ⟨_, .cons plain .nil⟩, not_piece_of_fault (rfl : Scan.piece '\\' _ = .fault _ 2 6)⟩
  refine ⟨?_, ?_⟩
  · refine ((next_quotation (.inr rfl) rfl).1 "aA'" 9 _).2
      ⟨rfl, _, ⟨['+', '1'], ?_⟩, ?_, _, rfl, hp⟩
    · rfl
    · rfl
  · exact (next_quotation (s := ofText "'a\\ud800'") (.inr rfl) rfl).2.1 _ _ _ hb

end Source

end RecordFilter
