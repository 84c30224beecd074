/-
# What a scan looks at

A scan looks no further than at the first character behind its token, and asks of it no more than
whether the token goes on there.  So a token that is read at the end of a text is read there too
where a character follows that goes on with no token, such as a bracket (`front_append`).  A text in
quotes, whose end is written, asks nothing of what follows it.
-/

import Mathlib
import RecordFilter.Expr.Lexeme
import RecordFilter.Proofs.Number.Numeral
import RecordFilter.Proofs.Unicode.Character

namespace RecordFilter

namespace Scan

variable {cs ds rest digits : List Char} {c d first quote letter : Char} {t : Token}
  {n m start : Nat}

/-! ### Characters that go on with no token -/

/-- What starts a name may stand in one. -/
theorem continuesName_of_startsName (h : startsName c = true) : continuesName c = true := by
  have ha : Unicode.isAlphabetic c = true → Unicode.isAlphanumeric c = true := by
    intro h
    unfold Unicode.isAlphabetic at h
    unfold Unicode.isAlphanumeric
    split at h
    · next hc => rw [if_pos hc, Char.isAlphanum, h, Bool.true_or]
    · next hc => rw [if_neg hc, h, Bool.true_or]
  simp only [startsName, continuesName, Bool.or_eq_true] at *
  exact h.imp_left (Or.imp_left ha)

/-- A digit may stand in a name. -/
theorem continuesName_of_isDigit (h : Numeral.isDigit c = true) : continuesName c = true := by
  have hc : c.toNat < 0x80 := Nat.lt_of_le_of_lt (Numeral.toNat_of_isDigit h) (by decide)
  have hd : c.isDigit = true := by
    simp only [Numeral.isDigit, Bool.and_eq_true, decide_eq_true_eq] at h
    simp only [Char.isDigit, Bool.and_eq_true, decide_eq_true_eq]
    exact h
  simp only [continuesName, Unicode.isAlphanumeric, if_pos hc, Char.isAlphanum, hd, Bool.or_true,
    Bool.true_or]

/-- No token goes on with the character, a text in quotes apart. -/
structure Separates (d : Char) : Prop where
  name : continuesName d = false
  point : d ≠ '.'
  symbol : ∀ s ∈ Symbol.longestFirst, d ∉ s.text.toList.tail

/-- Characters that stand for themselves, or for nothing, wherever they stand. -/
def separators : List Char := [' ', '(', ')', '[', ']', ',']

/-- A text is empty or starts with a character that no token goes on with. -/
def Ends (ds : List Char) : Prop := ∀ d ∈ ds.head?, Separates d

/-- The end of a text ends a token. -/
theorem ends_nil : Ends [] := fun _ h => absurd h nofun

/-- No token goes on with a separator. -/
theorem separates_of_mem (h : d ∈ separators) : Separates d := by
  simp only [separators, List.mem_cons, List.not_mem_nil, or_false] at h
  rcases h with rfl | rfl | rfl | rfl | rfl | rfl <;> exact ⟨by decide, by decide, by decide⟩

/-- A separator in front ends a token. -/
theorem ends_of_mem (h : d ∈ separators) (ds : List Char) : Ends (d :: ds) := by
  intro d' hd
  obtain rfl := Option.some.inj hd
  exact separates_of_mem h

/-- What no token goes on with is no digit. -/
theorem Separates.not_digit (h : Separates d) : Numeral.isDigit d = false := by
  refine Bool.eq_false_iff.2 fun hd => ?_
  exact Bool.eq_false_iff.1 h.name (continuesName_of_isDigit hd)

/-- What no token goes on with starts no name. -/
theorem Separates.not_start (h : Separates d) : startsName d = false := by
  refine Bool.eq_false_iff.2 fun hd => ?_
  exact Bool.eq_false_iff.1 h.name (continuesName_of_startsName hd)

/-! ### Runs of characters -/

/-- Characters are taken up to a text that does not start with such a one. -/
theorem takeWhile_append_of_head {p : Char → Bool} (h : ∀ d ∈ ds.head?, p d = false)
    (cs : List Char) : (cs ++ ds).takeWhile p = cs.takeWhile p := by
  induction cs with
  | nil =>
    cases ds with
    | nil => rfl
    | cons d ds =>
      rw [List.nil_append, List.takeWhile_cons, h d rfl]
      rfl
  | cons c cs ih => rw [List.cons_append, List.takeWhile_cons, List.takeWhile_cons, ih]

/-- Digits end where a token ends. -/
theorem digits_append (h : Ends ds) (cs : List Char) :
    Numeral.digits (cs ++ ds) = Numeral.digits cs :=
  takeWhile_append_of_head (fun d hd => (h d hd).not_digit) cs

/-- There are no more digits than characters. -/
theorem length_digits_le (cs : List Char) : (Numeral.digits cs).length ≤ cs.length :=
  (List.takeWhile_sublist _).length_le

/-! ### Texts in quotes -/

/-- An escape is read with no look at what follows it. -/
theorem escapePiece_append (h : escapePiece letter rest = .char c n) (ds : List Char) :
    escapePiece letter (rest ++ ds) = .char c n ∧ n ≤ rest.length + 2 := by
  unfold escapePiece at *
  cases hc : escapedChar? letter with
  | some _ =>
    simp only [hc] at h ⊢
    cases h
    exact ⟨rfl, Nat.le_add_left ..⟩
  | none =>
    cases hl : hexEscapeLength? letter with
    | none => simp only [hc, hl] at h; cases h
    | some count =>
      simp only [hc, hl] at h ⊢
      by_cases hd : ((rest.take count).takeWhile fun c => (hexDigit? c).isSome).length = count
      · have hle : count ≤ rest.length := by
          have := (List.takeWhile_sublist (l := rest.take count)
            fun c => (hexDigit? c).isSome).length_le
          rw [List.length_take] at this
          omega
        rw [List.take_append_of_le_length hle]
        refine ⟨h, ?_⟩
        rw [if_pos hd] at h
        split at h
        · cases h; omega
        · cases h
      · rw [if_neg hd] at h
        cases h

/-- A piece is read whatever follows it. -/
theorem piece_append (h : piece first rest = .char c n) (ds : List Char) :
    piece first (rest ++ ds) = .char c n ∧ n ≤ rest.length + 1 := by
  unfold piece at *
  split at h
  · next hf =>
    cases rest with
    | nil => cases h
    | cons letter more =>
      rw [if_pos hf]
      exact escapePiece_append h ds
  · next hf =>
    rw [if_neg hf]
    cases h
    exact ⟨rfl, Nat.le_add_left ..⟩

/-- A body that is closed behind a character is closed behind the rest. -/
theorem afterChar_eq_closed {b : Body} {text : List Char}
    (h : b.afterChar c m = .closed text n) :
    ∃ text' k, b = .closed text' k ∧ text = c :: text' ∧ n = m + k := by
  cases b with
  | closed text' k =>
    cases h
    exact ⟨text', k, rfl, rfl, rfl⟩
  | unclosed | badEscape => cases h

/-- What is in quotes is read with no look at what follows the closing quote. -/
theorem body_append {text : List Char} (h : body quote cs = .closed text n) (ds : List Char) :
    body quote (cs ++ ds) = .closed text n ∧ n ≤ cs.length := by
  fun_induction body quote cs generalizing text n with
  | case1 => cases h
  | case2 rest =>
    cases h
    rw [List.cons_append, body, if_pos rfl]
    exact ⟨rfl, Nat.le_add_left ..⟩
  | case3 c rest hq d length hp ih =>
    obtain ⟨hp', hle⟩ := piece_append hp ds
    obtain ⟨text', k, hb, rfl, rfl⟩ := afterChar_eq_closed h
    obtain ⟨hb', hk⟩ := ih hb
    rw [List.length_drop] at hk
    rw [List.cons_append, body, if_neg hq, hp']
    dsimp only
    rw [List.drop_append_of_le_length (by omega), hb']
    exact ⟨rfl, by rw [List.length_cons]; omega⟩
  | case4 => cases h
  | case5 => cases h

/-- A string is read whatever follows it, at any position. -/
theorem string_append (h : string quote start rest = .token t n) (ds : List Char) (p : Nat) :
    string quote p (rest ++ ds) = .token t n ∧ 0 < n ∧ n ≤ rest.length + 1 := by
  unfold string at *
  cases hb : body quote rest with
  | closed text length =>
    obtain ⟨hb', hle⟩ := body_append hb ds
    rw [hb] at h
    rw [hb']
    cases h
    exact ⟨rfl, by omega, by omega⟩
  | unclosed | badEscape =>
    rw [hb] at h
    cases h

/-! ### Numbers -/

/-- A fraction ends where a token ends. -/
theorem fraction_append (h : Ends ds) (cs : List Char) : fraction (cs ++ ds) = fraction cs := by
  cases cs with
  | nil =>
    cases ds with
    | nil => rfl
    | cons d ds =>
      rw [List.nil_append, fraction.eq_2 _ fun rest hr => (h d rfl).point (List.cons.inj hr).1]
      rfl
  | cons c cs =>
    by_cases hc : c = '.'
    · subst hc
      exact digits_append h cs
    · rw [List.cons_append, fraction.eq_2 _ fun _ hr => hc (List.cons.inj hr).1,
        fraction.eq_2 _ fun _ hr => hc (List.cons.inj hr).1]

/-- A fraction is no longer than what is left. -/
theorem fractionLength_le (cs : List Char) : fractionLength (fraction cs) ≤ cs.length := by
  unfold fractionLength fraction
  split
  · split
    · exact Nat.zero_le _
    · exact Nat.succ_le_succ (length_digits_le _)
  · exact Nat.zero_le _

/-- A sign is taken whatever follows the characters in front. -/
theorem takeSign_append (h : cs ≠ []) (ds : List Char) :
    Numeral.takeSign (cs ++ ds) = ((Numeral.takeSign cs).1, (Numeral.takeSign cs).2 ++ ds) := by
  cases cs with
  | nil => exact absurd rfl h
  | cons c cs =>
    by_cases hp : c = '+'
    · subst hp
      rfl
    · by_cases hm : c = '-'
      · subst hm
        rfl
      · have ht (cs : List Char) : Numeral.takeSign (c :: cs) = (false, c :: cs) :=
          Numeral.takeSign.eq_3 _ (fun _ hr => hp (List.cons.inj hr).1)
            fun _ hr => hm (List.cons.inj hr).1
        rw [List.cons_append, ht, ht, List.cons_append]

/-- No more is left behind a sign than there is. -/
theorem length_takeSign_le (cs : List Char) : (Numeral.takeSign cs).2.length ≤ cs.length := by
  unfold Numeral.takeSign
  split <;> simp

/-- An exponent with digits is read with no look at what follows the digits. -/
theorem exponent_append (h : Ends ds) (he : exponent cs = (n, true)) :
    exponent (cs ++ ds) = (n, true) ∧ n ≤ cs.length := by
  cases cs with
  | nil =>
    cases he
    cases ds with
    | nil => exact ⟨rfl, Nat.le_refl _⟩
    | cons d ds =>
      have hd : ¬ (d = 'e' ∨ d = 'E') := by
        rintro (rfl | rfl) <;> exact absurd (h _ rfl).name (by decide)
      exact ⟨if_neg hd, Nat.le_refl _⟩
  | cons c rest =>
    by_cases hc : c = 'e' ∨ c = 'E'
    · simp only [List.cons_append, exponent, if_pos hc, Prod.mk.injEq, Bool.not_eq_true'] at he ⊢
      obtain ⟨rfl, hn⟩ := he
      have hr : rest ≠ [] := by
        rintro rfl
        cases hn
      rw [takeSign_append hr]
      dsimp only
      rw [digits_append h, hn, List.length_append, List.length_append, Nat.add_sub_add_right]
      refine ⟨⟨rfl, rfl⟩, ?_⟩
      have := length_takeSign_le rest
      have := length_digits_le (Numeral.takeSign rest).2
      rw [List.length_cons]
      omega
    · simp only [List.cons_append, exponent, if_neg hc] at he ⊢
      cases he
      exact ⟨rfl, Nat.zero_le _⟩

/-- A name ends where a token ends. -/
theorem nameLength_append (h : Ends ds) (cs : List Char) :
    nameLength (cs ++ ds) = nameLength cs := by
  cases cs with
  | nil =>
    cases ds with
    | nil => rfl
    | cons d ds => exact if_neg (Bool.eq_false_iff.1 (h d rfl).not_start)
  | cons c cs =>
    have ht := takeWhile_append_of_head (fun d hd => (h d hd).name) (c :: cs)
    rw [List.cons_append] at ht
    rw [List.cons_append, nameLength, nameLength, ht]

/-- A number is a mantissa and an exponent, with no name behind it, and is read as its text. -/
theorem number_eq_token_iff : number start cs = .token t n ↔
    ∃ k x, exponent (cs.drop (mantissaLength cs)) = (k, true) ∧
      nameLength (cs.drop (mantissaLength cs + k)) = 0 ∧
      Numeral.double? (cs.take (mantissaLength cs + k)) = some x ∧
      t = .number x ∧ n = mantissaLength cs + k := by
  unfold number
  rcases he : exponent (cs.drop (mantissaLength cs)) with ⟨k, _ | _⟩
  · simp
  · simp only [if_true, Prod.mk.injEq, and_true, exists_and_left, exists_eq_left']
    split
    · next hz =>
      split
      · next x hx =>
        simp only [token.injEq, hz, hx, Option.some.injEq, exists_eq_left',
          true_and, @eq_comm _ t, @eq_comm _ n]
      · next hx => simp [hx]
    · next hz => simp [hz]

/-- A number is refused with its text, which goes as far as the scan. -/
theorem eq_invalidNumber_of_number {e : SyntaxError} (h : number start cs = .fault e n) :
    e = .invalidNumber (.ofList (cs.take n)) start := by
  unfold number at h
  dsimp only at h
  split_ifs at h
  · split at h <;> cases h
    rfl
  · cases h
    rfl
  · cases h
    rfl

/-- Behind the digits there is as much more as follows. -/
theorem drop_digits_append (h : Ends ds) (cs : List Char) :
    (cs ++ ds).drop (Numeral.digits (cs ++ ds)).length =
      cs.drop (Numeral.digits cs).length ++ ds := by
  rw [digits_append h, List.drop_append_of_le_length (length_digits_le cs)]

/-- A mantissa ends where a token ends. -/
theorem mantissaLength_append (h : Ends ds) (cs : List Char) :
    mantissaLength (cs ++ ds) = mantissaLength cs := by
  rw [mantissaLength, drop_digits_append h, fraction_append h, digits_append h, mantissaLength]

/-- A mantissa is no longer than what is left. -/
theorem mantissaLength_le (cs : List Char) : mantissaLength cs ≤ cs.length := by
  have h := fractionLength_le (cs.drop (Numeral.digits cs).length)
  have hd := length_digits_le cs
  rw [List.length_drop] at h
  rw [mantissaLength]
  omega

/-- What starts a number has a mantissa. -/
theorem mantissaLength_pos (h : startsNumber first rest = true) :
    0 < mantissaLength (first :: rest) := by
  unfold startsNumber at h
  unfold mantissaLength Numeral.digits
  cases hf : Numeral.isDigit first with
  | true =>
    rw [List.takeWhile_cons, if_pos hf]
    exact Nat.lt_of_lt_of_le (Nat.succ_pos _) (Nat.le_add_right ..)
  | false =>
    rw [List.takeWhile_cons, if_neg (Bool.eq_false_iff.1 hf)]
    rw [hf, Bool.false_or, Bool.and_eq_true, beq_iff_eq] at h
    obtain ⟨rfl, hr⟩ := h
    cases rest with
    | nil => cases hr
    | cons c rest =>
      have hd : fraction ('.' :: c :: rest) = c :: rest.takeWhile Numeral.isDigit := by
        exact List.takeWhile_cons_of_pos hr
      rw [List.length_nil, List.drop_zero, hd, Nat.zero_add]
      exact Nat.succ_pos _

/-- A number is read with no look at what follows it, but that it does not go on there. -/
theorem number_append (hd : Ends ds) (h : number start cs = .token t n) (p : Nat) :
    number p (cs ++ ds) = .token t n ∧ mantissaLength cs ≤ n ∧ n ≤ cs.length := by
  obtain ⟨k, x, he, hz, hx, rfl, rfl⟩ := number_eq_token_iff.1 h
  obtain ⟨he', hk⟩ := exponent_append hd he
  have hm := mantissaLength_le cs
  rw [List.length_drop] at hk
  have hle : mantissaLength cs + k ≤ cs.length := by omega
  refine ⟨number_eq_token_iff.2 ⟨k, x, ?_, ?_, ?_, rfl, ?_⟩, Nat.le_add_right .., hle⟩
  · rw [mantissaLength_append hd, List.drop_append_of_le_length hm, he']
  · rw [mantissaLength_append hd, List.drop_append_of_le_length hle, nameLength_append hd, hz]
  · rw [mantissaLength_append hd, List.take_append_of_le_length hle, hx]
  · rw [mantissaLength_append hd]

/-! ### Names and symbols -/

/-- A name is read whatever ends it. -/
theorem name_append (hd : Ends ds) (hs : startsName first = true)
    (h : name (first :: rest) = .token t n) :
    name (first :: rest ++ ds) = .token t n ∧ 0 < n ∧ n ≤ rest.length + 1 := by
  have ht := takeWhile_append_of_head (fun d hd' => (hd d hd').name) (first :: rest)
  have hc : (first :: rest).takeWhile continuesName = first :: rest.takeWhile continuesName := by
    rw [List.takeWhile_cons, if_pos (continuesName_of_startsName hs)]
  have hle := (List.takeWhile_sublist (l := rest) continuesName).length_le
  unfold name at h ⊢
  rw [ht]
  refine ⟨h, ?_⟩
  rw [hc] at h
  cases h
  rw [List.length_cons]
  omega

/-- What starts a name is no white space. -/
theorem isWhiteSpace_of_startsName (h : startsName c = true) : Unicode.isWhiteSpace c = false := by
  refine Bool.eq_false_iff.2 fun hw => ?_
  rw [startsName, Unicode.isAlphabetic_of_isWhiteSpace hw, Bool.false_or, Bool.or_eq_true,
    beq_iff_eq, beq_iff_eq] at h
  rcases h with rfl | rfl <;> exact absurd hw (by decide)

/-- What starts a name is no digit. -/
theorem isDigit_of_startsName (h : startsName c = true) : Numeral.isDigit c = false := by
  refine Bool.eq_false_iff.2 fun hd => ?_
  have hle := Numeral.toNat_of_isDigit hd
  simp only [startsName, Bool.or_eq_true, beq_iff_eq] at h
  rcases h with (h | rfl) | rfl
  · rw [Unicode.isAlphabetic, if_pos (Nat.lt_of_le_of_lt hle (by decide))] at h
    have := (Unicode.toNat_of_isAlpha h).1
    exact absurd (Nat.le_trans this hle) (by decide)
  · exact absurd hd (by decide)
  · exact absurd hd (by decide)

/-- What stands behind a text is not part of a symbol in front of it. -/
theorem isPrefixOf_append {xs : List Char} (h : ∀ d ∈ ds.head?, d ∉ xs) (cs : List Char) :
    xs.isPrefixOf (cs ++ ds) = xs.isPrefixOf cs := by
  induction xs generalizing cs with
  | nil => cases cs <;> cases ds <;> rfl
  | cons x xs ih =>
    cases cs with
    | nil =>
      cases ds with
      | nil => rfl
      | cons d ds =>
        have hx : (x == d) = false := beq_false_of_ne fun hx => h d rfl (hx ▸ List.mem_cons_self ..)
        rw [List.nil_append, List.isPrefixOf_cons_cons, hx, Bool.false_and]
        rfl
    | cons c cs =>
      rw [List.cons_append, List.isPrefixOf_cons_cons, List.isPrefixOf_cons_cons,
        ih fun d hd hx => h d hd (List.mem_cons_of_mem _ hx)]

/-- The symbol in front is found whatever ends it. -/
theorem ofFront?_append (h : Ends ds) (first : Char) (rest : List Char) :
    Symbol.ofFront? (first :: rest ++ ds) = Symbol.ofFront? (first :: rest) := by
  have hs : ∀ s ∈ Symbol.longestFirst, s.text.toList.isPrefixOf (first :: rest ++ ds) =
      s.text.toList.isPrefixOf (first :: rest) := by
    intro s hs
    have ht : ∀ d ∈ ds.head?, d ∉ s.text.toList.tail := fun d hd => (h d hd).symbol s hs
    cases hx : s.text.toList with
    | nil => rfl
    | cons x xs =>
      rw [hx, List.tail_cons] at ht
      rw [List.cons_append, List.isPrefixOf_cons_cons, List.isPrefixOf_cons_cons,
        isPrefixOf_append ht]
  rw [Symbol.ofFront?, Symbol.ofFront?, ← List.head?_filter, ← List.head?_filter,
    List.filter_congr hs]

/-- A symbol is read whatever ends it, at any position. -/
theorem symbol_append (hd : Ends ds) (h : symbol start first rest = .token t n) (p : Nat) :
    symbol p first (rest ++ ds) = .token t n ∧ 0 < n ∧ n ≤ rest.length + 1 := by
  have ho := ofFront?_append hd first rest
  rw [List.cons_append] at ho
  unfold symbol at h ⊢
  rw [ho]
  cases hs : Symbol.ofFront? (first :: rest) with
  | none =>
    rw [hs] at h
    cases h
  | some s =>
    rw [hs] at h
    cases h
    have hp := List.find?_some hs
    have hle := (List.isPrefixOf_iff_prefix.1 hp).length_le
    have hpos : 0 < s.text.toList.length := by cases s <;> decide
    rw [String.length_toList] at hle hpos
    exact ⟨rfl, hpos, hle⟩

/-! ### What stands at the front -/

/-- Whether a number starts does not depend on what ends it. -/
theorem startsNumber_append (h : Ends ds) (first : Char) (rest : List Char) :
    startsNumber first (rest ++ ds) = startsNumber first rest := by
  have hr : Numeral.startsWithDigit (rest ++ ds) = Numeral.startsWithDigit rest := by
    cases rest with
    | cons => rfl
    | nil =>
      cases ds with
      | nil => rfl
      | cons d ds => exact (h d rfl).not_digit
  rw [startsNumber, startsNumber, hr]

/-- Where a name starts, the token in front is that name. -/
theorem front_name (h : startsName first = true) (start : Nat) (rest : List Char) :
    front start first rest = name (first :: rest) := by
  have hq : ¬ (first = '"' ∨ first = '\'') := by
    rintro (rfl | rfl) <;> exact absurd h (by decide)
  have hp : first ≠ '.' := by
    rintro rfl
    exact absurd h (by decide)
  have hn : startsNumber first rest = false := by
    rw [startsNumber, isDigit_of_startsName h, beq_false_of_ne hp]
    rfl
  rw [front, if_neg hq, if_neg (Bool.eq_false_iff.1 hn), if_pos h]

/-- **A token is read with no look at what follows it, but that it does not go on there.**  It
takes a character at least. -/
theorem front_append (hd : Ends ds) (h : front start first rest = .token t n) (p : Nat) :
    front p first (rest ++ ds) = .token t n ∧ 0 < n ∧ n ≤ rest.length + 1 := by
  unfold front at h ⊢
  rw [startsNumber_append hd]
  split at h
  · next hq =>
    rw [if_pos hq]
    exact string_append h ds p
  · next hq =>
    rw [if_neg hq]
    split at h
    · next hn =>
      rw [if_pos hn]
      obtain ⟨hf, hm, hle⟩ := number_append hd h p
      exact ⟨hf, Nat.lt_of_lt_of_le (mantissaLength_pos hn) hm, hle⟩
    · next hn =>
      rw [if_neg hn]
      split at h
      · next hs =>
        rw [if_pos hs]
        exact name_append hd hs h
      · next hs =>
        rw [if_neg hs]
        exact symbol_append hd h p

end Scan
end RecordFilter
