/-
# Numbers as literals

A number in an expression is digits with a point among them or in front of them, and perhaps an
exponent (`NumberLiteral.IsLiteral`); unlike in other texts, a point with no digit behind it is left
to what follows.  The scan measures a literal before it reads it: what it measures is the longest
literal that stands there (`isLongest_take`), and if a name could go on behind that, the number is
refused (`number_cases`), and only then (`number_refused`).  As an exponent starts with a letter,
this refuses also an exponent without digits.

The text of a literal is a decimal, so it is always read (`IsLiteral.exists_unsigned`), and the same
text as a string stands for the same number (`next_number`).
-/

import Mathlib
import RecordFilter.Proofs.Expr.Cutting
import RecordFilter.Proofs.Expr.Offsets
import RecordFilter.Proofs.Value.Coercion

namespace RecordFilter
namespace NumberLiteral

open Numeral (IsRun IsSign Exponent Unsigned)

/-- Digits, with a point and digits behind them, or a point and digits. -/
inductive IsMantissa : List Char → Prop where
  | whole {ds} (hd : IsRun ds) : IsMantissa ds
  | pointed {ds fs} (hd : IsRun ds) (hf : IsRun fs) : IsMantissa (ds ++ '.' :: fs)
  | fraction {fs} (hf : IsRun fs) : IsMantissa ('.' :: fs)

/-- A mantissa and an exponent or none. -/
inductive IsLiteral : List Char → Prop where
  | intro {mantissa exponent power} (hm : IsMantissa mantissa) (he : Exponent exponent power) :
      IsLiteral (mantissa ++ exponent)

/-- No longer literal stands in front of the text. -/
structure IsLongest (literal cs : List Char) : Prop where
  isLiteral : IsLiteral literal
  isPrefix : literal <+: cs
  longest : ∀ other, IsLiteral other → other <+: cs → other.length ≤ literal.length

variable {cs ds fs rest literal mantissa exponent more : List Char} {c first : Char} {n k : Nat}
  {power : Int}

/-- A text has one longest literal. -/
theorem IsLongest.unique {other : List Char} (h : IsLongest literal cs)
    (h' : IsLongest other cs) : literal = other := by
  have hle := h'.longest literal h.isLiteral h.isPrefix
  have hge := h.longest other h'.isLiteral h'.isPrefix
  exact (List.prefix_of_prefix_length_le h.isPrefix h'.isPrefix hle).eq_of_length
    (Nat.le_antisymm hle hge)

/-! ### Literals are decimals -/

/-- A mantissa has digits in front of the point and behind it. -/
theorem IsMantissa.exists_mantissa (h : IsMantissa mantissa) :
    ∃ whole fraction, Numeral.Mantissa mantissa whole fraction := by
  cases h with
  | whole hd => exact ⟨_, _, .whole hd⟩
  | pointed hd hf =>
    refine ⟨_, _, .pointed ⟨?_, ?_⟩⟩
    · exact List.append_ne_nil_of_left_ne_nil hd.1 _
    · exact List.forall_mem_append.2 ⟨hd.2, hf.2⟩
  | fraction hf =>
    have hpointed : Numeral.Mantissa ([] ++ '.' :: _) [] _ := .pointed hf
    exact ⟨_, _, hpointed⟩

/-- A literal writes an unsigned decimal. -/
theorem IsLiteral.exists_unsigned (h : IsLiteral literal) : ∃ d, Unsigned literal d := by
  obtain ⟨hm, he⟩ := h
  obtain ⟨whole, fraction, hm⟩ := hm.exists_mantissa
  exact ⟨_, .intro hm he⟩

/-- A literal is read as the double nearest to its decimal. -/
theorem double?_of_unsigned {d : Decimal} (h : Unsigned literal d) :
    Numeral.double? literal = some d.toFloat := by
  have hsigned : Numeral.Signed ([] ++ literal) false d := .intro .none h
  exact hsigned.double?

/-! ### The mantissa -/

/-- A mantissa is as long as its digits and the fraction behind them. -/
theorem mantissaLength_eq (cs : List Char) : Scan.mantissaLength cs =
    (Numeral.digits cs).length + Scan.fractionLength (Scan.fraction (Numeral.afterDigits cs)) := by
  have hdrop : (Numeral.digits cs ++ Numeral.afterDigits cs).drop (Numeral.digits cs).length =
      Numeral.afterDigits cs := List.drop_left
  rw [Numeral.digits_append_afterDigits] at hdrop
  rw [Scan.mantissaLength, hdrop]

/-- Digits in front of a text are among those that are taken. -/
theorem length_le_digits (hd : ∀ d ∈ ds, Numeral.isDigit d = true) (rest : List Char) :
    ds.length ≤ (Numeral.digits (ds ++ rest)).length := by
  rw [Numeral.digits, List.takeWhile_append_of_pos hd, List.length_append]
  exact Nat.le_add_right _ _

/-- Without a point there is no fraction. -/
theorem fraction_of_head?_ne (h : rest.head? ≠ some '.') : Scan.fraction rest = [] := by
  refine Scan.fraction.eq_2 rest ?_
  rintro more rfl
  exact h rfl

/-- A fraction is its digits and the point in front of them. -/
theorem fractionLength_of_ne_nil (h : fs ≠ []) : Scan.fractionLength fs = fs.length + 1 := by
  rw [Scan.fractionLength, if_neg (mt List.isEmpty_iff.1 h)]

/-- The length of a mantissa with a point, with digits in front of it or without. -/
theorem mantissaLength_pointed (hd : ∀ d ∈ ds, Numeral.isDigit d = true) (hf : IsRun fs)
    (rest : List Char) :
    Scan.mantissaLength (ds ++ '.' :: fs ++ rest) =
      ds.length + (Numeral.digits (fs ++ rest)).length + 1 := by
  have hstop : Numeral.startsWithDigit ('.' :: (fs ++ rest)) = false := rfl
  obtain ⟨hdigits, hafter⟩ := Numeral.digits_append hd hstop
  have hne : Numeral.digits (fs ++ rest) ≠ [] := by
    have hle := length_le_digits hf.2 rest
    have hpos := List.length_pos_iff.2 hf.1
    exact List.ne_nil_of_length_pos (hpos.trans_le hle)
  rw [List.append_assoc, List.cons_append, mantissaLength_eq, hdigits, hafter, Scan.fraction,
    fractionLength_of_ne_nil hne, Nat.add_assoc]

/-- The scan passes over a mantissa, and over no more where that does not go on. -/
theorem mantissaLength_append (h : IsMantissa mantissa) (rest : List Char) :
    mantissa.length ≤ Scan.mantissaLength (mantissa ++ rest) ∧
      (Numeral.startsWithDigit rest = false → rest.head? ≠ some '.' →
        Scan.mantissaLength (mantissa ++ rest) = mantissa.length) := by
  have hpointed : ∀ {ds fs}, (∀ d ∈ ds, Numeral.isDigit d = true) → IsRun fs →
      (ds ++ '.' :: fs).length ≤ Scan.mantissaLength (ds ++ '.' :: fs ++ rest) ∧
        (Numeral.startsWithDigit rest = false →
          Scan.mantissaLength (ds ++ '.' :: fs ++ rest) = (ds ++ '.' :: fs).length) := by
    intro ds fs hd hf
    rw [mantissaLength_pointed hd hf, List.length_append, List.length_cons]
    constructor
    · have := length_le_digits hf.2 rest
      omega
    · intro hrest
      rw [(Numeral.digits_append hf.2 hrest).1, Nat.add_assoc]
  cases h with
  | whole hd =>
    constructor
    · have := length_le_digits hd.2 rest
      rw [mantissaLength_eq]
      omega
    · intro hrest hpoint
      obtain ⟨hdigits, hafter⟩ := Numeral.digits_append hd.2 hrest
      rw [mantissaLength_eq, hdigits, hafter, fraction_of_head?_ne hpoint]
      rfl
  | pointed hd hf => exact (hpointed hd.2 hf).imp_right fun h hrest _ => h hrest
  | fraction hf =>
    have hnone : ∀ d ∈ [], Numeral.isDigit d = true := nofun
    exact (hpointed hnone hf).imp_right fun h hrest _ => h hrest

/-- What is taken as a mantissa is one. -/
theorem isMantissa_take (h : Scan.startsNumber first rest = true) :
    IsMantissa ((first :: rest).take (Scan.mantissaLength (first :: rest))) := by
  obtain ⟨cs, hcs⟩ : ∃ cs, first :: rest = cs := ⟨_, rfl⟩
  have hsplit := Numeral.digits_append_afterDigits cs
  have hdigits := Numeral.isDigit_of_mem_digits cs
  rw [hcs, mantissaLength_eq]
  by_cases hf : Scan.fraction (Numeral.afterDigits cs) = []
  · have hne : Numeral.digits cs ≠ [] := by
      intro hnil
      have hpos := Scan.mantissaLength_pos h
      rw [hcs, mantissaLength_eq, hnil, hf] at hpos
      exact Nat.lt_irrefl 0 hpos
    have htake : (Numeral.digits cs ++ Numeral.afterDigits cs).take (Numeral.digits cs).length =
        Numeral.digits cs := List.take_left
    rw [hsplit] at htake
    rw [hf]
    change IsMantissa (cs.take (Numeral.digits cs).length)
    rw [htake]
    exact .whole ⟨hne, hdigits⟩
  · obtain ⟨more, hmore⟩ := List.head?_eq_some_iff.1 (not_not.1 (mt fraction_of_head?_ne hf))
    have hrun : IsRun (Numeral.digits more) := by
      rw [hmore] at hf
      exact ⟨hf, Numeral.isDigit_of_mem_digits more⟩
    have hall : Numeral.digits cs ++ '.' :: Numeral.digits more ++ Numeral.afterDigits more =
        cs := by
      rw [List.append_assoc, List.cons_append, Numeral.digits_append_afterDigits, ← hmore, hsplit]
    have hlength : (Numeral.digits cs ++ '.' :: Numeral.digits more).length =
        (Numeral.digits cs).length + ((Numeral.digits more).length + 1) := List.length_append
    have htake := @List.take_left' _ _ (Numeral.afterDigits more) _ hlength
    rw [hall] at htake
    rw [hmore, Scan.fraction, fractionLength_of_ne_nil hrun.1, htake]
    cases hd : Numeral.digits cs with
    | nil => exact .fraction hrun
    | cons d ds =>
      refine .pointed ⟨List.cons_ne_nil d ds, ?_⟩ hrun
      rwa [← hd]

/-! ### The exponent -/

/-- An exponent in front of a text is measured as complete. -/
theorem exponent_append (h : Exponent exponent power) (hne : exponent ≠ []) (rest : List Char) :
    ∃ k, Scan.exponent (exponent ++ rest) = (k, true) ∧ exponent.length ≤ k := by
  cases h with
  | none => exact absurd rfl hne
  | @digits letter sign negative ds hl hs hd =>
    obtain ⟨hplus, hminus⟩ := Numeral.head?_ne_of_startsWithDigit (hd.startsWithDigit rest)
    have hle := length_le_digits hd.2 rest
    have hpos := List.length_pos_iff.2 hd.1
    have hsign := hs.takeSign hplus hminus
    rw [List.cons_append, List.append_assoc]
    refine ⟨_, (Scan.exponent_eq_iff hl).2 ⟨?_, rfl⟩, ?_⟩
    · rw [hsign]
      exact List.ne_nil_of_length_pos (hpos.trans_le hle)
    · rw [hsign]
      simp only [List.length_append, List.length_cons]
      omega

/-- What is taken as an exponent is one. -/
theorem exists_exponent_take (h : Scan.exponent cs = (k, true)) :
    ∃ power, Exponent (cs.take k) power := by
  cases cs with
  | nil =>
    cases h
    exact ⟨0, .none⟩
  | cons c rest =>
    by_cases hc : c = 'e' ∨ c = 'E'
    · obtain ⟨hne, hk⟩ := (Scan.exponent_eq_iff hc).1 h
      obtain ⟨sign, hs, hrest⟩ := Numeral.exists_sign rest
      obtain ⟨more, hmore⟩ : ∃ more, (Numeral.takeSign rest).2 = more := ⟨_, rfl⟩
      rw [hmore] at hrest hne hk
      have hrun : IsRun (Numeral.digits more) := ⟨hne, Numeral.isDigit_of_mem_digits more⟩
      have hall : c :: (sign ++ Numeral.digits more) ++ Numeral.afterDigits more = c :: rest := by
        rw [hrest, List.cons_append, List.append_assoc, Numeral.digits_append_afterDigits]
      have hlength : (c :: (sign ++ Numeral.digits more)).length = k := by
        have := congrArg List.length hrest
        simp only [List.length_append, List.length_cons] at this ⊢
        omega
      rw [← hall, List.take_left' hlength]
      exact ⟨_, .digits hc hs hrun⟩
    · rw [Scan.exponent, if_neg hc] at h
      cases h
      exact ⟨0, .none⟩

/-- An exponent without digits starts like a name. -/
theorem startsName_of_exponent (h : Scan.exponent cs = (k, false)) :
    0 < k ∧ ∃ c ∈ cs.head?, Scan.startsName c = true := by
  cases cs with
  | nil => cases h
  | cons c rest =>
    rw [Scan.exponent] at h
    split at h
    · next hc =>
      have hk := congrArg Prod.fst h
      dsimp only at hk
      refine ⟨by omega, c, rfl, ?_⟩
      rcases hc with rfl | rfl <;> decide
    · cases h

/-! ### The longest literal -/

/-- What the scan measures, without an exponent that has no digits. -/
def measured (cs : List Char) : Nat :=
  Scan.mantissaLength cs + match Scan.exponent (cs.drop (Scan.mantissaLength cs)) with
    | (k, true) => k
    | (_, false) => 0

/-- An exponent with digits is measured. -/
theorem measured_complete (h : Scan.exponent (cs.drop (Scan.mantissaLength cs)) = (k, true)) :
    measured cs = Scan.mantissaLength cs + k := by
  rw [measured, h]

/-- An exponent without digits is not measured. -/
theorem measured_incomplete (h : Scan.exponent (cs.drop (Scan.mantissaLength cs)) = (k, false)) :
    measured cs = Scan.mantissaLength cs := by
  rw [measured, h]
  rfl

/-- No literal in front of a text is longer than what is measured. -/
theorem length_le_measured (h : IsLiteral literal) (rest : List Char) :
    literal.length ≤ measured (literal ++ rest) := by
  obtain ⟨hm, he⟩ := h
  rename_i mantissa exponent power
  rw [List.append_assoc]
  obtain ⟨hle, hstops⟩ := mantissaLength_append hm (exponent ++ rest)
  by_cases hne : exponent = []
  · subst hne
    rw [List.append_nil]
    exact hle.trans (Nat.le_add_right _ _)
  · obtain ⟨c, more, rfl⟩ := List.exists_cons_of_ne_nil hne
    obtain ⟨hdigit, hpoint⟩ := he.starts
    have hlength := hstops hdigit hpoint
    obtain ⟨k, hk, hlong⟩ := exponent_append he hne rest
    have hdrop : Scan.exponent ((mantissa ++ (c :: more ++ rest)).drop
        (Scan.mantissaLength (mantissa ++ (c :: more ++ rest)))) = (k, true) := by
      rw [hlength, List.drop_left, hk]
    rw [measured_complete hdrop, hlength, List.length_append]
    omega

/-- **What is measured is the longest literal.** -/
theorem isLongest_take (h : Scan.startsNumber first rest = true) :
    IsLongest ((first :: rest).take (measured (first :: rest))) (first :: rest) := by
  refine ⟨?_, List.take_prefix _ _, ?_⟩
  · have hmantissa := isMantissa_take h
    obtain ⟨k, complete, hk⟩ : ∃ k complete, Scan.exponent ((first :: rest).drop
      (Scan.mantissaLength (first :: rest))) = (k, complete) := ⟨_, _, rfl⟩
    cases complete with
    | true =>
      obtain ⟨power, he⟩ := exists_exponent_take hk
      rw [measured_complete hk, List.take_add]
      exact .intro hmantissa he
    | false =>
      rw [measured_incomplete hk, ← List.append_nil (List.take _ _)]
      exact .intro hmantissa .none
  · rintro other ho ⟨more, hmore⟩
    have hle := length_le_measured ho more
    rw [hmore] at hle
    have hall := congrArg List.length hmore
    rw [List.length_append] at hall
    rw [List.length_take]
    omega

/-! ### The scan -/

/-- No name starts if and only if the character in front starts none. -/
theorem nameLength_eq_zero_iff :
    Scan.nameLength cs = 0 ↔ ∀ c ∈ cs.head?, Scan.startsName c = false := by
  cases cs with
  | nil => simp [Scan.nameLength]
  | cons c rest =>
    rw [Scan.nameLength]
    split
    · next hs =>
      rw [List.takeWhile_cons_of_pos (Scan.continuesName_of_startsName hs)]
      simp [hs]
    · next hs => simp [hs]

/-- No more is measured than there is. -/
theorem measured_le (cs : List Char) : measured cs ≤ cs.length := by
  have hmantissa := Scan.mantissaLength_le cs
  have hexponent := Scan.length_exponent_le (cs.drop (Scan.mantissaLength cs))
  rw [List.length_drop] at hexponent
  rw [measured]
  split
  · next k hk =>
    rw [hk] at hexponent
    dsimp only at hexponent
    omega
  · omega

/-- Some characters of a text that has one are not none. -/
theorem take_ne_nil (hc : c ∈ more.head?) (hk : 0 < k) : more.take k ≠ [] := by
  obtain ⟨rest, rfl⟩ := List.head?_eq_some_iff.1 (Option.mem_def.1 hc)
  obtain ⟨k, rfl⟩ := Nat.exists_eq_add_one_of_ne_zero hk.ne'
  exact List.cons_ne_nil _ _

/-- A literal is read where no name could go on behind it, and refused with a part of what follows
where one could. -/
theorem number_cases (h : Scan.startsNumber first rest = true)
    (hl : IsLongest literal (first :: rest)) (hcs : first :: rest = literal ++ more) {d : Decimal}
    (hd : Unsigned literal d) (start : Nat) :
    ((∀ c ∈ more.head?, Scan.startsName c = false) →
      Scan.number start (first :: rest) = .token (.number d.toFloat) literal.length) ∧
    ((∃ c ∈ more.head?, Scan.startsName c = true) → ∃ shown n, shown ≠ [] ∧ shown <+: more ∧
      Scan.number start (first :: rest) =
        .fault (.invalidNumber (.ofList (literal ++ shown)) start) n) := by
  have hlength : measured (first :: rest) = literal.length := by
    have htake := congrArg List.length (hl.unique (isLongest_take h))
    rw [List.length_take, Nat.min_eq_left (measured_le _)] at htake
    exact htake.symm
  have hmore : (first :: rest).drop literal.length = more := by rw [hcs, List.drop_left]
  have hread : (first :: rest).take literal.length = literal := by rw [hcs, List.take_left]
  have hshown : ∀ k, (first :: rest).take (literal.length + k) = literal ++ more.take k := by
    intro k
    rw [hcs, List.take_length_add_append]
  obtain ⟨k, complete, hk⟩ : ∃ k complete, Scan.exponent ((first :: rest).drop
    (Scan.mantissaLength (first :: rest))) = (k, complete) := ⟨_, _, rfl⟩
  cases complete with
  | true =>
    rw [measured_complete hk] at hlength
    simp only [Scan.number, hk, if_true, hlength, hmore, hread, double?_of_unsigned hd, hshown]
    constructor
    · intro hnone
      rw [if_pos (nameLength_eq_zero_iff.2 hnone)]
    · rintro ⟨c, hc, hs⟩
      have htail : Scan.nameLength more ≠ 0 := by
        intro hzero
        rw [nameLength_eq_zero_iff.1 hzero c hc] at hs
        cases hs
      rw [if_neg htail]
      exact ⟨_, _, take_ne_nil hc (Nat.pos_iff_ne_zero.2 htail), List.take_prefix _ _, rfl⟩
  | false =>
    rw [measured_incomplete hk] at hlength
    rw [hlength] at hk
    simp only [Scan.number, hk, Bool.false_eq_true, if_false, hlength, hshown]
    rw [hmore] at hk
    obtain ⟨hpos, c, hc, hs⟩ := startsName_of_exponent hk
    constructor
    · intro hnone
      rw [hnone c hc] at hs
      cases hs
    · intro _
      exact ⟨_, _, take_ne_nil hc hpos, List.take_prefix _ _, rfl⟩

/-- A number is refused only where a name could go on behind the longest literal, and with a part
of what follows that. -/
theorem number_refused {e : SyntaxError} {start : Nat} (h : Scan.startsNumber first rest = true)
    (hf : Scan.number start (first :: rest) = .fault e n) :
    ∃ literal more shown, first :: rest = literal ++ more ∧ IsLongest literal (first :: rest) ∧
      (∃ c ∈ more.head?, Scan.startsName c = true) ∧ shown ≠ [] ∧ shown <+: more ∧
      e = .invalidNumber (.ofList (literal ++ shown)) start := by
  have hl := isLongest_take h
  have hcs := (List.take_append_drop (measured (first :: rest)) (first :: rest)).symm
  obtain ⟨d, hd⟩ := hl.isLiteral.exists_unsigned
  obtain ⟨hread, hrefused⟩ := number_cases h hl hcs hd start
  have hname : ∃ c ∈ ((first :: rest).drop (measured (first :: rest))).head?,
      Scan.startsName c = true := by
    by_contra hnone
    push Not at hnone
    cases hf.symm.trans (hread fun c hc => Bool.eq_false_iff.2 (hnone c hc))
  obtain ⟨shown, k, hne, hshown, hfault⟩ := hrefused hname
  cases hf.symm.trans hfault
  exact ⟨_, _, shown, hcs, hl, hname, hne, hshown, rfl⟩

/-! ### The ends of literals -/

/-- A digit is no white space. -/
theorem isWhiteSpace_of_isDigit (h : Numeral.isDigit c = true) :
    Unicode.isWhiteSpace c = false := by
  refine Bool.eq_false_iff.2 fun hw => ?_
  simp only [Numeral.isDigit, Bool.and_eq_true, decide_eq_true_eq] at h
  exact Unicode.not_mem_of_isWhiteSpace hw (by decide)
    ⟨UInt32.le_iff_toNat_le.1 h.1, UInt32.le_iff_toNat_le.1 h.2⟩

/-- A text that ends with digits has a digit as its last character. -/
theorem isDigit_getLast?_append (h : IsRun ds) (cs : List Char) :
    ∀ c ∈ (cs ++ ds).getLast?, Numeral.isDigit c = true := by
  intro c hc
  rw [List.getLast?_append_of_ne_nil _ h.1] at hc
  exact h.2 c (List.mem_of_getLast? hc)

/-- A literal ends with a digit. -/
theorem IsLiteral.getLast? (h : IsLiteral literal) :
    ∀ c ∈ literal.getLast?, Numeral.isDigit c = true := by
  obtain ⟨hm, he⟩ := h
  cases he with
  | none =>
    rw [List.append_nil]
    cases hm with
    | whole hd => exact isDigit_getLast?_append hd []
    | @pointed ds fs hd hf =>
      rw [List.append_cons]
      exact isDigit_getLast?_append hf _
    | @fraction fs hf => exact isDigit_getLast?_append hf ['.']
  | @digits letter sign negative ds hl hs hd =>
    rw [List.append_cons, ← List.append_assoc]
    exact isDigit_getLast?_append hd _

end NumberLiteral

namespace Source

open NumberLiteral

variable {s : Source} {first : Char} {rest literal more : List Char}

/-- What starts a number is scanned as one. -/
theorem front_of_startsNumber (hn : Scan.startsNumber first rest = true) (start : Nat) :
    Scan.front start first rest = Scan.number start (first :: rest) := by
  have hquote : ¬ (first = '"' ∨ first = '\'') := by
    rintro (rfl | rfl) <;> cases hn
  rw [Scan.front, if_neg hquote, if_pos hn]

/-- What starts a number is no white space. -/
theorem isWhiteSpace_of_startsNumber (hn : Scan.startsNumber first rest = true) :
    Unicode.isWhiteSpace first = false := by
  rw [Scan.startsNumber, Bool.or_eq_true, Bool.and_eq_true, beq_iff_eq] at hn
  rcases hn with hd | ⟨rfl, -⟩
  · exact isWhiteSpace_of_isDigit hd
  · decide

/-- Nothing but what starts a number is scanned as one. -/
theorem startsNumber_of_front {start n : Nat} {x : Float}
    (h : Scan.front start first rest = .token (.number x) n) :
    Scan.startsNumber first rest = true := by
  rw [Scan.front] at h
  split_ifs at h with hq hn hs
  · unfold Scan.string at h
    split at h <;> cases h
  · exact hn
  · rw [Scan.name, Scan.token.injEq] at h
    unfold Token.ofName at h
    split at h <;> cases h.1
  · unfold Scan.symbol at h
    split at h <;> cases h

/-- A text that is one number has nothing but white space around a literal. -/
theorem exists_isTrimmed {text : String} {l : Lexeme} {p : Nat} {x : Float}
    (h : (ofText text).lexemes = ([l], .finished p)) (hl : l.token = .number x) :
    ∃ literal d, Value.IsTrimmed text.toList literal ∧ Numeral.Unsigned literal d ∧
      x = d.toFloat := by
  have htokens := tokenizes_of_take h (Nat.lt_succ_self _)
  rw [List.map_singleton, hl] at htokens
  cases htokens with
  | @token _ first rest _ n _ hc hf hend =>
  have hn := startsNumber_of_front (hf 0)
  have hlongest := isLongest_take hn
  have hsplit := List.take_append_drop (measured (first :: rest)) (first :: rest)
  generalize (first :: rest).take (measured (first :: rest)) = literal at hlongest hsplit
  generalize (first :: rest).drop (measured (first :: rest)) = more at hsplit
  obtain ⟨d, hd⟩ := hlongest.isLiteral.exists_unsigned
  obtain ⟨hread, hrefused⟩ := number_cases hn hlongest hsplit.symm hd 0
  have hnumber := (front_of_startsNumber hn 0).symm.trans (hf 0)
  have hnone : ∀ c ∈ more.head?, Scan.startsName c = false := by
    intro c hc
    refine Bool.eq_false_iff.2 fun hs => ?_
    obtain ⟨shown, k, -, -, hfault⟩ := hrefused ⟨c, hc, hs⟩
    cases hfault.symm.trans hnumber
  have htoken := (hread hnone).symm.trans hnumber
  rw [Scan.token.injEq, Token.number.injEq] at htoken
  obtain ⟨rfl, rfl⟩ := htoken
  refine ⟨literal, d, ⟨text.toList.takeWhile Unicode.isWhiteSpace, more, ?_, ?_, ?_, ?_, ?_⟩, hd,
    rfl⟩
  · rw [hsplit, ← hc]
    exact List.takeWhile_append_dropWhile.symm
  · exact fun c hc => List.mem_takeWhile_imp hc
  · cases hend with | finished hend
    rw [← hsplit, List.drop_left] at hend
    exact List.dropWhile_eq_nil_iff.1 hend
  · intro c hc
    have hfirst := congrArg List.head? hsplit
    rw [List.head?_append, Option.mem_def.1 hc] at hfirst
    obtain rfl := Option.some.inj hfirst
    exact isWhiteSpace_of_startsNumber hn
  · intro c hc
    exact isWhiteSpace_of_isDigit (hlongest.isLiteral.getLast? c hc)

section Literal

variable (hn : Scan.startsNumber first rest = true) (hs : s.rest = first :: rest)
  (hl : IsLongest literal s.rest) (hcs : s.rest = literal ++ more)
include hn hs hl hcs

/-- A literal that a name could go on behind is refused. -/
theorem next_refused (hname : ∃ c ∈ more.head?, Scan.startsName c = true) :
    ∃ shown after, shown ≠ [] ∧ shown <+: more ∧ s.next =
      .fault (.invalidNumber (.ofList (literal ++ shown)) s.position) after := by
  obtain ⟨d, hd⟩ := hl.isLiteral.exists_unsigned
  rw [hs] at hl hcs
  obtain ⟨shown, n, hne, hshown, hscan⟩ := (number_cases hn hl hcs hd s.position).2 hname
  refine ⟨shown, s.skip n, hne, hshown, ?_⟩
  rw [next_front (isWhiteSpace_of_startsNumber hn) hs, front_of_startsNumber hn, hscan]
  rfl

/-- Any other literal is read, up to its end. -/
theorem next_literal {d : Decimal} (hd : Numeral.Unsigned literal d) (l : Lexeme) (after : Source) :
    s.next = .lexeme l after ↔ (∀ c ∈ more.head?, Scan.startsName c = false) ∧
      l = ⟨.number d.toFloat, s.position, s.position + literal.length⟩ ∧
        after = ⟨more, s.position + literal.length⟩ := by
  have hafter : s.skip literal.length = ⟨more, s.position + literal.length⟩ := by
    rw [skip, hcs, List.drop_left]
  by_cases hname : ∃ c ∈ more.head?, Scan.startsName c = true
  · obtain ⟨shown, after', -, -, hrefuse⟩ := next_refused hn hs hl hcs hname
    obtain ⟨c, hc, hstarts⟩ := hname
    refine iff_of_false ?_ fun hread => ?_
    · rw [hrefuse]
      exact Reading.noConfusion
    · rw [hread.1 c hc] at hstarts
      cases hstarts
  · have hnone : ∀ c ∈ more.head?, Scan.startsName c = false := by
      simpa using hname
    rw [hs] at hl hcs
    rw [next_front (isWhiteSpace_of_startsNumber hn) hs, front_of_startsNumber hn,
      (number_cases hn hl hcs hd s.position).1 hnone, reading, Reading.lexeme.injEq, hafter,
      @eq_comm _ l, @eq_comm _ after]
    exact (and_iff_right hnone).symm

end Literal

/-- **A number is read where the longest literal is, if no name could go on behind it, and is the
one that the literal writes; otherwise it is refused.**  There always is such a literal, and none is
refused for its own text.  The letters `e` and `E` start names, so they are refused behind a
mantissa unless they start an exponent.  A text that is read as one number is the same number as a
string. -/
theorem next_number (hs : s.rest = first :: rest)
    (hd : Numeral.isDigit first = true ∨
      first = '.' ∧ ∃ c ∈ rest.head?, Numeral.isDigit c = true) :
    (∃ literal, IsLongest literal s.rest) ∧
    (∀ literal more, IsLongest literal s.rest → s.rest = literal ++ more →
      ∃ d, Numeral.Unsigned literal d ∧ Numeral.double? literal = some d.toFloat ∧
        (∀ l after, s.next = .lexeme l after ↔
          (∀ c ∈ more.head?, Scan.startsName c = false) ∧
            l = ⟨.number d.toFloat, s.position, s.position + literal.length⟩ ∧
              after = ⟨more, s.position + literal.length⟩) ∧
        ((∃ c ∈ more.head?, Scan.startsName c = true) → ∃ shown after, shown ≠ [] ∧
          shown <+: more ∧ s.next =
            .fault (.invalidNumber (.ofList (literal ++ shown)) s.position) after)) ∧
    ∀ text l p x, (ofText text).lexemes = ([l], .finished p) → l.token = .number x →
      (Value.string text).toNumber = x := by
  have hn : Scan.startsNumber first rest = true := by
    rw [Scan.startsNumber, Bool.or_eq_true, Bool.and_eq_true, beq_iff_eq]
    refine hd.imp_right ?_
    rintro ⟨hpoint, c, hc, hdigit⟩
    refine ⟨hpoint, ?_⟩
    obtain ⟨more, rfl⟩ := List.head?_eq_some_iff.1 (Option.mem_def.1 hc)
    exact hdigit
  refine ⟨⟨_, hs ▸ isLongest_take hn⟩, ?_, ?_⟩
  · intro literal more hl hcs
    obtain ⟨d, hd⟩ := hl.isLiteral.exists_unsigned
    exact ⟨d, hd, double?_of_unsigned hd, next_literal hn hs hl hcs hd,
      next_refused hn hs hl hcs⟩
  · intro text l p x h hl
    obtain ⟨literal, d, htrimmed, hd, rfl⟩ := exists_isTrimmed h hl
    have hsigned : Numeral.Signed ([] ++ literal) false d := .intro .none hd
    exact Value.numberOfText_signed htrimmed hsigned

/-- A letter of an exponent without digits behind it. -/
theorem next_number_letter : Numeral.isDigit '1' = true ∧ ∃ shown after,
    (⟨"1.5e".toList, 3⟩ : Source).next =
      .fault (.invalidNumber (.ofList ("1.5".toList ++ shown)) 3) after := by
  have hlongest : IsLongest ("1.5e".toList.take (measured "1.5e".toList)) "1.5e".toList :=
    isLongest_take rfl
  have hmeasured : measured "1.5e".toList = 3 := by decide
  rw [hmeasured] at hlongest
  obtain ⟨-, hliteral, -⟩ := next_number (s := ⟨"1.5e".toList, 3⟩) rfl (.inl rfl)
  obtain ⟨d, -, -, -, hrefused⟩ := hliteral "1.5".toList ['e'] hlongest rfl
  obtain ⟨shown, after, -, -, h⟩ := hrefused ⟨'e', rfl, by decide⟩
  exact ⟨rfl, shown, after, h⟩

end Source
end RecordFilter
