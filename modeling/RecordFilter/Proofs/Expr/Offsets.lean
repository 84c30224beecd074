/-
# Where errors lie

Every error lies in the text, and what it says of its position is so (`SyntaxError.LiesIn`): the end
is unexpected at the end, a character stands where it is refused, a refused number starts there, and
so does the quote that is not closed.

What is refused at the front of a part of the text lies in the text (`Scan.liesIn_of_front`), hence
all lexemes of a text do and what comes after them (`Source.liesIn_take`); and the moves of a reader
keep this, those that fail included (`liesIn_invariant`).  So it holds of the errors of every
reading, of the first and of each one behind it (`liesIn_of_refuses`).
-/

import Mathlib
import RecordFilter.Proofs.Expr.Invariant
import RecordFilter.Proofs.Expr.Quotation
import RecordFilter.Proofs.Expr.Tokenization

namespace RecordFilter

namespace SyntaxError

/-- What an error says of the text at its position is so. -/
def LiesIn (cs : List Char) : SyntaxError → Prop
  | unexpectedToken _ p | expected _ _ p | invalidCallTarget p => p < cs.length
  | unexpectedChar c p => cs[p]? = some c
  | unexpectedEnd p => p = cs.length
  | invalidNumber shown p => shown.toList ≠ [] ∧ shown.toList <+: cs.drop p
  | unclosedString p => cs[p]? = some '"' ∨ cs[p]? = some '\''
  | invalidEscape _ p | tooDeep _ p => p ≤ cs.length

/-- Whether an error is about a character or a token of the text. -/
def IsAtCharacter : SyntaxError → Prop
  | unexpectedToken .. | unexpectedChar .. | invalidNumber .. | unclosedString .. | expected ..
  | invalidCallTarget .. => True
  | unexpectedEnd .. | invalidEscape .. | tooDeep .. => False

variable {cs : List Char} {e : SyntaxError}

/-- A place with a character lies in the text. -/
theorem lt_of_getElem?_eq_some {p : Nat} {c : Char} (h : cs[p]? = some c) : p < cs.length :=
  (List.getElem?_eq_some_iff.1 h).1

/-- An error at a character lies in front of the end of the text. -/
theorem LiesIn.lt_length (h : e.LiesIn cs) (he : e.IsAtCharacter) : e.position < cs.length := by
  cases e with
  | unexpectedToken | expected | invalidCallTarget => exact h
  | unexpectedChar => exact lt_of_getElem?_eq_some h
  | unclosedString => exact h.elim lt_of_getElem?_eq_some lt_of_getElem?_eq_some
  | invalidNumber shown p =>
    obtain ⟨hne, hp⟩ := h
    have hlen := hp.length_le
    have hpos := List.length_pos_iff.2 hne
    rw [List.length_drop] at hlen
    exact Nat.lt_of_sub_pos (Nat.lt_of_lt_of_le hpos hlen)
  | unexpectedEnd | invalidEscape | tooDeep => exact he.elim

/-- No error lies behind the end of the text. -/
theorem LiesIn.le_length (h : e.LiesIn cs) : e.position ≤ cs.length := by
  cases e with
  | unexpectedEnd => exact Nat.le_of_eq h
  | invalidEscape | tooDeep => exact h
  | unexpectedToken | unexpectedChar | invalidNumber | unclosedString | expected
  | invalidCallTarget => exact Nat.le_of_lt (h.lt_length trivial)

end SyntaxError

/-! ### What stands at the front -/

namespace Scan

variable {cs rest : List Char} {first : Char} {e : SyntaxError} {p n : Nat}

/-- The character in front is the one at the position. -/
theorem getElem?_of_drop (h : cs.drop p = first :: rest) : cs[p]? = some first := by
  rw [← Nat.add_zero p, ← List.getElem?_drop, h, List.getElem?_cons_zero]

/-- A text is as long as what is passed and what is left. -/
theorem length_of_drop (h : cs.drop p = first :: rest) : cs.length = p + (rest.length + 1) := by
  have hl := congrArg List.length h
  rw [List.length_drop, List.length_cons] at hl
  omega

/-- What is wrong with a string lies in the text. -/
theorem liesIn_of_string (hq : first = '"' ∨ first = '\'') (hd : cs.drop p = first :: rest)
    (h : string first p rest = .fault e n) : e.LiesIn cs ∧ n ≤ rest.length + 1 := by
  obtain ⟨-, hn, ⟨inner, letter, more, shown, ⟨hr, -⟩, -, rfl⟩ | ⟨-, rfl⟩⟩ :=
    Quotation.string_refused (Source.ne_backslash_of_quote hq) h
  · -- The error stands at the backslash or two characters behind it, where its letter has ended.
    have hoff : Quotation.faultOffset letter ≤ 2 := by
      unfold Quotation.faultOffset
      split <;> decide
    have hlen := length_of_drop hd
    rw [hr, List.length_append, List.length_cons, List.length_cons] at hlen
    refine ⟨?_, hn⟩
    simp only [SyntaxError.LiesIn]
    omega
  · have hc := getElem?_of_drop hd
    refine ⟨?_, hn⟩
    rcases hq with rfl | rfl
    · exact .inl hc
    · exact .inr hc

/-- An exponent is no longer than what is left. -/
theorem length_exponent_le (cs : List Char) : (exponent cs).1 ≤ cs.length := by
  cases cs with
  | nil => exact Nat.le_refl _
  | cons c rest =>
    have hsign := length_takeSign_le rest
    have hdigits := length_digits_le (Numeral.takeSign rest).2
    rw [exponent]
    split
    · simp only [List.length_cons]
      omega
    · exact Nat.zero_le _

/-- A name is no longer than what is left. -/
theorem nameLength_le (cs : List Char) : nameLength cs ≤ cs.length := by
  unfold nameLength
  split
  · split
    · exact (List.takeWhile_sublist _).length_le
    · exact Nat.zero_le _
  · exact Nat.zero_le _

/-- A number that is refused has a mantissa, and its text goes no further than the text at hand. -/
theorem length_of_number (h : number p cs = .fault e n) :
    mantissaLength cs ≤ n ∧ n ≤ cs.length := by
  have hm := mantissaLength_le cs
  have he := length_exponent_le (cs.drop (mantissaLength cs))
  have hn := nameLength_le
    (cs.drop (mantissaLength cs + (exponent (cs.drop (mantissaLength cs))).1))
  rw [List.length_drop] at he hn
  unfold number at h
  dsimp only at h
  split_ifs at h
  · split at h <;> cases h
    omega
  · cases h
    omega
  · cases h
    omega

/-- **What is refused at the front of a part of the text lies in the text**, and the characters
that are passed over are there. -/
theorem liesIn_of_front (hd : cs.drop p = first :: rest)
    (h : front p first rest = .fault e n) : e.LiesIn cs ∧ n ≤ rest.length + 1 := by
  unfold front at h
  split_ifs at h with hq hn
  · exact liesIn_of_string hq hd h
  · obtain rfl := eq_invalidNumber_of_number h
    obtain ⟨hm, hle⟩ := length_of_number h
    have hpos := Nat.lt_of_lt_of_le (mantissaLength_pos hn) hm
    refine ⟨⟨?_, ?_⟩, hle⟩ <;> rw [String.toList_ofList]
    · refine List.length_pos_iff.1 ?_
      rw [List.length_take]
      exact Nat.lt_min.2 ⟨hpos, Nat.succ_pos _⟩
    · rw [hd]
      exact List.take_prefix _ _
  · cases h
  · unfold symbol at h
    split at h
    · cases h
    · cases h
      exact ⟨getElem?_of_drop hd, Nat.zero_le _⟩

end Scan

/-! ### The lexemes of a text -/

/-- What is left of the text `cs`. -/
structure Source.IsOf (cs : List Char) (s : Source) : Prop where
  le : s.position ≤ cs.length
  rest : s.rest = cs.drop s.position

/-- The lexemes end with the end of the text, or with an error in it. -/
def Ending.LiesIn (cs : List Char) : Ending → Prop
  | finished p => p = cs.length
  | broken e after => e.LiesIn cs ∧ after.IsOf cs

namespace Source

variable {cs rest : List Char} {s : Source} {first : Char} {n limit : Nat}

/-- At first all of a text is left. -/
theorem isOf_ofText (text : String) : (ofText text).IsOf text.toList := ⟨Nat.zero_le _, rfl⟩

/-- What is passed and what is left are the text. -/
theorem IsOf.length_rest (h : s.IsOf cs) : s.position + s.rest.length = cs.length := by
  rw [h.rest, List.length_drop]
  exact Nat.add_sub_cancel' h.le

/-- What is left behind some characters is left of the text. -/
theorem IsOf.skip (h : s.IsOf cs) (hn : n ≤ s.rest.length) : (s.skip n).IsOf cs where
  le := by
    rw [← h.length_rest]
    exact Nat.add_le_add_left hn _
  rest := by
    change s.rest.drop n = cs.drop (s.position + n)
    rw [h.rest, List.drop_drop]

/-- What is left behind white space is left of the text. -/
theorem IsOf.skipSpace (h : s.IsOf cs) : s.skipSpace.IsOf cs :=
  h.skip (List.takeWhile_sublist _).length_le

/-- Where nothing is left the text ends. -/
theorem IsOf.position_of_nil (h : s.IsOf cs) (hn : s.rest = []) : s.position = cs.length := by
  rw [← h.length_rest, hn]
  rfl

/-- Where something is left the text does not end. -/
theorem IsOf.position_lt (h : s.IsOf cs) (hc : s.rest = first :: rest) :
    s.position < cs.length := by
  rw [← h.length_rest, hc]
  exact Nat.lt_add_of_pos_right (Nat.succ_pos _)

/-- **The lexemes of a text lie in it, and so does what comes after them.** -/
theorem liesIn_take (h : s.IsOf cs) (hl : s.rest.length < limit) :
    (∀ l ∈ (take limit s).1, l.start < cs.length) ∧ (take limit s).2.LiesIn cs := by
  induction limit generalizing s with
  | zero => exact absurd hl (Nat.not_lt_zero _)
  | succ limit ih =>
    have hs := h.skipSpace
    have hspace : s.skipSpace.rest.length ≤ s.rest.length := by
      rw [rest_skipSpace]
      exact (List.dropWhile_sublist _).length_le
    unfold take next
    dsimp only
    cases hr : s.skipSpace.rest with
    | nil => exact ⟨fun _ hm => absurd hm List.not_mem_nil, hs.position_of_nil hr⟩
    | cons first rest =>
      have hd : cs.drop s.skipSpace.position = first :: rest := hs.rest.symm.trans hr
      rw [hr, List.length_cons] at hspace
      dsimp only
      cases hf : Scan.front s.skipSpace.position first rest with
      | token t n =>
        have hn := (Scan.front_append Scan.ends_nil hf 0).2
        have hafter : (s.skipSpace.skip n).rest.length < limit := by
          change (s.skipSpace.rest.drop n).length < limit
          rw [hr, List.length_drop, List.length_cons]
          omega
        obtain ⟨hls, he⟩ := ih (hs.skip (by rw [hr]; exact hn.2)) hafter
        exact ⟨List.forall_mem_cons.2 ⟨hs.position_lt hr, hls⟩, he⟩
      | fault e n =>
        obtain ⟨he, hn⟩ := Scan.liesIn_of_front hd hf
        exact ⟨fun _ hm => absurd hm List.not_mem_nil, he, hs.skip (by rw [hr]; exact hn)⟩

/-- The lexemes that are left start in the text, and their end lies in it. -/
theorem liesIn_lexemes (h : s.IsOf cs) :
    (∀ l ∈ s.lexemes.1, l.start < cs.length) ∧ s.lexemes.2.LiesIn cs :=
  liesIn_take h (Nat.lt_succ_self _)

end Source

/-! ### Readings -/

namespace Expr
namespace Parser

variable {cs : List Char} {s : State} {l : Lexeme} {rest : List Lexeme} {limit : Nat}

/-- The lexemes that are left lie in the text, and so does what comes after them; if none is left,
that is the end of the text. -/
structure State.LiesIn (cs : List Char) (s : State) : Prop where
  ahead : ∀ l ∈ s.ahead, l.start < cs.length
  ending : s.ending.LiesIn cs
  finished : s.ahead = [] → s.Finished

namespace State.LiesIn

/-- The lexeme in front starts in the text. -/
theorem start_lt (h : s.LiesIn cs) (ha : s.ahead = l :: rest) : l.start < cs.length :=
  h.ahead l (by rw [ha]; exact List.mem_cons_self)

/-- Where no lexeme is left the position is the end of the text. -/
theorem position_of_nil (h : s.LiesIn cs) (ha : s.ahead = []) : s.position = cs.length := by
  obtain ⟨p, hp⟩ := h.finished ha
  have he := h.ending
  obtain ⟨ahead, ending, depth⟩ := s
  cases ha
  cases hp
  exact he

/-- The position lies in the text or at its end. -/
theorem position_le (h : s.LiesIn cs) : s.position ≤ cs.length := by
  cases ha : s.ahead with
  | nil => exact Nat.le_of_eq (h.position_of_nil ha)
  | cons l rest =>
    have hlt := h.start_lt ha
    obtain ⟨ahead, ending, depth⟩ := s
    cases ha
    exact Nat.le_of_lt hlt

/-- The depth does not matter for the places of the lexemes. -/
theorem withDepth (h : s.LiesIn cs) (d : Nat) : (s.withDepth d).LiesIn cs := ⟨h.1, h.2, h.3⟩

end State.LiesIn

/-- Passing over a lexeme leaves lexemes in the text; where it fails, the lexemes behind the fault
lie there too. -/
theorem liesIn_advance (ha : s.ahead = l :: rest) (hs : s.LiesIn cs) :
    (advance s l rest).Keeps (State.LiesIn cs) fun e t => e.LiesIn cs ∧ t.LiesIn cs := by
  have hrest : ∀ m ∈ rest, m.start < cs.length := fun m hm =>
    hs.ahead m (by rw [ha]; exact List.mem_cons_of_mem _ hm)
  have hl := hs.start_lt ha
  have he := hs.ending
  obtain ⟨ahead, ending, depth⟩ := s
  cases rest with
  | cons m rest => exact ⟨hrest, he, nofun⟩
  | nil =>
    cases ending with
    | finished p => exact ⟨hrest, he, fun _ => ⟨p, rfl⟩⟩
    | broken e after =>
      obtain ⟨hmore, hending⟩ := Source.liesIn_lexemes he.2
      exact ⟨he.1, List.forall_mem_cons.2 ⟨hl, hmore⟩, hending, nofun⟩

/-- **Readings stay in the text**, and the errors that they fail with lie in it. -/
theorem liesIn_invariant (limit : Nat) (cs : List Char) :
    Invariant limit (State.LiesIn cs) fun e t => e.LiesIn cs ∧ t.LiesIn cs where
  advance := liesIn_advance
  descend _ hs := hs.withDepth _
  restore _ ht := ht.withDepth _
  restoreError _ ht := ⟨ht.1, ht.2.withDepth _⟩
  tooDeep _ hs := ⟨hs.position_le, hs⟩
  unexpectedEnd ha hs := ⟨hs.position_of_nil ha, hs⟩
  unexpectedToken ha hs ht := ⟨hs.start_lt ha, ht⟩
  expected ha hs _ := ⟨hs.start_lt ha, hs⟩
  invalidCallTarget ha hs ht := ⟨hs.start_lt ha, ht⟩

/-- In front of a text all lexemes lie in it; what refuses the text there does, too. -/
theorem liesIn_ofText (text : String) :
    match State.ofText text with
    | .ok s => s.LiesIn text.toList
    | .error e => e.LiesIn text.toList := by
  obtain ⟨hls, he⟩ := Source.liesIn_lexemes (Source.isOf_ofText text)
  unfold State.ofText
  cases hx : (Source.ofText text).lexemes with
  | mk ls ending =>
    rw [hx] at hls he
    cases ls with
    | cons l ls => exact ⟨hls, he, nofun⟩
    | nil =>
      cases ending with
      | finished p => exact ⟨hls, he, fun _ => ⟨p, rfl⟩⟩
      | broken e after => exact he.1

/-- A text is refused with an error: in front of its first token, or by one of the readings that
follow each other. -/
inductive Refuses (limit : Nat) (text : String) (e : SyntaxError) : Prop where
  | made (h : State.ofText text = .error e)
  | read {s : State} (hr : Reached limit text s) (h : (whole limit s).1 = .error e)

/-- Whatever refuses a text lies in it. -/
theorem liesIn_of_refuses {text : String} {e : SyntaxError} (h : Refuses limit text e) :
    e.LiesIn text.toList := by
  have hstart := liesIn_ofText text
  cases h with
  | made h =>
    rw [h] at hstart
    exact hstart
  | @read s hr h =>
    have hs := hr.keeps (liesIn_invariant limit text.toList)
      (fun s hs => by rw [hs] at hstart; exact hstart) fun _ _ ht => ht.2
    exact (((liesIn_invariant limit text.toList).whole hs).of_error h).1

/-- What is not read as an expression is refused. -/
theorem refuses_of_parse {text : String} {e : SyntaxError} (h : parse limit text = .error e) :
    Refuses limit text e := by
  unfold parse at h
  split at h
  · next he =>
    cases h
    exact .made he
  · next s hs => exact .read (.start hs) h

/-- **Errors lie in the text.**  Whether a text is refused in front of its first token, when it is
read, or when it is read on after that, the error lies at one of its characters or at its end: at
the end if that is what was not expected, and at a character if it is about one, or about a token.
A character that starts no token stands where it is refused; a refused number starts there with the
text that is shown; and where a text in quotes is not closed, its opening quote stands. -/
theorem refuses_liesIn {text : String} {e : SyntaxError} (h : Refuses limit text e) :
    e.position ≤ text.length ∧ (∀ p, e = .unexpectedEnd p → p = text.length) ∧
      (e.IsAtCharacter → e.position < text.length) ∧
      (∀ c p, e = .unexpectedChar c p → text.toList[p]? = some c) ∧
      (∀ shown p, e = .invalidNumber shown p → shown.toList <+: text.toList.drop p) ∧
      ∀ p, e = .unclosedString p → text.toList[p]? = some '"' ∨ text.toList[p]? = some '\'' := by
  have he := liesIn_of_refuses h
  rw [← String.length_toList]
  refine ⟨he.le_length, ?_, he.lt_length, ?_, ?_, ?_⟩
  · rintro p rfl
    exact he
  · rintro c p rfl
    exact he
  · rintro shown p rfl
    exact he.2
  · rintro p rfl
    exact he

/-- A character that starts no token is refused behind a text in quotes, which takes more bytes than
characters. -/
theorem refuses_liesIn_char :
    Refuses 5 "'é' @" (.unexpectedChar '@' 4) ∧ "'é' @".toList[4]? = some '@' ∧
      SyntaxError.position (.unexpectedChar '@' 4) < "'é' @".length := by
  have hparse : parse 5 "'é' @" = .error (.unexpectedChar '@' 4) := by cbv
  have hr := refuses_of_parse hparse
  exact ⟨hr, (refuses_liesIn hr).2.2.2.1 _ _ rfl, (refuses_liesIn hr).2.2.1 trivial⟩

end Parser
end Expr
end RecordFilter
