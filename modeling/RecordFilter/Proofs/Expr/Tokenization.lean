/-
# The tokens of texts put together

`Tokenizes` says which tokens a text has, wherever it stands; the lexemes of a text that is read up
to its end are these (`exists_lexemes_iff`).  If one text is followed by another that goes on with
none of its tokens, the tokens of the two together are the tokens of the one and behind them those
of the other (`Tokenizes.append`).  From this the tokens of a text are found part by part: symbols,
names, and texts in brackets.
-/

import Mathlib
import RecordFilter.Proofs.Expr.Scanning

namespace RecordFilter

/-- The tokens of a text, wherever it stands. -/
inductive Tokenizes : List Char → List Token → Prop where
  /-- White space has none. -/
  | finished {cs} (h : cs.dropWhile Unicode.isWhiteSpace = []) : Tokenizes cs []
  /-- What stands behind the white space is a token of `n` characters. -/
  | token {cs first rest t n ts} (hc : cs.dropWhile Unicode.isWhiteSpace = first :: rest)
      (ht : ∀ start, Scan.front start first rest = .token t n)
      (h : Tokenizes ((first :: rest).drop n) ts) : Tokenizes cs (t :: ts)

variable {cs ds rest : List Char} {ts us : List Token} {first : Char} {t : Token} {n : Nat}

/-! ### Lexemes -/

namespace Source

/-- The lexemes from a text on, up to its end at the position `p`. -/
inductive Lexes : Source → List Lexeme → (p : Nat) → Prop where
  | finished {s p} (h : s.next = .finished p) : Lexes s [] p
  | lexeme {s l after ls p} (h : s.next = .lexeme l after)
      (hlt : after.rest.length < s.rest.length) (hr : Lexes after ls p) : Lexes s (l :: ls) p

/-- What is read where a source stands, by the scan of its front. -/
def reading (s : Source) : Scan → Reading
  | .token token length => .lexeme ⟨token, s.position, s.position + length⟩ (s.skip length)
  | .fault error length => .fault error (s.skip length)

variable {s : Source} {ls : List Lexeme} {limit p : Nat}

/-- Lexemes are taken if there may be more of them than characters. -/
theorem Lexes.take_eq (h : Lexes s ls p) {limit : Nat} (hl : s.rest.length < limit) :
    take limit s = (ls, .finished p) := by
  induction h generalizing limit with
  | finished h =>
    obtain ⟨limit, rfl⟩ := Nat.exists_eq_succ_of_ne_zero (Nat.ne_zero_of_lt hl)
    rw [take, h]
  | lexeme h hlt _ ih =>
    obtain ⟨limit, rfl⟩ := Nat.exists_eq_succ_of_ne_zero (Nat.ne_zero_of_lt hl)
    rw [take, h]
    dsimp only
    rw [ih (by omega)]

/-- Behind white space, what is left starts with another character. -/
theorem rest_skipSpace (s : Source) :
    s.skipSpace.rest = s.rest.dropWhile Unicode.isWhiteSpace := by
  have h : s.rest.takeWhile Unicode.isWhiteSpace ++ s.rest.dropWhile Unicode.isWhiteSpace =
    s.rest := List.takeWhile_append_dropWhile
  have hd : (s.rest.takeWhile Unicode.isWhiteSpace ++ s.rest.dropWhile Unicode.isWhiteSpace).drop
    (s.rest.takeWhile Unicode.isWhiteSpace).length = s.rest.dropWhile Unicode.isWhiteSpace :=
    List.drop_left
  rwa [h] at hd

/-- White space up to the end has no lexeme behind it. -/
theorem next_nil (h : s.rest.dropWhile Unicode.isWhiteSpace = []) :
    s.next = .finished s.skipSpace.position := by
  rw [← rest_skipSpace] at h
  unfold next
  dsimp only
  rw [h]

/-- Behind white space, the next lexeme has the token that is in front there. -/
theorem next_token (h : s.rest.dropWhile Unicode.isWhiteSpace = first :: rest)
    (ht : Scan.front s.skipSpace.position first rest = .token t n) :
    ∃ l after, s.next = .lexeme l after ∧ l.token = t ∧ after.rest = (first :: rest).drop n := by
  rw [← rest_skipSpace] at h
  unfold next
  dsimp only
  rw [h]
  dsimp only
  rw [ht]
  exact ⟨_, _, rfl, rfl, by rw [skip, h]⟩

/-- Behind white space, what is no token is a fault. -/
theorem next_fault (h : s.rest.dropWhile Unicode.isWhiteSpace = first :: rest) {e : SyntaxError}
    (hf : Scan.front s.skipSpace.position first rest = .fault e n) :
    ∃ after, s.next = .fault e after := by
  rw [← rest_skipSpace] at h
  unfold next
  dsimp only
  rw [h]
  dsimp only
  rw [hf]
  exact ⟨_, rfl⟩

/-- What does not start with white space is scanned at once. -/
theorem next_front (hw : Unicode.isWhiteSpace first = false) (hs : s.rest = first :: rest) :
    s.next = s.reading (Scan.front s.position first rest) := by
  have hskip : s.skipSpace = s := by
    rw [skipSpace, hs, List.takeWhile_cons_of_neg (Bool.eq_false_iff.1 hw)]
    rfl
  unfold next
  dsimp only
  rw [hskip, hs]
  rfl

/-- A token takes a character at least, so less is left behind it. -/
theorem length_drop_lt (h : cs.dropWhile Unicode.isWhiteSpace = first :: rest)
    (ht : Scan.front p first rest = .token t n) :
    ((first :: rest).drop n).length < cs.length := by
  have hle := (List.dropWhile_sublist (l := cs) Unicode.isWhiteSpace).length_le
  have hn := (Scan.front_append Scan.ends_nil ht p).2.1
  rw [h] at hle
  rw [List.length_drop, List.length_cons] at *
  omega

/-- The lexemes up to the end of a text are its tokens. -/
theorem tokenizes_of_take (h : take limit s = (ls, .finished p)) (hl : s.rest.length < limit) :
    Tokenizes s.rest (ls.map (·.token)) := by
  induction limit generalizing s ls with
  | zero => exact absurd hl (Nat.not_lt_zero _)
  | succ limit ih =>
    rw [take] at h
    cases hd : s.rest.dropWhile Unicode.isWhiteSpace with
    | nil =>
      rw [next_nil hd] at h
      cases h
      exact .finished hd
    | cons first rest =>
      cases hf : Scan.front s.skipSpace.position first rest with
      | fault e n =>
        obtain ⟨after, hn⟩ := next_fault hd hf
        rw [hn] at h
        cases h
      | token t n =>
        obtain ⟨l, after, hn, rfl, ha⟩ := next_token hd hf
        rw [hn] at h
        have hlt := length_drop_lt hd hf
        have ht (start : Nat) : Scan.front start first rest = .token l.token n := by
          have := (Scan.front_append Scan.ends_nil hf start).1
          rwa [List.append_nil] at this
        cases hr : take limit after with
        | mk more ending =>
          dsimp only at h
          rw [hr] at h
          cases h
          refine .token hd ht ?_
          rw [← ha] at hlt ⊢
          exact ih hr (by omega)

end Source

/-- The lexemes of a text that has tokens. -/
theorem Tokenizes.lexes (h : Tokenizes cs ts) (p : Nat) :
    ∃ ls q, Source.Lexes ⟨cs, p⟩ ls q ∧ ls.map (·.token) = ts := by
  induction h generalizing p with
  | finished hd => exact ⟨[], _, .finished (Source.next_nil hd), rfl⟩
  | @token cs first rest t n ts hd ht _ ih =>
    obtain ⟨l, ⟨behind, q⟩, hn, rfl, rfl⟩ := Source.next_token (s := ⟨cs, p⟩) hd (ht _)
    obtain ⟨ls, r, hl, rfl⟩ := ih q
    exact ⟨l :: ls, r, .lexeme hn (Source.length_drop_lt hd (ht 0)) hl, rfl⟩

/-- **A text that is read up to its end has the tokens that its lexemes have.** -/
theorem exists_lexemes_iff {text : String} :
    (∃ ls p, (Source.ofText text).lexemes = (ls, .finished p) ∧ ls.map (·.token) = ts) ↔
      Tokenizes text.toList ts := by
  refine ⟨fun ⟨ls, p, h, ht⟩ => ht ▸ Source.tokenizes_of_take h (Nat.lt_succ_self _), fun h => ?_⟩
  obtain ⟨ls, p, hl, ht⟩ := h.lexes 0
  exact ⟨ls, p, hl.take_eq (Nat.lt_succ_self _), ht⟩

/-! ### Parts of a text -/

namespace Tokenizes

/-- White space in front of a text changes none of its tokens. -/
theorem of_dropWhile_eq (h : Tokenizes ds ts)
    (hd : cs.dropWhile Unicode.isWhiteSpace = ds.dropWhile Unicode.isWhiteSpace) :
    Tokenizes cs ts := by
  cases h with
  | finished h => exact .finished (hd.trans h)
  | token hc ht h => exact .token (hd.trans hc) ht h

/-- A space in front changes no token. -/
theorem space (h : Tokenizes cs ts) : Tokenizes (' ' :: cs) ts :=
  h.of_dropWhile_eq rfl

/-- **Texts put together have the tokens of the one and then those of the other**, where no token
of the one goes on in the other. -/
theorem append (h : Tokenizes cs ts) (hd : Scan.Ends ds) (hu : Tokenizes ds us) :
    Tokenizes (cs ++ ds) (ts ++ us) := by
  induction h with
  | finished hc =>
    refine hu.of_dropWhile_eq ?_
    rw [List.dropWhile_append, hc]
    rfl
  | @token cs first rest t n ts hc ht _ ih =>
    obtain ⟨-, -, hn⟩ := Scan.front_append hd (ht 0) 0
    refine .token ?_ (fun start => (Scan.front_append hd (ht 0) start).1) ?_
    · rw [List.dropWhile_append, hc]
      rfl
    · rw [← List.cons_append, List.drop_append_of_le_length hn]
      exact ih

/-- Nothing goes on with an opening parenthesis. -/
theorem leftParen (h : Tokenizes cs ts) : Tokenizes ('(' :: cs) (.symbol .leftParen :: ts) :=
  .token rfl (fun _ => rfl) h

/-- Nothing goes on with an opening bracket. -/
theorem leftBracket (h : Tokenizes cs ts) : Tokenizes ('[' :: cs) (.symbol .leftBracket :: ts) :=
  .token rfl (fun _ => rfl) h

/-- A symbol is one token. -/
theorem symbol (s : Symbol) : Tokenizes s.text.toList [.symbol s] := by
  cases s <;> exact .token rfl (fun _ => rfl) (.finished rfl)

/-- A token between two texts, with blanks around it. -/
theorem operator {os : List Char} (h : Tokenizes cs ts) (ho : Tokenizes os [t])
    (hd : Tokenizes ds us) : Tokenizes (cs ++ ' ' :: (os ++ ' ' :: ds)) (ts ++ t :: us) :=
  h.append (Scan.ends_of_mem (by decide) _)
    (ho.append (Scan.ends_of_mem (by decide) _) hd.space).space

/-- A comma between two texts, with a blank behind it. -/
theorem comma (h : Tokenizes cs ts) (hd : Tokenizes ds us) :
    Tokenizes (cs ++ ',' :: ' ' :: ds) (ts ++ .symbol .comma :: us) :=
  h.append (Scan.ends_of_mem (by decide) _)
    ((symbol .comma).append (Scan.ends_of_mem (by decide) _) hd.space)

/-- Parentheses around tokens are two more. -/
theorem inParens (h : Tokenizes cs ts) :
    Tokenizes ('(' :: (cs ++ [')']))
      (.symbol .leftParen :: (ts ++ [.symbol .rightParen])) :=
  (h.append (Scan.ends_of_mem (by decide) _) (symbol .rightParen)).leftParen

/-- Brackets around tokens are two more. -/
theorem inBrackets (h : Tokenizes cs ts) :
    Tokenizes ('[' :: (cs ++ [']']))
      (.symbol .leftBracket :: (ts ++ [.symbol .rightBracket])) :=
  (h.append (Scan.ends_of_mem (by decide) _) (symbol .rightBracket)).leftBracket

end Tokenizes

/-- A text that is a name: it starts as names do, goes on as they do, and is not reserved. -/
structure IsName (f : String) : Prop where
  starts : ∃ first rest, f.toList = first :: rest ∧ Scan.startsName first = true
  continues : ∀ c ∈ f.toList, Scan.continuesName c = true
  free : ∀ w : Word, w.text ≠ f

/-- A text that is no word is a name. -/
theorem Token.ofName_eq_name {f : String} (h : ∀ w : Word, w.text ≠ f) :
    Token.ofName f = .name f := by
  have hf : Word.all.find? (fun w => w.text = f) = none :=
    List.find?_eq_none.2 fun w _ => by simpa using h w
  rw [Token.ofName, hf]

/-- A name is one token. -/
theorem Tokenizes.name {f : String} (h : IsName f) : Tokenizes f.toList [.name f] := by
  obtain ⟨first, rest, hr, hs⟩ := h.starts
  have ht (start : Nat) : Scan.front start first rest = .token (.name f) f.toList.length := by
    rw [Scan.front_name hs, Scan.name, ← hr, List.takeWhile_eq_self_iff.2 h.continues,
      String.ofList_toList, Token.ofName_eq_name h.free]
  refine .token ?_ ht (.finished ?_)
  · rw [hr, List.dropWhile_cons_of_neg (Bool.eq_false_iff.1 (Scan.isWhiteSpace_of_startsName hs))]
  · rw [hr, List.drop_length]
    rfl

end RecordFilter
