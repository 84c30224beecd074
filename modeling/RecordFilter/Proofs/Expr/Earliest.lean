/-
# Errors at the earliest token

An error about the grammar is found at the first token at which the text goes wrong.  The tokens in
front of it can be completed (`completable_of_whole`), so some text that starts with them is an
expression.  And the reader has decided on nothing but these tokens and the one at which it fails:
two readings of texts that start with them go side by side until that token has been passed over
(`upTo`), and so no text that goes on like this is an expression.

The word `in` where an operand is missing is an exception.  It is refused at its own place for what
follows it, since it can be called.
-/

import Mathlib
import RecordFilter.Proofs.Expr.Limits
import RecordFilter.Proofs.Expr.Tiling
import RecordFilter.Proofs.Expr.Viable

namespace RecordFilter

/-! ### Lexemes in front of a place -/

/-- What is no token is not refused for the grammar. -/
theorem Scan.not_isGrammatical_of_front {first : Char} {rest : List Char} {e : SyntaxError}
    {p n : Nat} (h : front p first rest = .fault e n) : ¬ e.IsGrammatical := by
  unfold front at h
  split_ifs at h
  · unfold string at h
    split at h <;> cases h <;> exact id
  · rw [eq_invalidNumber_of_number h]
    exact id
  · cases h
  · unfold symbol at h
    split at h <;> cases h
    exact id

namespace Source

/-- The lexemes that are taken off a text end lexically. -/
theorem isLexical_take (limit : Nat) (s : Source) : (take limit s).2.IsLexical := by
  induction limit generalizing s with
  | zero => trivial
  | succ limit ih =>
    unfold take next
    dsimp only
    cases s.skipSpace.rest with
    | nil => trivial
    | cons first rest =>
      dsimp only
      cases hf : Scan.front s.skipSpace.position first rest with
      | token t n => exact ih _
      | fault e n => exact Scan.not_isGrammatical_of_front hf

/-- What comes after the lexemes of a text is its end, or is refused for its characters. -/
theorem isLexical_lexemes (s : Source) : s.lexemes.2.IsLexical := isLexical_take _ s

/-- Each lexeme that is taken off a text starts before the next one, and before what comes after
them. -/
theorem pairwise_lt_take (limit : Nat) (s : Source) :
    ((take limit s).1.map (·.start) ++ [(take limit s).2.position]).Pairwise (· < ·) := by
  induction limit generalizing s with
  | zero => exact List.pairwise_singleton _ _
  | succ limit ih =>
    unfold take
    cases hn : s.next with
    | finished | fault => exact List.pairwise_singleton _ _
    | lexeme l after =>
      obtain ⟨first, rest, n, -, -, hl, ha, hpos, -⟩ := exists_of_next hn
      have hlt : l.start < after.position := by
        rw [hl, ha]
        exact Nat.lt_add_of_pos_right hpos
      have hlater := (List.pairwise_cons.1 (pairwise_take limit after)).1
      exact List.pairwise_cons.2 ⟨fun q hq => Nat.lt_of_lt_of_le hlt (hlater q hq), ih after⟩

/-- Each lexeme starts behind the one in front of it. -/
theorem pairwise_lt_lexemes (s : Source) :
    (s.lexemes.1.map (·.start) ++ [s.lexemes.2.position]).Pairwise (· < ·) :=
  pairwise_lt_take _ s

variable {s t : Source} {limit : Nat} {ls xs ys : List Lexeme}

/-- The first of the lexemes of a text are taken off it. -/
theorem takes_of_take (h : (take limit s).1 = xs ++ ys) : ∃ t, Takes s xs t := by
  induction xs generalizing limit s with
  | nil => exact ⟨s, .nil⟩
  | cons l xs ih =>
    cases limit with
    | zero => cases h
    | succ limit =>
      rw [take] at h
      cases hn : s.next with
      | finished | fault => rw [hn] at h; cases h
      | lexeme l' after =>
        rw [hn] at h
        obtain ⟨rfl, hxs⟩ := List.cons.inj h
        obtain ⟨t, ht⟩ := ih hxs
        exact ⟨t, .cons hn ht⟩

/-- Lexemes are taken off a text that has their tokens, and no more. -/
theorem Takes.tokenizes (h : Takes s ls t) :
    ∃ cs, s.rest = cs ++ t.rest ∧ Tokenizes cs (ls.map (·.token)) := by
  induction h with
  | nil => exact ⟨[], rfl, .finished rfl⟩
  | @cons s l after ls t h _ ih =>
    obtain ⟨first, rest, n, hd, hf, -, rfl, hpos, hle⟩ := exists_of_next h
    obtain ⟨cs, hcs, htokens⟩ := ih
    obtain ⟨n, rfl⟩ := Nat.exists_eq_succ_of_ne_zero (Nat.ne_zero_of_lt hpos)
    have hlen : n ≤ rest.length := Nat.le_of_succ_le_succ hle
    -- What the token is read from, and the rest of what the lexemes are taken off.
    obtain ⟨front, hrest, hfront, hn⟩ :
        ∃ front, rest = front ++ t.rest ∧ front.drop n = cs ∧ n ≤ front.length := by
      refine ⟨rest.take n ++ cs, ?_, List.drop_left' (List.length_take_of_le hlen), ?_⟩
      · rw [List.append_assoc, ← hcs, List.drop_succ_cons, List.take_append_drop]
      · rw [List.length_append, List.length_take_of_le hlen]
        exact Nat.le_add_right n _
    have hspace : (s.rest.takeWhile Unicode.isWhiteSpace ++ first :: front).dropWhile
        Unicode.isWhiteSpace = first :: front := by
      have hfirst := List.head?_dropWhile_not Unicode.isWhiteSpace s.rest
      rw [hd] at hfirst
      rw [List.dropWhile_append_of_pos fun _ => List.mem_takeWhile_imp,
        List.dropWhile_cons_of_neg (Bool.eq_false_iff.1 hfirst)]
    rw [hrest] at hf
    refine ⟨s.rest.takeWhile Unicode.isWhiteSpace ++ first :: front, ?_,
      .token hspace (Scan.front_of_append hf (Nat.succ_le_succ hn)) (hfront ▸ htokens)⟩
    rw [List.append_assoc, List.cons_append, ← hrest, ← hd, List.takeWhile_append_dropWhile]

end Source

namespace Expr

/-- The tokens of a text, up to what is no token. -/
def tokens (text : String) : List Token := (Source.ofText text).lexemes.1.map (·.token)

/-- The lexemes of a text that start in front of a position. -/
def lexemesBefore (text : String) (p : Nat) : List Lexeme :=
  (Source.ofText text).lexemes.1.filter fun l => l.start < p

/-- The tokens of a text that start in front of a position. -/
def tokensBefore (text : String) (p : Nat) : List Token := (lexemesBefore text p).map (·.token)

namespace Parser

variable {limit : Nat} {text : String} {err : SyntaxError} {s : State} {xs : List Lexeme}

/-! ### What is in front of an error can be completed -/

/-- At the front of a text, the lexemes end lexically. -/
theorem isLexical_of_ofText (h : State.ofText text = .ok s) : s.ending.IsLexical := by
  have hl := (Source.ofText text).isLexical_lexemes
  rwa [(State.ofText_eq_ok h).1] at hl

/-- An error about the grammar is not found before the first token. -/
theorem exists_of_isGrammatical (h : parse limit text = .error err) (he : err.IsGrammatical) :
    ∃ s, State.ofText text = .ok s ∧ (whole limit s).1 = .error err := by
  unfold parse at h
  cases hs : State.ofText text with
  | ok s =>
    rw [hs] at h
    exact ⟨s, rfl, h⟩
  | error e =>
    rw [hs] at h
    cases h
    have hl := (Source.ofText text).isLexical_lexemes
    unfold State.ofText at hs
    split at hs
    · next hx =>
      rw [hx] at hl
      cases hs
      exact absurd he hl
    · cases hs

/-- In front of a text each lexeme starts before the next one, and before what comes after them. -/
theorem pairwise_positions (hs : State.ofText text = .ok s) : s.positions.Pairwise (· < ·) := by
  have hp := (Source.ofText text).pairwise_lt_lexemes
  rwa [(State.ofText_eq_ok hs).1] at hp

/-- The lexemes that the reading has passed over are those that start in front of the error. -/
theorem lexemesBefore_eq {t : State} (hs : State.ofText text = .ok s)
    (hx : s.ahead = xs ++ t.ahead) (ht : StopsAt t err) (he : err.LiesIn text.toList) :
    lexemesBefore text err.position = xs := by
  rw [lexemesBefore, (State.ofText_eq_ok hs).1]
  dsimp only
  rcases ht with ⟨l, rest, ha, hp⟩ | ⟨ha, p, rfl⟩
  · have hpairs := (List.pairwise_append.1 (pairwise_positions hs)).1
    rw [hx, ha, List.map_append, List.pairwise_append] at hpairs
    obtain ⟨-, hlater, hlt⟩ := hpairs
    rw [hx, ha, hp, List.filter_append, List.filter_eq_self.2, List.filter_eq_nil_iff.2,
      List.append_nil]
    · refine List.forall_mem_cons.2 ⟨by simp, fun m hm => ?_⟩
      have := List.rel_of_pairwise_cons hlater (List.mem_map_of_mem hm)
      simpa using Nat.le_of_lt this
    · intro m hm
      have := hlt _ (List.mem_map_of_mem hm) _ (List.mem_map_of_mem (List.mem_cons_self ..))
      simpa using this
  · rw [ha, List.append_nil] at hx
    have hin : s.LiesIn text.toList := by
      have := liesIn_ofText text
      rwa [hs] at this
    rw [hx, List.filter_eq_self]
    exact fun m hm => decide_eq_true (Nat.lt_of_lt_of_eq (hin.ahead m (hx ▸ hm)) (Eq.symm he))

/-- Tokens behind the first tokens of a text are the tokens of some text. -/
theorem exists_text_append {ys : List Lexeme} {us : List Token}
    (hx : (Source.ofText text).lexemes.1 = xs ++ ys) (hu : ∀ u ∈ us, u.IsSimple) :
    ∃ text' ls p, (Source.ofText text').lexemes = (ls, .finished p) ∧
      ls.map (·.token) = xs.map (·.token) ++ us := by
  obtain ⟨t, ht⟩ := Source.takes_of_take hx
  obtain ⟨cs, -, hcs⟩ := ht.tokenizes
  refine ⟨.ofList (cs ++ ' ' :: Token.spaced us), exists_lexemes_iff.2 ?_⟩
  rw [String.toList_ofList]
  exact hcs.append (Scan.ends_of_mem (by decide) _) (Token.tokenizes_spaced hu).space

/-- **The tokens in front of an error are those of some expression, up to where it goes on.**  And
the error is about the first token behind them, or the text ends there. -/
theorem exists_completed (h : parse limit text = .error err) (he : err.IsGrammatical) :
    (∃ text' more e, parse more text' = .ok e ∧ tokensBefore text err.position <+: tokens text') ∧
      ((∃ p, err = .unexpectedEnd p) ∨ ∃ l rest, l.start = err.position ∧
        (Source.ofText text).lexemes.1 = lexemesBefore text err.position ++ l :: rest) := by
  obtain ⟨s, hs, hw⟩ := exists_of_isGrammatical h he
  have hl := (State.ofText_eq_ok hs).1
  obtain ⟨_, us, t, ⟨xs, rfl, hx⟩, ht, hu, e, k, r, hf⟩ :=
    completable_of_whole hw (isLexical_of_ofText hs) he
  have hbefore := lexemesBefore_eq hs hx ht (liesIn_of_refuses (refuses_of_parse h))
  rw [tokensBefore, hbefore, hl]
  constructor
  · have hx' : (Source.ofText text).lexemes.1 = xs ++ t.ahead := by rw [hl, hx]
    obtain ⟨text', ls, p, hls, hmap⟩ := exists_text_append hx' hu
    rw [← hmap] at hf
    refine ⟨text', r + 1, e, ?_, ?_⟩
    · rw [parse_of_lexemes hls]
      exact whole_of_fits hf (Nat.lt_succ_self r)
    · rw [tokens, hls, hmap]
      exact List.prefix_append _ _
  · rcases ht with ⟨l, rest, ha, hp⟩ | ⟨-, hend⟩
    · exact .inr ⟨l, rest, hp.symm, by rw [hx, ha]⟩
    · exact .inl hend

/-! ### The reader has decided on nothing behind an error -/

/-- Two readings of lexemes that have the same tokens up to the lexemes `l` and `l'`, until the
first one has passed over `l`. -/
def upTo (limit : Nat) (l l' : Lexeme) : Coupling limit limit where
  pairs s u := u.depth = s.depth ∧ ∃ xs xs' rest rest', s.ahead = xs ++ l :: rest ∧
    u.ahead = xs' ++ l' :: rest' ∧ xs'.map (·.token) = xs.map (·.token) ∧
    { s with ahead := rest }.StandsFrom (l.start + 1)
  agree _ _ := True
  parting K K' := K' = .anything limit ∧ (K = staysFrom limit (l.start + 1) ∨
    K = .failed limit fun e => ∃ p, e = .unexpectedToken (.word .inWord) p)

variable {l l' m m' : Lexeme} {u : State} {rest rest' : List Lexeme}

/-- The next lexemes are the last ones that have the same token, or there are more of them. -/
theorem upTo_cases (h : (upTo limit l l').pairs s u) (hs : s.ahead = m :: rest)
    (hu : u.ahead = m' :: rest') (hl : l'.token = l.token) : m'.token = m.token ∧
      (m = l ∧ { s with ahead := rest }.StandsFrom (l.start + 1) ∨
        rest ≠ [] ∧ rest' ≠ [] ∧
          (upTo limit l l').pairs { s with ahead := rest } { u with ahead := rest' }) := by
  obtain ⟨hd, xs, xs', zs, zs', hx, hx', hmap, hstands⟩ := h
  rw [hs] at hx
  rw [hu] at hx'
  cases xs with
  | nil =>
    obtain rfl := List.map_eq_nil_iff.1 hmap
    cases hx
    cases hx'
    exact ⟨hl, .inl ⟨rfl, hstands⟩⟩
  | cons x xs =>
    obtain ⟨x', ys', rfl, htoken, htail⟩ := List.map_eq_cons_iff.1 hmap
    cases hx
    cases hx'
    exact ⟨htoken, .inr ⟨by simp, by simp, hd, xs, ys', zs, zs', rfl, rfl, htail, hstands⟩⟩

/-- Up to the lexeme in question, two readings have the same token in front. -/
theorem upTo_token (h : (upTo limit l l').pairs s u) (hl : l'.token = l.token) :
    u.token? = s.token? := by
  obtain ⟨-, xs, xs', zs, zs', hx, hx', hmap, -⟩ := h
  cases xs with
  | nil =>
    obtain rfl := List.map_eq_nil_iff.1 hmap
    rw [token?_of_ahead hx, token?_of_ahead hx', hl]
  | cons x xs =>
    obtain ⟨x', xs', rfl, htoken, hmap⟩ := List.map_eq_cons_iff.1 hmap
    rw [token?_of_ahead hx, token?_of_ahead hx', htoken]

/-- A move over a token that is not the last one succeeds. -/
theorem advance_of_ne_nil (h : rest ≠ []) (s : State) (l : Lexeme) :
    advance s l rest = .ok () { s with ahead := rest } (Nat.le_refl _) := by
  obtain ⟨ahead, ending, depth⟩ := s
  cases rest with
  | nil => exact absurd rfl h
  | cons => rfl

/-- The first reading has passed over `l`, and they have parted. -/
theorem upTo_apart {j k : Nat} {x : Step α j} (y : Step α k)
    (hx : (staysFrom limit (l.start + 1)).By x) : (upTo limit l l').Beside x y :=
  have hy : (Kept.anything limit).By y := Step.meets_true y
  .apart ⟨rfl, .inl rfl⟩ hx hy

/-- The word `in` is passed over and may be refused for what follows. -/
theorem upTo_inAsName (hs : { s with ahead := rest }.StandsFrom (l.start + 1))
    (ht : l.token = .word .inWord) {k : Nat} (y : Step Expr k) :
    (upTo limit l l').Beside (inAsName s l rest) y := by
  have hx := standsFrom_advance (l := l) hs
  unfold inAsName
  cases hadv : advance s l rest with
  | error e t =>
    rw [hadv] at hx
    exact upTo_apart y hx
  | ok a t le =>
    rw [hadv] at hx
    dsimp only [Step.andThen]
    split
    · exact upTo_apart y hx
    · have hy : (Kept.anything limit).By y := Step.meets_true y
      exact .apart ⟨rfl, .inr rfl⟩ ⟨_, by rw [ht]⟩ hy

/-- Two readings of texts that agree up to a lexeme make their moves side by side, or have parted.
-/
theorem upTo_lawful (hl : l'.token = l.token) : (upTo limit l l').Lawful where
  token h := upTo_token h hl
  advance := by
    intro s u m m' rest rest' h hs hu
    obtain ⟨-, ⟨rfl, hstands⟩ | ⟨hne, hne', hp⟩⟩ := upTo_cases h hs hu hl
    · exact upTo_apart _ (standsFrom_advance hstands)
    · rw [advance_of_ne_nil hne, advance_of_ne_nil hne']
      exact .ok hp
  inAsName := by
    intro s u m m' rest rest' h hs hu ht
    obtain ⟨-, ⟨rfl, hstands⟩ | ⟨hne, hne', hp⟩⟩ := upTo_cases h hs hu hl
    · exact upTo_inAsName hstands ht _
    · unfold inAsName
      rw [advance_of_ne_nil hne, advance_of_ne_nil hne']
      dsimp only [Step.andThen]
      rw [upTo_token hp hl]
      split
      · exact .ok hp
      · exact .error trivial
  descend := by
    intro s u h
    have hd := h.1
    unfold descend
    rw [hd]
    split
    · exact .ok ⟨rfl, h.2⟩
    · exact .error trivial
  restore h h' := ⟨h.1, h'.2⟩
  fails _ _ := trivial

/-- Lexemes that have the same tokens up to the one at which a reading has failed are not read. -/
theorem whole_ne_ok (h : (upTo limit l l').pairs s u) (hl : l'.token = l.token)
    (hw : (whole limit s).1 = .error err) (hp : err.position = l.start)
    (hin : ∀ p, err ≠ .unexpectedToken (.word .inWord) p) (e : Expr) :
    (whole limit u).1 ≠ .ok e := by
  rcases (upTo_lawful hl).whole h with ⟨e', hx, -⟩ | ⟨_, e', -, hy, -⟩ | ⟨K, K', ⟨-, hK⟩, hx, -⟩
  · cases hx.symm.trans hw
  · rw [hy]
    exact nofun
  · rcases hK with rfl | rfl
    · have hlt : l.start + 1 ≤ err.position := hx.of_error hw
      omega
    · obtain ⟨p, rfl⟩ := hx.of_error hw
      exact absurd rfl (hin p)

/-- What stands behind a lexeme of a text starts behind its start. -/
theorem standsFrom_behind (hs : State.ofText text = .ok s) (hx : s.ahead = xs ++ l :: rest) :
    { s with ahead := rest }.StandsFrom (l.start + 1) := by
  have hp := pairwise_positions hs
  rw [State.positions, hx, List.map_append, List.append_assoc] at hp
  obtain ⟨hlt, hrest⟩ := List.pairwise_cons.1 (List.pairwise_append.1 hp).2.1
  exact List.pairwise_cons.2 ⟨hlt, hrest.imp Nat.le_of_lt⟩

/-- A text that parses has a first state, from which a whole reading succeeds. -/
theorem exists_of_parse_ok {e : Expr} (h : parse limit text = .ok e) :
    ∃ s, State.ofText text = .ok s ∧ (whole limit s).1 = .ok e := by
  unfold parse at h
  split at h
  · cases h
  · next s hs => exact ⟨s, hs, h⟩

/-- An error that is found under some limit is found under each greater one. -/
theorem parse_error_mono {more : Nat} (h : parse limit text = .error err)
    (he : err.IsGrammatical) (hle : limit ≤ more) : parse more text = .error err := by
  rcases parse_eq_or_tooDeep text hle with heq | ⟨p, hd, -⟩
  · exact heq.trans h
  · cases h.symm.trans hd
    exact he.elim

end Parser

/-- **Errors are found at the earliest token.**  Whatever the limit, if a text is refused because of
its tokens, those in front of the error are the first tokens of some text that is read as an
expression.  And unless the text has ended there, the error is about the next token, and no text
that goes on with it is read, under any limit; only the word `in` may be refused for what follows
it. -/
theorem parse_error_earliest {limit : Nat} {text : String} {err : SyntaxError}
    (h : parse limit text = .error err) (he : err.IsGrammatical) :
    (∃ text' more e, parse more text' = .ok e ∧
      tokensBefore text err.position <+: tokens text') ∧
    ((∀ p, err ≠ .unexpectedEnd p) → (∀ p, err ≠ .unexpectedToken (.word .inWord) p) →
      ∃ l rest, (Source.ofText text).lexemes.1 = lexemesBefore text err.position ++ l :: rest ∧
        l.start = err.position ∧
        ∀ text', tokensBefore text err.position ++ [l.token] <+: tokens text' →
          ∀ more e, parse more text' ≠ .ok e) := by
  obtain ⟨hcompleted, hplace⟩ := Parser.exists_completed h he
  refine ⟨hcompleted, fun hend hin => ?_⟩
  obtain ⟨p, rfl⟩ | ⟨l, rest, hstart, hl⟩ := hplace
  · exact absurd rfl (hend p)
  refine ⟨l, rest, hl, hstart, ?_⟩
  rintro text' ⟨us, htokens⟩ more e hok
  obtain ⟨s, hs, hw⟩ := Parser.exists_of_isGrammatical
    (Parser.parse_error_mono h he (Nat.le_max_left limit more)) he
  obtain ⟨u, hu, hw'⟩ := Parser.exists_of_parse_ok (parse_mono hok (Nat.le_max_right limit more))
  obtain ⟨hls, hd, -⟩ := Parser.State.ofText_eq_ok hs
  obtain ⟨hls', hd', -⟩ := Parser.State.ofText_eq_ok hu
  rw [hls] at hl
  rw [tokens, hls', List.append_assoc] at htokens
  obtain ⟨xs', l', rest', hx', hmap, htoken, -⟩ := Parser.exists_of_map_eq htokens.symm
  have hpairs : (Parser.upTo (max limit more) l l').pairs s u :=
    ⟨hd'.trans hd.symm, _, xs', rest, rest', hl, hx', hmap, Parser.standsFrom_behind hs hl⟩
  exact Parser.whole_ne_ok hpairs htoken hw hstart.symm hin e hw'

/-- Behind a name in a bracket that is left open, a parenthesis cannot close. -/
theorem parse_error_earliest_bracket :
    parse 5 "x[y)" = .error (.expected (.symbol .rightBracket) (.symbol .rightParen) 3) ∧
      (∃ text more e, parse more text = .ok e ∧
        [.name "x", .symbol .leftBracket, .name "y"] <+: tokens text) ∧
      ∀ text, [.name "x", .symbol .leftBracket, .name "y", .symbol .rightParen] <+: tokens text →
        ∀ more e, parse more text ≠ .ok e := by
  have hparse : parse 5 "x[y)" =
    .error (.expected (.symbol .rightBracket) (.symbol .rightParen) 3) := by cbv
  obtain ⟨hcompleted, hrefused⟩ := parse_error_earliest hparse trivial
  obtain ⟨l, rest, hl, -, hno⟩ := hrefused (fun _ h => by cases h) (fun _ h => by cases h)
  have hlexemes : [⟨.name "x", 0, 1⟩, ⟨.symbol .leftBracket, 1, 2⟩, ⟨.name "y", 2, 3⟩,
      ⟨.symbol .rightParen, 3, 4⟩] = [⟨.name "x", 0, 1⟩, ⟨.symbol .leftBracket, 1, 2⟩,
        ⟨.name "y", 2, 3⟩] ++ l :: rest := hl
  rw [List.cons_append, List.cons_append, List.cons_append, List.nil_append] at hlexemes
  cases hlexemes
  exact ⟨hparse, hcompleted, hno⟩

end Expr
end RecordFilter
