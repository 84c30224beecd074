/-
# Lexemes tile the text

Lexemes are taken off a text one after the other (`Source.Takes`), at most one for each character,
until the text ends or something is no token (`NoToken`).  Their spans are not empty, come in order,
and only white space lies between them (`Tiles`); a symbol or a name among them takes as many
characters as it can (`Lexeme.IsLongest`).  One step tells all of this (`exists_of_next`), and a run
of steps puts it together (`Takes.tiles`).

No token goes on with white space, and each is read again where the text is cut behind it.  So more
white space between two tokens leaves the tokens as they are and moves those behind it
(`Lexes.insert`), and a reading of the moved tokens goes side by side with the reading of the others
(`moving_lawful`).
-/

import Mathlib
import RecordFilter.Proofs.Expr.Abreast
import RecordFilter.Proofs.Expr.NumberLiteral

namespace RecordFilter

/-- Spans of lexemes between the positions `p` and `q` of a text: they are not empty, one comes
behind the other, and everything between them is white space. -/
structure Tiles (cs : List Char) (p : Nat) (ls : List Lexeme) (q : Nat) : Prop where
  spans : ∀ l ∈ ls, p ≤ l.start ∧ l.start < l.stop ∧ l.stop ≤ q
  ordered : ls.Pairwise fun l m => l.stop ≤ m.start
  covered : ∀ i, p ≤ i → i < q →
    (∃ l ∈ ls, l.start ≤ i ∧ i < l.stop) ∨ ∃ c, cs[i]? = some c ∧ Unicode.isWhiteSpace c = true

/-- A symbol is the longest one where it starts, and a name or reserved word takes all characters
that a name can go on with. -/
structure Lexeme.IsLongest (cs : List Char) (l : Lexeme) : Prop where
  symbol : ∀ s, l.token = .symbol s → l.stop = l.start + s.text.length ∧
    s.text.toList <+: cs.drop l.start ∧
    ∀ s' : Symbol, s'.text.toList <+: cs.drop l.start → s'.text.length ≤ s.text.length
  name : ∀ n, Expr.Parser.propertyName? l.token = some n → l.stop = l.start + n.length ∧
    n.toList = (cs.drop l.start).takeWhile Scan.continuesName

/-- No token starts at the position `p` of a text, with the reason why. -/
inductive NoToken (cs : List Char) (p : Nat) : SyntaxError → Prop where
  /-- A character that is no white space, and no token starts with it. -/
  | character {c rest} (hcs : cs.drop p = c :: rest) (hspace : Unicode.isWhiteSpace c = false)
      (hsymbol : ∀ s : Symbol, ¬ s.text.toList <+: c :: rest) (hname : Scan.startsName c = false)
      (hdigit : Numeral.isDigit c = false) (hquote : c ≠ '"' ∧ c ≠ '\'') :
      NoToken cs p (.unexpectedChar c p)
  /-- The longest literal of a number, and what a name could go on with behind it. -/
  | number {literal more shown} (hcs : cs.drop p = literal ++ more)
      (hl : NumberLiteral.IsLongest literal (literal ++ more))
      (hname : ∃ c ∈ more.head?, Scan.startsName c = true) (hne : shown ≠ [])
      (hshown : shown <+: more) : NoToken cs p (.invalidNumber (.ofList (literal ++ shown)) p)
  /-- A quote with a backslash behind it that starts no piece of a text. -/
  | escape {quote rest inner letter more shown} (hcs : cs.drop p = quote :: rest)
      (hq : quote = '"' ∨ quote = '\'') (hb : Quotation.BreaksAt quote rest inner letter more)
      (hshown : shown <+: '\\' :: letter :: more) : NoToken cs p (.invalidEscape (.ofList shown)
        (p + 1 + inner.length + Quotation.faultOffset letter))
  /-- A quote with no such backslash behind it, and no literal starts with it. -/
  | unclosed {quote rest} (hcs : cs.drop p = quote :: rest) (hq : quote = '"' ∨ quote = '\'')
      (hl : ¬ ∃ literal text, literal <+: quote :: rest ∧ Quotation.IsLiteral quote literal text)
      (hb : ¬ ∃ inner letter more, Quotation.BreaksAt quote rest inner letter more) :
      NoToken cs p (.unclosedString p)

/-- The position `p` when `k` characters have been put in at the position `place`. -/
def movedPosition (place k p : Nat) : Nat := if place ≤ p then p + k else p

/-- The lexeme when `k` characters have been put in at the position `place`. -/
def Lexeme.moved (place k : Nat) (l : Lexeme) : Lexeme :=
  if place ≤ l.start then ⟨l.token, l.start + k, l.stop + k⟩ else l

/-- A lexeme that is moved keeps its token. -/
theorem Lexeme.token_moved (place k : Nat) (l : Lexeme) : (l.moved place k).token = l.token := by
  unfold Lexeme.moved
  split <;> rfl

/-- A lexeme that is moved starts at the place that its start is moved to. -/
theorem Lexeme.start_moved (place k : Nat) (l : Lexeme) :
    (l.moved place k).start = movedPosition place k l.start := by
  unfold Lexeme.moved movedPosition
  split <;> rfl

/-! ### What stands at the front -/

namespace Scan

variable {rest : List Char} {first : Char} {t : Token} {p q n : Nat}

/-- A token is the same one wherever it stands. -/
theorem front_at (h : front p first rest = .token t n) (q : Nat) :
    front q first rest = .token t n := by
  have hq := (front_append ends_nil h q).1
  rwa [List.append_nil] at hq

/-- Every symbol is among those that are tried. -/
theorem mem_longestFirst (s : Symbol) : s ∈ Symbol.longestFirst := by
  cases s <;> decide

/-- Longer symbols are tried before shorter ones. -/
theorem pairwise_longestFirst :
    Symbol.longestFirst.Pairwise fun s t => t.text.length ≤ s.text.length := by
  decide

/-- A symbol in front of a text is the longest one. -/
theorem longest_of_ofFront? {cs : List Char} {s s' : Symbol} (h : Symbol.ofFront? cs = some s)
    (hp : s'.text.toList <+: cs) : s'.text.length ≤ s.text.length := by
  obtain ⟨-, as, bs, hl, has⟩ := List.find?_eq_some_iff_append.1 h
  have hsorted := pairwise_longestFirst
  have hmem := mem_longestFirst s'
  rw [hl] at hsorted hmem
  rcases List.mem_append.1 hmem with hm | hm
  · have hno := has s' hm
    rw [Bool.not_eq_true', ← Bool.not_eq_true, List.isPrefixOf_iff_prefix] at hno
    exact absurd hp hno
  · rcases List.mem_cons.1 hm with rfl | hm
    · exact Nat.le_refl _
    · exact List.rel_of_pairwise_cons (List.pairwise_append.1 hsorted).2.1 hm

/-- A text that is read as a name or a word may name a property. -/
theorem propertyName?_ofName (text : String) :
    Expr.Parser.propertyName? (.ofName text) = some text := by
  unfold Token.ofName
  split
  · next w hw =>
    have := List.find?_some hw
    exact congrArg some (of_decide_eq_true this)
  · rfl

/-- What the token at the front of a text has been read by. -/
theorem front_cases (h : front p first rest = .token t n) :
    (∃ s, t = .symbol s ∧ Symbol.ofFront? (first :: rest) = some s ∧ n = s.text.length) ∨
      (t = .ofName (.ofList ((first :: rest).takeWhile continuesName)) ∧
        n = ((first :: rest).takeWhile continuesName).length) ∨
      (∃ text, t = .string text) ∨ ∃ x, t = .number x := by
  unfold front at h
  split_ifs at h
  · unfold string at h
    split at h <;> cases h
    exact .inr (.inr (.inl ⟨_, rfl⟩))
  · obtain ⟨k, x, -, -, -, rfl, -⟩ := number_eq_token_iff.1 h
    exact .inr (.inr (.inr ⟨_, rfl⟩))
  · cases h
    exact .inr (.inl ⟨rfl, rfl⟩)
  · unfold symbol at h
    split at h
    · next s hs =>
      cases h
      exact .inl ⟨s, rfl, hs, rfl⟩
    · cases h

/-- **A token takes as many characters as it can.** -/
theorem isLongest_of_front {cs : List Char} (h : front p first rest = .token t n)
    (hd : cs.drop p = first :: rest) : Lexeme.IsLongest cs ⟨t, p, p + n⟩ := by
  refine ⟨fun s hs => ?_, fun name hname => ?_⟩
  · dsimp only at hs ⊢
    subst hs
    rw [hd]
    rcases front_cases h with ⟨s', hs, hf, rfl⟩ | ⟨hs, -⟩ | ⟨_, hs⟩ | ⟨_, hs⟩
    · cases hs
      have hp := List.find?_some hf
      exact ⟨rfl, List.isPrefixOf_iff_prefix.1 hp, fun s' => longest_of_ofFront? hf⟩
    · have hno := propertyName?_ofName (.ofList ((first :: rest).takeWhile continuesName))
      rw [← hs] at hno
      cases hno
    · cases hs
    · cases hs
  · dsimp only at hname ⊢
    rw [hd]
    rcases front_cases h with ⟨s, rfl, -⟩ | ⟨rfl, rfl⟩ | ⟨_, rfl⟩ | ⟨_, rfl⟩
    · cases hname
    · rw [propertyName?_ofName] at hname
      cases hname
      rw [String.length_ofList, String.toList_ofList]
      exact ⟨rfl, rfl⟩
    · cases hname
    · cases hname

/-- Where no symbol is found, none stands. -/
theorem not_prefix_of_ofFront? {cs : List Char} (h : Symbol.ofFront? cs = none) (s : Symbol) :
    ¬ s.text.toList <+: cs := by
  intro hp
  have hno := List.find?_eq_none.1 h s (mem_longestFirst s)
  exact hno (List.isPrefixOf_iff_prefix.2 hp)

/-- **Where something is no token, none starts.** -/
theorem noToken_of_front {cs : List Char} {e : SyntaxError} (hd : cs.drop p = first :: rest)
    (hspace : Unicode.isWhiteSpace first = false) (h : front p first rest = .fault e n) :
    NoToken cs p e := by
  unfold front at h
  split_ifs at h with hq hn hs
  · obtain ⟨hl, -, ⟨inner, letter, more, shown, hb, hshown, rfl⟩ | ⟨hb, rfl⟩⟩ :=
      Quotation.string_refused (Source.ne_backslash_of_quote hq) h
    · exact .escape hd hq hb hshown
    · exact .unclosed hd hq hl hb
  · obtain ⟨literal, more, shown, hcs, hl, hname, hne, hshown, rfl⟩ :=
      NumberLiteral.number_refused hn h
    exact .number (hd.trans hcs) (hcs ▸ hl) hname hne hshown
  · cases h
  · unfold symbol at h
    split at h
    · cases h
    · next hnone =>
      cases h
      obtain ⟨hdigit, -⟩ := Bool.or_eq_false_iff.1 (Bool.not_eq_true _ ▸ hn)
      exact .character hd hspace (not_prefix_of_ofFront? hnone) (Bool.not_eq_true _ ▸ hs) hdigit
        (not_or.1 hq)

end Scan

namespace Source

/-- Lexemes that are taken off one after the other. -/
inductive Takes : Source → List Lexeme → Source → Prop where
  | nil {s} : Takes s [] s
  | cons {s l after ls t} (h : s.next = .lexeme l after) (hr : Takes after ls t) :
      Takes s (l :: ls) t

/-- Nothing more can be taken off: the text ends, or something is no token. -/
def Halts (s : Source) : Prop :=
  (∃ p, s.next = .finished p) ∨ ∃ e after, s.next = .fault e after

variable {s t after : Source} {l : Lexeme} {ls : List Lexeme} {cs : List Char} {p q : Nat}

/-! ### One step -/

/-- What has been read as a lexeme: white space, and a token at the front of the rest. -/
theorem exists_of_next (h : s.next = .lexeme l after) :
    ∃ first rest n, s.rest.dropWhile Unicode.isWhiteSpace = first :: rest ∧
      Scan.front s.skipSpace.position first rest = .token l.token n ∧
      l = ⟨l.token, s.skipSpace.position, s.skipSpace.position + n⟩ ∧
      after = ⟨(first :: rest).drop n, s.skipSpace.position + n⟩ ∧ 0 < n ∧
      n ≤ rest.length + 1 := by
  rw [← rest_skipSpace]
  unfold next at h
  dsimp only at h
  split at h
  · cases h
  · next first rest hr =>
    split at h
    · next token n hf =>
      cases h
      obtain ⟨-, hpos, hle⟩ := Scan.front_append Scan.ends_nil hf 0
      exact ⟨first, rest, n, hr, hf, rfl, by rw [skip, hr], hpos, hle⟩
    · cases h

/-- Where no lexeme is read something stands behind the white space, and no token starts there. -/
theorem noToken_of_next {e : SyntaxError} (hs : s.IsOf cs) (h : s.next = .fault e after) :
    NoToken cs s.skipSpace.position e := by
  unfold next at h
  dsimp only at h
  split at h
  · cases h
  next first rest hr =>
  have hspace : Unicode.isWhiteSpace first = false := by
    have hhead := List.head?_dropWhile_not Unicode.isWhiteSpace s.rest
    rw [← rest_skipSpace, hr] at hhead
    simpa using hhead
  split at h
  · cases h
  · next e n hf =>
    cases h
    exact Scan.noToken_of_front (hs.skipSpace.rest.symm.trans hr) hspace hf

/-- The next lexeme, from what stands at the front. -/
theorem next_eq_lexeme {first : Char} {rest : List Char} {token : Token} {n : Nat}
    (hd : s.rest.dropWhile Unicode.isWhiteSpace = first :: rest)
    (hf : Scan.front p first rest = .token token n) :
    s.next = .lexeme ⟨token, s.skipSpace.position, s.skipSpace.position + n⟩
      ⟨(first :: rest).drop n, s.skipSpace.position + n⟩ := by
  rw [← rest_skipSpace] at hd
  unfold next
  dsimp only
  rw [hd]
  dsimp only
  rw [Scan.front_at hf]
  dsimp only
  rw [skip, hd]

/-- A lexeme that is taken leaves less of the text. -/
theorem length_lt_of_next (h : s.next = .lexeme l after) :
    after.rest.length < s.rest.length := by
  obtain ⟨first, rest, n, hd, hf, -, rfl, -⟩ := exists_of_next h
  exact length_drop_lt hd hf

/-- What is passed over in front of a token is white space. -/
theorem space_of_lt_skipSpace (hs : s.IsOf cs) {i : Nat} (hp : s.position ≤ i)
    (hi : i < s.skipSpace.position) : ∃ c, cs[i]? = some c ∧ Unicode.isWhiteSpace c = true := by
  obtain ⟨k, rfl⟩ := Nat.exists_eq_add_of_le hp
  have hk : k < (s.rest.takeWhile Unicode.isWhiteSpace).length := Nat.lt_of_add_lt_add_left hi
  refine ⟨(s.rest.takeWhile Unicode.isWhiteSpace)[k], ?_,
    List.mem_takeWhile_imp (List.getElem_mem hk)⟩
  obtain ⟨more, hmore⟩ := List.takeWhile_prefix (l := s.rest) Unicode.isWhiteSpace
  rw [← List.getElem?_drop, ← hs.rest, ← List.getElem?_eq_getElem hk,
    ← List.getElem?_append_left hk, hmore]

/-- A lexeme stands behind white space, takes as many characters as it can, and is taken off. -/
theorem tile_of_next (hs : s.IsOf cs) (h : s.next = .lexeme l after) :
    after.IsOf cs ∧ l.start = s.skipSpace.position ∧ l.start < l.stop ∧
      l.stop = after.position ∧ l.IsLongest cs := by
  obtain ⟨first, rest, n, hd, hf, hl, ha, hpos, hle⟩ := exists_of_next h
  rw [← rest_skipSpace] at hd
  have hskip : after = s.skipSpace.skip n := by
    rw [ha, ← hd]
    rfl
  have hdrop : cs.drop s.skipSpace.position = first :: rest := hs.skipSpace.rest.symm.trans hd
  refine ⟨hskip ▸ hs.skipSpace.skip (by rw [hd]; exact hle), ?_, ?_, ?_, ?_⟩
  · rw [hl]
  · rw [hl]
    exact Nat.lt_add_of_pos_right hpos
  · rw [hl, ha]
  · rw [hl]
    exact Scan.isLongest_of_front hf hdrop

/-! ### Runs of steps -/

/-- Lexemes can be taken until the next one halts. -/
theorem exists_takes (s : Source) : ∃ ls t, Takes s ls t ∧ t.Halts := by
  induction hn : s.rest.length using Nat.strong_induction_on generalizing s with
  | _ n ih =>
    cases h : s.next with
    | finished p => exact ⟨[], s, .nil, .inl ⟨p, h⟩⟩
    | fault e after => exact ⟨[], s, .nil, .inr ⟨e, after, h⟩⟩
    | lexeme l after =>
      obtain ⟨ls, t, ht, hh⟩ := ih _ (hn ▸ length_lt_of_next h) after rfl
      exact ⟨l :: ls, t, .cons h ht, hh⟩

/-- No more lexemes are taken than there are characters. -/
theorem Takes.length_le (h : Takes s ls t) : ls.length + t.rest.length ≤ s.rest.length := by
  induction h with
  | nil => exact Nat.le_of_eq (Nat.zero_add _)
  | cons h _ ih =>
    have := length_lt_of_next h
    rw [List.length_cons]
    omega

/-- Lexemes are taken off in one way only. -/
theorem Takes.unique {ls' : List Lexeme} {t' : Source} (h : Takes s ls t) (ht : t.Halts)
    (h' : Takes s ls' t') (ht' : t'.Halts) : ls = ls' ∧ t = t' := by
  have hno {s after : Source} {l : Lexeme} (hs : s.Halts) (hl : s.next = .lexeme l after) :
      False := by
    rcases hs with ⟨p, hp⟩ | ⟨e, after', he⟩
    · cases hp.symm.trans hl
    · cases he.symm.trans hl
  induction h generalizing ls' with
  | nil =>
    cases h' with
    | nil => exact ⟨rfl, rfl⟩
    | cons hl _ => exact (hno ht hl).elim
  | cons hl _ ih =>
    cases h' with
    | nil => exact (hno ht' hl).elim
    | cons hl' hr' =>
      cases hl.symm.trans hl'
      obtain ⟨rfl, rfl⟩ := ih ht hr'
      exact ⟨rfl, rfl⟩

/-- What is left lies behind what is taken. -/
theorem Takes.position_le (h : Takes s ls t) : s.position ≤ t.skipSpace.position := by
  induction h with
  | nil => exact Nat.le_add_right _ _
  | @cons s l after ls t h _ ih =>
    obtain ⟨first, rest, n, -, -, -, rfl, -⟩ := exists_of_next h
    exact Nat.le_trans (Nat.le_trans (Nat.le_add_right _ _) (Nat.le_add_right _ _)) ih

/-- What is left behind lexemes of a text is left of the text. -/
theorem Takes.isOf (h : Takes s ls t) (hs : s.IsOf cs) : t.IsOf cs := by
  induction h with
  | nil => exact hs
  | cons h _ ih => exact ih (tile_of_next hs h).1

/-- **What is taken off a text tiles it.** -/
theorem Takes.tiles (h : Takes s ls t) (hs : s.IsOf cs) :
    Tiles cs s.position ls t.skipSpace.position ∧ ∀ l ∈ ls, l.IsLongest cs := by
  induction h with
  | nil =>
    refine ⟨⟨fun _ h => absurd h List.not_mem_nil, .nil, fun i hp hi => .inr ?_⟩,
      fun _ h => absurd h List.not_mem_nil⟩
    exact space_of_lt_skipSpace hs hp hi
  | @cons s l after ls t h hr ih =>
    obtain ⟨ha, hstart, hlt, hstop, hlong⟩ := tile_of_next hs h
    obtain ⟨hrest, hlongs⟩ := ih ha
    have hp : s.position ≤ l.start := hstart ▸ Nat.le_add_right _ _
    have hafter := hr.position_le
    refine ⟨⟨?_, ?_, fun i hi₁ hi₂ => ?_⟩, List.forall_mem_cons.2 ⟨hlong, hlongs⟩⟩
    · refine List.forall_mem_cons.2 ⟨⟨hp, hlt, by omega⟩, fun m hm => ?_⟩
      obtain ⟨h₁, h₂, h₃⟩ := hrest.spans m hm
      exact ⟨by omega, h₂, h₃⟩
    · refine List.pairwise_cons.2 ⟨fun m hm => ?_, hrest.ordered⟩
      rw [hstop]
      exact (hrest.spans m hm).1
    · by_cases h₁ : i < l.start
      · exact .inr (space_of_lt_skipSpace hs hi₁ (hstart ▸ h₁))
      · by_cases h₂ : i < l.stop
        · exact .inl ⟨l, List.mem_cons_self, Nat.le_of_not_lt h₁, h₂⟩
        · refine (hrest.covered i (by omega) hi₂).imp_left ?_
          rintro ⟨m, hm, hi⟩
          exact ⟨m, List.mem_cons_of_mem l hm, hi⟩

/-! ### More white space -/

/-- The lexemes of a text that ends are taken off it. -/
theorem Takes.lexes (h : Takes s ls t) (ht : t.next = .finished p) : Lexes s ls p := by
  induction h with
  | nil => exact .finished ht
  | cons h _ ih => exact .lexeme h (length_lt_of_next h) (ih ht)

/-- White space is skipped forward. -/
theorem position_le_skipSpace (s : Source) : s.position ≤ s.skipSpace.position :=
  Nat.le_add_right _ _

/-- A text that ends has nothing but white space left. -/
theorem of_next_finished (h : s.next = .finished p) :
    s.rest.dropWhile Unicode.isWhiteSpace = [] ∧ p = s.skipSpace.position := by
  rw [← rest_skipSpace]
  unfold next at h
  dsimp only at h
  split at h
  · next hr =>
    cases h
    exact ⟨hr, rfl⟩
  · split at h <;> cases h

/-- What comes next depends on what stands behind white space. -/
theorem next_append_space {as bs : List Char}
    (ha : ∀ c ∈ as, Unicode.isWhiteSpace c = true) (p : Nat) :
    (⟨as ++ bs, p⟩ : Source).next = (⟨bs, p + as.length⟩ : Source).next := by
  have hrest : (⟨as ++ bs, p⟩ : Source).skipSpace.rest =
      (⟨bs, p + as.length⟩ : Source).skipSpace.rest := by
    rw [rest_skipSpace, rest_skipSpace]
    exact List.dropWhile_append_of_pos ha
  have hposition : (⟨as ++ bs, p⟩ : Source).skipSpace.position =
      (⟨bs, p + as.length⟩ : Source).skipSpace.position := by
    change p + ((as ++ bs).takeWhile Unicode.isWhiteSpace).length =
      p + as.length + (bs.takeWhile Unicode.isWhiteSpace).length
    rw [List.takeWhile_append_of_pos ha, List.length_append, Nat.add_assoc]
  have hskip : (⟨as ++ bs, p⟩ : Source).skipSpace = (⟨bs, p + as.length⟩ : Source).skipSpace :=
    congrArg₂ Source.mk hrest hposition
  unfold next
  rw [hskip]

/-- White space in front of a text that does not end there: nothing changes in front. -/
theorem append_of_dropWhile {as rest : List Char} {first : Char}
    (h : as.dropWhile Unicode.isWhiteSpace = first :: rest) (ds : List Char) :
    (as ++ ds).dropWhile Unicode.isWhiteSpace = first :: (rest ++ ds) ∧
      (as ++ ds).takeWhile Unicode.isWhiteSpace = as.takeWhile Unicode.isWhiteSpace ∧
      (as.takeWhile Unicode.isWhiteSpace).length + (rest.length + 1) = as.length := by
  have hsplit := congrArg List.length
    (List.takeWhile_append_dropWhile (l := as) (p := Unicode.isWhiteSpace))
  rw [h, List.length_append, List.length_cons] at hsplit
  refine ⟨?_, ?_, hsplit⟩
  · rw [List.dropWhile_append, h]
    rfl
  · rw [List.takeWhile_append, if_neg (by omega)]

/-- Texts with the same next lexeme have the same lexemes. -/
theorem Lexes.of_next_eq (h : Lexes s ls p) (ht : t.next = s.next) : Lexes t ls p := by
  cases h with
  | finished h => exact .finished (ht.trans h)
  | lexeme h _ hr => exact .lexeme (ht.trans h) (length_lt_of_next (ht.trans h)) hr

/-- All lexemes of what is left start in it. -/
theorem Lexes.position_le (h : Lexes s ls p) : ∀ l ∈ ls, s.position ≤ l.start := by
  induction h with
  | finished => exact fun _ h => absurd h List.not_mem_nil
  | @lexeme s l after ls p h _ _ ih =>
    obtain ⟨first, rest, n, -, -, hl, rfl, -⟩ := exists_of_next h
    have hp := s.position_le_skipSpace
    refine List.forall_mem_cons.2 ⟨?_, fun m hm => ?_⟩
    · rw [hl]
      exact hp
    · exact Nat.le_trans (Nat.le_trans hp (Nat.le_add_right _ n)) (ih m hm)

/-- The lexemes of a text that stands later. -/
theorem Lexes.later (h : Lexes s ls p) (k : Nat) :
    Lexes ⟨s.rest, s.position + k⟩ (ls.map (.moved 0 k)) (p + k) := by
  have hposition (s : Source) :
      (⟨s.rest, s.position + k⟩ : Source).skipSpace.position = s.skipSpace.position + k :=
    Nat.add_right_comm _ _ _
  induction h with
  | finished h =>
    obtain ⟨hd, rfl⟩ := of_next_finished h
    rw [← hposition]
    exact .finished (next_nil hd)
  | @lexeme s l after ls p h _ _ ih =>
    obtain ⟨first, rest, n, hd, hf, hl, rfl, -⟩ := exists_of_next h
    have hn := next_eq_lexeme (s := ⟨s.rest, s.position + k⟩) hd hf
    rw [hposition, Nat.add_right_comm] at hn
    have hm : l.moved 0 k =
        ⟨l.token, s.skipSpace.position + k, s.skipSpace.position + n + k⟩ := by
      rw [Lexeme.moved, if_pos (Nat.zero_le _), hl]
    rw [List.map_cons, hm]
    exact .lexeme hn (length_lt_of_next hn) ih

section Insert

variable {as bs ws : List Char} {place : Nat}

/-- White space behind white space moves everything behind it. -/
theorem Lexes.insert_space (h : Lexes s ls p) (hs : s.rest = as ++ bs)
    (hplace : place = s.position + as.length) (has : ∀ c ∈ as, Unicode.isWhiteSpace c = true)
    (hws : ∀ c ∈ ws, Unicode.isWhiteSpace c = true) :
    Lexes ⟨as ++ (ws ++ bs), s.position⟩ (ls.map (.moved place ws.length)) (p + ws.length) := by
  have hb : Lexes ⟨bs, place⟩ ls p := by
    refine h.of_next_eq ?_
    rw [hplace, ← next_append_space has, ← hs]
  have hmap : ls.map (Lexeme.moved place ws.length) = ls.map (Lexeme.moved 0 ws.length) := by
    refine List.map_congr_left fun l hl => ?_
    rw [Lexeme.moved, Lexeme.moved, if_pos (hb.position_le l hl), if_pos (Nat.zero_le _)]
  rw [hmap]
  refine (hb.later ws.length).of_next_eq ?_
  rw [next_append_space has, next_append_space hws, hplace]

/-- A lexeme in front of the place stays as it is, and the white space is in what follows it. -/
theorem next_insert {l : Lexeme} {after : Source} (h : s.next = .lexeme l after)
    (hs : s.rest = as ++ bs) (ha : as.dropWhile Unicode.isWhiteSpace ≠ [])
    (hplace : place = s.position + as.length) (hws : ∀ c ∈ ws, Unicode.isWhiteSpace c = true)
    (hl : place ≤ l.start ∨ l.stop ≤ place) :
    l.start < place ∧ ∃ more, after.rest = more ++ bs ∧
      place = after.position + more.length ∧
        (⟨as ++ (ws ++ bs), s.position⟩ : Source).next =
          .lexeme l ⟨more ++ (ws ++ bs), after.position⟩ := by
  obtain ⟨first, rest, ha⟩ := List.exists_cons_of_ne_nil ha
  obtain ⟨first', rest', n, hd, hf, hshape, rfl, -, -⟩ := exists_of_next h
  obtain ⟨hd₁, ht₁, hlen⟩ := append_of_dropWhile ha bs
  obtain ⟨hd₂, ht₂, -⟩ := append_of_dropWhile ha (ws ++ bs)
  rw [hs, hd₁] at hd
  cases hd
  have hstart : s.skipSpace.position =
      s.position + (as.takeWhile Unicode.isWhiteSpace).length := by
    rw [← ht₁, ← hs]
    rfl
  have hposition : (⟨as ++ (ws ++ bs), s.position⟩ : Source).skipSpace.position =
      s.skipSpace.position := by
    rw [hstart, ← ht₂]
    rfl
  have hlstart : l.start = s.skipSpace.position := by rw [hshape]
  have hlstop : l.stop = s.skipSpace.position + n := by rw [hshape]
  -- The lexeme starts in front of the place, and so it ends there at the latest.
  have hlt : l.start < place := by omega
  have hn : n ≤ (first :: rest).length := by
    rw [List.length_cons]
    omega
  have hcut := Scan.front_of_append hf hn s.skipSpace.position
  have hfront : Scan.front s.skipSpace.position first (rest ++ (ws ++ bs)) =
      .token l.token n := by
    by_cases hne : ws = []
    · rw [hne]
      exact hf
    · exact (Scan.front_append (Scan.ends_append_of_isWhiteSpace hws hne bs) hcut _).1
  have hnext := next_eq_lexeme (s := ⟨as ++ (ws ++ bs), s.position⟩) hd₂ hfront
  rw [hposition, ← List.cons_append, List.drop_append_of_le_length hn, ← hshape] at hnext
  refine ⟨hlt, (first :: rest).drop n, List.drop_append_of_le_length hn, ?_, hnext⟩
  change place = s.skipSpace.position + n + _
  rw [List.length_drop, List.length_cons]
  omega

/-- **White space at a place between two lexemes moves those behind it.** -/
theorem Lexes.insert (h : Lexes s ls p) (hs : s.rest = as ++ bs)
    (hplace : place = s.position + as.length) (hws : ∀ c ∈ ws, Unicode.isWhiteSpace c = true)
    (hls : ∀ l ∈ ls, place ≤ l.start ∨ l.stop ≤ place) :
    Lexes ⟨as ++ (ws ++ bs), s.position⟩ (ls.map (.moved place ws.length)) (p + ws.length) := by
  induction h generalizing as with
  | @finished s p h =>
    have hnil := (of_next_finished h).1
    rw [hs, List.dropWhile_eq_nil_iff] at hnil
    exact (Lexes.finished h).insert_space hs hplace
      (fun c hc => hnil c (List.mem_append_left _ hc)) hws
  | @lexeme s l after ls p h hlt hr ih =>
    by_cases ha : as.dropWhile Unicode.isWhiteSpace = []
    · exact (Lexes.lexeme h hlt hr).insert_space hs hplace (List.dropWhile_eq_nil_iff.1 ha) hws
    · obtain ⟨hl, hls⟩ := List.forall_mem_cons.1 hls
      obtain ⟨hfront, more, hmore, hrest, hnext⟩ := next_insert h hs ha hplace hws hl
      have hm : l.moved place ws.length = l := by
        rw [Lexeme.moved, if_neg (Nat.not_le.2 hfront)]
      rw [List.map_cons, hm]
      exact .lexeme hnext (length_lt_of_next hnext) (ih hmore hrest hls)

end Insert

end Source

/-! ### Readings of moved lexemes -/

namespace Expr
namespace Parser

variable {f : Nat → Nat} {g : Lexeme → Lexeme} {limit : Nat}

/-- Two readings of lexemes up to the end of a text, the second of which have been moved. -/
def moving (f : Nat → Nat) (g : Lexeme → Lexeme) (limit : Nat) : Coupling limit limit where
  pairs s u := u.ahead = s.ahead.map g ∧
    (∃ p, s.ending = .finished p ∧ u.ending = .finished (f p)) ∧ u.depth = s.depth
  agree e e' := e' = e.moved f
  parting _ _ := False

/-- The position in a moved reading is the moved position. -/
theorem moving_position {s u : State} (hg : ∀ l, (g l).start = f l.start)
    (h : (moving f g limit).pairs s u) : u.position = f s.position := by
  obtain ⟨ahead, ending, depth⟩ := s
  obtain ⟨ahead', ending', depth'⟩ := u
  obtain ⟨rfl, ⟨p, rfl, rfl⟩, -⟩ := h
  cases ahead with
  | nil => rfl
  | cons l rest => exact hg l

/-- A moved reading has the same token in front. -/
theorem moving_token {s u : State} (ht : ∀ l, (g l).token = l.token)
    (h : (moving f g limit).pairs s u) : u.token? = s.token? := by
  rw [State.token?, h.1, List.head?_map, Option.map_map]
  exact congrArg (s.ahead.head?.map ·) (funext ht)

/-- Moves over a token succeed in both readings and keep them moved. -/
theorem moving_advance {s u : State} {l l' : Lexeme} {rest rest' : List Lexeme}
    (h : (moving f g limit).pairs s u) (hs : s.ahead = l :: rest) (hu : u.ahead = l' :: rest') :
    l' = g l ∧ ∃ t v, (advance s l rest).Yields () t ∧ (advance u l' rest').Yields () v ∧
      (moving f g limit).pairs t v := by
  obtain ⟨ha, ⟨p, hp, hp'⟩, hd⟩ := h
  rw [hs, hu, List.map_cons] at ha
  obtain ⟨rfl, rfl⟩ := List.cons.inj ha
  exact ⟨rfl, _, _, advance_yields hp l rest, advance_yields hp' _ _, rfl, ⟨p, hp, hp'⟩, hd⟩

/-- A reading of moved lexemes makes its moves beside that of the others. -/
theorem moving_lawful (ht : ∀ l, (g l).token = l.token) (hg : ∀ l, (g l).start = f l.start) :
    (moving f g limit).Lawful where
  token := moving_token ht
  advance h hs hu := by
    obtain ⟨-, t, v, ⟨_, hx⟩, ⟨_, hy⟩, hp⟩ := moving_advance h hs hu
    rw [hx, hy]
    exact .ok hp
  inAsName {s u l l' rest rest'} h hs hu _ := by
    obtain ⟨rfl, t, v, ⟨_, hx⟩, ⟨_, hy⟩, hp⟩ := moving_advance h hs hu
    rw [inAsName, inAsName, hx, hy]
    dsimp only [Step.andThen]
    rw [moving_token ht hp, ht, hg]
    split
    · exact .ok hp
    · exact .error rfl
  descend {s u} h := by
    unfold descend
    rw [h.2.2, moving_position hg h]
    split
    · exact .ok ⟨h.1, h.2.1, rfl⟩
    · exact .error rfl
  restore h h' := ⟨h'.1, h'.2.1, h.2.2⟩
  fails h he := by
    rw [moving_position hg h]
    exact (he f _).symm

end Parser

variable {text : String} {ls : List Lexeme} {p limit : Nat}

/-- Lexemes that have been moved are read as the same expression, or refused for the same reason at
the place to which it has been moved. -/
theorem parse_of_moved {other : String} {place k : Nat}
    (h : (Source.ofText text).lexemes = (ls, .finished p)) (hp : place ≤ p)
    (h' : (Source.ofText other).lexemes = (ls.map (Lexeme.moved place k), .finished (p + k))) :
    parse limit other = (parse limit text).mapError (·.moved (movedPosition place k)) := by
  have hend : movedPosition place k p = p + k := if_pos hp
  rw [parse_of_lexemes h, parse_of_lexemes h', ← hend]
  have hpairs : (Parser.moving (movedPosition place k) (Lexeme.moved place k) limit).pairs
      (Parser.before p ls 0)
      (Parser.before (movedPosition place k p) (ls.map (Lexeme.moved place k)) 0) :=
    ⟨rfl, ⟨p, rfl, rfl⟩, rfl⟩
  have hlawful : (Parser.moving (movedPosition place k) (Lexeme.moved place k) limit).Lawful :=
    Parser.moving_lawful (Lexeme.token_moved place k) (Lexeme.start_moved place k)
  rcases hlawful.whole hpairs with ⟨e, hx, hy⟩ | ⟨e, e', hx, hy, he⟩ | ⟨_, _, hno, -⟩
  · rw [hx]
    exact hy
  · rw [hx]
    exact hy.trans (congrArg Except.error he)
  · exact hno.elim

/-- **Lexemes tile the text, and white space between them means nothing.**  Taking lexemes off a
text ends after as many steps as it has characters, and one more, with the end of the text or with
what is no token.  Until there the lexemes tile the text, and each symbol and each name takes as
many characters as it can.  It ends at the end of the text only when all of the text was read, and
otherwise where no token starts.  If the text ends there, white space may be put in at any place
that is inside no lexeme: the tokens stay the same, the text is read as the same expression, or it
is refused for the same reason, at the place to which that has been moved. -/
theorem lexemes_tile (text : String) :
    ∃ ls t, (Source.ofText text).Takes ls t ∧ t.Halts ∧ ls.length + 1 ≤ text.length + 1 ∧
      Tiles text.toList 0 ls t.skipSpace.position ∧ (∀ l ∈ ls, l.IsLongest text.toList) ∧
      (∀ p, t.next = .finished p → p = text.length ∧ t.skipSpace.position = text.length) ∧
      (∀ e after, t.next = .fault e after → NoToken text.toList t.skipSpace.position e) ∧
      ∀ p, t.next = .finished p → ∀ before ws behind : String, text = before ++ behind →
        (∀ c ∈ ws.toList, Unicode.isWhiteSpace c = true) →
        (∀ l ∈ ls, before.length ≤ l.start ∨ l.stop ≤ before.length) →
        (∃ ls' p', (Source.ofText (before ++ ws ++ behind)).lexemes = (ls', .finished p') ∧
          ls'.map (·.token) = ls.map (·.token)) ∧
        ∀ limit, parse limit (before ++ ws ++ behind) =
          (parse limit text).mapError (·.moved (movedPosition before.length ws.length)) := by
  obtain ⟨ls, t, ht, hh⟩ := (Source.ofText text).exists_takes
  obtain ⟨htiles, hlong⟩ := ht.tiles (Source.isOf_ofText text)
  have hof := ht.isOf (Source.isOf_ofText text)
  have hend (p : Nat) (hp : t.next = .finished p) :
      p = text.length ∧ t.skipSpace.position = text.length := by
    obtain ⟨hnil, rfl⟩ := Source.of_next_finished hp
    rw [← Source.rest_skipSpace] at hnil
    have hposition := hof.skipSpace.position_of_nil hnil
    rw [String.length_toList] at hposition
    exact ⟨hposition, hposition⟩
  refine ⟨ls, t, ht, hh, ?_, htiles, hlong, hend, fun e after => Source.noToken_of_next hof,
    fun p hp before ws behind htext hws hls => ?_⟩
  · have hlen := Nat.le_trans (Nat.le_add_right ..) ht.length_le
    rw [Source.ofText, String.length_toList] at hlen
    exact Nat.succ_le_succ hlen
  have hlexes := ht.lexes hp
  have hrest : (Source.ofText text).rest = before.toList ++ behind.toList := by
    rw [Source.ofText, htext, String.toList_append]
  have hplace : before.length = (Source.ofText text).position + before.toList.length := by
    rw [Source.ofText, String.length_toList, Nat.zero_add]
  have hmoved := hlexes.insert hrest hplace hws hls
  have hother : Source.ofText (before ++ ws ++ behind) =
      ⟨before.toList ++ (ws.toList ++ behind.toList), (Source.ofText text).position⟩ := by
    simp only [Source.ofText, String.toList_append, List.append_assoc]
  have hle : before.length ≤ p := by
    rw [(hend p hp).1, htext, String.length_append]
    exact Nat.le_add_right _ _
  have h := hlexes.take_eq (Nat.lt_succ_self _)
  have h' := hmoved.take_eq (Nat.lt_succ_self _)
  change Source.lexemes _ = _ at h h'
  rw [String.length_toList, ← hother] at h'
  refine ⟨⟨_, _, h', ?_⟩, fun limit => parse_of_moved h hle h'⟩
  rw [List.map_map]
  refine List.map_congr_left fun l _ => ?_
  exact l.token_moved _ _

/-- A blank behind a name changes neither the tokens nor the expression. -/
theorem lexemes_tile_blank :
    (∃ ls p, (Source.ofText ("a" ++ " " ++ "<=b")).lexemes = (ls, .finished p) ∧
      ls.map (·.token) = [.name "a", .symbol .lessEqual, .name "b"]) ∧
      parse 8 ("a" ++ " " ++ "<=b") = .ok (.binary .lessOrEqual (.name "a") (.name "b")) := by
  obtain ⟨ls, t, ht, hh, -, -, -, -, -, hinsert⟩ := lexemes_tile "a<=b"
  have htakes : (Source.ofText "a<=b").Takes
      [⟨.name "a", 0, 1⟩, ⟨.symbol .lessEqual, 1, 3⟩, ⟨.name "b", 3, 4⟩] ⟨[], 4⟩ :=
    .cons (by cbv) (.cons (by cbv) (.cons (by cbv) .nil))
  have hend : (⟨[], 4⟩ : Source).next = .finished 4 := rfl
  have hblank : ∀ c ∈ " ".toList, Unicode.isWhiteSpace c = true :=
    List.forall_mem_singleton.2 (by cbv)
  obtain ⟨rfl, rfl⟩ := ht.unique hh htakes (.inl ⟨4, hend⟩)
  obtain ⟨⟨ls', p', hls', htokens⟩, hparse⟩ :=
    hinsert 4 hend "a" " " "<=b" rfl hblank (by decide)
  have halone : parse 8 "a<=b" = .ok (.binary .lessOrEqual (.name "a") (.name "b")) := by cbv
  refine ⟨⟨ls', p', hls', htokens⟩, (hparse 8).trans ?_⟩
  rw [halone]
  rfl

end Expr
end RecordFilter
