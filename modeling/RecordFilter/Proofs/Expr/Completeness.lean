/-
# What derives is read

Lexemes that derive an expression within the levels that the limit leaves are read as that
expression (`Fits.completes`, by induction on the derivation).  A chain is read from the left, so
the statement for a level with chains does not say what a reading of the lexemes gives, but that the
reading of a chain can be resumed: whatever reading on behind the lexemes gives, the reading from
their front gives too (`ChainCompletes`, and `SuffixedCompletes` for members and calls).  How many
links are open behind the lexemes is what `Fits` counts.

Where a reading has to stop, nothing may stand that it would take: no member or call, and no
connective of its power (`Clear`).
-/

import Mathlib
import RecordFilter.Proofs.Expr.Levels
import RecordFilter.Proofs.Expr.Steps

namespace RecordFilter
namespace Expr
namespace Parser

open Grammar

/-- In front of lexemes that end with the end of the text, at position `p`. -/
abbrev before (p : Nat) (ahead : List Lexeme) (depth : Nat) : State := ⟨ahead, .finished p, depth⟩

/-- Whether a token starts a member or a call. -/
def IsSuffix (t : Token) : Prop :=
  t = .symbol .dot ∨ t = .symbol .leftBracket ∨ t = .symbol .leftParen

/-- No member and no call is in front. -/
def Bare (ahead : List Lexeme) : Prop := ∀ l ∈ ahead.head?, ¬ IsSuffix l.token

/-- Nothing that an expression with the given least power would take is in front. -/
def Clear (power : Nat) (ahead : List Lexeme) : Prop :=
  Bare ahead ∧ ∀ l ∈ ahead.head?, ∀ c, Connective.ofToken? l.token = some c → c.leftPower < power

/-- Whether a token can only stand behind a whole expression. -/
def IsClosing (t : Token) : Prop :=
  t = .symbol .comma ∨ t = .symbol .colon ∨ t = .symbol .rightParen ∨ t = .symbol .rightBracket

section Clear

variable {l : Lexeme} {rest : List Lexeme} {power more : Nat} {c : Connective}

/-- Nothing is in front at the end of the lexemes. -/
theorem clear_nil (power : Nat) : Clear power [] :=
  ⟨fun _ h => absurd h nofun, fun _ h => absurd h nofun⟩

/-- A token that can only stand behind a whole expression is taken by none. -/
theorem clear_closing (h : IsClosing l.token) (power : Nat) (rest : List Lexeme) :
    Clear power (l :: rest) := by
  refine ⟨fun l' hl => ?_, fun l' hl => ?_⟩ <;> obtain rfl := Option.some.inj hl
  · rcases h with h | h | h | h <;> rw [h] <;> rintro (h | h | h) <;> cases h
  · rcases h with h | h | h | h <;> rw [h] <;> exact nofun

/-- A connective that binds less tightly than the least power is not taken. -/
theorem clear_connective (hc : Connective.ofToken? l.token = some c) (hlt : c.leftPower < power)
    (rest : List Lexeme) : Clear power (l :: rest) := by
  refine ⟨fun l' hl => ?_, fun l' hl c' hc' => ?_⟩ <;> obtain rfl := Option.some.inj hl
  · rintro (h | h | h) <;> rw [h] at hc <;> cases hc
  · rwa [← Option.some.inj (hc.symm.trans hc')]

/-- What no expression takes, one with a greater least power does not take either. -/
theorem Clear.mono (h : Clear power rest) (hm : power ≤ more) : Clear more rest :=
  ⟨h.1, fun l hl c hc => Nat.lt_of_lt_of_le (h.2 l hl c hc) hm⟩

variable {limit p d : Nat} {e : Expr}

/-- Suffixes end where no member and no call follows. -/
theorem Bare.suffixes_yields (h : Bare rest) :
    (suffixes limit e (before p rest d)).Yields e (before p rest d) := by
  cases rest with
  | nil =>
    rw [suffixes_nil rfl]
    exact Step.yields_ok _
  | cons l rest =>
    have hl := h l rfl
    rw [suffixes_other rfl (fun h => hl (.inl h)) (fun h => hl (.inr (.inl h)))
      fun h => hl (.inr (.inr h))]
    exact Step.yields_ok _

/-- A chain ends where nothing follows that it would take. -/
theorem Clear.chain_yields (h : Clear power rest) :
    (chain limit power e (before p rest d)).Yields e (before p rest d) := by
  cases rest with
  | nil =>
    rw [chain_nil rfl]
    exact Step.yields_ok _
  | cons l rest =>
    cases hc : Connective.ofToken? l.token with
    | none =>
      rw [chain_other rfl hc]
      exact Step.yields_ok _
    | some c =>
      rw [chain_weaker rfl hc (h.2 l rfl c hc)]
      exact Step.yields_ok _

end Clear

variable (limit p : Nat)

/-- The tokens of a primary expression are read as it, whatever stands behind them. -/
def PrimaryCompletes (ts : List Token) (e : Expr) (room : Nat) : Prop :=
  ∀ xs rest d, xs.map (·.token) = ts → d + room ≤ limit →
    (primary limit (before p (xs ++ rest) d)).Yields e (before p rest d)

/-- Reading on behind the tokens `ts` can be moved to their front. -/
def SuffixedCompletes (ts : List Token) (e : Expr) (k room : Nat) : Prop :=
  ∀ xs rest d, xs.map (·.token) = ts → d + room ≤ limit →
    ∃ e₀ t₀, (primary limit (before p (xs ++ rest) d)).Yields e₀ t₀ ∧
      ∀ r u, (suffixes limit e (before p rest (d + k))).Yields r u →
        (suffixes limit e₀ t₀).Yields r u

/-- The tokens of a prefixed expression are read as it, where no member and no call follows. -/
def PrefixedCompletes (ts : List Token) (e : Expr) (room : Nat) : Prop :=
  ∀ xs rest d, xs.map (·.token) = ts → d + room ≤ limit → Bare rest →
    (prefixed limit (before p (xs ++ rest) d)).Yields e (before p rest d)

/-- Reading on behind the tokens `ts` can be moved to their front. -/
def ChainCompletes (l : Level) (ts : List Token) (e : Expr) (k room : Nat) : Prop :=
  ∀ xs rest d power, xs.map (·.token) = ts → d + room ≤ limit → Clear l.follow rest →
    power ≤ 2 * l.rank →
    ∃ left t, (prefixed limit (before p (xs ++ rest) d)).Yields left t ∧
      ∀ r u, (chain limit power e (before p rest (d + k))).Yields r u →
        (chain limit power left t).Yields r u

/-- The tokens `ts` are read as the expression `e`, as far as that can be said for their level. -/
def Completes (l : Level) (ts : List Token) (e : Expr) (k room : Nat) : Prop :=
  match l with
  | .primary => PrimaryCompletes limit p ts e room
  | .suffixed => SuffixedCompletes limit p ts e k room
  | .prefixed => PrefixedCompletes limit p ts e room
  | l => ChainCompletes limit p l ts e k room

variable {limit p} {l m : Level} {ts us : List Token} {e : Expr} {k room : Nat}

/-- For the levels with chains, completeness is about a chain that is resumed. -/
theorem completes_iff_chain (hl : l.rank ≤ Level.rank .power) :
    Completes limit p l ts e k room ↔ ChainCompletes limit p l ts e k room := by
  cases l <;> first | exact Iff.rfl | exact absurd hl (by decide)

/-- Lexemes with a certain token among them, cut at it. -/
theorem exists_of_map_eq {xs : List Lexeme} {t : Token}
    (h : xs.map (·.token) = ts ++ t :: us) :
    ∃ as l bs, xs = as ++ l :: bs ∧ as.map (·.token) = ts ∧ l.token = t ∧
      bs.map (·.token) = us := by
  obtain ⟨as, cs, rfl, ha, hc⟩ := List.map_eq_append_iff.1 h
  obtain ⟨l, bs, rfl, hl, hb⟩ := List.map_eq_cons_iff.1 hc
  exact ⟨as, l, bs, rfl, ha, hl, hb⟩

/-- Lexemes with tokens between two symbols have the symbols at their ends. -/
theorem exists_of_map_between {xs : List Lexeme} {o c : Symbol}
    (h : xs.map (·.token) = between o ts c) :
    ∃ l ys l', xs = l :: (ys ++ [l']) ∧ l.token = .symbol o ∧ ys.map (·.token) = ts ∧
      l'.token = .symbol c := by
  obtain ⟨l, zs, rfl, hl, hz⟩ := List.map_eq_cons_iff.1 h
  obtain ⟨ys, l', bs, rfl, hy, hl', hb⟩ := exists_of_map_eq hz
  obtain rfl := List.map_eq_nil_iff.1 hb
  exact ⟨l, ys, l', rfl, hl, hy, hl'⟩

/-! ### Whole expressions and lists -/

/-- A reading of an expression stops where nothing of its power follows. -/
theorem ChainCompletes.expression {xs rest : List Lexeme} {d power : Nat}
    (h : ChainCompletes limit p l ts e k room) (hx : xs.map (·.token) = ts)
    (hd : d + 1 + room ≤ limit) (hp : power ≤ 2 * l.rank) (hc : Clear power rest) :
    (expression limit power (before p (xs ++ rest) d)).Yields e (before p rest d) := by
  have hf : Clear l.follow rest := hc.mono (Nat.le_trans hp l.two_rank_le_follow)
  obtain ⟨left, t, ht, hu⟩ := h xs rest (d + 1) power hx hd hf hp
  have hlt : (before p (xs ++ rest) d).depth < limit := Nat.lt_of_lt_of_le
    (Nat.lt_succ_self d) (Nat.le_trans (Nat.le_add_right ..) hd)
  rw [Parser.expression]
  refine Step.Yields.restore (t := before p rest (d + 1 + k)) ?_ d
  refine (descend_yields hlt).andThen fun _ => ?_
  refine ht.andThen fun _ => ?_
  exact (hu _ _ hc.chain_yields).weaken _

section Items

variable {close : Symbol} {c : Lexeme} {rest : List Lexeme} {d : Nat}

/-- The symbol at the end of a list or of arguments can only stand behind a whole expression. -/
theorem isClosing_of_close (hc : c.token = .symbol close)
    (h : close = .rightParen ∨ close = .rightBracket) : IsClosing c.token := by
  rcases h with rfl | rfl
  · exact .inr (.inr (.inl hc))
  · exact .inr (.inr (.inr hc))

/-- Expressions with commas between them are read up to the symbol that closes the list. -/
theorem items_completes (hc : c.token = .symbol close)
    (h : close = .rightParen ∨ close = .rightBracket) (hd : d + 1 + room ≤ limit)
    (x : List Token × Expr × Nat) (items : List (List Token × Expr × Nat))
    (hi : ∀ y ∈ x :: items, ChainCompletes limit p .conditional y.1 y.2.1 y.2.2 room)
    {xs : List Lexeme} (hx : xs.map (·.token) = separated ((x :: items).map (·.1))) :
    (Parser.items limit (before p (xs ++ c :: rest) d)).Yields ((x :: items).map (·.2.1))
      (before p (c :: rest) d) := by
  have hcl := isClosing_of_close hc h
  induction items generalizing x xs with
  | nil =>
    rw [Parser.items]
    have hn : c.token ≠ .symbol .comma := by rcases h with rfl | rfl <;> rw [hc] <;> exact nofun
    refine ((hi x (List.mem_cons_self ..)).expression hx hd (Nat.zero_le _)
      (clear_closing hcl 0 rest)).andThen fun _ => ?_
    rw [moreItems_other rfl hn]
    exact ((Step.yields_ok _).map _).weaken _
  | cons y items ih =>
    rw [Parser.items]
    rw [List.map_cons, separated_cons, List.map_cons, following] at hx
    obtain ⟨as, l, bs, rfl, ha, hl, hb⟩ := exists_of_map_eq hx
    rw [List.append_assoc, List.cons_append]
    refine ((hi x (List.mem_cons_self ..)).expression ha hd (Nat.zero_le _)
      (clear_closing (.inl hl) 0 _)).andThen fun _ => ?_
    rw [moreItems_comma rfl hl]
    refine (Step.Yields.map ((advance_yields rfl l _).andThen fun _ => ?_) _).weaken _
    exact (ih y (fun z hz => hi z (List.mem_cons_of_mem _ hz)) hb).weaken _
    exact nofun

/-- A list is read with the symbol that closes it. -/
theorem list_completes (hc : c.token = .symbol close)
    (h : close = .rightParen ∨ close = .rightBracket) (items : List (List Token × Expr × Nat))
    (hd : items ≠ [] → d + 1 + room ≤ limit)
    (hi : ∀ y ∈ items, ChainCompletes limit p .conditional y.1 y.2.1 y.2.2 room)
    (hs : ∀ y ∈ items, Derives .conditional y.1 y.2.1)
    {xs : List Lexeme} (hx : xs.map (·.token) = separated (items.map (·.1))) :
    (list limit close (before p (xs ++ c :: rest) d)).Yields (items.map (·.2.1))
      (before p rest d) := by
  cases items with
  | nil =>
    obtain rfl := List.map_eq_nil_iff.1 hx
    have hcl : (before p ([] ++ c :: rest) d).token?.any (isSymbol close) = true :=
      isSymbol_iff.2 hc
    rw [list_closed hcl]
    exact ((expect_yields rfl rfl hc).map _).weaken _
  | cons x items =>
    -- The first token of the first item does not close the list.
    obtain ⟨t, us, ht, hp, hb⟩ := (hs x (List.mem_cons_self ..)).starts
    have hx' := hx
    rw [List.map_cons, separated_cons, ht, List.cons_append] at hx'
    obtain ⟨l, ys, rfl, hl, -⟩ := List.map_eq_cons_iff.1 hx'
    have hop : ¬ (before p (l :: ys ++ c :: rest) d).token?.any (isSymbol close) = true := by
      intro ho
      have ho' : l.token = .symbol close := isSymbol_iff.1 ho
      rw [ho'] at hl
      rcases h with rfl | rfl
      · exact hp hl.symm
      · exact hb hl.symm
    rw [list_open hop]
    refine (items_completes hc h (hd nofun) x items hi hx).andThen fun _ => ?_
    exact ((expect_yields rfl rfl hc).map _).weaken _

end Items

/-! ### Operands -/

/-- A literal or a name is read. -/
theorem completes_atom {t : Token} (ha : atom? t = some e) :
    Completes limit p .primary [t] e 0 room := by
  intro xs rest d hx _
  obtain ⟨l, ys, rfl, rfl, hy⟩ := List.map_eq_cons_iff.1 hx
  obtain rfl := List.map_eq_nil_iff.1 hy
  rw [primary_atom rfl ha]
  exact ((advance_yields rfl l rest).map _).weaken _

/-- A group is read if the expression inside is, with one level less. -/
theorem completes_group {r : Nat} (h : Completes limit p .conditional ts e k r) (hr : r < room) :
    Completes limit p .primary (between .leftParen ts .rightParen) e 0 room := by
  intro xs rest d hx hd
  obtain ⟨l, ys, l', rfl, hl, hy, hl'⟩ := exists_of_map_between hx
  rw [List.cons_append, List.append_assoc]
  have hd' : d + 1 + r ≤ limit := by omega
  rw [primary_group rfl hl]
  refine (advance_yields rfl l _).andThen fun _ => ?_
  refine Step.Yields.andThen (ChainCompletes.expression h hy hd' (Nat.zero_le _)
    (clear_closing (.inr (.inr (.inl hl'))) 0 _)) fun _ => ?_
  exact ((expect_yields rfl rfl hl').map _).weaken _

/-- A list is read if its items are, with one level less. -/
theorem completes_list {r : Nat} (items : List (List Token × Expr × Nat))
    (hi : ∀ x ∈ items, Completes limit p .conditional x.1 x.2.1 x.2.2 r)
    (hs : ∀ x ∈ items, Derives .conditional x.1 x.2.1) (hr : items ≠ [] → r < room) :
    Completes limit p .primary
      (between .leftBracket (separated (items.map (·.1))) .rightBracket)
      (.list (items.map (·.2.1))) 0 room := by
  intro xs rest d hx hd
  obtain ⟨l, ys, l', rfl, hl, hy, hl'⟩ := exists_of_map_between hx
  rw [List.cons_append, List.append_assoc]
  have hd' : items ≠ [] → d + 1 + r ≤ limit := fun hne => by have := hr hne; omega
  rw [primary_list rfl hl]
  refine (advance_yields rfl l _).andThen fun _ => ?_
  refine (Step.Yields.map ?_ _).weaken _
  exact list_completes hl' (.inr rfl) items hd' hi hs hy

/-! ### Members and calls -/

/-- A named member is read if its object is, with one level for the member. -/
theorem completes_member {t : Token} {n : String} (h : Completes limit p .suffixed ts e k room)
    (hn : propertyName? t = some n) (hk : k < room) :
    Completes limit p .suffixed (ts ++ [.symbol .dot, t]) (.member e (.name n) false) (k + 1)
      room := by
  intro xs rest d hx hd
  obtain ⟨as, l, bs, rfl, ha, hl, hb⟩ := exists_of_map_eq hx
  obtain ⟨l', cs, rfl, rfl, hc⟩ := List.map_eq_cons_iff.1 hb
  obtain rfl := List.map_eq_nil_iff.1 hc
  obtain ⟨e₀, t₀, h₀, hs⟩ := h as (l :: l' :: rest) d ha hd
  rw [List.append_assoc]
  refine ⟨e₀, t₀, h₀, fun a u hu => hs a u ?_⟩
  have hlt : d + k < limit := by omega
  rw [suffixes_dot rfl hl]
  refine (descend_yields hlt).andThen fun _ => ?_
  refine (advance_yields rfl l _).andThen fun _ => ?_
  refine (propertyName_yields rfl rfl hn).andThen fun _ => ?_
  exact hu.weaken _

/-- A computed member is read if its object and its property are. -/
theorem completes_index {j r : Nat} {q : Expr} (h : Completes limit p .suffixed ts e k room)
    (hq : Completes limit p .conditional us q j r) (hk : k + 1 + r < room) :
    Completes limit p .suffixed (ts ++ between .leftBracket us .rightBracket) (.member e q true)
      (k + 1) room := by
  intro xs rest d hx hd
  obtain ⟨as, bs, rfl, ha, hb⟩ := List.map_eq_append_iff.1 hx
  obtain ⟨l, ys, l', rfl, hl, hy, hl'⟩ := exists_of_map_between hb
  obtain ⟨e₀, t₀, h₀, hs⟩ := h as (l :: (ys ++ l' :: rest)) d ha hd
  rw [List.append_assoc, List.cons_append, List.append_assoc]
  refine ⟨e₀, t₀, h₀, fun a u hu => hs a u ?_⟩
  have hlt : d + k < limit := by omega
  have hd' : d + k + 1 + 1 + r ≤ limit := by omega
  rw [suffixes_bracket rfl hl]
  refine (descend_yields hlt).andThen fun _ => ?_
  refine (advance_yields rfl l _).andThen fun _ => ?_
  refine Step.Yields.andThen (ChainCompletes.expression hq hy hd' (Nat.zero_le _)
    (clear_closing (.inr (.inr (.inr hl'))) 0 _)) fun _ => ?_
  refine (expect_yields rfl rfl hl').andThen fun _ => ?_
  exact hu.weaken _

/-- A call of what has been read is read on. -/
theorem suffixes_call {callee : String} {r d : Nat} {l l' : Lexeme} {ys rest : List Lexeme}
    (hc : e.calleeName? = some callee) (items : List (List Token × Expr × Nat))
    (hi : ∀ x ∈ items, Completes limit p .conditional x.1 x.2.1 x.2.2 r)
    (hs : ∀ x ∈ items, Derives .conditional x.1 x.2.1) (hd : d < limit)
    (hr : items ≠ [] → d + 1 + 1 + r ≤ limit) (hl : l.token = .symbol .leftParen)
    (hy : ys.map (·.token) = separated (items.map (·.1))) (hl' : l'.token = .symbol .rightParen)
    {a : Expr} {u : State}
    (hu : (suffixes limit (.call callee (items.map (·.2.1))) (before p rest (d + 1))).Yields a u) :
    (suffixes limit e (before p (l :: (ys ++ l' :: rest)) d)).Yields a u := by
  rw [suffixes_paren rfl hl hc]
  refine (descend_yields hd).andThen fun _ => ?_
  refine (advance_yields rfl l _).andThen fun _ => ?_
  refine Step.Yields.andThen (list_completes hl' (.inl rfl) items hr hi hs hy) fun _ => ?_
  exact hu.weaken _

/-- A call is read if its callee and its arguments are. -/
theorem completes_call {callee : String} {r : Nat} (h : Completes limit p .suffixed ts e k room)
    (hc : e.calleeName? = some callee) (items : List (List Token × Expr × Nat))
    (hi : ∀ x ∈ items, Completes limit p .conditional x.1 x.2.1 x.2.2 r)
    (hs : ∀ x ∈ items, Derives .conditional x.1 x.2.1) (hk : k < room)
    (hr : items ≠ [] → k + 1 + r < room) :
    Completes limit p .suffixed
      (ts ++ between .leftParen (separated (items.map (·.1))) .rightParen)
      (.call callee (items.map (·.2.1))) (k + 1) room := by
  intro xs rest d hx hd
  obtain ⟨as, bs, rfl, ha, hb⟩ := List.map_eq_append_iff.1 hx
  obtain ⟨l, ys, l', rfl, hl, hy, hl'⟩ := exists_of_map_between hb
  obtain ⟨e₀, t₀, h₀, hs'⟩ := h as (l :: (ys ++ l' :: rest)) d ha hd
  rw [List.append_assoc, List.cons_append, List.append_assoc]
  refine ⟨e₀, t₀, h₀, fun a u hu => hs' a u ?_⟩
  exact suffixes_call hc items hi hs (by omega) (fun hne => by have := hr hne; omega) hl hy hl' hu

/-- A call of the function `in` is read if its arguments are. -/
theorem completes_callIn {r : Nat} (items : List (List Token × Expr × Nat))
    (hi : ∀ x ∈ items, Completes limit p .conditional x.1 x.2.1 x.2.2 r)
    (hs : ∀ x ∈ items, Derives .conditional x.1 x.2.1) (hk : 0 < room)
    (hr : items ≠ [] → 1 + r < room) :
    Completes limit p .suffixed
      (.word .inWord :: between .leftParen (separated (items.map (·.1))) .rightParen)
      (.call "in" (items.map (·.2.1))) 1 room := by
  intro xs rest d hx hd
  obtain ⟨l₀, bs, rfl, hl₀, hb⟩ := List.map_eq_cons_iff.1 hx
  obtain ⟨l, ys, l', rfl, hl, hy, hl'⟩ := exists_of_map_between hb
  rw [List.cons_append, List.cons_append, List.append_assoc]
  refine ⟨.name "in", before p (l :: (ys ++ l' :: rest)) d, ?_, fun a u hu => ?_⟩
  · rw [primary_in rfl hl₀]
    refine ((advance_yields rfl l₀ _).andThen fun _ => ?_).weaken _
    rw [if_pos (by exact isSymbol_iff.2 hl)]
    exact Step.yields_ok _
  · exact suffixes_call rfl items hi hs (by omega) (fun hne => by have := hr hne; omega) hl hy hl'
      hu

/-! ### Operators -/

/-- A prefix operator is read if its operand is, with one level less. -/
theorem completes_unary {t : Token} {op : UnaryOp} {r : Nat} (ho : UnaryOp.ofToken? t = some op)
    (h : Completes limit p .prefixed ts e 0 r) (hr : r < room) :
    Completes limit p .prefixed (t :: ts) (.unary op e) 0 room := by
  intro xs rest d hx hd hb
  obtain ⟨l, ys, rfl, rfl, hy⟩ := List.map_eq_cons_iff.1 hx
  rw [List.cons_append]
  have hlt : d < limit := by omega
  have hd' : d + 1 + r ≤ limit := by omega
  rw [prefixed_operator rfl ho]
  refine (advance_yields rfl l _).andThen fun _ => ?_
  refine (Step.Yields.map (Step.Yields.restore (t := before p rest (d + 1)) ?_ d) _).weaken _
  refine (descend_yields hlt).andThen fun _ => ?_
  exact (h ys rest (d + 1) hy hd' hb).weaken _

/-- An operator and its right operand are read on. -/
theorem chain_join {c : Connective} {node : Expr → Expr → Expr} {m : Level} {j r d power : Nat}
    {l : Lexeme} {ys rest : List Lexeme} {b : Expr}
    (hc : Connective.ofToken? l.token = some c) (hn : c.node? = some node)
    (hb : Completes limit p m us b j r) (hm : m.rank ≤ Level.rank .power)
    (hp : power ≤ c.leftPower) (hcm : c.rightPower ≤ 2 * m.rank) (hd : d + 1 + 1 + r ≤ limit)
    (hy : ys.map (·.token) = us) (hf : Clear c.rightPower rest) {a : Expr}
    {u : State} (hu : (chain limit power (node e b) (before p rest (d + 1))).Yields a u) :
    (chain limit power e (before p (l :: (ys ++ rest)) d)).Yields a u := by
  have hlt : d < limit := by omega
  rw [chain_operator rfl hc hp hn]
  refine (descend_yields hlt).andThen fun _ => ?_
  refine (advance_yields rfl l _).andThen fun _ => ?_
  refine Step.Yields.andThen (ChainCompletes.expression ((completes_iff_chain hm).1 hb) hy hd
    hcm hf) fun _ => ?_
  exact hu.weaken _

/-- A power is read if its base and its exponent are; the exponent is a chain of its own. -/
theorem completes_power {a b : Expr} {j r : Nat} (ha : Completes limit p .prefixed ts a 0 room)
    (hb : Completes limit p .power us b j r) (hr : 1 + r < room) :
    Completes limit p .power (ts ++ .symbol .starStar :: us) (.binary .power a b) 1 room := by
  intro xs rest d power hx hd hf hp
  obtain ⟨as, l, bs, rfl, ha', hl, hy⟩ := exists_of_map_eq hx
  have hc : Connective.ofToken? l.token = some (.binary .power) := by rw [hl]; rfl
  have hbare : Bare (l :: (bs ++ rest)) := (clear_connective hc (Nat.lt_succ_self _) _).1
  rw [List.append_assoc]
  refine ⟨a, _, ha as _ d ha' hd hbare, fun q u hu => ?_⟩
  exact chain_join hc rfl hb (Nat.le_refl _) hp (Nat.le_refl _) (by omega) hy hf hu

/-- A link that binds to the left is read if both of its operands are. -/
theorem completes_left {t : Token} {node : Expr → Expr → Expr} {a b : Expr} {j r : Nat}
    (hm : l.tighter? = some m) (hn : l.node? t = some node)
    (ha : Completes limit p l ts a k room) (hb : Completes limit p m us b j r)
    (hr : k + 1 + r < room) : Completes limit p l (ts ++ t :: us) (node a b) (k + 1) room := by
  obtain ⟨c, hc, rfl, hnode, hright⟩ := Connective.exists_of_node? hn
  have hrank := Level.rank_tighter hm
  have hm' : m.rank ≤ Level.rank .power := by
    have := c.rank_level_lt_of_left hright
    omega
  rw [completes_iff_chain c.rank_level_le] at ha ⊢
  intro xs rest d power hx hd hf hp
  obtain ⟨as, lx, bs, rfl, ha', rfl, hy⟩ := exists_of_map_eq hx
  have hlt : c.leftPower < c.level.follow := by
    rw [c.follow_level, c.leftPower_eq]
    omega
  obtain ⟨left, t₀, h₀, hs⟩ := ha as (lx :: (bs ++ rest)) d power ha' hd
    (clear_connective hc hlt _) hp
  rw [List.append_assoc]
  refine ⟨left, t₀, h₀, fun q u hu => hs q u ?_⟩
  rw [← c.leftPower_eq] at hp
  rw [c.follow_level] at hf
  exact chain_join hc hnode hb hm' hp (by omega) (by omega) hy hf hu

/-- A conditional is read if its condition and both branches are. -/
theorem completes_conditional {vs : List Token} {c q n : Expr} {i j r : Nat}
    (hc : Completes limit p .disjunction ts c k room)
    (hq : Completes limit p .conditional us q i r) (hn : Completes limit p .conditional vs n j r)
    (hr : k + 1 + r < room) :
    Completes limit p .conditional (ts ++ .symbol .question :: (us ++ .symbol .colon :: vs))
      (.conditional c q n) (k + 1) room := by
  intro xs rest d power hx hd hf hp
  obtain ⟨as, l, bs, rfl, ha, hl, hb⟩ := exists_of_map_eq hx
  obtain ⟨ys, l', zs, rfl, hy, hl', hz⟩ := exists_of_map_eq hb
  have hcon : Connective.ofToken? l.token = some .conditional := by rw [hl]; rfl
  obtain ⟨left, t₀, h₀, hs⟩ := hc as (l :: (ys ++ l' :: (zs ++ rest))) d power ha hd
    (clear_connective hcon (by decide) _) (Nat.le_trans hp (by decide))
  have hlt : d + k < limit := by omega
  have hd' : d + k + 1 + 1 + r ≤ limit := by omega
  rw [List.append_assoc, List.cons_append, List.append_assoc]
  refine ⟨left, t₀, h₀, fun a u hu => hs a u ?_⟩
  rw [chain_conditional rfl hcon hp rfl]
  refine (descend_yields hlt).andThen fun _ => ?_
  refine (advance_yields rfl l _).andThen fun _ => ?_
  refine Step.Yields.andThen (ChainCompletes.expression hq hy hd' (Nat.zero_le _)
    (clear_closing (.inr (.inl hl')) 0 _)) fun _ => ?_
  refine (expect_yields rfl rfl hl').andThen fun _ => ?_
  refine Step.Yields.andThen (ChainCompletes.expression hn hz hd' (Nat.le_refl _) hf) fun _ => ?_
  exact hu.weaken _

/-! ### Looser levels -/

/-- An operator in front of an operand starts no operand by itself. -/
theorem primary_operator {s : State} {l : Lexeme} {rest : List Lexeme} {op : UnaryOp}
    (h : s.ahead = l :: rest) (ho : UnaryOp.ofToken? l.token = some op) :
    primary limit s = .error (unexpected s) s := by
  have ha : atom? l.token = none := by
    unfold UnaryOp.ofToken? at ho
    split at ho <;> first | (next ht => rw [ht]; rfl) | cases ho
  refine primary_other h ha ?_ ?_ ?_ <;> intro ht <;> rw [ht] at ho <;> cases ho

/-- What starts a primary expression is no prefix operator. -/
theorem prefixed_of_primary {s t : State} (h : (primary limit s).Yields e t) :
    prefixed limit s = postfixed limit s := by
  cases ha : s.ahead with
  | nil => exact prefixed_nil ha
  | cons l rest =>
    refine prefixed_other ha ?_
    cases ho : UnaryOp.ofToken? l.token with
    | none => rfl
    | some op =>
      obtain ⟨_, h⟩ := h
      rw [primary_operator ha ho] at h
      cases h

/-- A primary expression is read as one without suffixes. -/
theorem completes_suffixed (h : Completes limit p .primary ts e 0 room) :
    Completes limit p .suffixed ts e 0 room :=
  fun xs rest d hx hd => ⟨e, _, h xs rest d hx hd, fun _ _ hu => hu⟩

/-- An expression with suffixes is read as one without a prefix operator. -/
theorem completes_prefixed (h : Completes limit p .suffixed ts e k room) :
    Completes limit p .prefixed ts e 0 room := by
  intro xs rest d hx hd hb
  obtain ⟨e₀, t₀, h₀, hs⟩ := h xs rest d hx hd
  rw [prefixed_of_primary h₀, postfixed]
  refine Step.Yields.restore (t := before p rest (d + k)) ?_ d
  refine h₀.andThen fun _ => ?_
  exact (hs _ _ hb.suffixes_yields).weaken _

/-- A prefixed expression is read as a chain without links. -/
theorem completes_chain (h : Completes limit p .prefixed ts e 0 room) :
    Completes limit p .power ts e 0 room :=
  fun xs rest d _ hx hd hf _ => ⟨e, _, h xs rest d hx hd hf.1, fun _ _ hu => hu⟩

/-- A chain that is read for a tighter level is read for the level itself. -/
theorem ChainCompletes.loosen (h : ChainCompletes limit p m ts e k room)
    (hm : l.tighter? = some m) : ChainCompletes limit p l ts e k room := by
  intro xs rest d power hx hd hf hp
  have hr := Level.rank_tighter hm
  exact h xs rest d power hx hd (hf.mono (Level.follow_le_of_tighter hm)) (by omega)

/-- What derives on the next tighter level is read for the level itself. -/
theorem completes_tighter (hm : l.tighter? = some m) (hf : Fits m ts e k room)
    (h : Completes limit p m ts e k room) : Completes limit p l ts e (l.spine k) room := by
  cases l with
  | primary => cases hm
  | suffixed =>
    cases hm
    obtain rfl := hf.spine_primary
    exact completes_suffixed h
  | prefixed =>
    cases hm
    exact completes_prefixed h
  | power =>
    cases hm
    obtain rfl := hf.spine_prefixed
    exact completes_chain h
  | _ =>
    cases hm
    exact ChainCompletes.loosen h rfl

end Parser

namespace Grammar

/-- **What derives is read.**  Tokens that fit into the levels that a limit leaves are read as the
expression that they derive. -/
theorem Fits.completes {l : Level} {ts : List Token} {e : Expr} {k room : Nat}
    (h : Fits l ts e k room) (limit p : Nat) : Parser.Completes limit p l ts e k room := by
  induction h with
  | atom ha => exact Parser.completes_atom ha
  | group _ hr ih => exact Parser.completes_group ih hr
  | list items hi hr ih =>
    exact Parser.completes_list items ih (fun x hx => (hi x hx).derives) hr
  | member _ hn hk ih => exact Parser.completes_member ih hn hk
  | index _ _ hk ih ihq => exact Parser.completes_index ih ihq hk
  | call _ hc items hi hk hr ih ihi =>
    exact Parser.completes_call ih hc items ihi (fun x hx => (hi x hx).derives) hk hr
  | callIn items hi hk hr ihi =>
    exact Parser.completes_callIn items ihi (fun x hx => (hi x hx).derives) hk hr
  | unary ho _ hr ih => exact Parser.completes_unary ho ih hr
  | power _ _ hr iha ihb => exact Parser.completes_power iha ihb hr
  | left hm hn _ _ hr iha ihb => exact Parser.completes_left hm hn iha ihb hr
  | conditional _ _ _ hr ihc ihq ihn => exact Parser.completes_conditional ihc ihq ihn hr
  | tighter hm h ih => exact Parser.completes_tighter hm h ih

end Grammar
end Expr
end RecordFilter
