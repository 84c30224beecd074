/-
# What is read derives

An expression that the reader finds is derived by the lexemes that it passes over
(`sound_expression`), and within the levels that the limit leaves.  The invariants are one for each
reader.  In the middle of a chain, the lexemes so far derive the left operand at some level `l`, and
the connective in front is one that may stand behind an expression of that level (`ChainSound`); so
the operand can be made an expression of the level at which that connective joins.  Behind a chain
of members and calls the same holds with one exception, the word `in` in front of its parenthesis
(`Callable`).

Nothing is said about a reading that fails.
-/

import Mathlib
import RecordFilter.Proofs.Expr.Readers

namespace RecordFilter
namespace Expr
namespace Parser

open Grammar

/-- What is said of a reading that fails: nothing. -/
abbrev Fails (_ : SyntaxError) (_ : State) : Prop := True

/-- The state `t` stands behind the tokens `ts` in front of the state `s`. -/
def Passes (s : State) (ts : List Token) (t : State) : Prop :=
  ∃ xs : List Lexeme, xs.map (·.token) = ts ∧ s.ahead = xs ++ t.ahead

section Passes

variable {s t u : State} {ts us : List Token}

/-- A state is in front of itself with no tokens between. -/
theorem Passes.refl (s : State) : Passes s [] s := ⟨[], rfl, rfl⟩

/-- The tokens of two passes stand one behind the other. -/
theorem Passes.trans (h : Passes s ts t) (h' : Passes t us u) : Passes s (ts ++ us) u := by
  obtain ⟨xs, rfl, hx⟩ := h
  obtain ⟨ys, rfl, hy⟩ := h'
  exact ⟨xs ++ ys, List.map_append, by rw [hx, hy, List.append_assoc]⟩

/-- A state that has the lexemes behind the first one has passed one token. -/
theorem passes_one {l : Lexeme} {rest : List Lexeme} (h : s.ahead = l :: rest)
    (ht : t.ahead = rest) : Passes s [l.token] t :=
  ⟨[l], rfl, by rw [h, ht]; rfl⟩

/-- The depth does not matter for the tokens that are passed. -/
theorem Passes.withDepth (h : Passes s ts t) (d : Nat) : Passes s ts (t.withDepth d) := h

/-- Only the lexemes in front matter for the tokens that are passed. -/
theorem Passes.of_ahead (h : Passes t ts u) (ha : t.ahead = s.ahead) : Passes s ts u := by
  obtain ⟨xs, hx, hu⟩ := h
  exact ⟨xs, hx, ha ▸ hu⟩

end Passes

variable (limit : Nat)

/-- The tokens `ts` derive `e` in front of `s`, or they are the word `in` in front of its
parenthesis. -/
def Callable (ts : List Token) (e : Expr) (k room : Nat) (s : State) : Prop :=
  Fits .suffixed ts e k room ∨
    ts = [.word .inWord] ∧ e = .name "in" ∧ k = 0 ∧ s.token? = some (.symbol .leftParen)

/-- What a primary expression is read from derives it, within the levels that are left. -/
def PrimarySound (s : State) : Prop :=
  (primary limit s).Meets
    (fun e t => t.depth = s.depth ∧
      ∃ ts, Passes s ts t ∧ Callable ts e 0 (limit - s.depth) t) Fails

/-- What an expression of a power is read from derives it on each level that has its connectives,
and the reading stops where no such connective follows. -/
def ExpressionSound (power : Nat) (s : State) : Prop :=
  (expression limit power s).Meets
    (fun e t => t.depth = s.depth ∧ s.depth < limit ∧ Stops power t ∧ ∃ ts k, Passes s ts t ∧
      ∀ l : Level, l.rank ≤ Level.rank .prefixed → l.Holds power →
        Fits l ts e k (limit - (s.depth + 1))) Fails

/-- Expressions with their tokens and the links open behind them, each one in front of which the
state is `s` as regards the levels. -/
def Items (s : State) (items : List (List Token × Expr × Nat)) : Prop :=
  ∀ x ∈ items, Fits .conditional x.1 x.2.1 x.2.2 (limit - (s.depth + 1))

/-- Items are read from one expression at least, with commas between them. -/
def ItemsSound (s : State) : Prop :=
  (items limit s).Meets
    (fun es t => t.depth = s.depth ∧ s.depth < limit ∧ ∃ x xs, es = (x :: xs).map (·.2.1) ∧
      Passes s (separated ((x :: xs).map (·.1))) t ∧ Items limit s (x :: xs)) Fails

/-- Further items are read from expressions that each have a comma in front. -/
def MoreItemsSound (s : State) : Prop :=
  (moreItems limit s).Meets
    (fun es t => t.depth = s.depth ∧ ∃ xs, es = xs.map (·.2.1) ∧
      Passes s (following (xs.map (·.1))) t ∧ Items limit s xs) Fails

/-- A list is read from expressions with commas between them and the symbol that closes it. -/
def ListSound (close : Symbol) (s : State) : Prop :=
  (list limit close s).Meets
    (fun es t => t.depth = s.depth ∧ ∃ xs, es = xs.map (·.2.1) ∧
      Passes s (separated (xs.map (·.1)) ++ [.symbol close]) t ∧ Items limit s xs ∧
      (xs ≠ [] → s.depth < limit)) Fails

/-- Behind what derives the object or the callee, the suffixes that are read derive with it. -/
def SuffixesSound (e : Expr) (s : State) : Prop :=
  ∀ base ts k, s.depth = base + k → Callable ts e k (limit - base) s →
    (suffixes limit e s).Meets
      (fun e' t => ∃ us k', Passes s us t ∧ Fits .suffixed (ts ++ us) e' k' (limit - base)) Fails

/-- What a prefixed expression is read from derives it, within the levels that are left. -/
def PrefixedSound (s : State) : Prop :=
  (prefixed limit s).Meets
    (fun e t => t.depth = s.depth ∧
      ∃ ts, Passes s ts t ∧ Fits .prefixed ts e 0 (limit - s.depth)) Fails

/-- What an operand is read from derives it, within the levels that are left. -/
def PostfixedSound (s : State) : Prop :=
  (postfixed limit s).Meets
    (fun e t => t.depth = s.depth ∧
      ∃ ts, Passes s ts t ∧ Fits .prefixed ts e 0 (limit - s.depth)) Fails

/-- In the middle of a chain that started with `base` levels counted. -/
def ChainSound (power : Nat) (left : Expr) (s : State) : Prop :=
  ∀ base (l : Level) ts k, s.depth = base + k → l.rank ≤ Level.rank .prefixed →
    Stops l.follow s → Fits l ts left k (limit - base) →
    (chain limit power left s).Meets
      (fun e t => Stops power t ∧ ∃ us k', Passes s us t ∧
        ∀ m : Level, m.rank ≤ l.rank → m.Holds power →
          Fits m (ts ++ us) e k' (limit - base)) Fails

variable {limit : Nat} {s : State} {l : Lexeme} {rest : List Lexeme}

/-! ### Operands -/

/-- A move over a token passes it. -/
theorem advance_passes (h : s.ahead = l :: rest) :
    (advance s l rest).Meets (fun _ t => Passes s [l.token] t ∧ t.depth = s.depth) Fails := by
  refine (advance_meets s l rest).mono (fun _ t ht => ?_) fun _ _ _ => trivial
  subst ht
  exact ⟨passes_one h rfl, rfl⟩

/-- One more level passes no token, and there was room for it. -/
theorem descend_passes (limit : Nat) (s : State) :
    (descend limit s).Meets
      (fun _ t => s.depth < limit ∧ t.depth = s.depth + 1 ∧ t.ahead = s.ahead) Fails := by
  refine (descend_meets limit s).mono (fun _ t ⟨hd, ht⟩ => ?_) fun _ _ _ => trivial
  subst ht
  exact ⟨hd, rfl, rfl⟩

/-- The check for a symbol passes this symbol. -/
theorem expect_passes (c : Symbol) (s : State) :
    (expect c s).Meets (fun _ t => Passes s [.symbol c] t ∧ t.depth = s.depth) Fails := by
  refine (expect_meets c s).mono (fun _ t ⟨l, rest, h, hc, ht⟩ => ?_) fun _ _ _ => trivial
  subst ht
  rw [← hc]
  exact ⟨passes_one h rfl, rfl⟩

/-- The reading of a property name passes a token that is one. -/
theorem propertyName_passes (s : State) :
    (propertyName s).Meets
      (fun n t => ∃ u, propertyName? u = some n ∧ Passes s [u] t ∧ t.depth = s.depth) Fails := by
  refine (propertyName_meets s).mono (fun n t ⟨l, rest, h, hn, ht⟩ => ?_) fun _ _ _ => trivial
  subst ht
  exact ⟨l.token, hn, passes_one h rfl, rfl⟩

/-- Nothing is read where no primary expression starts. -/
theorem primarySound_fails {e : SyntaxError} (h : primary limit s = .error e s) :
    PrimarySound limit s := by
  rw [PrimarySound, h]
  trivial

/-- A literal or a name derives its expression. -/
theorem primarySound_atom (h : s.ahead = l :: rest) {e : Expr} (ha : atom? l.token = some e) :
    PrimarySound limit s := by
  rw [PrimarySound, primary_atom h ha]
  refine ((advance_passes h).map fun _ t ⟨hp, hd⟩ => ?_).weaken _
  exact ⟨hd, [l.token], hp, .inl (.tighter rfl (.atom ha))⟩

/-- The word `in` is read where a call of it follows. -/
theorem primarySound_in (h : s.ahead = l :: rest) (ht : l.token = .word .inWord) :
    PrimarySound limit s := by
  rw [PrimarySound, primary_in h ht, inAsName]
  refine ((advance_passes h).andThen fun _ t le ⟨hp, hd⟩ => ?_).weaken _
  split
  · next hs =>
    obtain ⟨u, hu, hs⟩ := (Option.any_eq_true _ _).1 hs
    rw [isSymbol_iff.1 hs] at hu
    exact ⟨hd, [l.token], hp, .inr ⟨by rw [ht], rfl, rfl, hu⟩⟩
  · trivial

/-- A group derives what is read inside. -/
theorem primarySound_group (h : s.ahead = l :: rest) (ht : l.token = .symbol .leftParen)
    (ih : ∀ t : State, t.size ≤ rest.length → ExpressionSound limit 0 t) :
    PrimarySound limit s := by
  rw [PrimarySound, primary_group h ht]
  refine (advance_passes h).andThen fun _ s₁ le₁ ⟨hp₁, hd₁⟩ => ?_
  refine (ih s₁ le₁).andThen fun e s₂ le₂ ⟨hd₂, hlt, _, ts, k, hp₂, hf⟩ => ?_
  refine ((expect_passes .rightParen s₂).map fun _ t ⟨hp₃, hd₃⟩ => ?_).weaken _
  rw [hd₁] at hd₂ hlt hf
  refine ⟨hd₃.trans hd₂, _, (hp₁.trans hp₂).trans hp₃, .inl (.tighter rfl ?_)⟩
  rw [ht]
  exact .group (hf .conditional (by decide) (Level.holds_conditional 0)) (by omega)

/-- A list derives from the items that are read inside. -/
theorem primarySound_list (h : s.ahead = l :: rest) (ht : l.token = .symbol .leftBracket)
    (ih : ∀ t : State, t.size ≤ rest.length → ListSound limit .rightBracket t) :
    PrimarySound limit s := by
  rw [PrimarySound, primary_list h ht]
  refine (advance_passes h).andThen fun _ s₁ le₁ ⟨hp₁, hd₁⟩ => ?_
  refine (Step.Meets.map (ih s₁ le₁) fun es t ⟨hd, xs, he, hp, hi, hlt⟩ => ?_).weaken _
  rw [hd₁] at hd hlt
  rw [Items, hd₁] at hi
  refine ⟨hd, _, hp₁.trans hp, .inl (.tighter rfl ?_)⟩
  rw [ht, he]
  exact .list xs hi fun hne => by have := hlt hne; omega

/-! ### Lists -/

/-- A list that is closed at once has no items. -/
theorem listSound_closed {close : Symbol} (h : s.token?.any (isSymbol close) = true) :
    ListSound limit close s := by
  rw [ListSound, list_closed h]
  refine ((expect_passes close s).map fun _ t ⟨hp, hd⟩ => ?_).weaken _
  exact ⟨hd, [], rfl, hp, fun _ h => absurd h List.not_mem_nil, fun hne => absurd rfl hne⟩

/-- A list that is not closed at once has the items that are read. -/
theorem listSound_open {close : Symbol} (h : ¬ s.token?.any (isSymbol close) = true)
    (ih : ItemsSound limit s) : ListSound limit close s := by
  rw [ListSound, list_open h]
  refine Step.Meets.andThen ih fun es s₁ le₁ ⟨hd, hlt, x, xs, he, hp, hi⟩ => ?_
  refine ((expect_passes close s₁).map fun _ t ⟨hp₁, hd₁⟩ => ?_).weaken _
  exact ⟨hd₁.trans hd, x :: xs, he, hp.trans hp₁, hi, fun _ => hlt⟩

/-- Items derive if the first one and the further ones do. -/
theorem itemsSound (ihe : ExpressionSound limit 0 s)
    (ihm : ∀ t : State, t.size ≤ s.size → MoreItemsSound limit t) : ItemsSound limit s := by
  rw [ItemsSound, items]
  refine Step.Meets.andThen ihe fun e s₁ le₁ ⟨hd, hlt, _, ts, k, hp, hf⟩ => ?_
  refine (Step.Meets.map (ihm s₁ le₁) fun es t ⟨hd', xs, he, hp', hi⟩ => ?_).weaken _
  refine ⟨hd'.trans hd, hlt, (ts, e, k), xs, by rw [he]; rfl, ?_, ?_⟩
  · rw [List.map_cons, separated_cons]
    exact hp.trans hp'
  · rw [Items, hd] at hi
    rw [Items, List.forall_mem_cons]
    exact ⟨hf .conditional (by decide) (Level.holds_conditional 0), hi⟩

/-- No further items are read without a comma. -/
theorem moreItemsSound_stop (h : moreItems limit s = .ok [] s (Nat.le_refl _)) :
    MoreItemsSound limit s := by
  rw [MoreItemsSound, h]
  exact ⟨rfl, [], rfl, .refl s, fun _ h => absurd h List.not_mem_nil⟩

/-- Behind a comma, the items that are read there derive. -/
theorem moreItemsSound_comma (h : s.ahead = l :: rest) (ht : l.token = .symbol .comma)
    (ih : ∀ t : State, t.size ≤ rest.length → ItemsSound limit t) : MoreItemsSound limit s := by
  rw [MoreItemsSound, moreItems_comma h ht]
  refine (advance_passes h).andThen fun _ s₁ le₁ ⟨hp₁, hd₁⟩ => ?_
  refine Step.Meets.weaken ((ih s₁ le₁).mono (fun es t ⟨hd, _, x, xs, he, hp, hi⟩ => ?_)
    fun _ _ h => h) _
  rw [ht] at hp₁
  rw [Items, hd₁] at hi
  exact ⟨hd.trans hd₁, x :: xs, he, hp₁.trans hp, hi⟩

/-! ### Members and calls -/

section Suffixes

variable {e : Expr} {base k : Nat} {ts : List Token}

/-- Where no suffix follows, what has been read derives on its own. -/
theorem suffixesSound_stop (h : suffixes limit e s = .ok e s (Nat.le_refl _))
    (hp : s.token? ≠ some (.symbol .leftParen)) : SuffixesSound limit e s := by
  intro base ts k _ hc
  rw [h]
  rcases hc with hf | ⟨-, -, -, ht⟩
  · exact ⟨[], k, .refl s, by rwa [List.append_nil]⟩
  · exact absurd ht hp

/-- The rest of a chain of members and calls, behind one more of them. -/
theorem SuffixesSound.next {t : State} {us : List Token} {e' : Expr}
    (ih : SuffixesSound limit e' t) (hd : t.depth = base + (k + 1)) (hp : Passes s us t)
    (hf : Fits .suffixed (ts ++ us) e' (k + 1) (limit - base)) :
    (suffixes limit e' t).Meets (fun e' u => ∃ us k', Passes s us u ∧
      Fits .suffixed (ts ++ us) e' k' (limit - base)) Fails := by
  refine (ih base _ (k + 1) hd (.inl hf)).mono (fun e'' u ⟨vs, k', hv, hf'⟩ => ?_) fun _ _ h => h
  refine ⟨us ++ vs, k', hp.trans hv, ?_⟩
  rwa [← List.append_assoc]

/-- What stands in front of a dot or a bracket is an expression. -/
theorem Callable.fits {room : Nat} (hc : Callable ts e k room s) (h : s.ahead = l :: rest)
    (ht : l.token ≠ .symbol .leftParen) : Fits .suffixed ts e k room := by
  rcases hc with hf | ⟨-, -, -, hp⟩
  · exact hf
  · rw [State.token?, h] at hp
    exact absurd (Option.some.inj hp) ht

/-- A named member derives, and so do the suffixes behind it. -/
theorem suffixesSound_dot (h : s.ahead = l :: rest) (ht : l.token = .symbol .dot)
    (ih : ∀ (n : String) (t : State), t.size ≤ rest.length - 1 →
      SuffixesSound limit (.member e (.name n) false) t) : SuffixesSound limit e s := by
  intro base ts k hk hc
  have hf := hc.fits h (by rw [ht]; exact nofun)
  rw [suffixes_dot h ht]
  refine (descend_passes limit s).andThen fun _ s₀ _ ⟨hlt, hd₀, ha⟩ => ?_
  refine (advance_passes (ha.trans h)).andThen fun _ s₁ le₁ ⟨hp₁, hd₁⟩ => ?_
  refine (propertyName_passes s₁).andThen fun n s₂ le₂ ⟨u, hn, hp₂, hd₂⟩ => ?_
  have hp : Passes s [l.token, u] s₂ := (hp₁.of_ahead ha).trans hp₂
  have hd : s₂.depth = base + (k + 1) := by omega
  refine ((ih n s₂ (by omega)).next hd hp ?_).weaken _
  rw [ht]
  exact .member hf hn (by omega)

/-- A computed member derives, and so do the suffixes behind it. -/
theorem suffixesSound_bracket (h : s.ahead = l :: rest) (ht : l.token = .symbol .leftBracket)
    (ihe : ∀ t : State, t.size ≤ rest.length → ExpressionSound limit 0 t)
    (ihs : ∀ (p : Expr) (t : State), t.size ≤ rest.length - 1 →
      SuffixesSound limit (.member e p true) t) : SuffixesSound limit e s := by
  intro base ts k hk hc
  have hf := hc.fits h (by rw [ht]; exact nofun)
  rw [suffixes_bracket h ht]
  refine (descend_passes limit s).andThen fun _ s₀ _ ⟨hlt, hd₀, ha⟩ => ?_
  refine (advance_passes (ha.trans h)).andThen fun _ s₁ le₁ ⟨hp₁, hd₁⟩ => ?_
  refine (ihe s₁ le₁).andThen fun p s₂ le₂ ⟨hd₂, hlt₂, _, us, j, hp₂, hfp⟩ => ?_
  refine (expect_passes .rightBracket s₂).andThen fun _ s₃ le₃ ⟨hp₃, hd₃⟩ => ?_
  have hp := ((hp₁.of_ahead ha).trans hp₂).trans hp₃
  rw [ht] at hp
  have hd : s₃.depth = base + (k + 1) := by omega
  refine ((ihs p s₃ (by omega)).next hd hp ?_).weaken _
  exact .index hf (hfp .conditional (by decide) (Level.holds_conditional 0)) (by omega)

/-- A call of what is in front of the parenthesis. -/
theorem Callable.call {callee : String} {r room : Nat} (hc : Callable ts e k room s)
    (hn : e.calleeName? = some callee) (items : List (List Token × Expr × Nat))
    (hi : ∀ x ∈ items, Fits .conditional x.1 x.2.1 x.2.2 r) (hk : k < room)
    (hr : items ≠ [] → k + 1 + r < room) :
    Fits .suffixed (ts ++ between .leftParen (separated (items.map (·.1))) .rightParen)
      (.call callee (items.map (·.2.1))) (k + 1) room := by
  rcases hc with hf | ⟨rfl, rfl, rfl, -⟩
  · exact .call hf hn items hi hk hr
  · obtain rfl := Option.some.inj hn
    exact .callIn items hi hk fun hne => by have := hr hne; omega

/-- A call derives, and so do the suffixes behind it. -/
theorem suffixesSound_paren (h : s.ahead = l :: rest) (ht : l.token = .symbol .leftParen)
    (ihl : ∀ t : State, t.size ≤ rest.length → ListSound limit .rightParen t)
    (ihs : ∀ (callee : String) (es : List Expr) (t : State), t.size ≤ rest.length →
      SuffixesSound limit (.call callee es) t) : SuffixesSound limit e s := by
  intro base ts k hk hc
  cases hn : e.calleeName? with
  | none =>
    rw [suffixes_nameless h ht hn]
    exact (descend_passes limit s).andThen fun _ _ _ _ => trivial
  | some callee =>
    rw [suffixes_paren h ht hn]
    refine (descend_passes limit s).andThen fun _ s₀ _ ⟨hlt, hd₀, ha⟩ => ?_
    refine (advance_passes (ha.trans h)).andThen fun _ s₁ le₁ ⟨hp₁, hd₁⟩ => ?_
    refine (ihl s₁ le₁).andThen fun es s₂ le₂ ⟨hd₂, xs, he, hp₂, hi, hlt₂⟩ => ?_
    have hp := (hp₁.of_ahead ha).trans hp₂
    rw [ht] at hp
    have hd : s₂.depth = base + (k + 1) := by omega
    refine ((ihs callee es s₂ (by omega)).next hd hp ?_).weaken _
    rw [he]
    exact hc.call hn xs hi (by omega) fun hne => by have := hlt₂ hne; omega

end Suffixes

/-! ### Operators in front of an operand -/

/-- An operand derives from its primary expression and the suffixes behind it. -/
theorem postfixedSound (ihp : PrimarySound limit s)
    (ihs : ∀ (e : Expr) (t : State), t.size ≤ s.size → SuffixesSound limit e t) :
    PostfixedSound limit s := by
  rw [PostfixedSound, postfixed]
  refine Step.Meets.restore (Step.Meets.andThen ihp fun e s₁ le₁ ⟨hd₁, ts, hp₁, hc⟩ => ?_)
  refine Step.Meets.weaken ((ihs e s₁ le₁ s.depth ts 0 hd₁ hc).mono
    (fun e' t ⟨us, k, hp₂, hf⟩ => ?_) fun _ _ h => h) _
  exact ⟨rfl, ts ++ us, (hp₁.trans hp₂).withDepth _, .tighter rfl hf⟩

/-- Without a prefix operator, the operand derives. -/
theorem prefixedSound_operand (h : prefixed limit s = postfixed limit s)
    (ih : PostfixedSound limit s) : PrefixedSound limit s := by
  rw [PrefixedSound, h]
  exact ih

/-- The operand of an operator in front of it, one level down. -/
theorem operandSound (ih : ∀ t : State, t.size ≤ s.size → PrefixedSound limit t) :
    (((descend limit s).andThen fun _ s₁ le₁ =>
      (prefixed limit s₁).weaken le₁).restore s.depth).Meets
        (fun e t => t.depth = s.depth ∧ s.depth < limit ∧
          ∃ ts, Passes s ts t ∧ Fits .prefixed ts e 0 (limit - (s.depth + 1))) Fails := by
  refine Step.Meets.restore ((descend_passes limit s).andThen fun _ s₁ le₁ ⟨hlt, hd₁, ha⟩ => ?_)
  refine Step.Meets.weaken ((ih s₁ le₁).mono (fun e t ⟨_, ts, hp, hf⟩ => ?_) fun _ _ h => h) _
  rw [hd₁] at hf
  exact ⟨rfl, hlt, ts, (hp.of_ahead ha).withDepth _, hf⟩

/-- A prefix operator derives with its operand, which has one level less. -/
theorem prefixedSound_operator (h : s.ahead = l :: rest) {op : UnaryOp}
    (ho : UnaryOp.ofToken? l.token = some op)
    (ih : ∀ t : State, t.size ≤ rest.length → PrefixedSound limit t) : PrefixedSound limit s := by
  rw [PrefixedSound, prefixed_operator h ho]
  refine (advance_passes h).andThen fun _ s₁ le₁ ⟨hp₁, hd₁⟩ => ?_
  refine Step.Meets.weaken ((operandSound fun t ht => ih t (Nat.le_trans ht le₁)).map
    fun e t ⟨hd, hlt, ts, hp, hf⟩ => ?_) _
  refine ⟨hd.trans hd₁, l.token :: ts, hp₁.trans hp, .unary ho hf (by omega)⟩

/-! ### Connectives -/

section Chain

variable {c : Connective} {power base k : Nat} {ts us : List Token} {lv : Level} {left : Expr}

/-- Where a chain stops, what has been read derives on its own. -/
theorem chainSound_stop (h : chain limit power left s = .ok left s (Nat.le_refl _))
    (hs : Stops power s) : ChainSound limit power left s := by
  intro base lv ts k _ hl _ hf
  rw [h]
  refine ⟨hs, [], k, .refl s, fun m hm _ => ?_⟩
  rw [List.append_nil]
  exact hf.loosen hl hm

/-- A connective in front of which a chain stops has a lesser power. -/
theorem Stops.lt (hs : Stops power s) (h : s.ahead = l :: rest)
    (hc : Connective.ofToken? l.token = some c) : c.leftPower < power := by
  refine hs l.token c ?_ hc
  rw [State.token?, h]
  rfl

/-- The rest of a chain of connectives, behind one more of them. -/
theorem ChainSound.next {t : State} {left' : Expr} (ih : ChainSound limit power left' t)
    (hd : t.depth = base + (k + 1)) (hs : Stops c.rightPower t) (hp : Passes s us t)
    (hf : Fits c.level (ts ++ us) left' (k + 1) (limit - base)) (hc : power ≤ c.leftPower) :
    (chain limit power left' t).Meets
      (fun e t => Stops power t ∧ ∃ us k', Passes s us t ∧
        ∀ m : Level, m.rank ≤ lv.rank → m.Holds power →
          Fits m (ts ++ us) e k' (limit - base)) Fails := by
  rw [← c.follow_level] at hs
  refine (ih base c.level _ (k + 1) hd (Nat.le_trans c.rank_level_le (by decide)) hs hf).mono
    (fun e u ⟨hs', vs, k', hv, hf'⟩ => ?_) fun _ _ h => h
  refine ⟨hs', us ++ vs, k', hp.trans hv, fun m _ hm => ?_⟩
  rw [← List.append_assoc]
  exact hf' m (hm c hc) hm

/-- A link derives with its right operand, and so does the chain behind it. -/
theorem chainSound_operator (h : s.ahead = l :: rest)
    (hc : Connective.ofToken? l.token = some c) (hp : power ≤ c.leftPower)
    {node : Expr → Expr → Expr} (hn : c.node? = some node)
    (ihe : ∀ t : State, t.size ≤ rest.length → ExpressionSound limit c.rightPower t)
    (ihc : ∀ (right : Expr) (t : State), t.size ≤ rest.length →
      ChainSound limit power (node left right) t) : ChainSound limit power left s := by
  intro base lv ts k hk hl hs hf
  rw [chain_operator h hc hp hn]
  refine (descend_passes limit s).andThen fun _ s₀ _ ⟨hlt, hd₀, ha⟩ => ?_
  refine (advance_passes (ha.trans h)).andThen fun _ s₁ le₁ ⟨hp₁, hd₁⟩ => ?_
  refine (ihe s₁ le₁).andThen fun right s₂ le₂ ⟨hd₂, hlt₂, hs₂, us, j, hp₂, hfr⟩ => ?_
  have hd : s₂.depth = base + (k + 1) := by omega
  refine ((ihc right s₂ (by omega)).next hd hs₂ ((hp₁.of_ahead ha).trans hp₂) ?_ hp).weaken _
  exact hf.join hc hn hl (hs.lt h hc) hfr (by omega)

/-- A conditional derives with its branches, and so does the chain behind it. -/
theorem chainSound_conditional (h : s.ahead = l :: rest)
    (hc : Connective.ofToken? l.token = some .conditional)
    (hp : power ≤ Connective.leftPower .conditional)
    (ihp : ∀ t : State, t.size ≤ rest.length → ExpressionSound limit 0 t)
    (ihn : ∀ t : State, t.size ≤ rest.length - 1 →
      ExpressionSound limit (Connective.rightPower .conditional) t)
    (ihc : ∀ (positive negative : Expr) (t : State), t.size ≤ rest.length - 1 →
      ChainSound limit power (.conditional left positive negative) t) :
    ChainSound limit power left s := by
  intro base lv ts k hk hl hs hf
  rw [chain_conditional h hc hp rfl]
  refine (descend_passes limit s).andThen fun _ s₀ _ ⟨hlt, hd₀, ha⟩ => ?_
  refine (advance_passes (ha.trans h)).andThen fun _ s₁ le₁ ⟨hp₁, hd₁⟩ => ?_
  refine (ihp s₁ le₁).andThen fun p s₂ le₂ ⟨hd₂, hlt₂, _, us, i, hp₂, hfp⟩ => ?_
  refine (expect_passes .colon s₂).andThen fun _ s₃ le₃ ⟨hp₃, hd₃⟩ => ?_
  refine (ihn s₃ (by omega)).andThen fun n s₄ le₄ ⟨hd₄, hlt₄, hs₄, vs, j, hp₄, hfn⟩ => ?_
  have hd : s₄.depth = base + (k + 1) := by omega
  have hp' := (hp₁.of_ahead ha).trans (hp₂.trans (hp₃.trans hp₄))
  refine ((ihc p n s₄ (by omega)).next hd hs₄ hp' ?_ hp).weaken _
  rw [Connective.ofToken?_conditional hc]
  have hlv := Connective.rank_lt_of_conditional (hs.lt h hc)
  rw [hd₃, hd₂] at hfn
  exact .conditional (hf.loosen hl hlv) (hfp .conditional (by decide) (Level.holds_conditional _))
    (hfn .conditional (by decide) (Level.holds_conditional _)) (by omega)

/-- An expression derives from its first operand and the chain behind it. -/
theorem expressionSound (ihp : ∀ t : State, t.size ≤ s.size → PrefixedSound limit t)
    (ihc : ∀ (left : Expr) (t : State), t.size ≤ s.size → ChainSound limit power left t) :
    ExpressionSound limit power s := by
  rw [ExpressionSound, expression]
  refine Step.Meets.restore ((descend_passes limit s).andThen fun _ s₁ le₁ ⟨hlt, hd₁, ha⟩ => ?_)
  refine (ihp s₁ le₁).andThen fun left s₂ le₂ ⟨hd₂, ts, hp₂, hf⟩ => ?_
  rw [hd₁] at hd₂ hf
  have hc := ihc left s₂ (Nat.le_trans le₂ le₁) (s.depth + 1) .prefixed ts 0 hd₂ (Nat.le_refl _)
    (fun _ c _ _ => c.leftPower_lt_prefixed) hf
  refine (hc.mono (fun e t ⟨hs, us, k, hp₃, hf'⟩ => ?_) fun _ _ h => h).weaken _
  exact ⟨rfl, hlt, hs, ts ++ us, k, ((hp₂.trans hp₃).of_ahead ha).withDepth _,
    fun m hm hh => hf' m hm hh⟩

end Chain

/-- Whatever a reader returns derives from the tokens that it has passed. -/
theorem sound_readers (limit : Nat) : EachReader (PrimarySound limit) (ListSound limit)
    (ItemsSound limit) (MoreItemsSound limit) (ExpressionSound limit) (ChainSound limit)
    (PrefixedSound limit) (PostfixedSound limit) (SuffixesSound limit) where
  primary_fails hp := primarySound_fails (hp limit _ rfl)
  primary_atom h he := primarySound_atom h he
  primary_in := primarySound_in
  primary_group := primarySound_group
  primary_list := primarySound_list
  list_closed := listSound_closed
  list_open := listSound_open
  items := itemsSound
  moreItems_stop hm := moreItemsSound_stop (hm limit _ rfl)
  moreItems_comma := moreItemsSound_comma
  suffixes_stop hx := suffixesSound_stop (hx limit _ rfl)
  suffixes_dot := suffixesSound_dot
  suffixes_bracket := suffixesSound_bracket
  suffixes_paren := suffixesSound_paren
  postfixed := postfixedSound
  prefixed_operand hx := prefixedSound_operand (hx limit _ rfl)
  prefixed_operator h ho := prefixedSound_operator h ho
  chain_stop hx := chainSound_stop (hx limit _ rfl)
  chain_operator h hc hp hn := chainSound_operator h hc hp hn
  chain_conditional := chainSound_conditional
  expression := expressionSound

/-- What is read as an expression derives. -/
theorem sound_expression (limit power : Nat) (s : State) : ExpressionSound limit power s :=
  (sound_readers limit).holds power s

end Parser
end Expr
end RecordFilter
