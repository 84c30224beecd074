/-
# Limits that are not reached

A reading opens at most two levels for each lexeme: one for the link that the lexeme makes, and one
for the expression behind it.  So a limit above twice the number of lexemes is never reached
(`ample_expression`).  The invariant is that the levels counted and twice the lexemes left stay
within the limit (`Ample`); it is kept because every level is opened by a lexeme that is passed
over.
-/

import Mathlib
import RecordFilter.Proofs.Expr.Readers

namespace RecordFilter
namespace Expr
namespace Parser

/-- The lexemes of a state end with the end of the text. -/
def State.Finished (s : State) : Prop := ∃ p, s.ending = .finished p

/-- The limit leaves two levels for each lexeme in front of a state, and `spare` more. -/
structure Ample (limit spare : Nat) (s : State) : Prop where
  finished : s.Finished
  room : s.depth + 2 * s.size + spare ≤ limit

/-- What is said of a reading that fails: the limit is not the reason. -/
def Shallow (e : SyntaxError) (_ : State) : Prop := ¬ e.IsTooDeep

/-- A reading starts and stops with as many levels counted. -/
def Returns (s t : State) : Prop := t.Finished ∧ t.depth = s.depth

variable (limit : Nat)

/-- With two levels for each lexeme, a primary expression is read without reaching the limit. -/
def PrimaryAmple (s : State) : Prop :=
  Ample limit 0 s → (primary limit s).Meets (fun _ t => Returns s t) Shallow

/-- With one level more, an expression is read without reaching the limit. -/
def ExpressionAmple (power : Nat) (s : State) : Prop :=
  Ample limit 1 s → (expression limit power s).Meets (fun _ t => Returns s t) Shallow

/-- With one level more, items are read without reaching the limit. -/
def ItemsAmple (s : State) : Prop :=
  Ample limit 1 s → (items limit s).Meets (fun _ t => Returns s t) Shallow

/-- With one level more, further items are read without reaching the limit. -/
def MoreItemsAmple (s : State) : Prop :=
  Ample limit 1 s → (moreItems limit s).Meets (fun _ t => Returns s t) Shallow

/-- With one level more, a list is read without reaching the limit. -/
def ListAmple (close : Symbol) (s : State) : Prop :=
  Ample limit 1 s → (list limit close s).Meets (fun _ t => Returns s t) Shallow

/-- With two levels for each lexeme, suffixes are read without reaching the limit. -/
def SuffixesAmple (e : Expr) (s : State) : Prop :=
  Ample limit 0 s → (suffixes limit e s).Meets (fun _ t => t.Finished) Shallow

/-- With two levels for each lexeme, a prefixed expression is read without reaching the limit. -/
def PrefixedAmple (s : State) : Prop :=
  Ample limit 0 s → (prefixed limit s).Meets (fun _ t => Returns s t) Shallow

/-- With two levels for each lexeme, an operand is read without reaching the limit. -/
def PostfixedAmple (s : State) : Prop :=
  Ample limit 0 s → (postfixed limit s).Meets (fun _ t => Returns s t) Shallow

/-- With two levels for each lexeme, a chain is read without reaching the limit. -/
def ChainAmple (power : Nat) (left : Expr) (s : State) : Prop :=
  Ample limit 0 s → (chain limit power left s).Meets (fun _ t => t.Finished) Shallow

variable {limit : Nat} {s t u : State} {l : Lexeme} {rest : List Lexeme} {spare fewer : Nat}

/-- Where the lexemes end with the text, no error about the limit comes from them. -/
theorem Inherited.shallow {e : SyntaxError} (hi : Inherited s e) (hs : s.Finished) :
    Shallow e t := by
  intro he
  obtain ⟨p, hp⟩ := hs
  obtain ⟨after, ha⟩ := hi he
  exact absurd (hp.symm.trans ha) nofun

/-- Two readings that return do so one after the other. -/
theorem Returns.trans (h : Returns s t) (h' : Returns t u) : Returns s u :=
  ⟨h'.1, h'.2.trans h.2⟩

/-- Behind a reading that returns there is as much room as in front of it. -/
theorem Ample.after (hs : Ample limit spare s) (ht : Returns s t) (hle : t.size ≤ s.size) :
    Ample limit spare t := by
  have hr := hs.room
  refine ⟨ht.1, ?_⟩
  rw [ht.2]
  omega

/-- What leaves more levels leaves fewer. -/
theorem Ample.mono (hs : Ample limit spare s) (h : fewer ≤ spare) : Ample limit fewer s :=
  ⟨hs.finished, by have := hs.room; omega⟩

/-- A move over a token counts no level. -/
theorem advance_returns (hs : s.Finished) :
    (advance s l rest).Meets (fun _ t => Returns s t) Shallow := by
  refine (advance_meets s l rest).mono (fun _ t ht => ?_) fun e t he => he.shallow hs
  subst ht
  exact ⟨hs, rfl⟩

/-- The check for a symbol counts no level. -/
theorem expect_returns (c : Symbol) (hs : s.Finished) :
    (expect c s).Meets (fun _ t => Returns s t) Shallow := by
  refine (expect_meets c s).mono (fun _ t ⟨_, _, _, _, ht⟩ => ?_) fun e t he => he.shallow hs
  subst ht
  exact ⟨hs, rfl⟩

/-- The reading of a property name counts no level. -/
theorem propertyName_returns (hs : s.Finished) :
    (propertyName s).Meets (fun _ t => Returns s t) Shallow := by
  refine (propertyName_meets s).mono (fun _ t ⟨_, _, _, _, ht⟩ => ?_) fun e t he => he.shallow hs
  subst ht
  exact ⟨hs, rfl⟩

/-- The next lexeme leaves two levels behind it. -/
theorem Ample.behind (hs : Ample limit 0 s) (h : s.ahead = l :: rest) (ht : Returns s t)
    (hle : t.size ≤ rest.length) : Ample limit 2 t := by
  have hr := hs.room
  rw [s.size_eq h] at hr
  exact ⟨ht.1, by rw [ht.2]; omega⟩

/-- One more level is counted with one of those that are spare. -/
theorem descend_ample (hs : Ample limit (spare + 1) s) :
    (descend limit s).Meets
      (fun _ t => Ample limit spare t) Shallow := by
  have hr := hs.room
  refine (descend_meets limit s).mono (fun _ t ⟨hlt, ht⟩ => ?_) fun _ _ ⟨hle, _⟩ => ?_
  · subst ht
    refine ⟨hs.finished, ?_⟩
    rw [State.withDepth, State.size] at *
    dsimp only
    omega
  · omega

/-- One more level is counted with one of those of the next lexeme. -/
theorem descend_shallow (hs : Ample limit 0 s) (h : s.ahead = l :: rest) :
    (descend limit s).Meets
      (fun _ t => t.depth = s.depth + 1 ∧ t.Finished) Shallow := by
  have hr := hs.room
  rw [s.size_eq h] at hr
  refine (descend_meets limit s).mono (fun _ t ⟨_, ht⟩ => ?_) fun _ _ ⟨hle, _⟩ => ?_
  · subst ht
    exact ⟨rfl, hs.finished⟩
  · omega

/-- One more level for the next lexeme: it leaves one for the expression behind it. -/
theorem Ample.link {P : Expr → State → Prop} (hs : Ample limit 0 s) (h : s.ahead = l :: rest)
    {f : (s₀ : State) → s₀.size ≤ s.size → Unit → (t : State) → t.size ≤ rest.length → Step Expr n}
    (hf : ∀ s₀ le₀ a t le, Ample limit 1 t → (f s₀ le₀ a t le).Meets P Shallow) :
    ((descend limit s).andThen fun _ s₀ le₀ =>
      (advance s₀ l rest).andThen (f s₀ le₀)).Meets P Shallow := by
  have hr := hs.room
  rw [s.size_eq h] at hr
  refine (descend_shallow hs h).andThen fun _ s₀ le₀ ⟨hd, hfin⟩ => ?_
  refine (advance_returns hfin).andThen fun a t le ht => hf s₀ le₀ a t le ⟨ht.1, ?_⟩
  rw [ht.2, hd]
  omega

/-! ### Operands and lists -/

/-- Where no primary expression starts, the limit is not the reason. -/
theorem primaryAmple_fails (h : primary limit s = .error (unexpected s) s) :
    PrimaryAmple limit s := by
  intro _
  rw [h]
  unfold unexpected
  split <;> exact id

/-- A literal or a name counts no level. -/
theorem primaryAmple_atom (h : s.ahead = l :: rest) {e : Expr} (ha : atom? l.token = some e) :
    PrimaryAmple limit s := by
  intro hs
  rw [primary_atom h ha]
  refine ((advance_returns hs.finished).map fun _ _ ht => ?_).weaken _
  exact ht

/-- The word `in` as a name counts no level. -/
theorem primaryAmple_in (h : s.ahead = l :: rest) (ht : l.token = .word .inWord) :
    PrimaryAmple limit s := by
  intro hs
  rw [primary_in h ht, inAsName]
  refine ((advance_returns hs.finished).andThen fun _ t le ht => ?_).weaken _
  split
  · exact ht
  · exact id

/-- The parenthesis of a group leaves the levels for the expression inside. -/
theorem primaryAmple_group (h : s.ahead = l :: rest) (ht : l.token = .symbol .leftParen)
    (ih : ∀ t : State, t.size ≤ rest.length → ExpressionAmple limit 0 t) :
    PrimaryAmple limit s := by
  intro hs
  rw [primary_group h ht]
  refine (advance_returns hs.finished).andThen fun _ s₁ le₁ h₁ => ?_
  refine (ih s₁ le₁ ((hs.behind h h₁ le₁).mono (by decide))).andThen fun e s₂ le₂ h₂ => ?_
  refine ((expect_returns .rightParen h₂.1).map fun _ t h₃ => ?_).weaken _
  exact (h₁.trans h₂).trans h₃

/-- The bracket of a list leaves the levels for the items inside. -/
theorem primaryAmple_list (h : s.ahead = l :: rest) (ht : l.token = .symbol .leftBracket)
    (ih : ∀ t : State, t.size ≤ rest.length → ListAmple limit .rightBracket t) :
    PrimaryAmple limit s := by
  intro hs
  rw [primary_list h ht]
  refine (advance_returns hs.finished).andThen fun _ s₁ le₁ h₁ => ?_
  refine ((ih s₁ le₁ ((hs.behind h h₁ le₁).mono (by decide))).map fun _ t h₂ => ?_).weaken _
  exact h₁.trans h₂

/-- A list that is closed at once counts no level. -/
theorem listAmple_closed {close : Symbol} (h : s.token?.any (isSymbol close) = true) :
    ListAmple limit close s := by
  intro hs
  rw [list_closed h]
  refine ((expect_returns close hs.finished).map fun _ _ ht => ?_).weaken _
  exact ht

/-- A list needs the levels of its items. -/
theorem listAmple_open {close : Symbol} (h : ¬ s.token?.any (isSymbol close) = true)
    (ih : ItemsAmple limit s) : ListAmple limit close s := by
  intro hs
  rw [list_open h]
  refine (ih hs).andThen fun es s₁ le₁ h₁ => ?_
  refine ((expect_returns close h₁.1).map fun _ t h₂ => ?_).weaken _
  exact h₁.trans h₂

/-- The first item leaves as many levels for the further ones as it has found. -/
theorem itemsAmple (ihe : ExpressionAmple limit 0 s)
    (ihm : ∀ t : State, t.size ≤ s.size → MoreItemsAmple limit t) : ItemsAmple limit s := by
  intro hs
  rw [items]
  refine (ihe hs).andThen fun e s₁ le₁ h₁ => ?_
  refine ((ihm s₁ le₁ (hs.after h₁ le₁)).map fun _ t h₂ => ?_).weaken _
  exact h₁.trans h₂

/-- Without a comma no level is counted. -/
theorem moreItemsAmple_stop (h : moreItems limit s = .ok [] s (Nat.le_refl _)) :
    MoreItemsAmple limit s := by
  intro hs
  rw [h]
  exact ⟨hs.finished, rfl⟩

/-- The items behind a comma have the levels that are left there. -/
theorem moreItemsAmple_comma (h : s.ahead = l :: rest) (ht : l.token = .symbol .comma)
    (ih : ∀ t : State, t.size ≤ rest.length → ItemsAmple limit t) : MoreItemsAmple limit s := by
  intro hs
  rw [moreItems_comma h ht]
  refine (advance_returns hs.finished).andThen fun _ s₁ le₁ h₁ => ?_
  have hb := (hs.mono (Nat.zero_le 1)).behind h h₁ le₁
  exact ((ih s₁ le₁ (hb.mono (by decide))).mono (fun _ t h₂ => h₁.trans h₂)
    fun _ _ he => he).weaken _

/-! ### Members, calls and operators in front -/

section Suffixes

variable {e : Expr}

/-- Without a suffix no level is counted. -/
theorem suffixesAmple_stop (h : suffixes limit e s = .ok e s (Nat.le_refl _)) :
    SuffixesAmple limit e s := by
  intro hs
  rw [h]
  exact hs.finished

/-- The lexemes of a named member pay for its level. -/
theorem suffixesAmple_dot (h : s.ahead = l :: rest) (ht : l.token = .symbol .dot)
    (ih : ∀ (n : String) (t : State), t.size ≤ rest.length - 1 →
      SuffixesAmple limit (.member e (.name n) false) t) : SuffixesAmple limit e s := by
  intro hs
  rw [suffixes_dot h ht]
  refine hs.link h fun _ _ _ s₁ le₁ h₁ => ?_
  refine (propertyName_returns h₁.finished).andThen fun n s₂ le₂ h₂ => ?_
  exact (ih n s₂ (by omega) ((h₁.after h₂ (by omega)).mono (Nat.zero_le 1))).weaken _

/-- The lexemes of a computed member pay for its level and that of the property. -/
theorem suffixesAmple_bracket (h : s.ahead = l :: rest) (ht : l.token = .symbol .leftBracket)
    (ihe : ∀ t : State, t.size ≤ rest.length → ExpressionAmple limit 0 t)
    (ihs : ∀ (p : Expr) (t : State), t.size ≤ rest.length - 1 →
      SuffixesAmple limit (.member e p true) t) : SuffixesAmple limit e s := by
  intro hs
  rw [suffixes_bracket h ht]
  refine hs.link h fun _ _ _ s₁ le₁ h₁ => ?_
  refine (ihe s₁ le₁ h₁).andThen fun p s₂ le₂ h₂ => ?_
  refine (expect_returns .rightBracket h₂.1).andThen fun _ s₃ le₃ h₃ => ?_
  have := h₁.after (h₂.trans h₃) (by omega)
  exact (ihs p s₃ (by omega) (this.mono (Nat.zero_le 1))).weaken _

/-- The lexemes of a call pay for its level and those of its arguments. -/
theorem suffixesAmple_paren (h : s.ahead = l :: rest) (ht : l.token = .symbol .leftParen)
    (ihl : ∀ t : State, t.size ≤ rest.length → ListAmple limit .rightParen t)
    (ihs : ∀ (callee : String) (es : List Expr) (t : State), t.size ≤ rest.length →
      SuffixesAmple limit (.call callee es) t) : SuffixesAmple limit e s := by
  intro hs
  cases hn : e.calleeName? with
  | none =>
    rw [suffixes_nameless h ht hn]
    exact (descend_shallow hs h).andThen fun _ _ _ _ => id
  | some callee =>
    rw [suffixes_paren h ht hn]
    refine hs.link h fun _ _ _ s₁ le₁ h₁ => ?_
    refine (ihl s₁ le₁ h₁).andThen fun es s₂ le₂ h₂ => ?_
    have := (h₁.after h₂ le₂).mono (Nat.zero_le 1)
    exact (ihs callee es s₂ (by omega) this).weaken _

end Suffixes

/-- An operand needs the levels of its primary expression and its suffixes. -/
theorem postfixedAmple (ihp : PrimaryAmple limit s)
    (ihs : ∀ (e : Expr) (t : State), t.size ≤ s.size → SuffixesAmple limit e t) :
    PostfixedAmple limit s := by
  intro hs
  rw [postfixed]
  refine Step.Meets.restore ((ihp hs).andThen fun e s₁ le₁ h₁ => ?_)
  exact ((ihs e s₁ le₁ (hs.after h₁ le₁)).mono (fun _ t h₂ => ⟨h₂, rfl⟩) fun _ _ he => he).weaken _

/-- Without a prefix operator, the operand has all the levels. -/
theorem prefixedAmple_operand (h : prefixed limit s = postfixed limit s)
    (ih : PostfixedAmple limit s) : PrefixedAmple limit s := by
  intro hs
  rw [h]
  exact ih hs

/-- The operand of an operator in front of it, one level down. -/
theorem operandAmple (hs : Ample limit 1 s)
    (ih : ∀ t : State, t.size ≤ s.size → PrefixedAmple limit t) :
    (((descend limit s).andThen fun _ s₁ le₁ =>
      (prefixed limit s₁).weaken le₁).restore s.depth).Meets (fun _ t => Returns s t) Shallow := by
  refine Step.Meets.restore ((descend_ample hs).andThen fun _ s₁ le₁ h₁ => ?_)
  exact ((ih s₁ le₁ h₁).mono (fun _ t h₂ => ⟨h₂.1, rfl⟩) fun _ _ he => he).weaken _

/-- A prefix operator pays for the level of its operand. -/
theorem prefixedAmple_operator (h : s.ahead = l :: rest) {op : UnaryOp}
    (ho : UnaryOp.ofToken? l.token = some op)
    (ih : ∀ t : State, t.size ≤ rest.length → PrefixedAmple limit t) : PrefixedAmple limit s := by
  intro hs
  rw [prefixed_operator h ho]
  refine (advance_returns hs.finished).andThen fun _ s₁ le₁ h₁ => ?_
  have hb : Ample limit 1 s₁ := (hs.behind h h₁ le₁).mono (by decide)
  refine ((operandAmple hb fun t ht => ih t (Nat.le_trans ht le₁)).map fun _ t h₂ => ?_).weaken _
  exact h₁.trans h₂

/-! ### Connectives -/

section Chain

variable {c : Connective} {power : Nat} {left : Expr}

/-- Where a chain ends no level is counted. -/
theorem chainAmple_stop (h : chain limit power left s = .ok left s (Nat.le_refl _)) :
    ChainAmple limit power left s := by
  intro hs
  rw [h]
  exact hs.finished

/-- An operator pays for its link and for the expression behind it. -/
theorem chainAmple_operator (h : s.ahead = l :: rest)
    (hc : Connective.ofToken? l.token = some c) (hp : power ≤ c.leftPower)
    {node : Expr → Expr → Expr} (hn : c.node? = some node)
    (ihe : ∀ t : State, t.size ≤ rest.length → ExpressionAmple limit c.rightPower t)
    (ihc : ∀ (right : Expr) (t : State), t.size ≤ rest.length →
      ChainAmple limit power (node left right) t) : ChainAmple limit power left s := by
  intro hs
  rw [chain_operator h hc hp hn]
  refine hs.link h fun _ _ _ s₁ le₁ h₁ => ?_
  refine (ihe s₁ le₁ h₁).andThen fun right s₂ le₂ h₂ => ?_
  exact (ihc right s₂ (by omega) ((h₁.after h₂ le₂).mono (Nat.zero_le 1))).weaken _

/-- A question mark and a colon pay for their link and for both branches. -/
theorem chainAmple_conditional (h : s.ahead = l :: rest)
    (hc : Connective.ofToken? l.token = some c) (hp : power ≤ c.leftPower) (hn : c.node? = none)
    (ihp : ∀ t : State, t.size ≤ rest.length → ExpressionAmple limit 0 t)
    (ihn : ∀ t : State, t.size ≤ rest.length - 1 → ExpressionAmple limit c.rightPower t)
    (ihc : ∀ (positive negative : Expr) (t : State), t.size ≤ rest.length - 1 →
      ChainAmple limit power (.conditional left positive negative) t) :
    ChainAmple limit power left s := by
  intro hs
  rw [chain_conditional h hc hp hn]
  refine hs.link h fun _ _ _ s₁ le₁ h₁ => ?_
  refine (ihp s₁ le₁ h₁).andThen fun p s₂ le₂ h₂ => ?_
  refine (expect_returns .colon h₂.1).andThen fun _ s₃ le₃ h₃ => ?_
  have h₃' := h₁.after (h₂.trans h₃) (by omega)
  refine (ihn s₃ (by omega) h₃').andThen fun n s₄ le₄ h₄ => ?_
  exact (ihc p n s₄ (by omega) ((h₃'.after h₄ le₄).mono (Nat.zero_le 1))).weaken _

/-- An expression has one level for itself, and its parts have those of their lexemes. -/
theorem expressionAmple (ihp : ∀ t : State, t.size ≤ s.size → PrefixedAmple limit t)
    (ihc : ∀ (left : Expr) (t : State), t.size ≤ s.size → ChainAmple limit power left t) :
    ExpressionAmple limit power s := by
  intro hs
  rw [expression]
  refine Step.Meets.restore ((descend_ample hs).andThen fun _ s₁ le₁ h₁ => ?_)
  refine (ihp s₁ le₁ h₁).andThen fun left s₂ le₂ h₂ => ?_
  exact ((ihc left s₂ (Nat.le_trans le₂ le₁) (h₁.after h₂ le₂)).mono
    (fun _ t h₃ => ⟨h₃, rfl⟩) fun _ _ he => he).weaken _

end Chain

/-- With two levels for each lexeme no reader reaches the limit. -/
theorem ample_readers (limit : Nat) : EachReader (PrimaryAmple limit) (ListAmple limit)
    (ItemsAmple limit) (MoreItemsAmple limit) (ExpressionAmple limit) (ChainAmple limit)
    (PrefixedAmple limit) (PostfixedAmple limit) (SuffixesAmple limit) where
  primary_fails hp := primaryAmple_fails (hp limit _ rfl)
  primary_atom h he := primaryAmple_atom h he
  primary_in := primaryAmple_in
  primary_group := primaryAmple_group
  primary_list := primaryAmple_list
  list_closed := listAmple_closed
  list_open := listAmple_open
  items := itemsAmple
  moreItems_stop hm := moreItemsAmple_stop (hm limit _ rfl)
  moreItems_comma := moreItemsAmple_comma
  suffixes_stop hx _ := suffixesAmple_stop (hx limit _ rfl)
  suffixes_dot := suffixesAmple_dot
  suffixes_bracket := suffixesAmple_bracket
  suffixes_paren := suffixesAmple_paren
  postfixed := postfixedAmple
  prefixed_operand hx := prefixedAmple_operand (hx limit _ rfl)
  prefixed_operator h ho := prefixedAmple_operator h ho
  chain_stop hx _ := chainAmple_stop (hx limit _ rfl)
  chain_operator h hc hp hn := chainAmple_operator h hc hp hn
  chain_conditional h hc hp := chainAmple_conditional h hc hp rfl
  expression := expressionAmple

/-- A limit that leaves two levels for each lexeme is not reached. -/
theorem ample_expression (limit power : Nat) (s : State) : ExpressionAmple limit power s :=
  (ample_readers limit).holds power s

end Parser
end Expr
end RecordFilter
