/-
# What every reading keeps

A reading is made of few moves: it passes over a lexeme, counts one more level, and puts the count
back.  A property of states that these moves keep, together with a property of the errors that they
and the readers fail with and of the states in which they do (`Invariant`), is kept by every reading
(`Invariant.expression`), by induction over all of the readers at once.

So it is kept by readings of whole texts too, one after the other (`Reached.keeps`).

One such property says how the lexemes end.  A reader that has passed over the last lexeme has seen
the end of the text, so a text that is read as an expression has tokens up to its end
(`finished_of_whole`).
-/

import Mathlib
import RecordFilter.Proofs.Expr.Reading

namespace RecordFilter
namespace Expr
namespace Parser

variable {limit : Nat} {P : State → Prop} {E : SyntaxError → State → Prop}

/-- The states behind a step have the property `P`, or it fails with an error and in a state that
have `E`. -/
abbrev Step.Keeps (P : State → Prop) (E : SyntaxError → State → Prop) (x : Step α n) : Prop :=
  x.Meets (fun _ t => P t) E

/-- A reader keeps the properties from the state `s` on. -/
def KeepsFrom (P : State → Prop) (E : SyntaxError → State → Prop)
    (read : (s : State) → Step α s.size) (s : State) : Prop :=
  P s → (read s).Keeps P E

/-- The moves of a reader keep the property `P`, and the errors in states that have it have `E`. -/
structure Invariant (limit : Nat) (P : State → Prop) (E : SyntaxError → State → Prop) : Prop where
  advance {s l rest} (h : s.ahead = l :: rest) (hs : P s) : (advance s l rest).Keeps P E
  descend {s} (hlt : s.depth < limit) (hs : P s) : P (s.withDepth (s.depth + 1))
  restore {s t} (hs : P s) (ht : P t) : P (t.withDepth s.depth)
  restoreError {s t e} (hs : P s) (ht : E e t) : E e (t.withDepth s.depth)
  tooDeep {s} (hle : limit ≤ s.depth) (hs : P s) : E (.tooDeep limit s.position) s
  unexpectedEnd {s} (h : s.ahead = []) (hs : P s) : E (.unexpectedEnd s.position) s
  unexpectedToken {s t l rest} (h : s.ahead = l :: rest) (hs : P s) (ht : P t) :
    E (.unexpectedToken l.token l.start) t
  expected {s l rest} (h : s.ahead = l :: rest) (hs : P s) (x : Expectation) :
    E (.expected x l.token l.start) s
  invalidCallTarget {s t l rest} (h : s.ahead = l :: rest) (hs : P s) (ht : P t) :
    E (.invalidCallTarget l.start) t

namespace Invariant

variable {s : State} {l : Lexeme} {rest : List Lexeme}

/-! ### Steps that read no expression -/

/-- One more level keeps the properties. -/
theorem keeps_descend (h : Invariant limit P E) (hs : P s) :
    (Parser.descend limit s).Keeps P E := by
  unfold Parser.descend
  split
  · next hlt => exact h.descend hlt hs
  · next hlt => exact h.tooDeep (Nat.le_of_not_lt hlt) hs

/-- The check for a symbol keeps the properties. -/
theorem keeps_expect (h : Invariant limit P E) (c : Symbol) (hs : P s) :
    (expect c s).Keeps P E := by
  unfold expect
  split
  · next ha => exact h.unexpectedEnd ha hs
  · next l rest ha =>
    dsimp only
    split
    · exact (h.advance ha hs).weaken _
    · exact h.expected ha hs _

/-- The reading of a property name keeps the properties. -/
theorem keeps_propertyName (h : Invariant limit P E) (hs : P s) :
    (propertyName s).Keeps P E := by
  unfold propertyName
  split
  · next ha => exact h.unexpectedEnd ha hs
  · next l rest ha =>
    dsimp only
    split
    · exact ((h.advance ha hs).map fun _ _ => id).weaken _
    · exact h.expected ha hs _

/-- The reading of `in` as a name keeps the properties. -/
theorem keeps_inAsName (h : Invariant limit P E) (ha : s.ahead = l :: rest) (hs : P s) :
    (inAsName s l rest).Keeps P E := by
  refine (h.advance ha hs).andThen fun _ t le hp => ?_
  split
  · exact hp
  · exact h.unexpectedToken ha hs hp

/-- The error about what is in front has its property. -/
theorem unexpected (h : Invariant limit P E) (hs : P s) : E (unexpected s) s := by
  unfold Parser.unexpected
  split
  · next ha => exact h.unexpectedEnd ha hs
  · next ha => exact h.unexpectedToken ha hs hs

/-- What has been kept is kept when the count of levels is put back. -/
theorem keeps_restore (h : Invariant limit P E) (hs : P s) {x : Step α n} (hx : x.Keeps P E) :
    (x.restore s.depth).Keeps P E :=
  Step.Meets.restore (hx.mono (fun _ _ => h.restore hs) fun _ _ => h.restoreError hs)

/-! ### Operands and lists -/

/-- The properties are kept where no primary expression starts. -/
theorem primary_fails (h : Invariant limit P E)
    (hp : primary limit s = .error (Parser.unexpected s) s) : KeepsFrom P E (primary limit) s := by
  intro hs
  rw [hp]
  exact h.unexpected hs

/-- A literal or a name keeps the properties. -/
theorem primary_atom (h : Invariant limit P E) (ha : s.ahead = l :: rest) {e : Expr}
    (he : atom? l.token = some e) : KeepsFrom P E (primary limit) s := by
  intro hs
  rw [Parser.primary_atom ha he]
  exact ((h.advance ha hs).map fun _ _ => id).weaken _

/-- The word `in` keeps the properties. -/
theorem primary_in (h : Invariant limit P E) (ha : s.ahead = l :: rest)
    (ht : l.token = .word .inWord) : KeepsFrom P E (primary limit) s := by
  intro hs
  rw [Parser.primary_in ha ht]
  exact (h.keeps_inAsName ha hs).weaken _

/-- A group keeps the properties if the expression inside does. -/
theorem primary_group (h : Invariant limit P E) (ha : s.ahead = l :: rest)
    (ht : l.token = .symbol .leftParen)
    (ih : ∀ t : State, t.size ≤ rest.length → KeepsFrom P E (expression limit 0) t) :
    KeepsFrom P E (primary limit) s := by
  intro hs
  rw [Parser.primary_group ha ht]
  refine (h.advance ha hs).andThen fun _ s₁ le₁ h₁ => ?_
  refine (ih s₁ le₁ h₁).andThen fun e s₂ le₂ h₂ => ?_
  exact ((h.keeps_expect .rightParen h₂).map fun _ _ => id).weaken _

/-- A list in brackets keeps the properties if its inside does. -/
theorem primary_list (h : Invariant limit P E) (ha : s.ahead = l :: rest)
    (ht : l.token = .symbol .leftBracket)
    (ih : ∀ t : State, t.size ≤ rest.length → KeepsFrom P E (list limit .rightBracket) t) :
    KeepsFrom P E (primary limit) s := by
  intro hs
  rw [Parser.primary_list ha ht]
  refine (h.advance ha hs).andThen fun _ s₁ le₁ h₁ => ?_
  exact ((ih s₁ le₁ h₁).map fun _ _ => id).weaken _

/-- A list that is closed at once keeps the properties. -/
theorem list_closed (h : Invariant limit P E) {close : Symbol}
    (hc : s.token?.any (isSymbol close) = true) : KeepsFrom P E (list limit close) s := by
  intro hs
  rw [Parser.list_closed hc]
  exact ((h.keeps_expect close hs).map fun _ _ => id).weaken _

/-- A list keeps the properties if its items do. -/
theorem list_open (h : Invariant limit P E) {close : Symbol}
    (hc : ¬ s.token?.any (isSymbol close) = true) (ih : KeepsFrom P E (items limit) s) :
    KeepsFrom P E (list limit close) s := by
  intro hs
  rw [Parser.list_open hc]
  refine (ih hs).andThen fun es s₁ le₁ h₁ => ?_
  exact ((h.keeps_expect close h₁).map fun _ _ => id).weaken _

/-- Items keep the properties if the first one and the further ones do. -/
theorem items (ihe : KeepsFrom P E (Parser.expression limit 0) s)
    (ihm : ∀ t : State, t.size ≤ s.size → KeepsFrom P E (moreItems limit) t) :
    KeepsFrom P E (Parser.items limit) s := by
  intro hs
  rw [Parser.items]
  refine (ihe hs).andThen fun e s₁ le₁ h₁ => ?_
  exact ((ihm s₁ le₁ h₁).map fun _ _ => id).weaken _

/-- Without a comma the properties are kept. -/
theorem moreItems_stop (hm : moreItems limit s = .ok [] s (Nat.le_refl _)) :
    KeepsFrom P E (moreItems limit) s := by
  intro hs
  rw [hm]
  exact hs

/-- Further items keep the properties if the items behind the comma do. -/
theorem moreItems_comma (h : Invariant limit P E) (ha : s.ahead = l :: rest)
    (ht : l.token = .symbol .comma)
    (ih : ∀ t : State, t.size ≤ rest.length → KeepsFrom P E (Parser.items limit) t) :
    KeepsFrom P E (moreItems limit) s := by
  intro hs
  rw [Parser.moreItems_comma ha ht]
  refine (h.advance ha hs).andThen fun _ s₁ le₁ h₁ => ?_
  exact (ih s₁ le₁ h₁).weaken _

/-! ### Links -/

/-- One more level for the next lexeme. -/
theorem link {Q : Expr → State → Prop} (h : Invariant limit P E) (ha : s.ahead = l :: rest)
    (hs : P s)
    {f : (s₀ : State) → s₀.size ≤ s.size → Unit → (t : State) → t.size ≤ rest.length → Step Expr n}
    (hf : ∀ s₀ le₀ a t le, P t → (f s₀ le₀ a t le).Meets Q E) :
    ((Parser.descend limit s).andThen fun _ s₀ le₀ =>
      (Parser.advance s₀ l rest).andThen (f s₀ le₀)).Meets Q E := by
  unfold Parser.descend
  split
  · next hlt =>
    exact (h.advance (s := s.withDepth (s.depth + 1)) ha (h.descend hlt hs)).andThen
      fun a t le ht => hf _ _ a t le ht
  · next hlt => exact h.tooDeep (Nat.le_of_not_lt hlt) hs

section Suffixes

variable {e : Expr}

/-- Without a suffix the properties are kept. -/
theorem suffixes_stop (hx : suffixes limit e s = .ok e s (Nat.le_refl _)) :
    KeepsFrom P E (suffixes limit e) s := by
  intro hs
  rw [hx]
  exact hs

/-- A named member keeps the properties if the suffixes behind it do. -/
theorem suffixes_dot (h : Invariant limit P E) (ha : s.ahead = l :: rest)
    (ht : l.token = .symbol .dot)
    (ih : ∀ (n : String) (t : State), t.size ≤ rest.length - 1 →
      KeepsFrom P E (suffixes limit (.member e (.name n) false)) t) :
    KeepsFrom P E (suffixes limit e) s := by
  intro hs
  rw [Parser.suffixes_dot ha ht]
  refine h.link ha hs fun _ _ _ s₁ le₁ h₁ => ?_
  refine (h.keeps_propertyName h₁).andThen fun n s₂ le₂ h₂ => ?_
  exact (ih n s₂ (by omega) h₂).weaken _

/-- A computed member keeps the properties if its property and the suffixes behind it do. -/
theorem suffixes_bracket (h : Invariant limit P E) (ha : s.ahead = l :: rest)
    (ht : l.token = .symbol .leftBracket)
    (ihe : ∀ t : State, t.size ≤ rest.length → KeepsFrom P E (Parser.expression limit 0) t)
    (ihs : ∀ (p : Expr) (t : State), t.size ≤ rest.length - 1 →
      KeepsFrom P E (suffixes limit (.member e p true)) t) :
    KeepsFrom P E (suffixes limit e) s := by
  intro hs
  rw [Parser.suffixes_bracket ha ht]
  refine h.link ha hs fun _ _ _ s₁ le₁ h₁ => ?_
  refine (ihe s₁ le₁ h₁).andThen fun p s₂ le₂ h₂ => ?_
  refine (h.keeps_expect .rightBracket h₂).andThen fun _ s₃ le₃ h₃ => ?_
  exact (ihs p s₃ (by omega) h₃).weaken _

/-- A call keeps the properties if its arguments and the suffixes behind it do. -/
theorem suffixes_paren (h : Invariant limit P E) (ha : s.ahead = l :: rest)
    (ht : l.token = .symbol .leftParen)
    (ihl : ∀ t : State, t.size ≤ rest.length → KeepsFrom P E (list limit .rightParen) t)
    (ihs : ∀ (callee : String) (es : List Expr) (t : State), t.size ≤ rest.length →
      KeepsFrom P E (suffixes limit (.call callee es)) t) :
    KeepsFrom P E (suffixes limit e) s := by
  intro hs
  cases hn : e.calleeName? with
  | none =>
    rw [Parser.suffixes_nameless ha ht hn]
    exact (h.keeps_descend hs).andThen fun _ _ _ h₀ => h.invalidCallTarget ha hs h₀
  | some callee =>
    rw [Parser.suffixes_paren ha ht hn]
    refine h.link ha hs fun _ _ _ s₁ le₁ h₁ => ?_
    refine (ihl s₁ le₁ h₁).andThen fun es s₂ le₂ h₂ => ?_
    exact (ihs callee es s₂ (by omega) h₂).weaken _

end Suffixes

/-- An operand keeps the properties if its primary expression and its suffixes do. -/
theorem postfixed (h : Invariant limit P E) (ihp : KeepsFrom P E (primary limit) s)
    (ihs : ∀ (e : Expr) (t : State), t.size ≤ s.size → KeepsFrom P E (suffixes limit e) t) :
    KeepsFrom P E (Parser.postfixed limit) s := by
  intro hs
  rw [Parser.postfixed]
  refine h.keeps_restore hs ((ihp hs).andThen fun e s₁ le₁ h₁ => ?_)
  exact (ihs e s₁ le₁ h₁).weaken _

/-- Without a prefix operator, the properties are kept if the operand keeps them. -/
theorem prefixed_operand (hx : prefixed limit s = Parser.postfixed limit s)
    (ih : KeepsFrom P E (Parser.postfixed limit) s) : KeepsFrom P E (prefixed limit) s := by
  intro hs
  rw [hx]
  exact ih hs

/-- The operand behind an operator in front, and the count put back. -/
theorem operand (h : Invariant limit P E)
    (ih : ∀ t : State, t.size ≤ s.size → KeepsFrom P E (prefixed limit) t) (hs : P s) :
    (((Parser.descend limit s).andThen fun _ s₁ le₁ =>
      (prefixed limit s₁).weaken le₁).restore s.depth).Keeps P E := by
  refine h.keeps_restore hs ((h.keeps_descend hs).andThen fun _ s₁ le₁ h₁ => ?_)
  exact (ih s₁ le₁ h₁).weaken _

/-- A prefix operator keeps the properties if its operand does. -/
theorem prefixed_operator (h : Invariant limit P E) (ha : s.ahead = l :: rest) {op : UnaryOp}
    (ho : UnaryOp.ofToken? l.token = some op)
    (ih : ∀ t : State, t.size ≤ rest.length → KeepsFrom P E (prefixed limit) t) :
    KeepsFrom P E (prefixed limit) s := by
  intro hs
  rw [Parser.prefixed_operator ha ho]
  refine (h.advance ha hs).andThen fun _ s₁ le₁ h₁ => ?_
  have hp := h.operand (fun t ht => ih t (Nat.le_trans ht le₁)) h₁
  exact (hp.map fun _ _ => id).weaken _

section Chain

variable {c : Connective} {power : Nat} {left : Expr}

/-- Where a chain ends the properties are kept. -/
theorem chain_stop (hx : chain limit power left s = .ok left s (Nat.le_refl _)) :
    KeepsFrom P E (chain limit power left) s := by
  intro hs
  rw [hx]
  exact hs

/-- A link keeps the properties if its right operand and the chain behind it do. -/
theorem chain_operator (h : Invariant limit P E) (ha : s.ahead = l :: rest)
    (hc : Connective.ofToken? l.token = some c) (hp : power ≤ c.leftPower)
    {node : Expr → Expr → Expr} (hn : c.node? = some node)
    (ihe : ∀ t : State, t.size ≤ rest.length →
      KeepsFrom P E (Parser.expression limit c.rightPower) t)
    (ihc : ∀ (right : Expr) (t : State), t.size ≤ rest.length →
      KeepsFrom P E (chain limit power (node left right)) t) :
    KeepsFrom P E (chain limit power left) s := by
  intro hs
  rw [Parser.chain_operator ha hc hp hn]
  refine h.link ha hs fun _ _ _ s₁ le₁ h₁ => ?_
  refine (ihe s₁ le₁ h₁).andThen fun right s₂ le₂ h₂ => ?_
  exact (ihc right s₂ (by omega) h₂).weaken _

/-- A conditional keeps the properties if its branches and the chain behind it do. -/
theorem chain_conditional (h : Invariant limit P E) (ha : s.ahead = l :: rest)
    (hc : Connective.ofToken? l.token = some c) (hp : power ≤ c.leftPower) (hn : c.node? = none)
    (ihp : ∀ t : State, t.size ≤ rest.length → KeepsFrom P E (Parser.expression limit 0) t)
    (ihn : ∀ t : State, t.size ≤ rest.length - 1 →
      KeepsFrom P E (Parser.expression limit c.rightPower) t)
    (ihc : ∀ (positive negative : Expr) (t : State), t.size ≤ rest.length - 1 →
      KeepsFrom P E (chain limit power (.conditional left positive negative)) t) :
    KeepsFrom P E (chain limit power left) s := by
  intro hs
  rw [Parser.chain_conditional ha hc hp hn]
  refine h.link ha hs fun _ _ _ s₁ le₁ h₁ => ?_
  refine (ihp s₁ le₁ h₁).andThen fun p s₂ le₂ h₂ => ?_
  refine (h.keeps_expect .colon h₂).andThen fun _ s₃ le₃ h₃ => ?_
  refine (ihn s₃ (by omega) h₃).andThen fun n s₄ le₄ h₄ => ?_
  exact (ihc p n s₄ (by omega) h₄).weaken _

/-- An expression keeps the properties if its first operand and the chain behind it do. -/
theorem expression_chain (h : Invariant limit P E)
    (ihp : ∀ t : State, t.size ≤ s.size → KeepsFrom P E (prefixed limit) t)
    (ihc : ∀ (left : Expr) (t : State), t.size ≤ s.size →
      KeepsFrom P E (chain limit power left) t) :
    KeepsFrom P E (Parser.expression limit power) s := by
  intro hs
  rw [Parser.expression]
  refine h.keeps_restore hs ((h.keeps_descend hs).andThen fun _ s₁ le₁ h₁ => ?_)
  refine (ihp s₁ le₁ h₁).andThen fun left s₂ le₂ h₂ => ?_
  exact (ihc left s₂ (Nat.le_trans le₂ le₁) h₂).weaken _

end Chain

/-- Every reader keeps the properties. -/
theorem readers (h : Invariant limit P E) : EachReader (KeepsFrom P E (primary limit))
    (fun close => KeepsFrom P E (list limit close)) (KeepsFrom P E (Parser.items limit))
    (KeepsFrom P E (moreItems limit)) (fun power => KeepsFrom P E (Parser.expression limit power))
    (fun power left => KeepsFrom P E (chain limit power left)) (KeepsFrom P E (prefixed limit))
    (KeepsFrom P E (Parser.postfixed limit)) (fun e => KeepsFrom P E (suffixes limit e)) where
  primary_fails hp := h.primary_fails (hp limit _ rfl)
  primary_atom ha he := h.primary_atom ha he
  primary_in := h.primary_in
  primary_group := h.primary_group
  primary_list := h.primary_list
  list_closed := h.list_closed
  list_open := h.list_open
  items := items
  moreItems_stop hm := moreItems_stop (hm limit _ rfl)
  moreItems_comma := h.moreItems_comma
  suffixes_stop hx _ := suffixes_stop (hx limit _ rfl)
  suffixes_dot := h.suffixes_dot
  suffixes_bracket := h.suffixes_bracket
  suffixes_paren := h.suffixes_paren
  postfixed := h.postfixed
  prefixed_operand hx := prefixed_operand (hx limit _ rfl)
  prefixed_operator ha ho := h.prefixed_operator ha ho
  chain_stop hx _ := chain_stop (hx limit _ rfl)
  chain_operator ha hc hp hn := h.chain_operator ha hc hp hn
  chain_conditional ha hc hp := h.chain_conditional ha hc hp rfl
  expression := h.expression_chain

/-- **Every reading keeps what its moves keep.** -/
theorem expression (h : Invariant limit P E) (power : Nat) (s : State) :
    KeepsFrom P E (Parser.expression limit power) s :=
  h.readers.holds power s

end Invariant

/-- Nothing is kept where nothing holds. -/
theorem Invariant.of_false (limit : Nat) (E : SyntaxError → State → Prop)
    (hE : ∀ {e s} d, E e s → E e (State.withDepth s d)) : Invariant limit (fun _ => False) E where
  advance _ h := h.elim
  descend _ h := h
  restore h _ := h
  restoreError _ := hE _
  tooDeep _ h := h.elim
  unexpectedEnd _ h := h.elim
  unexpectedToken _ h := h.elim
  expected _ h := h.elim
  invalidCallTarget _ h := h.elim

/-- What holds anyway is kept. -/
theorem Invariant.of_true (limit : Nat) : Invariant limit (fun _ => True) fun _ _ => True where
  advance _ _ := Step.meets_true _
  descend _ _ := trivial
  restore _ _ := trivial
  restoreError _ _ := trivial
  tooDeep _ _ := trivial
  unexpectedEnd _ _ := trivial
  unexpectedToken _ _ _ := trivial
  expected _ _ _ := trivial
  invalidCallTarget _ _ _ := trivial

/-! ### Whole texts -/

/-- A reading of a whole text ends in a state with the property `P`, or fails with an error and in a
state that have `E`. -/
def Ends (P : State → Prop) (E : SyntaxError → State → Prop) :
    Except SyntaxError Expr × State → Prop
  | (.ok _, t) => P t
  | (.error e, t) => E e t

/-- A whole reading that fails does so with the property of errors. -/
theorem Ends.of_error {r : Except SyntaxError Expr × State} {e : SyntaxError} (h : Ends P E r)
    (he : r.1 = .error e) : E e r.2 := by
  obtain ⟨r, t⟩ := r
  cases he
  exact h

/-- A whole reading ends with what the reading of its expression has kept. -/
theorem Invariant.ends {s : State} (h : Invariant limit P E)
    (hx : (Parser.expression limit 0 s).Keeps P E) : Ends P E (whole limit s) := by
  unfold whole
  cases he : Parser.expression limit 0 s with
  | error e t =>
    rw [he] at hx
    exact hx
  | ok a t le =>
    rw [he] at hx
    dsimp only
    split
    · exact hx
    · next ha => exact h.expected ha hx _

/-- A reading of a whole text keeps the properties. -/
theorem Invariant.whole {s : State} (h : Invariant limit P E) (hs : P s) :
    Ends P E (Parser.whole limit s) :=
  h.ends (h.expression 0 s hs)

/-- The states between readings one after the other, whether they succeed or fail. -/
inductive Reached (limit : Nat) (text : String) : State → Prop where
  | start {s} (h : State.ofText text = .ok s) : Reached limit text s
  | again {s} (h : Reached limit text s) : Reached limit text (Parser.whole limit s).2

/-- What the start has, and every reading leaves behind, holds in every state between readings. -/
theorem Reached.keeps {text : String} {s : State} (hr : Reached limit text s)
    (h : Invariant limit P E) (hP : ∀ s, State.ofText text = .ok s → P s)
    (hE : ∀ e s, E e s → P s) : P s := by
  induction hr with
  | start h => exact hP _ h
  | @again s _ ih =>
    have he := h.whole ih
    cases hw : Parser.whole limit s with
    | mk r t =>
      rw [hw] at he
      cases r with
      | ok a => exact he
      | error e => exact hE e t he

/-! ### How the lexemes end -/

/-- While the lexemes end with `ending`, none is left only if that is the end of the text. -/
def EndsWith (ending : Ending) (s : State) : Prop :=
  s.ending = ending ∧ (s.ahead = [] → s.Finished)

/-- Readings do not change how the lexemes end. -/
theorem endsWith_invariant (limit : Nat) (ending : Ending) :
    Invariant limit (EndsWith ending) fun _ _ => True where
  advance {s l rest} _ hs := by
    obtain ⟨ahead, ending', depth⟩ := s
    cases rest with
    | cons => exact ⟨hs.1, nofun⟩
    | nil =>
      cases ending' with
      | finished p => exact ⟨hs.1, fun _ => ⟨p, rfl⟩⟩
      | broken => trivial
  descend _ hs := hs
  restore _ ht := ht
  restoreError _ _ := trivial
  tooDeep _ _ := trivial
  unexpectedEnd _ _ := trivial
  unexpectedToken _ _ _ := trivial
  expected _ _ _ := trivial
  invalidCallTarget _ _ _ := trivial

/-- What is read as a whole expression has tokens up to its end. -/
theorem finished_of_whole {s : State} {e : Expr} (h : (whole limit s).1 = .ok e)
    (hs : s.ahead = [] → s.Finished) : s.Finished := by
  obtain ⟨t, hy, ht⟩ := yields_of_whole h
  have hk := (endsWith_invariant limit s.ending).expression 0 s ⟨rfl, hs⟩
  obtain ⟨he, hf⟩ := hk.of_yields hy
  obtain ⟨p, hp⟩ := hf ht
  exact ⟨p, he.symm.trans hp⟩

end Parser
end Expr
end RecordFilter
