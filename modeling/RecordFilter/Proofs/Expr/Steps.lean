/-
# Steps of the reader

What is shared by all that is proved about reading expressions.  `Step.Meets` says what holds behind
a step that succeeds and what of one that fails, and goes through the ways in which steps are
combined; `Step.Yields` names the one result of a step that succeeds.  Then come the steps that
read no expression (`advance_meets`, `descend_meets`, `expect_meets`, `propertyName_meets`), and the
equations of the steps that do, one for each thing that can stand in front.
-/

import Mathlib
import RecordFilter.Expr.Parser

namespace RecordFilter

/-- Whether an error is about too many levels. -/
def SyntaxError.IsTooDeep : SyntaxError → Prop
  | tooDeep .. => True
  | _ => False

namespace Expr
namespace Parser

namespace State

/-- The size of a state counts its lexemes. -/
theorem size_eq {s : State} {l : Lexeme} {rest : List Lexeme} (h : s.ahead = l :: rest) :
    s.size = rest.length + 1 := by
  rw [size, h, List.length_cons]

end State

namespace Step

/-- What a step has read and where it stands behind it. -/
def Yields (x : Step α n) (a : α) (t : State) : Prop := ∃ le, x = ok a t le

/-- What holds behind a step: `P` if it succeeds, `E` if it fails. -/
def Meets (P : α → State → Prop) (E : SyntaxError → State → Prop) : Step α n → Prop
  | ok a s _ => P a s
  | error e s => E e s

variable {x : Step α m} {a : α} {b : β} {s t : State} {d : Nat}
variable {P P' : α → State → Prop} {Q : β → State → Prop} {E E' : SyntaxError → State → Prop}

/-- A step that succeeds yields its result. -/
theorem yields_ok (le : t.size ≤ n) : (ok a t le : Step α n).Yields a t := ⟨le, rfl⟩

/-- A step that promises less about what is left yields the same. -/
theorem Yields.weaken (h : x.Yields a t) (le : m ≤ n) : (x.weaken le).Yields a t := by
  obtain ⟨_, rfl⟩ := h
  exact ⟨_, rfl⟩

/-- A step yields what is made of its result. -/
theorem Yields.map (h : x.Yields a t) (f : α → β) : (x.map f).Yields (f a) t := by
  obtain ⟨_, rfl⟩ := h
  exact ⟨_, rfl⟩

/-- A step that puts the depth back yields the same result. -/
theorem Yields.restore (h : x.Yields a t) (d : Nat) :
    (x.restore d).Yields a (t.withDepth d) := by
  obtain ⟨le, rfl⟩ := h
  exact ⟨le, rfl⟩

/-- Two steps yield what the second one yields from where the first one ends. -/
theorem Yields.andThen {f : (a : α) → (s : State) → s.size ≤ m → Step β n} (h : x.Yields a s)
    (hf : ∀ le, (f a s le).Yields b t) : (x.andThen f).Yields b t := by
  obtain ⟨le, rfl⟩ := h
  exact hf le

/-- A step meets weaker conditions. -/
theorem Meets.mono (h : x.Meets P E) (hP : ∀ a s, P a s → P' a s) (hE : ∀ e s, E e s → E' e s) :
    x.Meets P' E' := by
  cases x with
  | ok a s _ => exact hP a s h
  | error e s => exact hE e s h

/-- Every step meets conditions that say nothing. -/
theorem meets_true (x : Step α n) : x.Meets (fun _ _ => True) fun _ _ => True := by
  cases x <;> trivial

/-- A step that promises less about what is left meets the same conditions. -/
theorem Meets.weaken (h : x.Meets P E) (le : m ≤ n) : (x.weaken le).Meets P E := by
  cases x <;> exact h

/-- A step meets what its conditions give for what is made of its result. -/
theorem Meets.map {f : α → β} (h : x.Meets P E) (hf : ∀ a s, P a s → Q (f a) s) :
    (x.map f).Meets Q E := by
  cases x with
  | ok a s _ => exact hf a s h
  | error e s => exact h

/-- A step that puts the depth back meets conditions that speak of the depth put back. -/
theorem Meets.restore
    (h : x.Meets (fun a s => P a (s.withDepth d)) (fun e s => E e (s.withDepth d))) :
    (x.restore d).Meets P E := by
  cases x <;> exact h

/-- Two steps meet what the second one meets wherever the first one may end. -/
theorem Meets.andThen {f : (a : α) → (s : State) → s.size ≤ m → Step β n} (h : x.Meets P E)
    (hf : ∀ a s le, P a s → (f a s le).Meets Q E) : (x.andThen f).Meets Q E := by
  cases x with
  | ok a s le => exact hf a s le h
  | error e s => exact h

end Step

variable {limit : Nat} {s t : State} {l : Lexeme} {rest : List Lexeme}

/-! ### Steps that read no expression -/

/-- An error about too many levels that no reader has found: it is how the lexemes end. -/
def Inherited (s : State) (e : SyntaxError) : Prop :=
  e.IsTooDeep → ∃ after, s.ending = .broken e after

/-- A move over a token succeeds, or it finds how the lexemes end. -/
theorem advance_meets (s : State) (l : Lexeme) (rest : List Lexeme) :
    (advance s l rest).Meets (fun _ t => t = { s with ahead := rest })
      (fun e _ => Inherited s e) := by
  obtain ⟨ahead, ending, depth⟩ := s
  cases rest with
  | cons => rfl
  | nil =>
    cases ending with
    | finished => rfl
    | broken e after => exact fun _ => ⟨after, rfl⟩

/-- Where the lexemes end with the text, a move over a token succeeds. -/
theorem advance_yields {p : Nat} (h : s.ending = .finished p) (l : Lexeme) (rest : List Lexeme) :
    (advance s l rest).Yields () { s with ahead := rest } := by
  obtain ⟨ahead, ending, depth⟩ := s
  cases h
  cases rest <;> exact Step.yields_ok _

/-- One more level is counted if and only if the limit leaves it. -/
theorem descend_meets (limit : Nat) (s : State) :
    (descend limit s).Meets (fun _ t => s.depth < limit ∧ t = s.withDepth (s.depth + 1))
      (fun _ t => limit ≤ s.depth ∧ t = s) := by
  unfold descend
  split
  · next h => exact ⟨h, rfl⟩
  · next h => exact ⟨Nat.le_of_not_lt h, rfl⟩

/-- One more level is counted below the limit. -/
theorem descend_yields (h : s.depth < limit) :
    (descend limit s).Yields () (s.withDepth (s.depth + 1)) := by
  unfold descend
  rw [if_pos h]
  exact Step.yields_ok _

/-- A token passes the check for a symbol if it is this symbol. -/
theorem isSymbol_iff {c : Symbol} {t : Token} : isSymbol c t = true ↔ t = .symbol c := by
  cases t <;> simp [isSymbol]

/-- The check for a symbol moves over it, or fails with an error of its own or of the lexemes. -/
theorem expect_meets (c : Symbol) (s : State) :
    (expect c s).Meets
      (fun _ t => ∃ l rest, s.ahead = l :: rest ∧ l.token = .symbol c ∧
        t = { s with ahead := rest })
      (fun e _ => Inherited s e) := by
  unfold expect
  split
  · exact False.elim
  · next l rest h =>
    dsimp only
    split
    · next hc =>
      exact ((advance_meets s l rest).mono
        (fun _ t ht => ⟨l, rest, h, isSymbol_iff.1 hc, ht⟩) fun _ _ => id).weaken _
    · exact False.elim

/-- The check for a symbol that is in front succeeds where the lexemes end with the text. -/
theorem expect_yields {p : Nat} {c : Symbol} (he : s.ending = .finished p)
    (h : s.ahead = l :: rest) (hc : l.token = .symbol c) :
    (expect c s).Yields () { s with ahead := rest } := by
  unfold expect
  split
  · next h' => rw [h] at h'; cases h'
  · next l' rest' h' =>
    cases h.symm.trans h'
    dsimp only
    rw [if_pos (isSymbol_iff.2 hc)]
    exact (advance_yields he l rest).weaken _

/-- The reading of a property name moves over it, or fails with an error of its own or of the
lexemes. -/
theorem propertyName_meets (s : State) :
    (propertyName s).Meets
      (fun n t => ∃ l rest, s.ahead = l :: rest ∧ propertyName? l.token = some n ∧
        t = { s with ahead := rest })
      (fun e _ => Inherited s e) := by
  unfold propertyName
  split
  · exact False.elim
  · next l rest h =>
    dsimp only
    split
    · next n hn =>
      exact ((advance_meets s l rest).map fun _ t ht => ⟨l, rest, h, hn, ht⟩).weaken _
    · exact False.elim

/-- A property name in front is read where the lexemes end with the text. -/
theorem propertyName_yields {p : Nat} {n : String} (he : s.ending = .finished p)
    (h : s.ahead = l :: rest) (hn : propertyName? l.token = some n) :
    (propertyName s).Yields n { s with ahead := rest } := by
  unfold propertyName
  split
  · next h' => rw [h] at h'; cases h'
  · next l' rest' h' =>
    cases h.symm.trans h'
    dsimp only
    split
    · next n' hn' =>
      cases hn.symm.trans hn'
      exact ((advance_yields he l rest).map _).weaken _
    · next hn' => rw [hn] at hn'; cases hn'

/-! ### Equations of the reader -/

/-- Below the limit, one more level is counted. -/
theorem descend_counts (h : s.depth < limit) :
    descend limit s = .ok () (s.withDepth (s.depth + 1)) (Nat.le_refl _) :=
  if_pos h

/-- At the limit, one more level is refused. -/
theorem descend_refuses (h : ¬ s.depth < limit) :
    descend limit s = .error (.tooDeep limit s.position) s :=
  if_neg h

/-- A symbol is missing at the end of the lexemes. -/
theorem expect_nil (h : s.ahead = []) (c : Symbol) :
    expect c s = .error (.unexpectedEnd s.position) s := by
  obtain ⟨ahead, ending, depth⟩ := s
  cases h
  rfl

/-- The symbol that is expected is moved over. -/
theorem expect_symbol {c : Symbol} (h : s.ahead = l :: rest) (hc : l.token = .symbol c) :
    expect c s = (advance s l rest).weaken (by rw [s.size_eq h]; omega) := by
  obtain ⟨ahead, ending, depth⟩ := s
  cases h
  simp only [expect, isSymbol_iff.2 hc, if_true]

/-- Another token than the symbol that is expected is refused. -/
theorem expect_other {c : Symbol} (h : s.ahead = l :: rest) (hc : l.token ≠ .symbol c) :
    expect c s = .error (.expected (.symbol c) l.token l.start) s := by
  obtain ⟨ahead, ending, depth⟩ := s
  cases h
  simp only [expect, isSymbol_iff, hc, if_false]

/-- A property name is missing at the end of the lexemes. -/
theorem propertyName_nil (h : s.ahead = []) :
    propertyName s = .error (.unexpectedEnd s.position) s := by
  obtain ⟨ahead, ending, depth⟩ := s
  cases h
  rfl

/-- A property name is moved over and given. -/
theorem propertyName_name {n : String} (h : s.ahead = l :: rest)
    (hn : propertyName? l.token = some n) :
    propertyName s = ((advance s l rest).map fun _ => n).weaken
      (by rw [s.size_eq h]; omega) := by
  obtain ⟨ahead, ending, depth⟩ := s
  cases h
  simp only [propertyName, hn]

/-- A token that is no property name is refused. -/
theorem propertyName_other (h : s.ahead = l :: rest) (hn : propertyName? l.token = none) :
    propertyName s = .error (.expected .propertyName l.token l.start) s := by
  obtain ⟨ahead, ending, depth⟩ := s
  cases h
  simp only [propertyName, hn]

/-- No primary expression starts at the end of the lexemes. -/
theorem primary_nil (h : s.ahead = []) : primary limit s = .error (unexpected s) s := by
  obtain ⟨ahead, ending, depth⟩ := s
  cases h
  rw [primary]

/-- A literal or a name is an expression. -/
theorem primary_atom (h : s.ahead = l :: rest) {e : Expr} (ha : atom? l.token = some e) :
    primary limit s = ((advance s l rest).map fun _ => e).weaken (by rw [s.size_eq h]; omega) := by
  obtain ⟨ahead, ending, depth⟩ := s
  cases h
  rw [primary]
  simp only [ha]

/-- The word `in` may be the name of a function. -/
theorem primary_in (h : s.ahead = l :: rest) (ht : l.token = .word .inWord) :
    primary limit s = (inAsName s l rest).weaken (by rw [s.size_eq h]; omega) := by
  obtain ⟨ahead, ending, depth⟩ := s
  cases h
  rw [primary]
  simp only [ht, atom?]

/-- A left parenthesis starts a group. -/
theorem primary_group (h : s.ahead = l :: rest) (ht : l.token = .symbol .leftParen) :
    primary limit s = (advance s l rest).andThen fun _ s₁ le₁ =>
      (expression limit 0 s₁).andThen fun inner s₂ le₂ =>
        ((expect .rightParen s₂).map fun _ => inner).weaken (by rw [s.size_eq h]; omega) := by
  obtain ⟨ahead, ending, depth⟩ := s
  cases h
  rw [primary]
  simp only [ht, atom?]

/-- A left bracket starts a list. -/
theorem primary_list (h : s.ahead = l :: rest) (ht : l.token = .symbol .leftBracket) :
    primary limit s = (advance s l rest).andThen fun _ s₁ le₁ =>
      ((list limit .rightBracket s₁).map .list).weaken (by rw [s.size_eq h]; omega) := by
  obtain ⟨ahead, ending, depth⟩ := s
  cases h
  rw [primary]
  simp only [ht, atom?]

/-- No primary expression starts with another token. -/
theorem primary_other (h : s.ahead = l :: rest) (ha : atom? l.token = none)
    (hi : l.token ≠ .word .inWord) (hp : l.token ≠ .symbol .leftParen)
    (hb : l.token ≠ .symbol .leftBracket) : primary limit s = .error (unexpected s) s := by
  obtain ⟨ahead, ending, depth⟩ := s
  cases h
  rw [primary]
  dsimp only
  split
  · next h => rw [ha] at *; contradiction
  · next h => exact absurd h hi
  · next h => exact absurd h hp
  · next h => exact absurd h hb
  · rfl

/-- A list that is closed at once is empty. -/
theorem list_closed {close : Symbol} (h : s.token?.any (isSymbol close) = true) :
    list limit close s = ((expect close s).map fun _ => []).weaken (Nat.sub_le s.size 1) := by
  rw [list, if_pos h]

/-- A list that is not closed at once has items. -/
theorem list_open {close : Symbol} (h : ¬ s.token?.any (isSymbol close) = true) :
    list limit close s = (items limit s).andThen fun es s₁ le₁ =>
      ((expect close s₁).map fun _ => es).weaken (Nat.le_trans (Nat.sub_le s₁.size 1) le₁) := by
  rw [list, if_neg h]

/-- No further items follow at the end of the lexemes. -/
theorem moreItems_nil (h : s.ahead = []) :
    moreItems limit s = .ok [] s (Nat.le_refl _) := by
  obtain ⟨ahead, ending, depth⟩ := s
  cases h
  rw [moreItems]

/-- Further items follow behind a comma. -/
theorem moreItems_comma (h : s.ahead = l :: rest) (ht : l.token = .symbol .comma) :
    moreItems limit s = (advance s l rest).andThen fun _ s₁ le₁ =>
      (items limit s₁).weaken (by rw [s.size_eq h]; omega) := by
  obtain ⟨ahead, ending, depth⟩ := s
  cases h
  rw [moreItems]
  simp only [isSymbol_iff.2 ht, if_true]

/-- No further items follow in front of another token. -/
theorem moreItems_other (h : s.ahead = l :: rest) (ht : l.token ≠ .symbol .comma) :
    moreItems limit s = .ok [] s (Nat.le_refl _) := by
  obtain ⟨ahead, ending, depth⟩ := s
  cases h
  rw [moreItems]
  simp only [isSymbol_iff, ht, if_false]

variable {e : Expr}

/-- No suffix follows at the end of the lexemes. -/
theorem suffixes_nil (h : s.ahead = []) : suffixes limit e s = .ok e s (Nat.le_refl _) := by
  obtain ⟨ahead, ending, depth⟩ := s
  cases h
  rw [suffixes]

/-- A dot adds a level, and its name is a member. -/
theorem suffixes_dot (h : s.ahead = l :: rest) (ht : l.token = .symbol .dot) :
    suffixes limit e s = (descend limit s).andThen fun _ s₀ _ =>
      (advance s₀ l rest).andThen fun _ s₁ le₁ =>
        (propertyName s₁).andThen fun n s₂ le₂ =>
          (suffixes limit (.member e (.name n) false) s₂).weaken (by rw [s.size_eq h]; omega) := by
  obtain ⟨ahead, ending, depth⟩ := s
  cases h
  rw [suffixes]
  simp only [ht]

/-- A left bracket adds a level, and the expression inside is the property of a member. -/
theorem suffixes_bracket (h : s.ahead = l :: rest) (ht : l.token = .symbol .leftBracket) :
    suffixes limit e s = (descend limit s).andThen fun _ s₀ _ =>
      (advance s₀ l rest).andThen fun _ s₁ le₁ =>
        (expression limit 0 s₁).andThen fun property s₂ le₂ =>
          (expect .rightBracket s₂).andThen fun _ s₃ le₃ =>
            (suffixes limit (.member e property true) s₃).weaken
              (by rw [s.size_eq h]; omega) := by
  obtain ⟨ahead, ending, depth⟩ := s
  cases h
  rw [suffixes]
  simp only [ht]

/-- A left parenthesis behind a callee adds a level, and the list inside are its arguments. -/
theorem suffixes_paren (h : s.ahead = l :: rest) (ht : l.token = .symbol .leftParen)
    {callee : String} (hc : e.calleeName? = some callee) :
    suffixes limit e s = (descend limit s).andThen fun _ s₀ _ =>
      (advance s₀ l rest).andThen fun _ s₁ le₁ =>
        (list limit .rightParen s₁).andThen fun arguments s₂ le₂ =>
          (suffixes limit (.call callee arguments) s₂).weaken (by rw [s.size_eq h]; omega) := by
  obtain ⟨ahead, ending, depth⟩ := s
  cases h
  rw [suffixes]
  simp only [ht, hc]

/-- A left parenthesis behind what has no name to call is refused. -/
theorem suffixes_nameless (h : s.ahead = l :: rest) (ht : l.token = .symbol .leftParen)
    (hc : e.calleeName? = none) :
    suffixes limit e s = (descend limit s).andThen fun _ s₀ _ =>
      .error (.invalidCallTarget l.start) s₀ := by
  obtain ⟨ahead, ending, depth⟩ := s
  cases h
  rw [suffixes]
  simp only [ht, hc]

/-- No suffix follows in front of another token. -/
theorem suffixes_other (h : s.ahead = l :: rest) (hd : l.token ≠ .symbol .dot)
    (hb : l.token ≠ .symbol .leftBracket) (hp : l.token ≠ .symbol .leftParen) :
    suffixes limit e s = .ok e s (Nat.le_refl _) := by
  obtain ⟨ahead, ending, depth⟩ := s
  cases h
  rw [suffixes]
  dsimp only
  split
  · next h => exact absurd h hd
  · next h => exact absurd h hb
  · next h => exact absurd h hp
  · rfl

/-- No prefix operator stands at the end of the lexemes. -/
theorem prefixed_nil (h : s.ahead = []) : prefixed limit s = postfixed limit s := by
  obtain ⟨ahead, ending, depth⟩ := s
  cases h
  rw [prefixed]

/-- Without a prefix operator, an operand is read. -/
theorem prefixed_other (h : s.ahead = l :: rest) (ho : UnaryOp.ofToken? l.token = none) :
    prefixed limit s = postfixed limit s := by
  obtain ⟨ahead, ending, depth⟩ := s
  cases h
  rw [prefixed]
  simp only [ho]

/-- A prefix operator adds a level for its operand only. -/
theorem prefixed_operator (h : s.ahead = l :: rest) {op : UnaryOp}
    (ho : UnaryOp.ofToken? l.token = some op) :
    prefixed limit s = (advance s l rest).andThen fun _ s₁ le₁ =>
      ((((descend limit s₁).andThen fun _ s₂ le₂ =>
        (prefixed limit s₂).weaken le₂).restore s₁.depth).map (.unary op)).weaken
          (by rw [s.size_eq h]; omega) := by
  obtain ⟨ahead, ending, depth⟩ := s
  cases h
  rw [prefixed]
  simp only [ho]

variable {power : Nat} {c : Connective}

/-- A chain ends at the end of the lexemes. -/
theorem chain_nil (h : s.ahead = []) : chain limit power e s = .ok e s (Nat.le_refl _) := by
  obtain ⟨ahead, ending, depth⟩ := s
  cases h
  rw [chain]

/-- A chain ends in front of a token that is no connective. -/
theorem chain_other (h : s.ahead = l :: rest) (hc : Connective.ofToken? l.token = none) :
    chain limit power e s = .ok e s (Nat.le_refl _) := by
  obtain ⟨ahead, ending, depth⟩ := s
  cases h
  rw [chain]
  simp only [hc]

/-- A chain ends in front of a connective of a lesser power. -/
theorem chain_weaker (h : s.ahead = l :: rest) (hc : Connective.ofToken? l.token = some c)
    (hp : c.leftPower < power) : chain limit power e s = .ok e s (Nat.le_refl _) := by
  obtain ⟨ahead, ending, depth⟩ := s
  cases h
  rw [chain]
  simp only [hc, hp, if_true]

/-- An operator adds a level, and its right operand is an expression of its right power. -/
theorem chain_operator (h : s.ahead = l :: rest) (hc : Connective.ofToken? l.token = some c)
    (hp : power ≤ c.leftPower) {node : Expr → Expr → Expr} (hn : c.node? = some node) :
    chain limit power e s = (descend limit s).andThen fun _ s₀ _ =>
      (advance s₀ l rest).andThen fun _ s₁ le₁ =>
        (expression limit c.rightPower s₁).andThen fun right s₂ le₂ =>
          (chain limit power (node e right) s₂).weaken (by rw [s.size_eq h]; omega) := by
  obtain ⟨ahead, ending, depth⟩ := s
  cases h
  rw [chain]
  simp only [hc, Nat.not_lt.2 hp, if_false, hn]

/-- A question mark adds a level, and two branches with a colon between them follow. -/
theorem chain_conditional (h : s.ahead = l :: rest)
    (hc : Connective.ofToken? l.token = some c) (hp : power ≤ c.leftPower)
    (hn : c.node? = none) :
    chain limit power e s = (descend limit s).andThen fun _ s₀ _ =>
      (advance s₀ l rest).andThen fun _ s₁ le₁ =>
        (expression limit 0 s₁).andThen fun positive s₂ le₂ =>
          (expect .colon s₂).andThen fun _ s₃ le₃ =>
            (expression limit c.rightPower s₃).andThen fun negative s₄ le₄ =>
              (chain limit power (.conditional e positive negative) s₄).weaken
                (by rw [s.size_eq h]; omega) := by
  obtain ⟨ahead, ending, depth⟩ := s
  cases h
  rw [chain]
  simp only [hc, Nat.not_lt.2 hp, if_false, hn]

end Parser
end Expr
end RecordFilter
