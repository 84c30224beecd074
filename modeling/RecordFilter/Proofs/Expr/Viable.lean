/-
# What can be completed

A reading that fails at a token, or at the end, has not gone wrong before: the tokens in front of
that place can be completed.  Behind them come simple tokens, the name `x` where an operand or a
property is missing and the symbols that close what is open, and all of them together derive what
the reader was asked for (`Completable`).

Each reader adds what its own part is missing.  What it has read before the failing part derives
(`sound_readers`), and behind the completed part it closes its bracket, or puts a colon and a last
operand; in a chain, an operand that has been completed is joined as one that has been read
(`lastOperandViable`).

The lexemes may end with what is no token.  A reading that runs into that fails with an error about
characters, and nothing is said of it (`Ending.IsLexical`).
-/

import Mathlib
import RecordFilter.Proofs.Expr.Invariant
import RecordFilter.Proofs.Expr.Lexing
import RecordFilter.Proofs.Expr.Soundness

namespace RecordFilter

/-- Whether an error is about the grammar: the tokens are no expression, or not one yet. -/
def SyntaxError.IsGrammatical : SyntaxError → Prop
  | unexpectedToken .. | unexpectedEnd .. | expected .. | invalidCallTarget .. => True
  | unexpectedChar .. | invalidNumber .. | unclosedString .. | invalidEscape ..
  | tooDeep .. => False

/-- What is no token is refused for its characters. -/
def Ending.IsLexical : Ending → Prop
  | finished _ => True
  | broken e _ => ¬ e.IsGrammatical

namespace Expr
namespace Parser

open Grammar

/-- How the lexemes end stays as it is, as long as no reading fails. -/
theorem lexical_invariant (limit : Nat) :
    Invariant limit (fun s => s.ending.IsLexical) fun _ _ => True where
  advance _ hs := (advance_meets _ _ _).mono (fun _ _ ht => ht ▸ hs) fun _ _ _ => trivial
  descend _ hs := hs
  restore _ ht := ht
  restoreError _ _ := trivial
  tooDeep _ _ := trivial
  unexpectedEnd _ _ := trivial
  unexpectedToken _ _ _ := trivial
  expected _ _ _ := trivial
  invalidCallTarget _ _ _ := trivial

/-! ### Completions -/

/-- The state in front of the token that an error is about, or at the end. -/
def StopsAt (t : State) (err : SyntaxError) : Prop :=
  (∃ l rest, t.ahead = l :: rest ∧ err.position = l.start) ∨
    t.ahead = [] ∧ ∃ p, err = .unexpectedEnd p

/-- If the error is about the grammar, the tokens from `s` on up to where it was found have the
property `Q` with simple tokens behind them. -/
def Completable (Q : List Token → Prop) (s : State) (err : SyntaxError) : Prop :=
  err.IsGrammatical →
    ∃ ts us t, Passes s ts t ∧ StopsAt t err ∧ (∀ u ∈ us, u.IsSimple) ∧ Q (ts ++ us)

/-- Where the step fails, its tokens can be completed. -/
abbrev Step.Viable (Q : List Token → Prop) (s : State) (x : Step α n) : Prop :=
  x.Meets (fun _ _ => True) fun e _ => Completable Q s e

/-- No tokens are simple ones. -/
theorem simple_nil : ∀ u ∈ ([] : List Token), u.IsSimple := fun _ h => absurd h List.not_mem_nil

/-- The name `x` is simple. -/
theorem simple_name : ∀ u ∈ [Token.name "x"], u.IsSimple :=
  List.forall_mem_singleton.2 .name

/-- A symbol is simple. -/
theorem simple_symbol (c : Symbol) : ∀ u ∈ [Token.symbol c], u.IsSimple :=
  List.forall_mem_singleton.2 (.symbol c)

/-- A colon and an operand behind it are simple. -/
theorem simple_colon : ∀ u ∈ [Token.symbol .colon, .name "x"], u.IsSimple :=
  List.forall_mem_cons.2 ⟨.symbol .colon, simple_name⟩

section Completable

variable {s t : State} {err : SyntaxError} {ts us : List Token} {Q Q' : List Token → Prop}
variable {l : Lexeme} {rest : List Lexeme}

/-- An error at the position of the token in front is about it. -/
theorem stopsAt_ahead (h : s.ahead = l :: rest) (he : err.position = l.start) : StopsAt s err :=
  .inl ⟨l, rest, h, he⟩

/-- An error about the end stops at the end. -/
theorem stopsAt_end (h : s.ahead = []) (p : Nat) : StopsAt s (.unexpectedEnd p) := .inr ⟨h, p, rfl⟩

/-- What is unexpected is in front. -/
theorem stopsAt_unexpected (s : State) : StopsAt s (unexpected s) := by
  unfold unexpected
  split
  · next h => exact stopsAt_end h _
  · next h => exact stopsAt_ahead h rfl

/-- Nothing is said of an error that is not about the grammar. -/
theorem completable_of_not (h : ¬ err.IsGrammatical) : Completable Q s err := fun he => absurd he h

/-- The reading has stopped behind the tokens `ts`, and the simple tokens `us` are missing. -/
theorem completable_of_stopsAt (hp : Passes s ts t) (h : StopsAt t err)
    (hu : ∀ u ∈ us, u.IsSimple) (hQ : Q (ts ++ us)) : Completable Q s err :=
  fun _ => ⟨ts, us, t, hp, h, hu, hQ⟩

/-- The reading has stopped behind the tokens `ts`; what completes the part behind them is completed
itself. -/
theorem Completable.behind (h : Completable Q' t err) (hp : Passes s ts t)
    (hQ : ∀ vs, Q' vs → ∃ ws, (∀ w ∈ ws, w.IsSimple) ∧ Q (ts ++ (vs ++ ws))) :
    Completable Q s err := by
  intro he
  obtain ⟨vs, us, u, hp', hu, hs, hq⟩ := h he
  obtain ⟨ws, hw, hq'⟩ := hQ _ hq
  refine ⟨ts ++ vs, us ++ ws, u, hp.trans hp', hu, ?_, ?_⟩
  · exact List.forall_mem_append.2 ⟨hs, hw⟩
  · rw [List.append_assoc] at hq' ⊢
    exact hq'

end Completable

/-! ### Steps that read no expression -/

section Steps

variable {limit : Nat} {s t : State} {l : Lexeme} {rest : List Lexeme} {ts us : List Token}
variable {Q Q' : List Token → Prop}

/-- A step behind the tokens `ts`. -/
theorem Step.Meets.behind {x : Step α n} {P : α → State → Prop}
    (h : x.Meets P fun e _ => Completable Q' t e) (hp : Passes s ts t)
    (hQ : ∀ vs, Q' vs → ∃ ws, (∀ w ∈ ws, w.IsSimple) ∧ Q (ts ++ (vs ++ ws))) :
    x.Meets P fun e _ => Completable Q s e :=
  h.mono (fun _ _ => id) fun _ _ he => he.behind hp hQ

/-- A step behind the tokens `ts` that reads the last part, so that nothing comes behind it. -/
theorem Step.Meets.last {x : Step α n} {P : α → State → Prop}
    (h : x.Meets P fun e _ => Completable Q' t e) (hp : Passes s ts t)
    (hQ : ∀ vs, Q' vs → Q (ts ++ vs)) : x.Meets P fun e _ => Completable Q s e := by
  refine h.behind hp fun vs hv => ⟨[], simple_nil, ?_⟩
  rw [List.append_nil]
  exact hQ vs hv

/-- What holds where the step succeeds is kept beside what is missing where it fails. -/
theorem Step.Viable.reads {x : Step α n} {P : α → State → Prop} (h : x.Viable Q s)
    (hl : x.Keeps (fun t => t.ending.IsLexical) fun _ _ => True) (hs : x.Meets P Fails) :
    x.Meets (fun a t => t.ending.IsLexical ∧ P a t) fun e _ => Completable Q s e := by
  cases x with
  | ok => exact ⟨hl, hs⟩
  | error => exact h

/-- A move over a token fails only for characters that are no token. -/
theorem advance_viable (h : t.ahead = l :: rest) (hs : t.ending.IsLexical)
    (hp : Passes s ts t) :
    (advance t l rest).Meets (fun _ u => u.ending.IsLexical ∧ Passes s (ts ++ [l.token]) u)
      fun e _ => Completable Q s e := by
  have hu : ∀ u : State, u = { t with ahead := rest } →
      u.ending.IsLexical ∧ Passes s (ts ++ [l.token]) u := by
    rintro u rfl
    exact ⟨hs, hp.trans (passes_one h rfl)⟩
  obtain ⟨ahead, ending, depth⟩ := t
  cases rest with
  | cons => exact hu _ rfl
  | nil =>
    cases ending with
    | finished => exact hu _ rfl
    | broken e after => exact completable_of_not hs

/-- One more level fails for the limit only, which is not about the grammar. -/
theorem descend_viable (limit : Nat) (s : State) :
    (descend limit s).Meets (fun _ t => Passes s [] t ∧ t.ahead = s.ahead ∧ t.ending = s.ending)
      fun e _ => Completable Q s e := by
  unfold descend
  split
  · exact ⟨.refl s, rfl, rfl⟩
  · exact completable_of_not id

/-- One more level for the next lexeme. -/
theorem link_viable (h : s.ahead = l :: rest) (hs : s.ending.IsLexical)
    {f : (s₀ : State) → s₀.size ≤ s.size → Unit → (t : State) → t.size ≤ rest.length → Step β n}
    (hf : ∀ s₀ le₀ a t le, t.ending.IsLexical → Passes s [l.token] t →
      (f s₀ le₀ a t le).Viable Q s) :
    ((descend limit s).andThen fun _ s₀ le₀ =>
      (advance s₀ l rest).andThen (f s₀ le₀)).Viable Q s := by
  refine (descend_viable limit s).andThen fun _ s₀ le₀ ⟨hp₀, ha, he⟩ => ?_
  refine (advance_viable (ha.trans h) (he ▸ hs) hp₀).andThen fun a t le ⟨ht, hp⟩ => ?_
  exact hf s₀ le₀ a t le ht hp

/-- Behind the tokens `ts`, a symbol that has to be there is put where it is missing. -/
theorem expect_viable {close : Symbol} (hs : t.ending.IsLexical) (hp : Passes s ts t)
    (hu : ∀ u ∈ us, u.IsSimple) (hQ : Q (ts ++ us)) :
    (expect close t).Meets
      (fun _ u => u.ending.IsLexical ∧ Passes s (ts ++ [.symbol close]) u)
      fun e _ => Completable Q s e := by
  cases h : t.ahead with
  | nil =>
    rw [expect_nil h]
    exact completable_of_stopsAt hp (stopsAt_end h _) hu hQ
  | cons l rest =>
    by_cases hl : l.token = .symbol close
    · rw [expect_symbol h hl, ← hl]
      exact (advance_viable h hs hp).weaken _
    · rw [expect_other h hl]
      exact completable_of_stopsAt hp (stopsAt_ahead h rfl) hu hQ

/-- Behind the tokens `ts`, the name `x` is put where a property name is missing. -/
theorem propertyName_viable (hs : t.ending.IsLexical) (hp : Passes s ts t)
    (hQ : Q (ts ++ [.name "x"])) :
    (propertyName t).Meets
      (fun n u => u.ending.IsLexical ∧
        ∃ token, propertyName? token = some n ∧ Passes s (ts ++ [token]) u)
      fun e _ => Completable Q s e := by
  cases h : t.ahead with
  | nil =>
    rw [propertyName_nil h]
    exact completable_of_stopsAt hp (stopsAt_end h _) simple_name hQ
  | cons l rest =>
    cases hn : propertyName? l.token with
    | none =>
      rw [propertyName_other h hn]
      exact completable_of_stopsAt hp (stopsAt_ahead h rfl) simple_name hQ
    | some n =>
      rw [propertyName_name h hn]
      exact ((advance_viable h hs hp).map fun _ u ⟨hu, hp'⟩ => ⟨hu, l.token, hn, hp'⟩).weaken _

end Steps

/-! ### What the readers are asked for -/

/-- Tokens that are an operand with members and calls behind it. -/
def IsOperand (ts : List Token) : Prop := ∃ e k r, Fits .suffixed ts e k r

/-- Tokens that are an operand with the operators in front of it. -/
def IsPrefixed (ts : List Token) : Prop := ∃ e r, Fits .prefixed ts e 0 r

/-- Tokens that are the expression `e`, of the level `l` and of each looser one that has all the
connectives with a left power of `power` or more. -/
def Powered (l : Level) (power : Nat) (ts : List Token) (e : Expr) (k r : Nat) : Prop :=
  ∀ m : Level, m.rank ≤ l.rank → m.Holds power → Fits m ts e k r

/-- Tokens that are an expression of the level `l` with connectives of a left power of `power` or
more. -/
def IsPowered (l : Level) (power : Nat) (ts : List Token) : Prop :=
  ∃ e k r, Powered l power ts e k r

/-- Expressions with their tokens and the links open behind them, all within the same room. -/
def Fitting (r : Nat) (items : List (List Token × Expr × Nat)) : Prop :=
  ∀ x ∈ items, Fits .conditional x.1 x.2.1 x.2.2 r

/-- Tokens that are expressions, one at least, with commas between them. -/
def IsItems (ts : List Token) : Prop :=
  ∃ r x xs, ts = separated ((x :: xs).map (·.1)) ∧ Fitting r (x :: xs)

/-- Tokens that are expressions, each with a comma in front of it. -/
def IsFollowing (ts : List Token) : Prop :=
  ∃ r xs, ts = following (xs.map (·.1)) ∧ Fitting r xs

/-- Tokens that are expressions with commas between them and a symbol that closes the list. -/
def IsList (close : Symbol) (ts : List Token) : Prop :=
  ∃ r xs, ts = separated (xs.map (·.1)) ++ [.symbol close] ∧ Fitting r xs

section Asked

variable {ts us : List Token} {e : Expr} {power k r : Nat}
variable {items : List (List Token × Expr × Nat)}

/-- An expression of a power is an expression. -/
theorem Powered.conditional {l : Level} (h : Powered l power ts e k r) :
    Fits .conditional ts e k r :=
  h .conditional l.rank_pos (Level.holds_conditional power)

/-- An operand alone has no connectives, so it is an expression of every power. -/
theorem isPowered_of_isPrefixed (h : IsPrefixed ts) : IsPowered .prefixed power ts := by
  obtain ⟨e, r, h⟩ := h
  exact ⟨e, 0, r, fun _ hm _ => h.loosen (Nat.le_refl _) hm⟩

/-- What a connective has joined is an expression of every power that the connective has. -/
theorem powered_of_level {l : Level} {c : Connective} (h : Fits c.level ts e k r)
    (hp : power ≤ c.leftPower) : Powered l power ts e k r :=
  fun _ _ hm => h.loosen (Nat.le_trans c.rank_level_le (by decide)) (hm c hp)

/-- A primary expression is an operand. -/
theorem isOperand_of_primary (h : Fits .primary ts e k r) : IsOperand ts :=
  ⟨e, _, r, .tighter rfl h⟩

/-- The name `x` is an operand. -/
theorem isOperand_name : IsOperand [.name "x"] := isOperand_of_primary (r := 0) (.atom rfl)

/-- The name `x` is an expression. -/
theorem fits_name : Fits .conditional [.name "x"] (.name "x") 0 0 :=
  .loosen (m := .prefixed) (.tighter rfl (.tighter rfl (.atom rfl))) (by decide) (by decide)

/-- An operand needs no operator in front of it. -/
theorem isPrefixed_of_isOperand (h : IsOperand ts) : IsPrefixed ts := by
  obtain ⟨e, k, r, h⟩ := h
  exact ⟨e, r, .tighter rfl h⟩

/-- Expressions fit within more room. -/
theorem Fitting.mono {more : Nat} (h : Fitting r items) (hm : r ≤ more) : Fitting more items :=
  fun x hx => (h x hx).mono hm

/-- One more expression fits within the greater room of the two. -/
theorem Fitting.cons {x : List Token × Expr × Nat} {q : Nat}
    (hx : Fits .conditional x.1 x.2.1 x.2.2 q) (h : Fitting r items) :
    Fitting (max q r) (x :: items) :=
  List.forall_mem_cons.2 ⟨hx.mono (Nat.le_max_left q r), h.mono (Nat.le_max_right q r)⟩

/-- An expression with what follows it is a list of items. -/
theorem isItems_append {l : Level} {j q : Nat} (h : Powered l power ts e j q)
    (hf : IsFollowing us) : IsItems (ts ++ us) := by
  obtain ⟨r, xs, rfl, hxs⟩ := hf
  refine ⟨_, (ts, e, j), xs, ?_, hxs.cons (x := (ts, e, j)) h.conditional⟩
  rw [List.map_cons, separated_cons]

/-- One expression is a list of items. -/
theorem isItems_one {l : Level} (h : IsPowered l power ts) : IsItems ts := by
  obtain ⟨e, j, q, h⟩ := h
  exact ⟨q, (ts, e, j), [], rfl, List.forall_mem_singleton.2 h.conditional⟩

/-- Items with a comma in front of them are what follows an item. -/
theorem isFollowing_comma (h : IsItems ts) : IsFollowing (.symbol .comma :: ts) := by
  obtain ⟨r, x, xs, rfl, hxs⟩ := h
  exact ⟨r, x :: xs, rfl, hxs⟩

/-- Items are closed to a list. -/
theorem isList_close {close : Symbol} (h : IsItems ts) : IsList close (ts ++ [.symbol close]) := by
  obtain ⟨r, x, xs, rfl, hxs⟩ := h
  exact ⟨r, x :: xs, rfl, hxs⟩

end Asked

variable (limit : Nat)

/-- Where no primary expression is read, an operand can be completed. -/
def PrimaryViable (s : State) : Prop :=
  s.ending.IsLexical → (primary limit s).Viable IsOperand s

/-- Where no list is read, one can be completed. -/
def ListViable (close : Symbol) (s : State) : Prop :=
  s.ending.IsLexical → (list limit close s).Viable (IsList close) s

/-- Where no items are read, items can be completed. -/
def ItemsViable (s : State) : Prop :=
  s.ending.IsLexical → (items limit s).Viable IsItems s

/-- Where no further items are read, they can be completed. -/
def MoreItemsViable (s : State) : Prop :=
  s.ending.IsLexical → (moreItems limit s).Viable IsFollowing s

/-- Where no expression of a power is read, one can be completed. -/
def ExpressionViable (power : Nat) (s : State) : Prop :=
  s.ending.IsLexical → (expression limit power s).Viable (IsPowered .prefixed power) s

/-- Where no prefixed expression is read, one can be completed. -/
def PrefixedViable (s : State) : Prop :=
  s.ending.IsLexical → (prefixed limit s).Viable IsPrefixed s

/-- Where no operand is read, one can be completed. -/
def PostfixedViable (s : State) : Prop :=
  s.ending.IsLexical → (postfixed limit s).Viable IsPrefixed s

/-- Behind the tokens `ts` that are called, or of which a member is asked for. -/
def SuffixesViable (e : Expr) (s : State) : Prop :=
  ∀ ts k r, Callable ts e k r s → s.ending.IsLexical →
    (suffixes limit e s).Viable (fun us => IsOperand (ts ++ us)) s

/-- Behind the tokens `ts` of the left operand. -/
def ChainViable (power : Nat) (left : Expr) (s : State) : Prop :=
  ∀ (l : Level) ts k r, l.rank ≤ Level.rank .prefixed → Stops l.follow s → Fits l ts left k r →
    s.ending.IsLexical →
      (chain limit power left s).Viable (fun us => IsPowered l power (ts ++ us)) s

variable {limit} {s : State} {l : Lexeme} {rest : List Lexeme}

/-! ### What has been read, and what is missing if nothing has -/

/-- An expression is read from tokens that derive it, or it can be completed. -/
theorem ExpressionViable.reads {power : Nat} (h : ExpressionViable limit power s)
    (hs : s.ending.IsLexical) :
    (expression limit power s).Meets
      (fun e t => t.ending.IsLexical ∧ Stops power t ∧
        ∃ ts k r, Passes s ts t ∧ Powered .prefixed power ts e k r)
      fun err _ => Completable (IsPowered .prefixed power) s err := by
  refine ((h hs).reads ((lexical_invariant limit).expression power s hs)
    (sound_expression limit power s)).mono
      (fun e t ⟨ht, _, _, hstop, ts, k, hp, hf⟩ => ?_) fun _ _ => id
  exact ⟨ht, hstop, ts, k, _, hp, hf⟩

/-- A primary expression is read from tokens that derive it, or it can be completed. -/
theorem PrimaryViable.reads (h : PrimaryViable limit s) (hs : s.ending.IsLexical) :
    (primary limit s).Meets
      (fun e t => t.ending.IsLexical ∧ ∃ ts r, Passes s ts t ∧ Callable ts e 0 r t)
      fun err _ => Completable IsOperand s err := by
  refine ((h hs).reads ((lexical_invariant limit).readers.all.primary s hs)
    ((sound_readers limit).all.primary s)).mono (fun e t ⟨ht, _, ts, hp, hc⟩ => ?_) fun _ _ => id
  exact ⟨ht, ts, _, hp, hc⟩

/-- A prefixed expression is read from tokens that derive it, or it can be completed. -/
theorem PrefixedViable.reads (h : PrefixedViable limit s) (hs : s.ending.IsLexical) :
    (prefixed limit s).Meets
      (fun e t => t.ending.IsLexical ∧ ∃ ts r, Passes s ts t ∧ Fits .prefixed ts e 0 r)
      fun err _ => Completable IsPrefixed s err := by
  refine ((h hs).reads ((lexical_invariant limit).readers.all.prefixed s hs)
    ((sound_readers limit).all.prefixed s)).mono (fun e t ⟨ht, _, ts, hp, hf⟩ => ?_) fun _ _ => id
  exact ⟨ht, ts, _, hp, hf⟩

/-- Items are read from tokens that derive them, or they can be completed. -/
theorem ItemsViable.reads (h : ItemsViable limit s) (hs : s.ending.IsLexical) :
    (items limit s).Meets
      (fun _ t => t.ending.IsLexical ∧ ∃ ts, Passes s ts t ∧ IsItems ts)
      fun err _ => Completable IsItems s err := by
  refine ((h hs).reads ((lexical_invariant limit).readers.all.items s hs)
    ((sound_readers limit).all.items s)).mono
      (fun es t ⟨ht, _, _, x, xs, _, hp, hi⟩ => ?_) fun _ _ => id
  exact ⟨ht, _, hp, _, x, xs, rfl, hi⟩

/-- A list is read from tokens that derive it, or it can be completed. -/
theorem ListViable.reads {close : Symbol} (h : ListViable limit close s)
    (hs : s.ending.IsLexical) :
    (list limit close s).Meets
      (fun es t => t.ending.IsLexical ∧ ∃ r xs, es = xs.map (·.2.1) ∧
        Passes s (separated (xs.map (·.1)) ++ [.symbol close]) t ∧ Fitting r xs)
      fun err _ => Completable (IsList close) s err := by
  refine ((h hs).reads ((lexical_invariant limit).readers.all.list close s hs)
    ((sound_readers limit).all.list close s)).mono
      (fun es t ⟨ht, _, xs, he, hp, hi, _⟩ => ?_) fun _ _ => id
  exact ⟨ht, _, xs, he, hp, hi⟩

/-! ### Operands -/

/-- Where no primary expression starts, the name `x` completes it. -/
theorem primaryViable_fails (h : primary limit s = .error (unexpected s) s) :
    PrimaryViable limit s := by
  intro _
  rw [h]
  exact completable_of_stopsAt (.refl s) (stopsAt_unexpected s) simple_name isOperand_name

/-- A literal or a name has nothing to complete. -/
theorem primaryViable_atom (h : s.ahead = l :: rest) {e : Expr} (he : atom? l.token = some e) :
    PrimaryViable limit s := by
  intro hs
  rw [primary_atom h he]
  exact ((advance_viable h hs (.refl s)).map fun _ _ _ => trivial).weaken _

/-- Where an operand is missing in front of the word `in`, the word is not passed over. -/
theorem primaryViable_in (h : s.ahead = l :: rest) (ht : l.token = .word .inWord) :
    PrimaryViable limit s := by
  intro hs
  rw [primary_in h ht, inAsName]
  refine ((advance_viable h hs (.refl s)).andThen fun _ t le _ => ?_).weaken _
  split
  · trivial
  · exact completable_of_stopsAt (.refl s) (stopsAt_ahead h rfl) simple_name isOperand_name

/-- What completes the expression of a group completes the group with its parenthesis. -/
theorem primaryViable_group (h : s.ahead = l :: rest) (ht : l.token = .symbol .leftParen)
    (ih : ∀ t : State, t.size ≤ rest.length → ExpressionViable limit 0 t) :
    PrimaryViable limit s := by
  have closed {ts : List Token} {e : Expr} {k r : Nat} (hf : Powered .prefixed 0 ts e k r) :
      IsOperand ([l.token] ++ (ts ++ [.symbol .rightParen])) := by
    rw [ht]
    exact isOperand_of_primary (.group hf.conditional (Nat.lt_succ_self r))
  intro hs
  rw [primary_group h ht]
  refine (advance_viable h hs (.refl s)).andThen fun _ s₁ le₁ ⟨hs₁, hp₁⟩ => ?_
  refine (((ih s₁ le₁).reads hs₁).behind hp₁ fun ts ⟨e, k, r, hf⟩ =>
    ⟨_, simple_symbol .rightParen, closed hf⟩).andThen
      fun e s₂ le₂ ⟨hs₂, _, ts, k, r, hp₂, hf⟩ => ?_
  refine ((expect_viable hs₂ (hp₁.trans hp₂) (simple_symbol .rightParen) ?_).map
    fun _ _ _ => trivial).weaken _
  rw [List.append_assoc]
  exact closed hf

/-- What completes the items of a list completes the list. -/
theorem primaryViable_list (h : s.ahead = l :: rest) (ht : l.token = .symbol .leftBracket)
    (ih : ∀ t : State, t.size ≤ rest.length → ListViable limit .rightBracket t) :
    PrimaryViable limit s := by
  intro hs
  rw [primary_list h ht]
  refine (advance_viable h hs (.refl s)).andThen fun _ s₁ le₁ ⟨hs₁, hp₁⟩ => ?_
  refine ((Step.Meets.last (ih s₁ le₁ hs₁) hp₁ ?_).map fun _ _ _ => trivial).weaken _
  rintro _ ⟨r, xs, rfl, hxs⟩
  rw [ht]
  exact isOperand_of_primary (.list xs hxs fun _ => Nat.lt_succ_self r)

/-! ### Lists -/

/-- A list that is closed at once has nothing to complete. -/
theorem listViable_closed {close : Symbol} (h : s.token?.any (isSymbol close) = true) :
    ListViable limit close s := by
  intro hs
  rw [list_closed h]
  refine ((expect_viable hs (.refl s) (simple_symbol close) ?_).map fun _ _ _ => trivial).weaken _
  exact ⟨0, [], rfl, fun _ h => absurd h List.not_mem_nil⟩

/-- What completes the items of a list completes it with its bracket. -/
theorem listViable_open {close : Symbol} (h : ¬ s.token?.any (isSymbol close) = true)
    (ih : ItemsViable limit s) : ListViable limit close s := by
  intro hs
  rw [list_open h]
  refine ((ih.reads hs).behind (.refl s) fun ts hts =>
    ⟨_, simple_symbol close, isList_close hts⟩).andThen fun es s₁ le₁ ⟨hs₁, ts, hp₁, hts⟩ => ?_
  exact ((expect_viable hs₁ hp₁ (simple_symbol close) (isList_close hts)).map
    fun _ _ _ => trivial).weaken _

/-- What completes one of several items completes them all. -/
theorem itemsViable (ihe : ExpressionViable limit 0 s)
    (ihm : ∀ t : State, t.size ≤ s.size → MoreItemsViable limit t) : ItemsViable limit s := by
  intro hs
  rw [items]
  refine ((ihe.reads hs).last (.refl s) fun _ => isItems_one).andThen fun e s₁ le₁ h₁ => ?_
  obtain ⟨hs₁, -, ts, k, r, hp₁, hf⟩ := h₁
  exact ((Step.Meets.last (ihm s₁ le₁ hs₁) hp₁ fun us hus => isItems_append hf hus).map
    fun _ _ _ => trivial).weaken _

/-- Without a comma nothing is missing. -/
theorem moreItemsViable_stop (h : moreItems limit s = .ok [] s (Nat.le_refl _)) :
    MoreItemsViable limit s := by
  intro _
  rw [h]
  trivial

/-- What completes the items behind a comma completes the further items. -/
theorem moreItemsViable_comma (h : s.ahead = l :: rest) (ht : l.token = .symbol .comma)
    (ih : ∀ t : State, t.size ≤ rest.length → ItemsViable limit t) : MoreItemsViable limit s := by
  intro hs
  rw [moreItems_comma h ht]
  refine (advance_viable h hs (.refl s)).andThen fun _ s₁ le₁ ⟨hs₁, hp₁⟩ => ?_
  rw [ht] at hp₁
  exact (Step.Meets.last (ih s₁ le₁ hs₁) hp₁ fun ts hts => isFollowing_comma hts).weaken _

/-! ### Members and calls -/

section Suffixes

variable {e : Expr}

/-- Without a suffix nothing is missing. -/
theorem suffixesViable_stop (h : suffixes limit e s = .ok e s (Nat.le_refl _)) :
    SuffixesViable limit e s := by
  intro ts k r _ _
  rw [h]
  trivial

/-- The rest of a chain of members and calls, behind one more of them. -/
theorem SuffixesViable.next {t : State} {ts us : List Token} {e' : Expr} {k r : Nat}
    (ih : SuffixesViable limit e' t) (hs : t.ending.IsLexical) (hp : Passes s us t)
    (hf : Fits .suffixed (ts ++ us) e' k r) :
    (suffixes limit e' t).Viable (fun us => IsOperand (ts ++ us)) s := by
  refine Step.Meets.last (ih _ k r (.inl hf) hs) hp fun vs hv => ?_
  rwa [← List.append_assoc]

/-- What completes a named member, or the suffixes behind it, completes them all. -/
theorem suffixesViable_dot (h : s.ahead = l :: rest) (ht : l.token = .symbol .dot)
    (ih : ∀ (n : String) (t : State), t.size ≤ rest.length - 1 →
      SuffixesViable limit (.member e (.name n) false) t) : SuffixesViable limit e s := by
  intro ts k r hc hs
  have hf := hc.fits h (by rw [ht]; exact nofun)
  have member {token : Token} {n : String} (hn : propertyName? token = some n) :
      Fits .suffixed (ts ++ ([l.token] ++ [token])) (.member e (.name n) false) (k + 1)
        (max r (k + 1)) := by
    rw [ht]
    exact .member (hf.mono (Nat.le_max_left ..)) hn (Nat.le_max_right ..)
  rw [suffixes_dot h ht]
  refine link_viable h hs fun _ _ _ s₁ le₁ hs₁ hp₁ => ?_
  refine (propertyName_viable hs₁ hp₁ ⟨_, _, _, member rfl⟩).andThen
    fun n s₂ le₂ ⟨hs₂, token, hn, hp₂⟩ => ?_
  exact ((ih n s₂ (by omega)).next hs₂ hp₂ (member hn)).weaken _

/-- What completes the property of a member is completed with its bracket. -/
theorem suffixesViable_bracket (h : s.ahead = l :: rest) (ht : l.token = .symbol .leftBracket)
    (ihe : ∀ t : State, t.size ≤ rest.length → ExpressionViable limit 0 t)
    (ihs : ∀ (p : Expr) (t : State), t.size ≤ rest.length - 1 →
      SuffixesViable limit (.member e p true) t) : SuffixesViable limit e s := by
  intro ts k r hc hs
  have hf := hc.fits h (by rw [ht]; exact nofun)
  have index {us : List Token} {p : Expr} {j q : Nat} (hp : Powered .prefixed 0 us p j q) :
      Fits .suffixed (ts ++ ([l.token] ++ (us ++ [.symbol .rightBracket]))) (.member e p true)
        (k + 1) (max r (k + 1 + q + 1)) := by
    rw [ht]
    exact .index (hf.mono (Nat.le_max_left ..)) hp.conditional (Nat.le_max_right ..)
  rw [suffixes_bracket h ht]
  refine link_viable h hs fun _ _ _ s₁ le₁ hs₁ hp₁ => ?_
  refine (((ihe s₁ le₁).reads hs₁).behind hp₁ fun us ⟨p, j, q, hfp⟩ =>
    ⟨_, simple_symbol .rightBracket, _, _, _, index hfp⟩).andThen
      fun p s₂ le₂ ⟨hs₂, _, us, j, q, hp₂, hfp⟩ => ?_
  have hclosed := index hfp
  rw [← List.append_assoc [l.token]] at hclosed
  refine (expect_viable hs₂ (hp₁.trans hp₂) (simple_symbol .rightBracket)
    ⟨_, _, _, hclosed⟩).andThen fun _ s₃ le₃ ⟨hs₃, hp₃⟩ => ?_
  exact ((ihs p s₃ (by omega)).next hs₃ hp₃ hclosed).weaken _

/-- What can be called fits within more room. -/
theorem Callable.mono {ts : List Token} {k r more : Nat} (h : Callable ts e k r s)
    (hm : r ≤ more) : Callable ts e k more s :=
  h.imp_left fun hf => hf.mono hm

/-- What has no name is not the word `in` in front of its parenthesis. -/
theorem Callable.isOperand {ts : List Token} {k r : Nat} (h : Callable ts e k r s)
    (hn : e.calleeName? = none) : IsOperand ts := by
  rcases h with hf | ⟨-, rfl, -⟩
  · exact ⟨e, k, r, hf⟩
  · cases hn

/-- What completes the arguments of a call completes the call. -/
theorem suffixesViable_paren (h : s.ahead = l :: rest) (ht : l.token = .symbol .leftParen)
    (ihl : ∀ t : State, t.size ≤ rest.length → ListViable limit .rightParen t)
    (ihs : ∀ (callee : String) (es : List Expr) (t : State), t.size ≤ rest.length →
      SuffixesViable limit (.call callee es) t) : SuffixesViable limit e s := by
  intro ts k r hc hs
  cases hn : e.calleeName? with
  | none =>
    rw [suffixes_nameless h ht hn]
    have hstop : StopsAt s (.invalidCallTarget l.start) := stopsAt_ahead h rfl
    have hoperand : IsOperand (ts ++ ([] ++ [])) := by
      rw [List.append_nil, List.append_nil]
      exact hc.isOperand hn
    have hcompletable : Completable (fun us => IsOperand (ts ++ us)) s _ :=
      completable_of_stopsAt (.refl s) hstop simple_nil hoperand
    exact (descend_viable limit s).andThen fun _ _ _ _ => hcompletable
  | some callee =>
    have call {xs : List (List Token × Expr × Nat)} {q : Nat} (hxs : Fitting q xs) :
        Fits .suffixed (ts ++ ([l.token] ++ (separated (xs.map (·.1)) ++ [.symbol .rightParen])))
          (.call callee (xs.map (·.2.1))) (k + 1) (max r (k + 1 + q + 1)) := by
      have hmax := Nat.le_max_right r (k + 1 + q + 1)
      rw [ht]
      exact (hc.mono (Nat.le_max_left ..)).call hn xs hxs (by omega) fun _ => hmax
    rw [suffixes_paren h ht hn]
    refine link_viable h hs fun _ _ _ s₁ le₁ hs₁ hp₁ => ?_
    refine (((ihl s₁ le₁).reads hs₁).last hp₁ ?_).andThen
      fun es s₂ le₂ ⟨hs₂, q, xs, he, hp₂, hxs⟩ => ?_
    · rintro _ ⟨q, xs, rfl, hxs⟩
      exact ⟨_, _, _, call hxs⟩
    · rw [he]
      exact ((ihs callee _ s₂ (by omega)).next hs₂ (hp₁.trans hp₂) (call hxs)).weaken _

end Suffixes

/-! ### Operators in front of an operand -/

/-- What completes the primary expression or its suffixes completes the operand. -/
theorem postfixedViable (ihp : PrimaryViable limit s)
    (ihs : ∀ (e : Expr) (t : State), t.size ≤ s.size → SuffixesViable limit e t) :
    PostfixedViable limit s := by
  intro hs
  rw [postfixed]
  refine Step.Meets.restore (((ihp.reads hs).last (.refl s) fun ts hts =>
    isPrefixed_of_isOperand hts).andThen fun e s₁ le₁ h₁ => ?_)
  obtain ⟨hs₁, ts, r, hp₁, hc⟩ := h₁
  exact (Step.Meets.last (ihs e s₁ le₁ ts 0 r hc hs₁) hp₁ fun us hus =>
    isPrefixed_of_isOperand hus).weaken _

/-- Without a prefix operator, what completes the operand completes all. -/
theorem prefixedViable_operand (h : prefixed limit s = postfixed limit s)
    (ih : PostfixedViable limit s) : PrefixedViable limit s := by
  intro hs
  rw [h]
  exact ih hs

/-- The operand of an operator in front of it, one level down. -/
theorem operandViable (ih : ∀ t : State, t.size ≤ s.size → PrefixedViable limit t)
    (hs : s.ending.IsLexical) :
    (((descend limit s).andThen fun _ s₁ le₁ =>
      (prefixed limit s₁).weaken le₁).restore s.depth).Viable IsPrefixed s := by
  refine Step.Meets.restore ((descend_viable limit s).andThen fun _ s₁ le₁ ⟨hp, _, he⟩ => ?_)
  exact (Step.Meets.last (ih s₁ le₁ (he ▸ hs)) hp fun _ => id).weaken _

/-- What completes the operand of a prefix operator is completed with the operator. -/
theorem prefixedViable_operator (h : s.ahead = l :: rest) {op : UnaryOp}
    (ho : UnaryOp.ofToken? l.token = some op)
    (ih : ∀ t : State, t.size ≤ rest.length → PrefixedViable limit t) :
    PrefixedViable limit s := by
  intro hs
  rw [prefixed_operator h ho]
  refine (advance_viable h hs (.refl s)).andThen fun _ s₁ le₁ ⟨hs₁, hp₁⟩ => ?_
  have hoperand := operandViable (fun t ht => ih t (Nat.le_trans ht le₁)) hs₁
  refine ((hoperand.last hp₁ fun ts ⟨e, r, hf⟩ => ?_).map fun _ _ _ => trivial).weaken _
  exact ⟨.unary op e, r + 1, .unary ho hf (Nat.lt_succ_self r)⟩

/-! ### Connectives -/

section Chain

variable {c : Connective} {power k r : Nat} {ts us : List Token} {lv : Level} {left : Expr}

/-- Where a chain stops nothing is missing. -/
theorem chainViable_stop (h : chain limit power left s = .ok left s (Nat.le_refl _)) :
    ChainViable limit power left s := by
  intro lv ts k r _ _ _ _
  rw [h]
  trivial

/-- The rest of a chain of connectives, behind one more of them. -/
theorem ChainViable.next {t : State} {left' : Expr} (ih : ChainViable limit power left' t)
    (hx : t.ending.IsLexical) (hs : Stops c.rightPower t) (hp : Passes s us t)
    (hf : Fits c.level (ts ++ us) left' k r) (hc : power ≤ c.leftPower) :
    (chain limit power left' t).Viable (fun us => IsPowered lv power (ts ++ us)) s := by
  rw [← c.follow_level] at hs
  have hl : c.level.rank ≤ Level.rank .prefixed := Nat.le_trans c.rank_level_le (by decide)
  refine Step.Meets.last (ih c.level _ k r hl hs hf hx) hp fun vs ⟨e, j, q, hm⟩ => ?_
  refine ⟨e, j, q, fun m _ hp => ?_⟩
  rw [← List.append_assoc]
  exact hm m (hp c hc) hp

/-- The last operand of a connective is joined to the tokens in front of it, whether it has been
read or completed, and the chain goes on behind it. -/
theorem lastOperandViable {t : State} {us : List Token} {join : Expr → Expr} {b : Nat}
    (ihe : ExpressionViable limit c.rightPower t)
    (ihc : ∀ (e : Expr) (u : State), u.size ≤ t.size → ChainViable limit power (join e) u)
    (hx : t.ending.IsLexical) (hp : Passes s us t) (hc : power ≤ c.leftPower) (hb : t.size ≤ b)
    (hjoin : ∀ {vs : List Token} {e : Expr} {j q : Nat}, Powered .prefixed c.rightPower vs e j q →
      ∃ k r, Fits c.level (ts ++ (us ++ vs)) (join e) k r) :
    ((expression limit c.rightPower t).andThen fun e u le =>
      (chain limit power (join e) u).weaken (Nat.le_trans le hb)).Viable
        (fun us => IsPowered lv power (ts ++ us)) s := by
  have completed : ∀ vs, IsPowered .prefixed c.rightPower vs →
      IsPowered lv power (ts ++ (us ++ vs)) := by
    rintro vs ⟨e, j, q, he⟩
    obtain ⟨k, r, hf⟩ := hjoin he
    exact ⟨_, k, r, powered_of_level hf hc⟩
  refine ((ihe.reads hx).last hp completed).andThen fun e u le ⟨hu, hstop, vs, j, q, hp', he⟩ => ?_
  obtain ⟨k, r, hf⟩ := hjoin he
  exact ((ihc e u le).next hu hstop (hp.trans hp') hf hc).weaken _

/-- What completes the right operand, or the chain behind it, completes the chain. -/
theorem chainViable_operator (h : s.ahead = l :: rest)
    (hc : Connective.ofToken? l.token = some c) (hp : power ≤ c.leftPower)
    {node : Expr → Expr → Expr} (hn : c.node? = some node)
    (ihe : ∀ t : State, t.size ≤ rest.length → ExpressionViable limit c.rightPower t)
    (ihc : ∀ (right : Expr) (t : State), t.size ≤ rest.length →
      ChainViable limit power (node left right) t) : ChainViable limit power left s := by
  intro lv ts k r hl hs hf hx
  have hsize := s.size_eq h
  rw [chain_operator h hc hp hn]
  refine link_viable h hx fun _ _ _ s₁ le₁ hs₁ hp₁ => ?_
  refine lastOperandViable (ihe s₁ le₁) (fun e u le => ihc e u (Nat.le_trans le le₁)) hs₁ hp₁ hp
    (by omega) fun {us e j q} he => ⟨k + 1, max r (k + 1 + q + 1), ?_⟩
  exact (hf.mono (Nat.le_max_left ..)).join hc hn hl (hs.lt h hc) he (Nat.le_max_right ..)

/-- A condition with its two branches, within the room that each of them takes. -/
theorem fits_branch {vs : List Token} {p n : Expr} {i j q q' : Nat} (hf : Fits lv ts left k r)
    (hl : lv.rank ≤ Level.rank .prefixed) (hlv : Level.rank .disjunction ≤ lv.rank)
    (hp : Fits .conditional us p i q) (hn : Fits .conditional vs n j q') :
    Fits .conditional (ts ++ .symbol .question :: (us ++ .symbol .colon :: vs))
      (.conditional left p n) (k + 1) (max r (k + 1 + max q q' + 1)) :=
  .conditional ((hf.loosen hl hlv).mono (Nat.le_max_left ..)) (hp.mono (Nat.le_max_left ..))
    (hn.mono (Nat.le_max_right ..)) (Nat.le_max_right ..)

/-- What completes a branch of a conditional completes the conditional. -/
theorem chainViable_conditional (h : s.ahead = l :: rest)
    (hc : Connective.ofToken? l.token = some .conditional)
    (hp : power ≤ Connective.leftPower .conditional)
    (ihp : ∀ t : State, t.size ≤ rest.length → ExpressionViable limit 0 t)
    (ihn : ∀ t : State, t.size ≤ rest.length - 1 →
      ExpressionViable limit (Connective.rightPower .conditional) t)
    (ihc : ∀ (positive negative : Expr) (t : State), t.size ≤ rest.length - 1 →
      ChainViable limit power (.conditional left positive negative) t) :
    ChainViable limit power left s := by
  intro lv ts k r hl hs hf hx
  have hsize := s.size_eq h
  have hlv := Connective.rank_lt_of_conditional (hs.lt h hc)
  have ht := Connective.ofToken?_conditional hc
  have named {us : List Token} {p : Expr} {i q : Nat} (hfp : Powered .prefixed 0 us p i q) :
      IsPowered lv power (ts ++ ([l.token] ++ (us ++ [.symbol .colon, .name "x"]))) := by
    rw [ht]
    exact ⟨_, _, _, powered_of_level (c := .conditional)
      (fits_branch hf hl hlv hfp.conditional fits_name) hp⟩
  rw [chain_conditional h hc hp rfl]
  refine link_viable h hx fun _ _ _ s₁ le₁ hs₁ hp₁ => ?_
  refine (((ihp s₁ le₁).reads hs₁).behind hp₁ fun us ⟨p, i, q, hfp⟩ =>
    ⟨_, simple_colon, named hfp⟩).andThen fun p s₂ le₂ ⟨hs₂, _, us, i, q, hp₂, hfp⟩ => ?_
  refine (expect_viable hs₂ (hp₁.trans hp₂) simple_colon ?_).andThen
    fun _ s₃ le₃ ⟨hs₃, hp₃⟩ => ?_
  · rw [List.append_assoc [l.token]]
    exact named hfp
  · refine lastOperandViable (ihn s₃ (by omega)) (fun n u le => ihc p n u (by omega)) hs₃ hp₃ hp
      (by omega) fun {vs n j q'} hfn => ⟨k + 1, max r (k + 1 + max q q' + 1), ?_⟩
    rw [List.append_assoc ([l.token] ++ us), List.append_assoc [l.token], ht]
    exact fits_branch hf hl hlv hfp.conditional hfn.conditional

/-- What completes the first operand, or the chain behind it, completes the expression. -/
theorem expressionViable (ihp : ∀ t : State, t.size ≤ s.size → PrefixedViable limit t)
    (ihc : ∀ (left : Expr) (t : State), t.size ≤ s.size → ChainViable limit power left t) :
    ExpressionViable limit power s := by
  intro hs
  rw [expression]
  refine Step.Meets.restore ((descend_viable limit s).andThen fun _ s₁ le₁ h₁ => ?_)
  obtain ⟨hp₁, -, he⟩ := h₁
  refine (((ihp s₁ le₁).reads (he ▸ hs)).last hp₁ fun _ =>
    isPowered_of_isPrefixed).andThen fun left s₂ le₂ h₂ => ?_
  obtain ⟨hs₂, ts, r, hp₂, hf⟩ := h₂
  have hc := ihc left s₂ (Nat.le_trans le₂ le₁) .prefixed ts 0 r (Nat.le_refl _)
    (fun _ c _ _ => c.leftPower_lt_prefixed) hf hs₂
  exact (Step.Meets.last hc (hp₁.trans hp₂) fun _ => id).weaken _

end Chain

/-- Whatever a reader fails at, the tokens in front of that place can be completed. -/
theorem viable_readers (limit : Nat) : EachReader (PrimaryViable limit) (ListViable limit)
    (ItemsViable limit) (MoreItemsViable limit) (ExpressionViable limit) (ChainViable limit)
    (PrefixedViable limit) (PostfixedViable limit) (SuffixesViable limit) where
  primary_fails hp := primaryViable_fails (hp limit _ rfl)
  primary_atom h he := primaryViable_atom h he
  primary_in := primaryViable_in
  primary_group := primaryViable_group
  primary_list := primaryViable_list
  list_closed := listViable_closed
  list_open := listViable_open
  items := itemsViable
  moreItems_stop hm := moreItemsViable_stop (hm limit _ rfl)
  moreItems_comma := moreItemsViable_comma
  suffixes_stop hx _ := suffixesViable_stop (hx limit _ rfl)
  suffixes_dot := suffixesViable_dot
  suffixes_bracket := suffixesViable_bracket
  suffixes_paren := suffixesViable_paren
  postfixed := postfixedViable
  prefixed_operand hx := prefixedViable_operand (hx limit _ rfl)
  prefixed_operator h ho := prefixedViable_operator h ho
  chain_stop hx _ := chainViable_stop (hx limit _ rfl)
  chain_operator h hc hp hn := chainViable_operator h hc hp hn
  chain_conditional := chainViable_conditional
  expression := expressionViable

/-- **What has been read in front of an error can be completed to a whole expression.** -/
theorem completable_of_whole {err : SyntaxError} (h : (whole limit s).1 = .error err)
    (hs : s.ending.IsLexical) :
    Completable (fun ts => ∃ e k r, Fits .conditional ts e k r) s err := by
  have hx := ((viable_readers limit).holds 0 s).reads hs
  unfold whole at h
  cases he : expression limit 0 s with
  | error e t =>
    rw [he] at hx h
    cases h
    refine Completable.behind hx (.refl s) fun ts ⟨e, k, r, hf⟩ => ⟨[], simple_nil, e, k, r, ?_⟩
    rw [List.append_nil]
    exact hf.conditional
  | ok a t le =>
    rw [he] at hx h
    obtain ⟨-, -, ts, k, r, hp, hf⟩ := hx
    dsimp only at h
    split at h
    · cases h
    · next l rest ha =>
      cases h
      refine completable_of_stopsAt hp (stopsAt_ahead ha rfl) simple_nil ⟨a, k, r, ?_⟩
      rw [List.append_nil]
      exact hf.conditional

end Parser
end Expr
end RecordFilter
