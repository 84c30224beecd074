/-
# Induction over all readers

The readers of operands, lists, connectives and whole expressions call each other.  What holds of
all of them is shown reader by reader, and for each reader by what stands in front of it; the cases
are the fields of `EachReader`, in which a reader may assume it of the readers that it calls, on
what is left behind the lexemes that it has passed over.  Each proof about all readings is one such
list of cases (`EachReader.holds`).
-/

import Mathlib
import RecordFilter.Proofs.Expr.Levels
import RecordFilter.Proofs.Expr.Steps

namespace RecordFilter
namespace Expr
namespace Parser

/-- No connective in front of a state has a left power of `power` or more. -/
def Stops (power : Nat) (s : State) : Prop :=
  ∀ t c, s.token? = some t → Connective.ofToken? t = some c → c.leftPower < power

section Stops

variable {s : State} {l : Lexeme} {rest : List Lexeme} {c : Connective} {power : Nat}

/-- A chain stops where no lexeme is left. -/
theorem stops_nil (h : s.ahead = []) : Stops power s := by
  intro t c ht
  rw [State.token?, h] at ht
  cases ht

/-- A chain stops in front of a token that is no connective. -/
theorem stops_other (h : s.ahead = l :: rest) (hc : Connective.ofToken? l.token = none) :
    Stops power s := by
  intro t c ht hc'
  rw [State.token?, h] at ht
  rw [← Option.some.inj ht] at hc'
  exact absurd (hc.symm.trans hc') nofun

/-- A chain stops in front of a connective of a lesser power. -/
theorem stops_weaker (h : s.ahead = l :: rest) (hc : Connective.ofToken? l.token = some c)
    (hp : c.leftPower < power) : Stops power s := by
  intro t c' ht hc'
  rw [State.token?, h] at ht
  rw [← Option.some.inj ht] at hc'
  rwa [← Option.some.inj (hc.symm.trans hc')]

end Stops

/-! ### The current token -/

section Token

variable {s u : State} {l : Lexeme} {rest : List Lexeme} {limit power : Nat} {e : Expr}

/-- The token in front is that of the first lexeme. -/
theorem token?_of_ahead (h : s.ahead = l :: rest) : s.token? = some l.token := by
  rw [State.token?, h]
  rfl

/-- States with the same token in front have both none. -/
theorem ahead_eq_nil_of_token? (hu : u.token? = s.token?) (h : s.ahead = []) : u.ahead = [] := by
  rw [State.token?, State.token?, h] at hu
  exact List.head?_eq_none_iff.1 (Option.map_eq_none_iff.1 hu)

/-- States with the same token in front have lexemes with it. -/
theorem exists_ahead_of_token? (hu : u.token? = s.token?) (h : s.ahead = l :: rest) :
    ∃ l' rest', u.ahead = l' :: rest' ∧ l'.token = l.token := by
  rw [token?_of_ahead h] at hu
  obtain ⟨l', hl', ht⟩ := Option.map_eq_some_iff.1 hu
  obtain ⟨rest', hrest'⟩ := List.head?_eq_some_iff.1 hl'
  exact ⟨l', rest', hrest', ht⟩

/-- A token that starts no operand is refused in each state that has it in front. -/
theorem primary_other_of_token? (hu : u.token? = s.token?) (h : s.ahead = l :: rest)
    (ha : atom? l.token = none) (hi : l.token ≠ .word .inWord) (hp : l.token ≠ .symbol .leftParen)
    (hb : l.token ≠ .symbol .leftBracket) : primary limit u = .error (unexpected u) u := by
  obtain ⟨l', rest', h', ht⟩ := exists_ahead_of_token? hu h
  rw [← ht] at ha hi hp hb
  exact primary_other h' ha hi hp hb

/-- Without a comma in front, no state has further items. -/
theorem moreItems_other_of_token? (hu : u.token? = s.token?) (h : s.ahead = l :: rest)
    (ht : l.token ≠ .symbol .comma) : moreItems limit u = .ok [] u (Nat.le_refl _) := by
  obtain ⟨l', rest', h', ht'⟩ := exists_ahead_of_token? hu h
  exact moreItems_other h' (ht' ▸ ht)

/-- Without the start of a suffix in front, no state has suffixes. -/
theorem suffixes_other_of_token? (hu : u.token? = s.token?) (h : s.ahead = l :: rest)
    (hd : l.token ≠ .symbol .dot) (hb : l.token ≠ .symbol .leftBracket)
    (hp : l.token ≠ .symbol .leftParen) : suffixes limit e u = .ok e u (Nat.le_refl _) := by
  obtain ⟨l', rest', h', ht⟩ := exists_ahead_of_token? hu h
  rw [← ht] at hd hb hp
  exact suffixes_other h' hd hb hp

/-- Without a prefix operator in front, every state has an operand. -/
theorem prefixed_other_of_token? (hu : u.token? = s.token?) (h : s.ahead = l :: rest)
    (ho : UnaryOp.ofToken? l.token = none) : prefixed limit u = postfixed limit u := by
  obtain ⟨l', rest', h', ht⟩ := exists_ahead_of_token? hu h
  exact prefixed_other h' (ht ▸ ho)

/-- A chain ends in each state that has the same token in front. -/
theorem Stops.chain_of_token? (hs : Stops power s) (hu : u.token? = s.token?) :
    chain limit power e u = .ok e u (Nat.le_refl _) := by
  cases h : u.ahead with
  | nil => exact chain_nil h
  | cons l rest =>
    cases hc : Connective.ofToken? l.token with
    | none => exact chain_other h hc
    | some c => exact chain_weaker h hc (hs l.token c (hu.symm.trans (token?_of_ahead h)) hc)

end Token

/-- What there is to show of each reader, by what stands in front of it, for something that holds of
all of them. -/
structure EachReader (Primary : State → Prop) (ListTo : Symbol → State → Prop)
    (Items MoreItems : State → Prop) (Expression : Nat → State → Prop)
    (Chain : Nat → Expr → State → Prop) (Prefixed Postfixed : State → Prop)
    (Suffixes : Expr → State → Prop) : Prop where
  primary_fails {s : State} (hp : ∀ limit (u : State), u.token? = s.token? →
      primary limit u = .error (unexpected u) u) : Primary s
  primary_atom {s l rest e} (h : s.ahead = l :: rest) (he : atom? l.token = some e) : Primary s
  primary_in {s l rest} (h : s.ahead = l :: rest) (ht : l.token = .word .inWord) : Primary s
  primary_group {s l rest} (h : s.ahead = l :: rest) (ht : l.token = .symbol .leftParen)
    (ih : ∀ t : State, t.size ≤ rest.length → Expression 0 t) : Primary s
  primary_list {s l rest} (h : s.ahead = l :: rest) (ht : l.token = .symbol .leftBracket)
    (ih : ∀ t : State, t.size ≤ rest.length → ListTo .rightBracket t) : Primary s
  list_closed {close} {s : State} (hc : s.token?.any (isSymbol close) = true) : ListTo close s
  list_open {close} {s : State} (hc : ¬ s.token?.any (isSymbol close) = true) (ih : Items s) :
    ListTo close s
  items {s : State} (ihe : Expression 0 s) (ihm : ∀ t : State, t.size ≤ s.size → MoreItems t) :
    Items s
  moreItems_stop {s : State} (hm : ∀ limit (u : State), u.token? = s.token? →
      moreItems limit u = .ok [] u (Nat.le_refl _)) : MoreItems s
  moreItems_comma {s l rest} (h : s.ahead = l :: rest) (ht : l.token = .symbol .comma)
    (ih : ∀ t : State, t.size ≤ rest.length → Items t) : MoreItems s
  suffixes_stop {e} {s : State} (hx : ∀ limit (u : State), u.token? = s.token? →
      suffixes limit e u = .ok e u (Nat.le_refl _))
    (hp : s.token? ≠ some (.symbol .leftParen)) : Suffixes e s
  suffixes_dot {e s l rest} (h : s.ahead = l :: rest) (ht : l.token = .symbol .dot)
    (ih : ∀ (n : String) (t : State), t.size ≤ rest.length - 1 →
      Suffixes (.member e (.name n) false) t) : Suffixes e s
  suffixes_bracket {e s l rest} (h : s.ahead = l :: rest) (ht : l.token = .symbol .leftBracket)
    (ihe : ∀ t : State, t.size ≤ rest.length → Expression 0 t)
    (ihs : ∀ (p : Expr) (t : State), t.size ≤ rest.length - 1 →
      Suffixes (.member e p true) t) : Suffixes e s
  suffixes_paren {e s l rest} (h : s.ahead = l :: rest) (ht : l.token = .symbol .leftParen)
    (ihl : ∀ t : State, t.size ≤ rest.length → ListTo .rightParen t)
    (ihs : ∀ (callee : String) (es : List Expr) (t : State), t.size ≤ rest.length →
      Suffixes (.call callee es) t) : Suffixes e s
  postfixed {s : State} (ihp : Primary s)
    (ihs : ∀ (e : Expr) (t : State), t.size ≤ s.size → Suffixes e t) : Postfixed s
  prefixed_operand {s : State} (hx : ∀ limit (u : State), u.token? = s.token? →
      prefixed limit u = Parser.postfixed limit u)
    (ih : Postfixed s) : Prefixed s
  prefixed_operator {s l rest op} (h : s.ahead = l :: rest)
    (ho : UnaryOp.ofToken? l.token = some op)
    (ih : ∀ t : State, t.size ≤ rest.length → Prefixed t) : Prefixed s
  chain_stop {power left} {s : State} (hx : ∀ limit (u : State), u.token? = s.token? →
      chain limit power left u = .ok left u (Nat.le_refl _)) (hs : Stops power s) :
    Chain power left s
  chain_operator {power left s l rest c node} (h : s.ahead = l :: rest)
    (hc : Connective.ofToken? l.token = some c) (hp : power ≤ c.leftPower)
    (hn : c.node? = some node)
    (ihe : ∀ t : State, t.size ≤ rest.length → Expression c.rightPower t)
    (ihc : ∀ (right : Expr) (t : State), t.size ≤ rest.length →
      Chain power (node left right) t) : Chain power left s
  chain_conditional {power left s l rest} (h : s.ahead = l :: rest)
    (hc : Connective.ofToken? l.token = some .conditional)
    (hp : power ≤ Connective.leftPower .conditional)
    (ihp : ∀ t : State, t.size ≤ rest.length → Expression 0 t)
    (ihn : ∀ t : State, t.size ≤ rest.length - 1 →
      Expression (Connective.rightPower .conditional) t)
    (ihc : ∀ (positive negative : Expr) (t : State), t.size ≤ rest.length - 1 →
      Chain power (.conditional left positive negative) t) : Chain power left s
  expression {power} {s : State} (ihp : ∀ t : State, t.size ≤ s.size → Prefixed t)
    (ihc : ∀ (left : Expr) (t : State), t.size ≤ s.size → Chain power left t) :
    Expression power s

/-- Something that holds of all readers. -/
structure AllReaders (Primary : State → Prop) (ListTo : Symbol → State → Prop)
    (Items MoreItems : State → Prop) (Expression : Nat → State → Prop)
    (Chain : Nat → Expr → State → Prop) (Prefixed Postfixed : State → Prop)
    (Suffixes : Expr → State → Prop) : Prop where
  primary (s : State) : Primary s
  list (close : Symbol) (s : State) : ListTo close s
  items (s : State) : Items s
  moreItems (s : State) : MoreItems s
  expression (power : Nat) (s : State) : Expression power s
  chain (power : Nat) (left : Expr) (s : State) : Chain power left s
  prefixed (s : State) : Prefixed s
  postfixed (s : State) : Postfixed s
  suffixes (e : Expr) (s : State) : Suffixes e s

section EachReader

variable {Primary : State → Prop} {ListTo : Symbol → State → Prop}
  {Items MoreItems : State → Prop} {Expression : Nat → State → Prop}
  {Chain : Nat → Expr → State → Prop} {Prefixed Postfixed : State → Prop}
  {Suffixes : Expr → State → Prop}

/-- What is shown of each reader holds of all of them. -/
theorem EachReader.all
    (r : EachReader Primary ListTo Items MoreItems Expression Chain Prefixed Postfixed Suffixes) :
    AllReaders Primary ListTo Items MoreItems Expression Chain Prefixed Postfixed Suffixes := by
  have chainStop {power left s} (hs : Stops power s) : Chain power left s :=
    r.chain_stop (fun _ u hu => hs.chain_of_token? hu) hs
  have h := primary.mutual_induct Primary ListTo Items MoreItems Expression Chain Prefixed Postfixed
    Suffixes
    (fun s h => r.primary_fails fun _ u hu => primary_nil (ahead_eq_nil_of_token? hu h))
    (fun s l rest h _ e he => r.primary_atom h he)
    (fun s l rest h _ ht _ => r.primary_in h ht)
    (fun s l rest h _ ht _ ih => r.primary_group h ht ih)
    (fun s l rest h _ ht _ ih => r.primary_list h ht ih)
    (fun s l rest h _ he hi hp hb => r.primary_fails fun _ u hu =>
      primary_other_of_token? hu h he hi hp hb)
    (fun close s hc => r.list_closed hc)
    (fun close s hc ih => r.list_open hc ih)
    (fun s ihe ihm => r.items ihe ihm)
    (fun s h => r.moreItems_stop fun _ u hu => moreItems_nil (ahead_eq_nil_of_token? hu h))
    (fun s l rest h _ hc ih => r.moreItems_comma h (isSymbol_iff.1 hc) ih)
    (fun s l rest h _ hc => r.moreItems_stop fun _ u hu =>
      moreItems_other_of_token? hu h (mt isSymbol_iff.2 hc))
    (fun power s ihp ihc => r.expression ihp fun left t ht => ihc s (Nat.le_refl _) left t ht)
    (fun power left s h => chainStop (stops_nil h))
    (fun power left s l rest h _ hc => chainStop (stops_other h hc))
    (fun power left s l rest h _ c hc hp => chainStop (stops_weaker h hc hp))
    ?_
    (fun s h ih => r.prefixed_operand
      (fun _ u hu => prefixed_nil (ahead_eq_nil_of_token? hu h)) ih)
    (fun s l rest h _ ho ih => r.prefixed_operand
      (fun _ u hu => prefixed_other_of_token? hu h ho) ih)
    (fun s l rest h _ op ho ih => r.prefixed_operator h ho fun t ht => ih t ht t (Nat.le_refl _))
    (fun s ihp ihs => r.postfixed ihp ihs)
    (fun e s h => r.suffixes_stop (fun _ u hu => suffixes_nil (ahead_eq_nil_of_token? hu h))
      (by rw [State.token?, h]; exact nofun))
    (fun e s l rest h _ ht ih => r.suffixes_dot h ht fun n t hs =>
      ih s ⟨rest, s.ending, 0⟩ (Nat.le_refl _) n t hs)
    (fun e s l rest h _ ht ihe ihs => r.suffixes_bracket h ht (ihe s) fun p t hs =>
      ihs s ⟨rest, s.ending, 0⟩ (Nat.le_refl _) p ⟨rest, s.ending, 0⟩ (Nat.le_refl _) t hs)
    (fun e s l rest h _ ht ihl ihs => r.suffixes_paren h ht (ihl s) fun callee es t hs =>
      ihs s callee t hs es t (Nat.le_refl _))
    (fun e s l rest h _ hd hb hp => r.suffixes_stop
      (fun _ u hu => suffixes_other_of_token? hu h hd hb hp) ?_)
  · obtain ⟨h₁, h₂, h₃, h₄, h₅, h₆, h₇, h₈, h₉⟩ := h
    exact ⟨h₁, h₂, h₃, h₄, h₅, h₆, h₇, h₈, h₉⟩
  · intro power left s l rest h _ c hc hp iho ihc ihp ihn ihd
    cases hn : c.node? with
    | some node =>
      exact r.chain_operator h hc (Nat.le_of_not_lt hp) hn (iho s) fun right t ht =>
        ihc s t ht node right t (Nat.le_refl _)
    | none =>
      obtain rfl := Connective.node?_eq_none.1 hn
      have le := Nat.le_refl rest.length
      exact r.chain_conditional h hc (Nat.le_of_not_lt hp) (ihp s)
        (fun t ht => ihn s ⟨rest, s.ending, 0⟩ le ⟨rest, s.ending, 0⟩ le t ht)
        fun p n t ht => ihd s ⟨rest, s.ending, 0⟩ le p ⟨rest, s.ending, 0⟩ le t ht n t
          (Nat.le_refl _)
  · rw [token?_of_ahead h]
    exact fun ht => hp (Option.some.inj ht)

/-- What is shown of each reader holds of every expression that is read. -/
theorem EachReader.holds
    (r : EachReader Primary ListTo Items MoreItems Expression Chain Prefixed Postfixed Suffixes)
    (power : Nat) (s : State) : Expression power s :=
  r.all.expression power s

end EachReader

end Parser
end Expr
end RecordFilter
