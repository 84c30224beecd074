/-
# The grammar of expressions

Which runs of tokens are an expression, and which one, said without a reader.  The grammar has one
level for each strength of operators, from the conditional, which holds its parts the loosest, down
to a single operand (`Level`).  An operator whose chains are read from the left takes an operand of
its own level on its left and a tighter one on its right (`Level.node?`, `Derives.left`); the power
sign and the conditional are read from the right.  Parentheses leave no node, lists have no comma
behind their last item, a reserved word is a name behind a dot, and the word `in` is a name only
where it is called.

`Derives` is this grammar.  `Fits` is the same grammar with a count of levels: `room` bounds the
levels that a reading from left to right has open at once, and `spine` is the number of links that
the chain at hand has open when it ends.  What derives fits into two levels for each token
(`Derives.fits`), and what fits derives (`Fits.derives`).
-/

import Mathlib
import RecordFilter.Expr.Parser

namespace RecordFilter
namespace Expr
namespace Grammar

/-- The levels of the grammar, from the loosest to the tightest. -/
inductive Level where
  | conditional
  | disjunction
  | conjunction
  | bitOr
  | bitXor
  | bitAnd
  | equality
  | relational
  | shift
  | additive
  | multiplicative
  | power
  /-- An operand with the operators in front of it. -/
  | prefixed
  /-- An operand with the members and calls behind it. -/
  | suffixed
  /-- A single operand. -/
  | primary
deriving DecidableEq, Repr

namespace Level

/-- The next tighter level. -/
def tighter? : Level → Option Level
  | conditional => some disjunction
  | disjunction => some conjunction
  | conjunction => some bitOr
  | bitOr => some bitXor
  | bitXor => some bitAnd
  | bitAnd => some equality
  | equality => some relational
  | relational => some shift
  | shift => some additive
  | additive => some multiplicative
  | multiplicative => some power
  | power => some prefixed
  | prefixed => some suffixed
  | suffixed => some primary
  | primary => none

/-- The operators of a level whose chains are read from the left, with the nodes that they make. -/
def node? : Level → Token → Option (Expr → Expr → Expr)
  | disjunction, .symbol .pipePipe => some (.logical .or)
  | conjunction, .symbol .ampAmp => some (.logical .and)
  | bitOr, .symbol .pipe => some (.binary .bitOr)
  | bitXor, .symbol .caret => some (.binary .bitXor)
  | bitAnd, .symbol .ampersand => some (.binary .bitAnd)
  | equality, .symbol .equalEqual => some (.binary .equal)
  | equality, .symbol .equalEqualEqual => some (.binary .strictEqual)
  | equality, .symbol .bangEqual => some (.binary .notEqual)
  | equality, .symbol .bangEqualEqual => some (.binary .strictNotEqual)
  | relational, .symbol .less => some (.binary .less)
  | relational, .symbol .lessEqual => some (.binary .lessOrEqual)
  | relational, .symbol .greater => some (.binary .greater)
  | relational, .symbol .greaterEqual => some (.binary .greaterOrEqual)
  | relational, .word .inWord => some (.binary .isIn)
  | relational, .symbol .equalTilde => some (.binary .regexMatch)
  | relational, .symbol .equalStar => some (.binary .globMatch)
  | shift, .symbol .lessLess => some (.binary .shiftLeft)
  | shift, .symbol .greaterGreater => some (.binary .shiftRight)
  | shift, .symbol .greaterGreaterGreater => some (.binary .unsignedShiftRight)
  | additive, .symbol .plus => some (.binary .add)
  | additive, .symbol .minus => some (.binary .subtract)
  | multiplicative, .symbol .star => some (.binary .multiply)
  | multiplicative, .symbol .slash => some (.binary .divide)
  | multiplicative, .symbol .percent => some (.binary .modulo)
  | _, _ => none

end Level

/-- Tokens between two brackets. -/
def between (opening : Symbol) (ts : List Token) (closing : Symbol) : List Token :=
  .symbol opening :: (ts ++ [.symbol closing])

/-- Runs of tokens with commas between them. -/
def separated : List (List Token) → List Token
  | [] => []
  | [ts] => ts
  | ts :: rest => ts ++ .symbol .comma :: separated rest

/-- Runs of tokens behind another one, with a comma in front of each. -/
def following : List (List Token) → List Token
  | [] => []
  | runs => .symbol .comma :: separated runs

/-- Runs with commas between them are the first one and the others with commas in front. -/
theorem separated_cons (ts : List Token) (runs : List (List Token)) :
    separated (ts :: runs) = ts ++ following runs := by
  cases runs with
  | nil => exact (List.append_nil ts).symm
  | cons => rfl

/-- The runs of tokens that are an expression of a level. -/
inductive Derives : Level → List Token → Expr → Prop where
  /-- A literal, a name or the record. -/
  | atom {t e} (h : Parser.atom? t = some e) : Derives .primary [t] e
  /-- An expression in parentheses. -/
  | group {ts e} (h : Derives .conditional ts e) :
      Derives .primary (between .leftParen ts .rightParen) e
  /-- A list. -/
  | list (items : List (List Token × Expr)) (h : ∀ x ∈ items, Derives .conditional x.1 x.2) :
      Derives .primary (between .leftBracket (separated (items.map (·.1))) .rightBracket)
        (.list (items.map (·.2)))
  /-- A member by name. -/
  | member {ts e t n} (h : Derives .suffixed ts e) (hn : Parser.propertyName? t = some n) :
      Derives .suffixed (ts ++ [.symbol .dot, t]) (.member e (.name n) false)
  /-- A member by the value of an expression. -/
  | index {ts e us p} (h : Derives .suffixed ts e) (hp : Derives .conditional us p) :
      Derives .suffixed (ts ++ between .leftBracket us .rightBracket) (.member e p true)
  /-- A call of what has a dotted name. -/
  | call {ts e callee} (h : Derives .suffixed ts e) (hc : e.calleeName? = some callee)
      (items : List (List Token × Expr)) (hi : ∀ x ∈ items, Derives .conditional x.1 x.2) :
      Derives .suffixed
        (ts ++ between .leftParen (separated (items.map (·.1))) .rightParen)
        (.call callee (items.map (·.2)))
  /-- A call of `in`. -/
  | callIn (items : List (List Token × Expr)) (hi : ∀ x ∈ items, Derives .conditional x.1 x.2) :
      Derives .suffixed
        (.word .inWord :: between .leftParen (separated (items.map (·.1))) .rightParen)
        (.call "in" (items.map (·.2)))
  /-- An operator in front of its operand. -/
  | unary {t op ts e} (ho : UnaryOp.ofToken? t = some op) (h : Derives .prefixed ts e) :
      Derives .prefixed (t :: ts) (.unary op e)
  /-- The power sign, whose chains are read from the right. -/
  | power {ts a us b} (ha : Derives .prefixed ts a) (hb : Derives .power us b) :
      Derives .power (ts ++ .symbol .starStar :: us) (.binary .power a b)
  /-- An operator whose chains are read from the left. -/
  | left {l m t node ts a us b} (hm : l.tighter? = some m) (hn : l.node? t = some node)
      (ha : Derives l ts a) (hb : Derives m us b) : Derives l (ts ++ t :: us) (node a b)
  /-- A condition with its two branches. -/
  | conditional {ts c us p vs n} (hc : Derives .disjunction ts c) (hp : Derives .conditional us p)
      (hn : Derives .conditional vs n) :
      Derives .conditional
        (ts ++ .symbol .question :: (us ++ .symbol .colon :: vs)) (.conditional c p n)
  /-- An expression of the next tighter level. -/
  | tighter {l m ts e} (hm : l.tighter? = some m) (h : Derives m ts e) : Derives l ts e

/-- An expression has a first token, which does not close a group or a list. -/
theorem Derives.starts {l : Level} {ts : List Token} {e : Expr} (h : Derives l ts e) :
    ∃ t us, ts = t :: us ∧ t ≠ .symbol .rightParen ∧ t ≠ .symbol .rightBracket := by
  induction h with
  | @atom t e h =>
    refine ⟨t, [], rfl, ?_, ?_⟩ <;> rintro rfl <;> cases h
  | group | list | callIn => exact ⟨_, _, rfl, nofun, nofun⟩
  | @unary t op ts e ho =>
    refine ⟨t, ts, rfl, ?_, ?_⟩ <;> rintro rfl <;> cases ho
  | member _ _ ih | index _ _ ih | call _ _ _ _ ih | power _ _ ih | left _ _ _ _ ih
  | conditional _ _ _ ih =>
    obtain ⟨t, us, rfl, h⟩ := ih
    exact ⟨t, _, rfl, h⟩
  | tighter _ _ ih => exact ih

/-- The links that are open behind an expression of a level, if `spine` are behind the same
expression of the next tighter level.  They are closed behind a single operand. -/
def Level.spine (l : Level) (spine : Nat) : Nat := if l = .prefixed then 0 else spine

/-- The runs of tokens that are an expression of a level and never have more than `room` levels
open; `spine` of them are when the run ends. -/
inductive Fits : Level → List Token → Expr → (spine room : Nat) → Prop where
  | atom {t e room} (h : Parser.atom? t = some e) : Fits .primary [t] e 0 room
  | group {ts e k r room} (h : Fits .conditional ts e k r) (hr : r < room) :
      Fits .primary (between .leftParen ts .rightParen) e 0 room
  | list {r room} (items : List (List Token × Expr × Nat))
      (h : ∀ x ∈ items, Fits .conditional x.1 x.2.1 x.2.2 r) (hr : items ≠ [] → r < room) :
      Fits .primary (between .leftBracket (separated (items.map (·.1))) .rightBracket)
        (.list (items.map (·.2.1))) 0 room
  | member {ts e t n k room} (h : Fits .suffixed ts e k room)
      (hn : Parser.propertyName? t = some n) (hk : k < room) :
      Fits .suffixed (ts ++ [.symbol .dot, t]) (.member e (.name n) false) (k + 1) room
  | index {ts e us p k j r room} (h : Fits .suffixed ts e k room)
      (hp : Fits .conditional us p j r) (hk : k + 1 + r < room) :
      Fits .suffixed (ts ++ between .leftBracket us .rightBracket) (.member e p true) (k + 1) room
  | call {ts e callee k r room} (h : Fits .suffixed ts e k room)
      (hc : e.calleeName? = some callee) (items : List (List Token × Expr × Nat))
      (hi : ∀ x ∈ items, Fits .conditional x.1 x.2.1 x.2.2 r) (hk : k < room)
      (hr : items ≠ [] → k + 1 + r < room) :
      Fits .suffixed (ts ++ between .leftParen (separated (items.map (·.1))) .rightParen)
        (.call callee (items.map (·.2.1))) (k + 1) room
  | callIn {r room} (items : List (List Token × Expr × Nat))
      (hi : ∀ x ∈ items, Fits .conditional x.1 x.2.1 x.2.2 r) (hk : 0 < room)
      (hr : items ≠ [] → 1 + r < room) :
      Fits .suffixed
        (.word .inWord :: between .leftParen (separated (items.map (·.1))) .rightParen)
        (.call "in" (items.map (·.2.1))) 1 room
  | unary {t op ts e r room} (ho : UnaryOp.ofToken? t = some op) (h : Fits .prefixed ts e 0 r)
      (hr : r < room) : Fits .prefixed (t :: ts) (.unary op e) 0 room
  | power {ts a us b j r room} (ha : Fits .prefixed ts a 0 room) (hb : Fits .power us b j r)
      (hr : 1 + r < room) :
      Fits .power (ts ++ .symbol .starStar :: us) (.binary .power a b) 1 room
  | left {l m t node ts a us b k j r room} (hm : l.tighter? = some m)
      (hn : l.node? t = some node) (ha : Fits l ts a k room) (hb : Fits m us b j r)
      (hr : k + 1 + r < room) : Fits l (ts ++ t :: us) (node a b) (k + 1) room
  | conditional {ts c us p vs n k i j r room} (hc : Fits .disjunction ts c k room)
      (hp : Fits .conditional us p i r) (hn : Fits .conditional vs n j r)
      (hr : k + 1 + r < room) :
      Fits .conditional (ts ++ .symbol .question :: (us ++ .symbol .colon :: vs))
        (.conditional c p n) (k + 1) room
  | tighter {l m ts e k room} (hm : l.tighter? = some m) (h : Fits m ts e k room) :
      Fits l ts e (l.spine k) room

/-- Two symbols make a run longer by two. -/
@[simp] theorem length_between (o c : Symbol) (ts : List Token) :
    (between o ts c).length = ts.length + 2 := by
  simp [between]

/-- A run between commas is no longer than all of them together. -/
theorem length_le_separated {ts : List Token} {runs : List (List Token)} (h : ts ∈ runs) :
    ts.length ≤ (separated runs).length := by
  fun_induction separated runs with
  | case1 => exact absurd h List.not_mem_nil
  | case2 us => exact Nat.le_of_eq (congrArg List.length (List.mem_singleton.1 h))
  | case3 us rest hne ih =>
    rw [List.length_append, List.length_cons]
    rcases List.mem_cons.1 h with rfl | h
    · omega
    · have := ih h; omega

/-- Items each of which has a count, as a list that carries the counts. -/
theorem exists_counted {P : List Token → Expr → Nat → Prop} (items : List (List Token × Expr))
    (h : ∀ x ∈ items, ∃ k, P x.1 x.2 k) :
    ∃ counted : List (List Token × Expr × Nat), counted.map (·.1) = items.map (·.1) ∧
      counted.map (·.2.1) = items.map (·.2) ∧ ∀ x ∈ counted, P x.1 x.2.1 x.2.2 := by
  induction items with
  | nil => exact ⟨[], rfl, rfl, fun _ h => absurd h List.not_mem_nil⟩
  | cons x items ih =>
    obtain ⟨counted, h₁, h₂, hP⟩ := ih fun y hy => h y (List.mem_cons_of_mem _ hy)
    obtain ⟨k, hk⟩ := h x (List.mem_cons_self ..)
    refine ⟨(x.1, x.2, k) :: counted, by simp [h₁], by simp [h₂], fun y hy => ?_⟩
    rcases List.mem_cons.1 hy with rfl | hy
    · exact hk
    · exact hP y hy

/-- What fits derives. -/
theorem Fits.derives {l : Level} {ts : List Token} {e : Expr} {k room : Nat}
    (h : Fits l ts e k room) : Derives l ts e := by
  induction h with
  | atom h => exact .atom h
  | group _ _ ih => exact .group ih
  | list items _ _ ih =>
    have := Derives.list (items.map fun x => (x.1, x.2.1)) (List.forall_mem_map.2 ih)
    simpa only [List.map_map, Function.comp_def] using this
  | member _ hn _ ih => exact .member ih hn
  | index _ _ _ ih ihp => exact .index ih ihp
  | call _ hc items _ _ _ ih ihi =>
    have := Derives.call ih hc (items.map fun x => (x.1, x.2.1)) (List.forall_mem_map.2 ihi)
    simpa only [List.map_map, Function.comp_def] using this
  | callIn items _ _ _ ihi =>
    have := Derives.callIn (items.map fun x => (x.1, x.2.1)) (List.forall_mem_map.2 ihi)
    simpa only [List.map_map, Function.comp_def] using this
  | unary ho _ _ ih => exact .unary ho ih
  | power _ _ _ iha ihb => exact .power iha ihb
  | left hm hn _ _ _ iha ihb => exact .left hm hn iha ihb
  | conditional _ _ _ _ ihc ihp ihn => exact .conditional ihc ihp ihn
  | tighter hm _ ih => exact .tighter hm ih

/-- What fits into some room fits into more. -/
theorem Fits.mono {l : Level} {ts : List Token} {e : Expr} {k room more : Nat}
    (h : Fits l ts e k room) (hm : room ≤ more) : Fits l ts e k more := by
  induction h with
  | atom h => exact .atom h
  | group h hr _ => exact .group h (by omega)
  | list items h hr _ => exact .list items h fun hne => by have := hr hne; omega
  | member _ hn hk ih => exact .member (ih hm) hn (by omega)
  | index _ hp hk ih _ => exact .index (ih hm) hp (by omega)
  | call _ hc items hi hk hr ih _ =>
    exact .call (ih hm) hc items hi (by omega) fun hne => by have := hr hne; omega
  | callIn items hi hk hr _ =>
    exact .callIn items hi (by omega) fun hne => by have := hr hne; omega
  | unary ho h hr _ => exact .unary ho h (by omega)
  | power _ hb hr iha _ => exact .power (iha hm) hb (by omega)
  | left ht hn _ hb hr iha _ => exact .left ht hn (iha hm) hb (by omega)
  | conditional _ hp hn hr ihc _ _ => exact .conditional (ihc hm) hp hn (by omega)
  | tighter ht _ ih => exact .tighter ht (ih hm)

/-- Items that fit into two levels for each of their tokens, as a list that carries their counts. -/
theorem exists_fitting (items : List (List Token × Expr))
    (h : ∀ x ∈ items, ∃ k ≤ x.1.length, Fits .conditional x.1 x.2 k (2 * x.1.length)) :
    ∃ counted : List (List Token × Expr × Nat), counted.map (·.1) = items.map (·.1) ∧
      counted.map (·.2.1) = items.map (·.2) ∧ ∀ x ∈ counted,
        Fits .conditional x.1 x.2.1 x.2.2 (2 * (separated (items.map (·.1))).length) := by
  refine exists_counted (P := fun ts e k => Fits .conditional ts e k _) items fun x hx => ?_
  obtain ⟨k, -, hk⟩ := h x hx
  have := length_le_separated (List.mem_map_of_mem hx : x.1 ∈ items.map (·.1))
  exact ⟨k, hk.mono (by omega)⟩

/-- No link is open behind a single operand. -/
theorem Fits.spine_primary {ts : List Token} {e : Expr} {k room : Nat}
    (h : Fits .primary ts e k room) : k = 0 := by
  cases h with
  | atom | group | list => rfl
  | left hm => cases hm
  | tighter hm => cases hm

/-- No link is open behind an operand with the operators in front of it. -/
theorem Fits.spine_prefixed {ts : List Token} {e : Expr} {k room : Nat}
    (h : Fits .prefixed ts e k room) : k = 0 := by
  cases h with
  | unary => rfl
  | left _ hn => cases hn
  | tighter => rfl

/-- What derives fits into two levels for each token. -/
theorem Derives.fits {l : Level} {ts : List Token} {e : Expr} (h : Derives l ts e) :
    ∃ k ≤ ts.length, Fits l ts e k (2 * ts.length) := by
  induction h with
  | atom h => exact ⟨0, Nat.zero_le _, .atom h⟩
  | group _ ih =>
    obtain ⟨k, -, h⟩ := ih
    exact ⟨0, Nat.zero_le _, .group h (by rw [length_between]; omega)⟩
  | list items _ ih =>
    obtain ⟨counted, h₁, h₂, h⟩ := exists_fitting items ih
    refine ⟨0, Nat.zero_le _, ?_⟩
    rw [length_between, ← h₁, ← h₂]
    exact .list counted h fun _ => by rw [h₁]; omega
  | member _ hn ih =>
    obtain ⟨k, hk, h⟩ := ih
    simp only [List.length_append, List.length_cons, List.length_nil]
    exact ⟨k + 1, by omega, .member (h.mono (by omega)) hn (by omega)⟩
  | index _ _ ih ihp =>
    obtain ⟨k, hk, h⟩ := ih
    obtain ⟨j, -, hp⟩ := ihp
    rw [List.length_append, length_between]
    exact ⟨k + 1, by omega, .index (h.mono (by omega)) hp (by omega)⟩
  | call _ hc items _ ih ihi =>
    obtain ⟨k, hk, h⟩ := ih
    obtain ⟨counted, h₁, h₂, hi⟩ := exists_fitting items ihi
    rw [List.length_append, length_between, ← h₁, ← h₂]
    exact ⟨k + 1, by omega,
      .call (h.mono (by omega)) hc counted hi (by omega) fun _ => by rw [h₁]; omega⟩
  | callIn items _ ihi =>
    obtain ⟨counted, h₁, h₂, hi⟩ := exists_fitting items ihi
    rw [List.length_cons, length_between, ← h₁, ← h₂]
    exact ⟨1, by omega, .callIn counted hi (by omega) fun _ => by rw [h₁]; omega⟩
  | unary ho _ ih =>
    obtain ⟨k, -, h⟩ := ih
    obtain rfl := h.spine_prefixed
    exact ⟨0, Nat.zero_le _, .unary ho h (by rw [List.length_cons]; omega)⟩
  | power _ _ iha ihb =>
    obtain ⟨k, -, ha⟩ := iha
    obtain rfl := ha.spine_prefixed
    obtain ⟨j, -, hb⟩ := ihb
    rw [List.length_append, List.length_cons]
    exact ⟨1, by omega, .power (ha.mono (by omega)) hb (by omega)⟩
  | left hm hn _ _ iha ihb =>
    obtain ⟨k, hk, ha⟩ := iha
    obtain ⟨j, -, hb⟩ := ihb
    rw [List.length_append, List.length_cons]
    exact ⟨k + 1, by omega, .left hm hn (ha.mono (by omega)) hb (by omega)⟩
  | conditional _ _ _ ihc ihp ihn =>
    obtain ⟨k, hk, hc⟩ := ihc
    obtain ⟨i, -, hp⟩ := ihp
    obtain ⟨j, -, hn⟩ := ihn
    simp only [List.length_append, List.length_cons]
    exact ⟨k + 1, by omega, .conditional (hc.mono (by omega)) (hp.mono (Nat.mul_le_mul_left 2
      (Nat.le_add_right ..))) (hn.mono (Nat.mul_le_mul_left 2 (Nat.le_add_left ..))) (by omega)⟩
  | @tighter l m ts e hm _ ih =>
    obtain ⟨k, hk, h⟩ := ih
    refine ⟨l.spine k, ?_, .tighter hm h⟩
    unfold Level.spine
    split <;> omega

end Grammar
end Expr
end RecordFilter
