/-
# Levels and powers

The grammar orders its levels, the reader compares powers.  A connective joins at one level
(`Connective.level`), its left power is twice the rank of that level, and the connectives that may
stand behind an expression of a level are those whose left power is below the `follow` of the level,
which is the right power of the connectives that join there (`Connective.follow_level`).
-/

import Mathlib
import RecordFilter.Proofs.Expr.Grammar

namespace RecordFilter

open Expr.Grammar

namespace Expr.Grammar.Level

/-- The place of a level among all of them. -/
def rank : Level → Nat
  | conditional => 1
  | disjunction => 2
  | conjunction => 3
  | bitOr => 4
  | bitXor => 5
  | bitAnd => 6
  | equality => 7
  | relational => 8
  | shift => 9
  | additive => 10
  | multiplicative => 11
  | power => 12
  | prefixed => 13
  | suffixed => 14
  | primary => 15

/-- Connectives whose left power is below this one may stand behind an expression of a level. -/
def follow : Level → Nat
  | conditional => 2
  | power => 24
  | l => 2 * l.rank + 1

variable {l m : Level}

/-- Ranks start at one. -/
theorem rank_pos (l : Level) : 0 < l.rank := by
  cases l <;> decide

/-- No level is tighter than primary expressions. -/
theorem rank_le_primary (l : Level) : l.rank ≤ rank .primary := by
  cases l <;> decide

/-- The next tighter level has the next rank. -/
theorem rank_tighter (h : l.tighter? = some m) : m.rank = l.rank + 1 := by
  cases l <;> cases h <;> rfl

/-- Every level but the tightest one has a tighter one. -/
theorem exists_tighter (h : l.rank < rank .primary) : ∃ m, l.tighter? = some m := by
  cases l <;> first | exact ⟨_, rfl⟩ | exact absurd h (by decide)

/-- Levels with one rank are the same. -/
theorem rank_injective (h : l.rank = m.rank) : l = m := by
  cases l <;> cases m <;> first | rfl | exact absurd h (by decide)

/-- What may follow an expression of a level has at most the power of the level. -/
theorem two_rank_le_follow (l : Level) : 2 * l.rank ≤ l.follow := by
  cases l <;> decide

/-- More may follow an expression of a tighter level. -/
theorem follow_le_of_tighter (h : l.tighter? = some m) : l.follow ≤ m.follow := by
  cases l <;> cases h <;> decide

/-- On the levels with chains, the links of what is tighter are kept. -/
theorem spine_of_rank_lt (h : l.rank < rank .prefixed) (k : Nat) : l.spine k = k := by
  refine if_neg fun hl => ?_
  rw [hl] at h
  exact Nat.lt_irrefl _ h

end Expr.Grammar.Level

namespace Connective

/-- The level at which a connective joins. -/
def level : Connective → Level
  | conditional => .conditional
  | logical .or => .disjunction
  | logical .and => .conjunction
  | binary op =>
    match op with
    | .bitOr => .bitOr
    | .bitXor => .bitXor
    | .bitAnd => .bitAnd
    | .equal | .strictEqual | .notEqual | .strictNotEqual => .equality
    | .less | .lessOrEqual | .greater | .greaterOrEqual | .isIn | .regexMatch | .globMatch =>
      .relational
    | .shiftLeft | .shiftRight | .unsignedShiftRight => .shift
    | .add | .subtract => .additive
    | .multiply | .divide | .modulo => .multiplicative
    | .power => .power

variable {c : Connective} {t : Token} {l : Level} {node : Expr → Expr → Expr}

/-- The left power of a connective is twice the rank of its level. -/
theorem leftPower_eq (c : Connective) : c.leftPower = 2 * c.level.rank := by
  rcases c with (_ | _) | op | _
  · rfl
  · rfl
  · cases op <;> rfl
  · rfl

/-- An operand to the right of a connective ends where an expression of its level can end. -/
theorem follow_level (c : Connective) : c.level.follow = c.rightPower := by
  rcases c with (_ | _) | op | _
  · rfl
  · rfl
  · cases op <;> rfl
  · rfl

/-- Connectives join on the levels with chains. -/
theorem rank_level_le (c : Connective) : c.level.rank ≤ Level.rank .power := by
  rcases c with (_ | _) | op | _
  · decide
  · decide
  · cases op <;> decide
  · decide

/-- Every connective may stand behind an operand. -/
theorem leftPower_lt_prefixed {c : Connective} : c.leftPower < Level.follow .prefixed := by
  have := c.rank_level_le
  rw [c.leftPower_eq]
  simp only [Level.follow, Level.rank] at *
  omega

/-- A connective behind an expression joins at its level or at a looser one. -/
theorem rank_level_le_of_lt (h : c.leftPower < l.follow) : c.level.rank ≤ l.rank := by
  rw [c.leftPower_eq] at h
  cases l <;> simp only [Level.follow, Level.rank] at * <;> omega

/-- The condition of a conditional is of the level of a disjunction. -/
theorem rank_lt_of_conditional (h : conditional.leftPower < l.follow) :
    Level.rank .disjunction ≤ l.rank := by
  cases l <;> first | exact absurd h (by decide) | decide

/-- What stands in front of a power sign is a single operand. -/
theorem eq_prefixed_of_power (h : (binary .power).leftPower < l.follow)
    (hl : l.rank ≤ Level.rank .prefixed) : l = .prefixed := by
  cases l <;> first | rfl | exact absurd h (by decide) | exact absurd hl (by decide)

/-- The conditional alone joins more than two expressions. -/
theorem node?_eq_none : c.node? = none ↔ c = conditional := by
  cases c <;> simp [node?]

end Connective

namespace Connective

variable {c : Connective} {t : Token} {l : Level} {node : Expr → Expr → Expr}

/-- Only two stars are a power. -/
theorem ofToken?_power (h : ofToken? t = some (binary .power)) : t = .symbol .starStar := by
  rcases t with _ | _ | _ | w | s
  · cases h
  · cases h
  · cases h
  · cases w <;> cases h
  · cases s <;> first | rfl | cases h

/-- Only a question mark starts the branches of a conditional. -/
theorem ofToken?_conditional (h : ofToken? t = some conditional) : t = .symbol .question := by
  rcases t with _ | _ | _ | w | s
  · cases h
  · cases h
  · cases h
  · cases w <;> cases h
  · cases s <;> first | rfl | cases h

/-- An operator whose chains are read from the left joins at its level. -/
theorem node?_level (hc : ofToken? t = some c) (hp : c ≠ binary .power)
    (hn : c.node? = some node) : c.level.node? t = some node := by
  rcases t with _ | _ | _ | w | s
  · cases hc
  · cases hc
  · cases hc
  · cases w <;> cases hc
    exact hn
  · cases s <;> cases hc <;> first | exact hn | exact absurd rfl hp

/-- To the right of an operator that binds to the left, the next tighter level is read. -/
theorem rightPower_eq (hp : c ≠ binary .power) (hn : c.node? = some node) :
    c.rightPower = 2 * c.level.rank + 1 := by
  rcases c with (_ | _) | op | _
  · rfl
  · rfl
  · cases op <;> first | rfl | exact absurd rfl hp
  · cases hn

/-- Chains at the power sign are read from the right. -/
theorem rank_level_lt_of_left (h : c.rightPower = 2 * c.level.rank + 1) :
    c.level.rank < Level.rank .power := by
  rcases c with (_ | _) | op | _
  · decide
  · decide
  · cases op <;> first | decide | exact absurd h (by decide)
  · decide

/-- What joins two expressions at a level is an operator of that level. -/
theorem exists_of_node? (h : l.node? t = some node) :
    ∃ c, ofToken? t = some c ∧ c.level = l ∧ c.node? = some node ∧
      c.rightPower = 2 * l.rank + 1 := by
  unfold Level.node? at h
  split at h
  all_goals first | cases h; exact ⟨_, rfl, rfl, rfl, rfl⟩ | cases h

end Connective

namespace Expr.Grammar

/-- An expression of a level is one of every looser level. -/
theorem Derives.loosen {l m : Level} {ts : List Token} {e : Expr} (h : Derives m ts e)
    (hl : l.rank ≤ m.rank) : Derives l ts e := by
  obtain ⟨n, hn⟩ := Nat.exists_eq_add_of_le hl
  induction n generalizing l with
  | zero =>
    obtain rfl := Level.rank_injective hn
    exact h
  | succ n ih =>
    obtain ⟨l', hl'⟩ := l.exists_tighter (by
      have := m.rank_le_primary
      omega)
    have hr := Level.rank_tighter hl'
    exact .tighter hl' (ih (by omega) (by omega))

/-- An expression of a level is one of every looser level, and has as many links open behind it. -/
theorem Fits.loosen {l m : Level} {ts : List Token} {e : Expr} {k room : Nat}
    (h : Fits m ts e k room) (hm : m.rank ≤ Level.rank .prefixed) (hl : l.rank ≤ m.rank) :
    Fits l ts e k room := by
  -- The levels between the two are crossed one at a time, from the tighter one.
  obtain ⟨n, hn⟩ := Nat.exists_eq_add_of_le hl
  induction n generalizing l with
  | zero =>
    obtain rfl := Level.rank_injective hn
    exact h
  | succ n ih =>
    obtain ⟨l', hl'⟩ := l.exists_tighter (by simp only [Level.rank] at *; omega)
    have hr := Level.rank_tighter hl'
    have := Fits.tighter hl' (ih (by omega) (by omega))
    rwa [Level.spine_of_rank_lt (by omega)] at this

/-- Operators of a level may be among those that have a left power of `power` or more. -/
def Level.Holds (power : Nat) (l : Level) : Prop :=
  ∀ c : Connective, power ≤ c.leftPower → l.rank ≤ c.level.rank

/-- The loosest level has all connectives. -/
theorem Level.holds_conditional (power : Nat) : Level.Holds power .conditional :=
  fun c _ => c.level.rank_pos

/-- The right operand of an operator read from the left is of the next tighter level. -/
theorem Level.holds_tighter {l m : Level} (hm : l.tighter? = some m) :
    Level.Holds (2 * l.rank + 1) m := by
  intro c hc
  rw [c.leftPower_eq] at hc
  rw [Level.rank_tighter hm]
  omega

/-- To the right of a power, powers are read. -/
theorem Level.holds_power : Level.Holds (Connective.rightPower (.binary .power)) .power := by
  intro c hc
  rw [c.leftPower_eq] at hc
  simp only [Level.rank, Connective.rightPower] at *
  omega

/-- An operator joins what is in front of it to what its right power reads behind it. -/
theorem Fits.join {l : Level} {c : Connective} {t : Token} {node : Expr → Expr → Expr}
    {ts us : List Token} {a b : Expr} {k j r room : Nat} (ha : Fits l ts a k room)
    (hc : Connective.ofToken? t = some c) (hn : c.node? = some node)
    (hl : l.rank ≤ Level.rank .prefixed) (hlt : c.leftPower < l.follow)
    (hb : ∀ m : Level, m.rank ≤ Level.rank .prefixed → m.Holds c.rightPower → Fits m us b j r)
    (hr : k + 1 + r < room) : Fits c.level (ts ++ t :: us) (node a b) (k + 1) room := by
  by_cases hp : c = .binary .power
  · subst hp
    obtain rfl := Connective.eq_prefixed_of_power hlt hl
    obtain rfl := ha.spine_prefixed
    rw [Connective.ofToken?_power hc]
    obtain rfl := Option.some.inj hn
    exact .power ha (hb .power (by decide) Level.holds_power) (by omega)
  · obtain ⟨m, hm⟩ := c.level.exists_tighter (Nat.lt_of_le_of_lt c.rank_level_le (by decide))
    have hmr : m.rank ≤ Level.rank .prefixed := by
      rw [Level.rank_tighter hm]
      exact Nat.succ_le_succ c.rank_level_le
    refine .left hm (Connective.node?_level hc hp hn)
      (ha.loosen hl (Connective.rank_level_le_of_lt hlt)) (hb m hmr ?_) hr
    rw [Connective.rightPower_eq hp hn]
    exact Level.holds_tighter hm

end Expr.Grammar

end RecordFilter
