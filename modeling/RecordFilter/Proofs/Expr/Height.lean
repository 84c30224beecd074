/-
# The height of what is read

A reader with a limit counts the levels of the part at hand, and puts the count back when the part
ends.  So what it reads can be higher than the limit: a list is counted back to nothing before the
members behind it are counted, and these before the operators behind them.  With a limit of `d` the
height is at most `d * (d - 1) + 1` (`height_le_of_parse`): in the room that is left, an operand is
as high as an expression with one level less and one more, each member or call in a chain adds a
level, and each connective in a chain adds another (`Fits.low`).  The tower of lists, members and
sums is that high (`Written.height_tower`), so the height stays within every limit but those above
one (`height_le_limit_iff`).
-/

import Mathlib
import RecordFilter.Proofs.Expr.Lexing
import RecordFilter.Proofs.Expr.Reading
import RecordFilter.Proofs.Expr.Tree

namespace RecordFilter
namespace Expr

open Grammar

/-- The height of an expression that fits into some room. -/
def heightIn (room : Nat) : Nat := room * (room + 1) + 1

/-- The height of a single operand that fits into some room. -/
def operandHeightIn : (room : Nat) → Nat
  | 0 => 1
  | room + 1 => heightIn room + 1

section Bounds

variable {r room : Nat}

/-- One more level of room allows as many more levels of height as two chains have links. -/
theorem heightIn_succ (room : Nat) : heightIn (room + 1) = heightIn room + 2 * (room + 1) := by
  simp only [heightIn, Nat.add_mul, Nat.mul_add]
  omega

/-- More room allows no less height. -/
theorem heightIn_mono (h : r ≤ room) : heightIn r ≤ heightIn room :=
  Nat.succ_le_succ (Nat.mul_le_mul h (Nat.succ_le_succ h))

/-- An operand is at least a leaf. -/
theorem one_le_operandHeightIn (room : Nat) : 1 ≤ operandHeightIn room := by
  cases room with
  | zero => exact Nat.le_refl 1
  | succ room => exact Nat.le_add_left ..

/-- An operand in more room holds an expression and one level. -/
theorem heightIn_lt (h : r < room) : heightIn r < operandHeightIn room := by
  cases room with
  | zero => exact absurd h (Nat.not_lt_zero r)
  | succ room => exact Nat.lt_succ_of_le (heightIn_mono (Nat.le_of_lt_succ h))

/-- More room allows no less height of an operand. -/
theorem operandHeightIn_mono (h : r ≤ room) : operandHeightIn r ≤ operandHeightIn room := by
  cases r with
  | zero => exact one_le_operandHeightIn room
  | succ r => exact heightIn_lt h

end Bounds

/-- The height that an expression of a level may have with so many links open behind it, and how
many links that are. -/
def Low (l : Level) (k room height : Nat) : Prop :=
  match l with
  | .primary => height ≤ operandHeightIn room
  | .suffixed => k ≤ room ∧ height ≤ operandHeightIn room + k
  | .prefixed => height ≤ operandHeightIn room + room
  | _ => (k = 0 ∨ k < room) ∧ height ≤ operandHeightIn room + room + k

section Low

variable {l m : Level} {k r room height : Nat}

/-- On the levels with chains, the links of members and those of connectives are counted. -/
theorem low_iff_chain (hl : l.rank ≤ Level.rank .power) :
    Low l k room height ↔
      (k = 0 ∨ k < room) ∧ height ≤ operandHeightIn room + room + k := by
  cases l <;> first | exact Iff.rfl | exact absurd hl (by decide)

/-- What is low on some level is as low as an expression. -/
theorem Low.le_heightIn (h : Low l k room height) : height ≤ heightIn room := by
  have hroom : operandHeightIn room + room ≤ heightIn room ∧
      (0 < room → operandHeightIn room + room + (room - 1) ≤ heightIn room) := by
    cases room with
    | zero => exact ⟨Nat.le_refl 1, fun h => absurd h (Nat.lt_irrefl 0)⟩
    | succ room =>
      rw [heightIn_succ, operandHeightIn]
      omega
  obtain ⟨h₁, h₂⟩ := hroom
  cases l with
  | primary => exact Nat.le_trans h (Nat.le_trans (Nat.le_add_right ..) h₁)
  | suffixed =>
    obtain ⟨hk, hh⟩ := h
    omega
  | prefixed => exact Nat.le_trans h h₁
  | _ =>
    obtain ⟨hk, hh⟩ := h
    omega

/-- What is low on a tighter level is low on the next looser one. -/
theorem Low.tighter (hm : l.tighter? = some m) (h : Low m k room height)
    (hk : m = .primary ∨ m = .prefixed → k = 0) : Low l (l.spine k) room height := by
  cases l with
  | primary => cases hm
  | suffixed =>
    cases hm
    obtain rfl := hk (.inl rfl)
    exact ⟨Nat.zero_le _, h⟩
  | prefixed =>
    cases hm
    exact Nat.le_trans h.2 (Nat.add_le_add_left h.1 _)
  | power =>
    cases hm
    obtain rfl := hk (.inr rfl)
    exact ⟨.inl rfl, h⟩
  | _ =>
    cases hm
    exact h

/-- A link in a chain of connectives adds a level, if what it joins is lower. -/
theorem Low.link {a b : Nat} (hl : l.rank ≤ Level.rank .power) (ha : Low l k room a)
    (hb : b ≤ heightIn r) (hr : k + 1 + r < room) : Low l (k + 1) room (max a b + 1) := by
  have hlt : heightIn r < operandHeightIn room := heightIn_lt (by omega)
  rw [low_iff_chain hl] at ha ⊢
  obtain ⟨-, ha⟩ := ha
  refine ⟨.inr (by omega), ?_⟩
  omega

end Low

/-- The items of a list that fit into less room are lower than an operand. -/
theorem heightOfAll_lt {r room : Nat} {items : List (List Token × Expr × Nat)}
    (h : ∀ x ∈ items, Low .conditional x.2.2 r x.2.1.height) (hr : items ≠ [] → r < room) :
    heightOfAll (items.map (·.2.1)) < operandHeightIn room := by
  by_cases hne : items = []
  · subst hne
    exact one_le_operandHeightIn room
  · refine Nat.lt_of_le_of_lt ?_ (heightIn_lt (hr hne))
    rw [heightOfAll_le, List.forall_mem_map]
    exact fun x hx => (h x hx).le_heightIn

/-- A literal or a name is a leaf. -/
theorem height_atom {t : Token} {e : Expr} (h : Parser.atom? t = some e) : e.height = 1 := by
  unfold Parser.atom? at h
  split at h <;> cases h <;> rfl

/-- A computed member is a level above the higher one of its parts. -/
theorem height_index (object property : Expr) :
    (member object property true).height = max object.height property.height + 1 := by
  cases property <;> rfl

/-- A connective is a level above the higher one of its operands. -/
theorem height_node {l : Level} {t : Token} {node : Expr → Expr → Expr}
    (h : l.node? t = some node) (a b : Expr) : (node a b).height = max a.height b.height + 1 := by
  unfold Level.node? at h
  split at h
  all_goals first | cases h; rfl | cases h

/-- What fits into some room is no higher than that room allows at its level. -/
theorem Grammar.Fits.low {l : Level} {ts : List Token} {e : Expr} {k room : Nat}
    (h : Fits l ts e k room) : Low l k room e.height := by
  induction h with
  | atom h =>
    rw [height_atom h]
    exact one_le_operandHeightIn _
  | group _ hr ih => exact Nat.le_trans ih.le_heightIn (Nat.le_of_lt (heightIn_lt hr))
  | list items _ hr ih => exact heightOfAll_lt ih hr
  | member _ _ hk ih =>
    obtain ⟨-, hh⟩ := ih
    rw [height]
    exact ⟨hk, Nat.succ_le_succ hh⟩
  | @index ts e us p k j r room _ _ hk ih ihp =>
    obtain ⟨-, hh⟩ := ih
    have hp := Nat.lt_of_le_of_lt ihp.le_heightIn (heightIn_lt (by omega : r < room))
    rw [height_index]
    exact ⟨by omega, by omega⟩
  | @call ts e callee k r room _ _ items _ hk hr ih ihi =>
    have hi : heightOfAll (items.map (·.2.1)) < operandHeightIn room :=
      heightOfAll_lt ihi fun hne => by have := hr hne; omega
    rw [height]
    exact ⟨hk, by omega⟩
  | @callIn r room items _ hk hr ihi =>
    have hi : heightOfAll (items.map (·.2.1)) < operandHeightIn room :=
      heightOfAll_lt ihi fun hne => by have := hr hne; omega
    rw [height]
    exact ⟨hk, by omega⟩
  | unary _ _ hr ih =>
    have := operandHeightIn_mono (Nat.le_of_lt hr)
    rw [height]
    exact Nat.le_trans (Nat.succ_le_succ ih) (by omega)
  | @power ts a us b j r room _ _ hr iha ihb =>
    have ha : Low .power 0 room a.height := ⟨.inl rfl, iha⟩
    exact ha.link (by decide) ihb.le_heightIn (by omega)
  | left _ hn _ _ hr iha ihb =>
    obtain ⟨c, -, rfl, -⟩ := Connective.exists_of_node? hn
    rw [height_node hn]
    exact iha.link c.rank_level_le ihb.le_heightIn hr
  | @conditional ts c us p vs n k i j r room _ _ _ hr ihc ihp ihn =>
    have hb := Nat.max_le.2 ⟨ihp.le_heightIn, ihn.le_heightIn⟩
    have hc : Low .conditional k room c.height := ihc
    rw [height]
    exact hc.link (by decide) hb hr
  | tighter hm h ih =>
    refine ih.tighter hm ?_
    rintro (rfl | rfl)
    · exact h.spine_primary
    · exact h.spine_prefixed

/-- What is read with a limit is no higher than the limit allows. -/
theorem height_le_of_parse {limit : Nat} {text : String} {e : Expr}
    (h : parse limit text = .ok e) : 0 < limit ∧ e.height ≤ heightIn (limit - 1) := by
  unfold parse at h
  split at h
  · cases h
  · next s hs =>
    obtain ⟨hlt, k, hf⟩ := Parser.fits_of_whole h
    rw [(Parser.State.ofText_eq_ok hs).2.1] at hlt hf
    exact ⟨hlt, hf.low.le_heightIn⟩

/-! ### The highest expressions -/

/-- An expression with its tokens. -/
abbrev Written := List Token × Expr

namespace Written

/-- A list of one item. -/
def inList (x : Written) : Written := (between .leftBracket x.1 .rightBracket, .list [x.2])

/-- A symbol and the name `x` behind an expression. -/
def link (s : Symbol) (node : Expr → Expr) (x : Written) : Written :=
  (x.1 ++ [.symbol s, .name "x"], node x.2)

/-- A member by the name `x`. -/
def addMember : Written → Written := link .dot fun e => .member e (.name "x") false

/-- A sum with the field `x`. -/
def addTerm : Written → Written := link .plus fun e => .binary .add e (.name "x")

/-- A list of what fits into less room, with as many members and sums behind it as fit. -/
def tower : (room : Nat) → Written
  | 0 => ([.name "x"], .name "x")
  | room + 1 => addTerm^[room] (addMember^[room + 1] (tower room).inList)

variable {x : Written} {room k n : Nat}

/-- Links that each add a level add as many as there are. -/
theorem height_links (s : Symbol) {node : Expr → Expr}
    (h : ∀ e, (node e).height = e.height + 1) (x : Written) (n : Nat) :
    ((link s node)^[n] x).2.height = x.2.height + n := by
  induction n with
  | zero => rfl
  | succ n ih =>
    rw [Function.iterate_succ_apply', link, h, ih]
    rfl

/-- A sum with the name `x` adds one level. -/
theorem height_sum (e : Expr) : (binary .add e (name "x")).height = e.height + 1 := by
  have hx : (name "x").height ≤ e.height := height_pos e
  rw [height, Nat.max_eq_left hx]

/-- The tower is as high as the room allows. -/
theorem height_tower (room : Nat) : (tower room).2.height = heightIn room := by
  induction room with
  | zero => rfl
  | succ room ih =>
    rw [tower, addTerm, height_links _ height_sum, addMember, height_links _ fun _ => rfl, inList,
      height, heightOfAll, heightOfAll, ih, heightIn_succ]
    omega

/-- Members fit behind an operand, one for each level of room. -/
theorem fits_addMember (h : Fits .suffixed x.1 x.2 0 room) (hn : n ≤ room) :
    Fits .suffixed (addMember^[n] x).1 (addMember^[n] x).2 n room := by
  induction n with
  | zero => exact h
  | succ n ih =>
    rw [Function.iterate_succ_apply']
    exact .member (ih (Nat.le_of_succ_le hn)) rfl hn

/-- Sums fit behind an operand, one fewer than there are levels of room. -/
theorem fits_addTerm (h : Fits .additive x.1 x.2 0 room) (hn : n < room) :
    Fits .additive (addTerm^[n] x).1 (addTerm^[n] x).2 n room := by
  induction n with
  | zero => exact h
  | succ n ih =>
    rw [Function.iterate_succ_apply']
    have hx : Fits .prefixed [.name "x"] (.name "x") 0 0 :=
      .tighter rfl (.tighter rfl (.atom rfl))
    exact .left rfl rfl (ih (Nat.lt_of_succ_lt hn)) (hx.loosen (by decide) (by decide)) hn

/-- The tower fits into its room. -/
theorem fits_tower (room : Nat) : ∃ k, Fits .conditional (tower room).1 (tower room).2 k room := by
  induction room with
  | zero =>
    have hx : Fits .prefixed [.name "x"] (.name "x") 0 0 :=
      .tighter rfl (.tighter rfl (.atom rfl))
    exact ⟨0, hx.loosen (by decide) (by decide)⟩
  | succ room ih =>
    obtain ⟨k, h⟩ := ih
    have hl : Fits .suffixed (tower room).inList.1 (tower room).inList.2 0 (room + 1) :=
      .tighter rfl (.list [((tower room).1, (tower room).2, k)]
        (List.forall_mem_singleton.2 h) fun _ => Nat.lt_succ_self room)
    have hm : Fits .prefixed _ _ 0 (room + 1) := .tighter rfl (fits_addMember hl (Nat.le_refl _))
    have ht := fits_addTerm (hm.loosen (by decide) (by decide)) (Nat.lt_succ_self room)
    exact ⟨room, ht.loosen (by decide) (by decide)⟩

/-- Links add simple tokens only. -/
theorem isSimple_links (s : Symbol) (node : Expr → Expr) (h : ∀ t ∈ x.1, t.IsSimple) (n : Nat) :
    ∀ t ∈ ((link s node)^[n] x).1, t.IsSimple := by
  induction n with
  | zero => exact h
  | succ n ih =>
    rw [Function.iterate_succ_apply']
    refine List.forall_mem_append.2 ⟨ih, ?_⟩
    exact List.forall_mem_cons.2 ⟨.symbol _, List.forall_mem_singleton.2 .name⟩

/-- The tower is written with simple tokens. -/
theorem isSimple_tower (room : Nat) : ∀ t ∈ (tower room).1, t.IsSimple := by
  induction room with
  | zero => exact List.forall_mem_singleton.2 .name
  | succ room ih =>
    refine isSimple_links _ _ (isSimple_links _ _ ?_ _) _
    refine List.forall_mem_cons.2 ⟨.symbol _, List.forall_mem_append.2 ⟨ih, ?_⟩⟩
    exact List.forall_mem_singleton.2 (.symbol _)

end Written

/-- With every limit above zero, something as high as the limit allows is read. -/
theorem exists_height_eq {limit : Nat} (h : 0 < limit) :
    ∃ text e, parse limit text = .ok e ∧ e.height = heightIn (limit - 1) := by
  obtain ⟨text, ls, p, hl, ht⟩ := exists_text (Written.isSimple_tower (limit - 1))
  obtain ⟨k, hf⟩ := Written.fits_tower (limit - 1)
  rw [← ht] at hf
  refine ⟨text, _, ?_, Written.height_tower (limit - 1)⟩
  rw [parse_of_lexemes hl]
  exact Parser.whole_of_fits hf (by omega)

/-- **The limit does not bound the height.**  With a limit of `d` levels, what is read has a height
of at most `d * (d - 1) + 1`, and something of that height is read; so the height never exceeds the
limit if the limit is 0 or 1, and exceeds every other limit for some text. -/
theorem height_le_limit_iff (limit : Nat) :
    (∀ text e, parse limit text = .ok e → e.height ≤ limit * (limit - 1) + 1) ∧
      (0 < limit → ∃ text e, parse limit text = .ok e ∧ e.height = limit * (limit - 1) + 1) ∧
      ((∀ text e, parse limit text = .ok e → e.height ≤ limit) ↔ limit ≤ 1) := by
  have hpos (h : 0 < limit) : heightIn (limit - 1) = limit * (limit - 1) + 1 := by
    rw [heightIn, Nat.sub_add_cancel h, Nat.mul_comm]
  refine ⟨fun text e h => ?_, fun h => ?_, fun h => ?_, fun h text e he => ?_⟩
  · obtain ⟨hlt, hh⟩ := height_le_of_parse h
    rwa [← hpos hlt]
  · rw [← hpos h]
    exact exists_height_eq h
  · by_contra hlt
    have hlim : 0 < limit := by omega
    obtain ⟨text, e, he, hh⟩ := exists_height_eq hlim
    have hle := h text e he
    have hmul : limit * 1 ≤ limit * (limit - 1) := Nat.mul_le_mul_left limit (by omega)
    rw [hh, hpos hlim] at hle
    omega
  · obtain ⟨hlt, hh⟩ := height_le_of_parse he
    obtain rfl : limit = 1 := by omega
    exact hh

/-- Two levels are enough for a member of a list, which has three. -/
theorem exists_height_gt_limit : ∃ e, parse 2 "[x].b" = .ok e ∧ ¬ e.height ≤ 2 :=
  ⟨.member (.list [.name "x"]) (.name "b") false, by cbv, by decide⟩

end Expr
end RecordFilter
