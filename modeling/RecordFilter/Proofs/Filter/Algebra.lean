/-
# Filters as sets of positions

A filter is known by the positions of the records that it keeps (`Filter.positions`); the records
themselves follow (`select_eq`).  Texts are put together by conjunction, disjunction and negation
around parentheses.  Nothing in an operand escapes its parentheses, so the longer text is read as
the expression that is put together of theirs (`parse_conjunction`, `parse_disjunction`,
`parse_negation`), with three levels more for the first two and two for the last.  The values of
these operators need not be truth values, but whether they count as true is decided as in a boolean
algebra (`isTrueOn_and`, `isTrueOn_or`, `isTrueOn_not`).  So the positions are intersected, united
and complemented, whatever the operands are (`positions_algebra`).
-/

import Mathlib
import RecordFilter.Filter.Basic
import RecordFilter.Proofs.Engine.History
import RecordFilter.Proofs.Expr.Composition
import RecordFilter.Proofs.Expr.Limits

namespace RecordFilter

namespace Filter

/-- The text that asks for both of two texts. -/
def conjunction (a b : String) : String := "(" ++ a ++ ") && (" ++ b ++ ")"

/-- The text that asks for one of two texts. -/
def disjunction (a b : String) : String := "(" ++ a ++ ") || (" ++ b ++ ")"

/-- The text that asks for the contrary of a text. -/
def negation (a : String) : String := "!(" ++ a ++ ")"

/-- The positions of a list of records at which a test holds, in order. -/
def positionsOf (test : Value → Bool) (records : List Value) : List Nat :=
  (List.range records.length).filter fun i => records[i]?.any test

/-- The positions of the records on which the expression of a text counts as true, in order. -/
def positions (text : String) (records : List Value) : Except SyntaxError (List Nat) :=
  (ofText Expr.defaultLimit text).map fun f => positionsOf f.keeps records

end Filter

namespace Expr

open Grammar

/-! ### Texts put together -/

namespace IsRead

variable {cs ds : List Char} {a b e : Expr} {i j k r room : Nat}

/-- Two expressions in parentheses with a logical operator between them. -/
theorem logical (op : LogicalOp) (ha : IsRead .conditional cs a i r)
    (hb : IsRead .conditional ds b j r) (hr : r + 2 < room) :
    IsRead .conditional
      ('(' :: (cs ++ [')']) ++ ' ' :: (op.symbol.toList ++ ' ' :: '(' :: (ds ++ [')'])))
      (.logical op a b) 1 room := by
  obtain ⟨t, ho, hop⟩ := tokenizes_logical op
  exact (ha.group (by omega)).operand.join ho hop rfl (hb.group (Nat.lt_succ_self r)).operand
    (by omega)

/-- The negation of a text in parentheses is read, with two levels more. -/
theorem negation (h : IsRead .conditional cs e k r) (hr : r + 1 < room) :
    IsRead .conditional ('!' :: '(' :: (cs ++ [')'])) (.unary .not e) 0 room := by
  obtain ⟨t, ho, hop⟩ := tokenizes_unary .not
  exact (h.unary ho hop hr).loosen (by decide)

end IsRead

variable {limit more : Nat} {a b text : String} {A B e : Expr}

section Texts

variable (ha : parse limit a = .ok A) (hb : parse limit b = .ok B)

include ha

/-- The negation of a filter parses under every limit that leaves two levels more. -/
theorem parse_negation (hm : limit + 2 ≤ more) :
    parse more (Filter.negation a) = .ok (.unary .not A) := by
  obtain ⟨hpos, i, ha⟩ := parse_eq_ok_iff.1 ha
  obtain ⟨room, rfl⟩ : ∃ room, more = room + 1 := ⟨more - 1, by omega⟩
  exact parse_of_isRead (ha.negation (by omega)) (by simp [Filter.negation])

include hb

/-- The conjunction of two filters parses under every limit that leaves three levels more. -/
theorem parse_conjunction (hm : limit + 3 ≤ more) :
    parse more (Filter.conjunction a b) = .ok (.logical .and A B) := by
  obtain ⟨hpos, i, ha⟩ := parse_eq_ok_iff.1 ha
  obtain ⟨-, j, hb⟩ := parse_eq_ok_iff.1 hb
  obtain ⟨room, rfl⟩ : ∃ room, more = room + 1 := ⟨more - 1, by omega⟩
  exact parse_of_isRead (ha.logical .and hb (by omega))
    (by simp [Filter.conjunction, LogicalOp.symbol])

/-- The disjunction of two filters parses under every limit that leaves three levels more. -/
theorem parse_disjunction (hm : limit + 3 ≤ more) :
    parse more (Filter.disjunction a b) = .ok (.logical .or A B) := by
  obtain ⟨hpos, i, ha⟩ := parse_eq_ok_iff.1 ha
  obtain ⟨-, j, hb⟩ := parse_eq_ok_iff.1 hb
  obtain ⟨room, rfl⟩ : ∃ room, more = room + 1 := ⟨more - 1, by omega⟩
  exact parse_of_isRead (ha.logical .or hb (by omega))
    (by simp [Filter.disjunction, LogicalOp.symbol])

end Texts

/-! ### Truth -/

/-- Whether the value of an expression counts as true on a record. -/
def isTrueOn (e : Expr) (r : Value) : Bool := (e.compile.value r).isTruthy

/-- A conjunction is true on the records on which both of its filters are. -/
theorem isTrueOn_and (a b : Expr) (r : Value) :
    (logical .and a b).isTrueOn r = (a.isTrueOn r && b.isTrueOn r) := by
  unfold isTrueOn
  rw [compile, Compiled.value]
  cases h : (a.compile.value r).isTruthy <;> simp [h]

/-- A disjunction is true on the records on which one of its filters is. -/
theorem isTrueOn_or (a b : Expr) (r : Value) :
    (logical .or a b).isTrueOn r = (a.isTrueOn r || b.isTrueOn r) := by
  unfold isTrueOn
  rw [compile, Compiled.value]
  cases h : (a.compile.value r).isTruthy <;> simp [h]

/-- A negation is true on the records on which its filter is not. -/
theorem isTrueOn_not (a : Expr) (r : Value) : (unary .not a).isTrueOn r = !a.isTrueOn r := by
  unfold isTrueOn
  rw [compile, Compiled.value, UnaryOp.apply, Value.isTruthy]

end Expr

namespace Filter

/-! ### Positions -/

variable {test : Value → Bool} {records : List Value} {text : String} {e : Expr}

/-- A position is found if the test is true of the record there. -/
theorem mem_positionsOf {i : Nat} :
    i ∈ positionsOf test records ↔ ∃ r, records[i]? = some r ∧ test r = true := by
  rw [positionsOf, List.mem_filter, List.mem_range, Option.any_eq_true]
  refine ⟨And.right, fun h => ⟨?_, h⟩⟩
  obtain ⟨r, hr, -⟩ := h
  exact (List.getElem?_eq_some_iff.1 hr).1

/-- The positions behind a record are one further on. -/
theorem positionsOf_cons (r : Value) (rs : List Value) :
    positionsOf test (r :: rs) =
      if test r then 0 :: (positionsOf test rs).map (· + 1)
      else (positionsOf test rs).map (· + 1) := by
  rw [positionsOf, List.length_cons, List.range_succ_eq_map, List.filter_cons, List.filter_map]
  rfl

/-- The records at the positions where a test holds are those on which it holds. -/
theorem filterMap_positionsOf (test : Value → Bool) (records : List Value) :
    (positionsOf test records).filterMap (records[·]?) = records.filter test := by
  induction records with
  | nil => rfl
  | cons r rs ih =>
    have htail :
        ((positionsOf test rs).map (· + 1)).filterMap ((r :: rs)[·]?) = rs.filter test := by
      rw [List.filterMap_map, ← ih]
      rfl
    rw [positionsOf_cons, List.filter_cons]
    split
    · exact congrArg (r :: ·) htail
    · exact htail

/-- Tests that are decided by the positions of two others. -/
theorem positionsOf_eq (test other : Value → Bool) (decides : Bool → Bool → Bool)
    {both : Value → Bool} (h : ∀ r, both r = decides (test r) (other r)) :
    positionsOf both records = (List.range records.length).filter fun i =>
      decides (i ∈ positionsOf test records) (i ∈ positionsOf other records) := by
  refine List.filter_congr fun i hi => ?_
  rw [List.mem_range] at hi
  have hmem (p : Value → Bool) : decide (i ∈ positionsOf p records) = p records[i] := by
    simp [mem_positionsOf, List.getElem?_eq_getElem hi]
  rw [hmem, hmem, List.getElem?_eq_getElem hi, Option.any_some, h]

/-- A filter that parses has the positions at which its expression is true. -/
theorem positions_of_parse (h : Expr.parse Expr.defaultLimit text = .ok e)
    (records : List Value) : positions text records = .ok (positionsOf e.isTrueOn records) := by
  rw [positions, ofText_eq_ok.2 ⟨e, h, rfl⟩]
  rfl

/-- The records that are selected stand at the positions that are. -/
theorem select_eq (text : String) (records : List Value) :
    select text records =
      (positions text records).map fun places => places.filterMap (records[·]?) := by
  rw [select, positions]
  cases ofText Expr.defaultLimit text with
  | error err => rfl
  | ok f => exact congrArg Except.ok (filterMap_positionsOf f.keeps records).symm

/-- **Filters of texts form a boolean algebra.**  The records that a text selects are those on
which its expression counts as true, in order, and they stand at the positions of the text.  If two
texts are read within 253 levels, the text with a conjunction, disjunction or negation around them
has the positions of both, of either, or those that the operand has not, of all positions; within
251 levels the negation of the conjunction has the positions of the disjunction of the
negations. -/
theorem positions_algebra :
    (∀ text records, select text records =
      (positions text records).map fun places => places.filterMap (records[·]?)) ∧
    ∀ (a b : String) (A B : Expr) (records : List Value),
      Expr.parse 253 a = .ok A → Expr.parse 253 b = .ok B →
      select a records = .ok (records.filter fun r => (A.compile.value r).isTruthy) ∧
      ∃ ps qs, positions a records = .ok ps ∧ positions b records = .ok qs ∧
        ps.Pairwise (· < ·) ∧
        (∀ i, i ∈ ps ↔ ∃ r, records[i]? = some r ∧ (A.compile.value r).isTruthy = true) ∧
        positions (conjunction a b) records =
          .ok ((List.range records.length).filter fun i => i ∈ ps ∧ i ∈ qs) ∧
        positions (disjunction a b) records =
          .ok ((List.range records.length).filter fun i => i ∈ ps ∨ i ∈ qs) ∧
        positions (negation a) records =
          .ok ((List.range records.length).filter fun i => i ∉ ps) ∧
        (Expr.parse 251 a = .ok A → Expr.parse 251 b = .ok B →
          positions (negation (conjunction a b)) records =
              .ok ((List.range records.length).filter fun i => ¬ (i ∈ ps ∧ i ∈ qs)) ∧
            positions (negation (conjunction a b)) records =
              positions (disjunction (negation a) (negation b)) records) := by
  refine ⟨select_eq, fun a b A B records ha hb => ?_⟩
  have hA := positions_of_parse (Expr.parse_mono ha (by decide)) records
  have hB := positions_of_parse (Expr.parse_mono hb (by decide)) records
  refine ⟨?_, _, _, hA, hB, List.pairwise_lt_range.filter _, fun i => mem_positionsOf,
    ?_, ?_, ?_, fun ha' hb' => ?_⟩
  · rw [select_eq, hA]
    exact congrArg Except.ok (filterMap_positionsOf A.isTrueOn records)
  · rw [positions_of_parse (Expr.parse_conjunction ha hb (Nat.le_refl 256)),
      positionsOf_eq A.isTrueOn B.isTrueOn (· && ·) (Expr.isTrueOn_and A B)]
    simp
  · rw [positions_of_parse (Expr.parse_disjunction ha hb (Nat.le_refl 256)),
      positionsOf_eq A.isTrueOn B.isTrueOn (· || ·) (Expr.isTrueOn_or A B)]
    simp
  · rw [positions_of_parse (Expr.parse_negation ha (by decide)),
      positionsOf_eq A.isTrueOn A.isTrueOn (fun p _ => !p) (Expr.isTrueOn_not A)]
    simp
  · have hnot := Expr.parse_negation (Expr.parse_conjunction ha' hb' (Nat.le_refl 254))
      (Nat.le_refl 256)
    have hor := Expr.parse_disjunction (Expr.parse_negation ha' (Nat.le_refl 253))
      (Expr.parse_negation hb' (Nat.le_refl 253)) (Nat.le_refl 256)
    have hboth (r : Value) : (Expr.unary .not (.logical .and A B)).isTrueOn r =
        !(A.isTrueOn r && B.isTrueOn r) := by
      rw [Expr.isTrueOn_not, Expr.isTrueOn_and]
    have heither (r : Value) : (Expr.logical .or (.unary .not A) (.unary .not B)).isTrueOn r =
        !(A.isTrueOn r && B.isTrueOn r) := by
      rw [Expr.isTrueOn_or, Expr.isTrueOn_not, Expr.isTrueOn_not, Bool.not_and]
    rw [positions_of_parse hnot, positions_of_parse hor,
      positionsOf_eq A.isTrueOn B.isTrueOn (fun p q => !(p && q)) hboth,
      positionsOf_eq A.isTrueOn B.isTrueOn (fun p q => !(p && q)) heither]
    simp

/-- A disjunction that yields a text is true on both records, as is a name that yields one; the
parenthesis inside quotes closes nothing. -/
theorem positions_algebra_texts :
    Expr.parse 251 "x || ')'" = .ok (.logical .or (.name "x") (.literal (.string ")"))) ∧
      Expr.parse 251 "y" = .ok (.name "y") ∧
      positions "y" [.map [("y", .string "no")], .map [("x", .null)]] = .ok [0] ∧
      positions (conjunction "x || ')'" "y") [.map [("y", .string "no")], .map [("x", .null)]] =
        .ok [0] ∧
      positions (negation (conjunction "x || ')'" "y"))
          [.map [("y", .string "no")], .map [("x", .null)]] =
        positions (disjunction (negation "x || ')'") (negation "y"))
          [.map [("y", .string "no")], .map [("x", .null)]] := by
  have ha : Expr.parse 251 "x || ')'" =
      .ok (.logical .or (.name "x") (.literal (.string ")"))) := by cbv
  have hb : Expr.parse 251 "y" = .ok (.name "y") := by cbv
  obtain ⟨-, ps, qs, hps, hqs, -, -, hand, -, -, hboth⟩ := positions_algebra.2 "x || ')'" "y" _ _
    [.map [("y", .string "no")], .map [("x", .null)]] (Expr.parse_mono ha (by decide))
    (Expr.parse_mono hb (by decide))
  have hp : ps = [0, 1] :=
    (Except.ok.inj (hps.symm.trans (positions_of_parse (Expr.parse_mono ha (by decide)) _)))
  have hq : qs = [0] :=
    (Except.ok.inj (hqs.symm.trans (positions_of_parse (Expr.parse_mono hb (by decide)) _)))
  subst hp hq
  exact ⟨ha, hb, hqs, hand, (hboth ha hb).2⟩

end Filter
end RecordFilter
