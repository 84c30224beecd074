/-
# Members of sets of characters

What the operations on sets of code points do to their members.  A set built from ranges has the
members of the ranges, in whatever order they come (`containsCode_ofRanges`), and keeps them
ascending, with a gap between neighbours (`ascending_ofRanges`).  The complement of ascending ranges
has the characters that the ranges leave out (`contains_complement`).
-/

import Mathlib
import RecordFilter.Unicode.CodeSet

namespace RecordFilter

namespace CodeRange

/-- A range has the code points from its first to its last one. -/
theorem contains_iff {r : CodeRange} {code : Nat} :
    r.contains code = true ↔ r.first ≤ code ∧ code ≤ r.last := by
  simp [contains]

/-- The code points of a meet are those of both ranges. -/
theorem exists_meet? {r s : CodeRange} {code : Nat} :
    (∃ t, r.meet? s = some t ∧ t.contains code = true) ↔
      r.contains code = true ∧ s.contains code = true := by
  rw [meet?]
  simp only [contains_iff]
  split
  · simp only [Option.some.injEq, exists_eq_left']
    omega
  · simp
    omega

end CodeRange

namespace CodeSet

variable {s t : CodeSet} {code start : Nat} {rs : List CodeRange}

/-- Whether ranges are sorted by their first code points. -/
def Sorted (rs : List CodeRange) : Prop := rs.Pairwise fun r s => r.first ≤ s.first

/-- Ranges are sorted by their first code points. -/
theorem sorted_mergeSort (rs : List CodeRange) :
    Sorted (rs.mergeSort fun r s => decide (r.first ≤ s.first)) := by
  refine (List.pairwise_mergeSort ?_ ?_ rs).imp fun h => of_decide_eq_true h
  · intro a b c
    simp only [decide_eq_true_eq]
    exact Nat.le_trans
  · intro a b
    simp only [Bool.or_eq_true, decide_eq_true_eq]
    exact Nat.le_total _ _

/-- Sorted ranges stay so when the first two are taken as one. -/
theorem Sorted.join {r s : CodeRange} (h : Sorted (r :: s :: rs)) (last : Nat) :
    Sorted (⟨r.first, last⟩ :: rs) := by
  obtain ⟨hr, hrest⟩ := List.pairwise_cons.1 h
  exact List.pairwise_cons.2 ⟨fun q hq => hr q (List.mem_cons_of_mem s hq), hrest.of_cons⟩

/-- Joining keeps the members of sorted ranges. -/
theorem any_joinFrom {r : CodeRange} (h : Sorted (r :: rs)) (code : Nat) :
    (joinFrom r rs).any (·.contains code) = true ↔ (r :: rs).any (·.contains code) = true := by
  induction rs generalizing r with
  | nil => rfl
  | cons s rest ih =>
    have hle : r.first ≤ s.first := List.rel_of_pairwise_cons h List.mem_cons_self
    rw [joinFrom]
    split
    · -- the two ranges overlap or touch, so that the joined one has no further members
      rw [ih (h.join _)]
      simp only [List.any_cons, Bool.or_eq_true, CodeRange.contains_iff, ← or_assoc]
      refine or_congr_left ?_
      omega
    · rw [List.any_cons, List.any_cons, Bool.or_eq_true, Bool.or_eq_true, ih h.of_cons]

/-- The members of a set are those of the ranges that it is built from. -/
theorem containsCode_ofRanges :
    (ofRanges rs).containsCode code = true ↔ rs.any (·.contains code) = true := by
  rw [containsCode, ofRanges, ← (List.mergeSort_perm rs _).any_eq]
  have hsorted := sorted_mergeSort rs
  cases hrs : rs.mergeSort fun r s => decide (r.first ≤ s.first) with
  | nil => rfl
  | cons r rest => exact any_joinFrom (hrs ▸ hsorted) code

/-- A code point is in an intersection if it is in both sets. -/
theorem containsCode_inter : (s.inter t).containsCode code = true ↔
    s.containsCode code = true ∧ t.containsCode code = true := by
  rw [inter, containsCode_ofRanges]
  simp only [containsCode, List.any_eq_true, List.mem_flatMap, List.mem_filterMap]
  constructor
  · rintro ⟨q, ⟨r, hr, r', hr', hmeet⟩, hq⟩
    have h := CodeRange.exists_meet?.1 ⟨q, hmeet, hq⟩
    exact ⟨⟨r, hr, h.1⟩, r', hr', h.2⟩
  · rintro ⟨⟨r, hr, h⟩, r', hr', h'⟩
    obtain ⟨q, hmeet, hq⟩ := CodeRange.exists_meet?.2 ⟨h, h'⟩
    exact ⟨q, ⟨r, hr, r', hr', hmeet⟩, hq⟩

/-- Whether ranges come one behind the other, from a code point on. -/
def Ascending : (start : Nat) → List CodeRange → Prop
  | _, [] => True
  | start, r :: rest => start ≤ r.first ∧ r.first ≤ r.last ∧ Ascending (r.last + 1) rest

/-- Ranges that ascend from a code point on have none below it. -/
theorem Ascending.le_of_any (h : Ascending start rs) (hcode : rs.any (·.contains code) = true) :
    start ≤ code := by
  induction rs generalizing start with
  | nil => cases hcode
  | cons r rest ih =>
    obtain ⟨hr, hlast, hrest⟩ := h
    rw [List.any_cons, Bool.or_eq_true, CodeRange.contains_iff] at hcode
    rcases hcode with hcode | hcode
    · omega
    · have := ih hrest hcode
      omega

/-- Joining leaves a gap between neighbours. -/
theorem ascending_joinFrom {r : CodeRange} (h : Sorted (r :: rs))
    (hle : ∀ q ∈ r :: rs, q.first ≤ q.last) (hstart : start ≤ r.first) :
    Ascending start (joinFrom r rs) := by
  induction rs generalizing r start with
  | nil => exact ⟨hstart, hle r List.mem_cons_self, trivial⟩
  | cons s rest ih =>
    obtain ⟨hr, hrest⟩ := List.forall_mem_cons.1 hle
    rw [joinFrom]
    split
    · refine ih (h.join _) (List.forall_mem_cons.2 ⟨?_, (List.forall_mem_cons.1 hrest).2⟩) hstart
      exact Nat.le_trans hr (Nat.le_max_left _ _)
    · exact ⟨hstart, hr, ih h.of_cons hrest (by omega)⟩

/-- A set built from ranges that are not empty has them in ascending order. -/
theorem ascending_ofRanges (h : ∀ r ∈ rs, r.first ≤ r.last) : Ascending 0 (ofRanges rs).ranges := by
  have hsorted := sorted_mergeSort rs
  have hmem (r : CodeRange) : r ∈ rs.mergeSort (fun r s => decide (r.first ≤ s.first)) ↔ r ∈ rs :=
    (List.mergeSort_perm rs _).mem_iff
  rw [ofRanges]
  cases hrs : rs.mergeSort fun r s => decide (r.first ≤ s.first) with
  | nil => trivial
  | cons r rest =>
    rw [hrs] at hsorted hmem
    exact ascending_joinFrom hsorted (fun q hq => h q ((hmem q).1 hq)) (Nat.zero_le _)

/-- The gaps between ascending ranges have the code points that the ranges leave out. -/
theorem any_gapsFrom (h : Ascending start rs) (hcode : code ≤ 0x10FFFF) :
    (gapsFrom start rs).any (·.contains code) = true ↔
      start ≤ code ∧ ¬rs.any (·.contains code) = true := by
  induction rs generalizing start with
  | nil =>
    rw [gapsFrom]
    split
    · simp [CodeRange.contains_iff, hcode]
    · simp
      omega
  | cons r rest ih =>
    obtain ⟨hr, hlast, hrest⟩ := h
    rw [gapsFrom, List.any_cons, Bool.or_eq_true]
    by_cases hin : rest.any (·.contains code) = true
    · have hafter := hrest.le_of_any hin
      split
      · simp only [List.any_cons, Bool.or_eq_true, CodeRange.contains_iff, ih hrest, hin,
          not_true_eq_false, and_false, or_false, or_true, iff_false]
        omega
      · simp only [ih hrest, hin, or_true, not_true_eq_false, and_false]
    · rw [Bool.not_eq_true] at hin
      split <;>
      · simp only [List.any_cons, Bool.or_eq_true, CodeRange.contains_iff, ih hrest, hin,
          Bool.false_eq_true, not_false_eq_true, and_true, or_false]
        omega

/-- Every character is in the set of all. -/
theorem contains_everything (c : Char) : everything.contains c = true := by
  have hc : c.toNat < 0xD800 ∨ 0xDFFF < c.toNat ∧ c.toNat < 0x110000 := c.valid
  simp only [contains, containsCode, everything, List.any_cons, List.any_nil, Bool.or_false,
    Bool.or_eq_true, CodeRange.contains_iff]
  omega

/-- The complement of ascending ranges has the characters that the ranges leave out. -/
theorem contains_complement (h : Ascending 0 s.ranges) (c : Char) :
    s.complement.contains c = true ↔ ¬s.contains c = true := by
  have hc : c.toNat < 0xD800 ∨ 0xDFFF < c.toNat ∧ c.toNat < 0x110000 := c.valid
  have hgaps := any_gapsFrom h (show c.toNat ≤ 0x10FFFF by omega)
  rw [contains, complement, containsCode_inter]
  exact ⟨fun h => (hgaps.1 h.1).2, fun h => ⟨hgaps.2 ⟨Nat.zero_le _, h⟩, contains_everything c⟩⟩

/-- The members of several sets together are those of each. -/
theorem contains_unions {sets : List CodeSet} {c : Char} :
    (unions sets).contains c = true ↔ ∃ s ∈ sets, s.contains c = true := by
  rw [contains, unions, containsCode_ofRanges]
  simp only [contains, containsCode, List.any_eq_true, List.mem_flatMap]
  constructor
  · rintro ⟨r, ⟨s, hs, hr⟩, h⟩
    exact ⟨s, hs, r, hr, h⟩
  · rintro ⟨s, hs, r, hr, h⟩
    exact ⟨r, ⟨s, hs, hr⟩, h⟩

/-- A range of characters has those between its ends. -/
theorem contains_range {a b c : Char} :
    (range a.toNat b.toNat).contains c = true ↔ a ≤ c ∧ c ≤ b := by
  simp only [contains, containsCode, range, List.any_cons, List.any_nil, Bool.or_false,
    CodeRange.contains_iff]
  exact Iff.rfl

/-- A set of one character has no other one. -/
theorem contains_singleton {a c : Char} : (singleton a).contains c = true ↔ c = a := by
  have h : c.toNat = a.toNat ↔ c = a := Char.toNat_inj
  simp only [contains, containsCode, singleton, range, List.any_cons, List.any_nil, Bool.or_false,
    CodeRange.contains_iff, ← h]
  omega

/-- All other characters are in the complement of one. -/
theorem contains_complement_singleton {a c : Char} :
    (singleton a).complement.contains c = true ↔ c ≠ a := by
  rw [contains_complement, contains_singleton]
  exact ⟨Nat.zero_le _, Nat.le_refl _, trivial⟩

end CodeSet

end RecordFilter
