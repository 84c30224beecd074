/-
# Letters and numbers are not white space

What separates the words of a text is in none of them: no white space is a letter
(`isAlphabetic_of_isWhiteSpace`), and none stands for a number (`isAlphanumeric_of_isWhiteSpace`).
Of the characters beyond one byte the tables say so, which are compared range by range
(`disjoint_whiteSpace_alphabetic`, `isApart_of_mem`).  The lines of a table are taken apart
into characters first (`Spelled`), since a text in a term is quick to compare with characters that
are given, and slow to take apart.
-/

import Mathlib
import RecordFilter.Proofs.Unicode.CodeSet
import RecordFilter.Unicode.Character

namespace RecordFilter

namespace CodeSet

/-- Lines of text, and the characters that they are written with. -/
inductive Spelled : List String → List (List Char) → Prop where
  | nil : Spelled [] []
  | cons {cs lines spellings} (h : Spelled lines spellings) :
      Spelled (String.ofList cs :: lines) (cs :: spellings)

variable {lines : List String} {spellings : List (List Char)} {s t : CodeSet} {c : Char}

/-- Lines are the characters that they are written with. -/
theorem Spelled.map_toList (h : Spelled lines spellings) : lines.map String.toList = spellings := by
  induction h with
  | nil => rfl
  | cons _ ih => rw [List.map_cons, String.toList_ofList, ih]

/-- The ranges of a table, from the characters that it is written with. -/
def rangesOfSpellings (spellings : List (List Char)) : List CodeRange :=
  rangesOfRuns 0 (spellings.flatMap fun line => hexNumbers line none)

/-- The ranges of a table are those of its characters. -/
theorem Spelled.ranges_ofRunLengths (h : Spelled lines spellings) :
    (ofRunLengths lines).ranges = rangesOfSpellings spellings := by
  rw [ofRunLengths, rangesOfSpellings, ← h.map_toList, List.flatMap_map]

/-- Whether no range of the one list meets a range of the other. -/
def disjointRanges (rs us : List CodeRange) : Bool :=
  rs.all fun r => us.all fun u => (r.meet? u).isNone

/-- Sets have no member together if their ranges do not meet. -/
theorem contains_of_disjointRanges (h : disjointRanges s.ranges t.ranges = true)
    (hc : s.contains c = true) : t.contains c = false := by
  refine Bool.eq_false_iff.2 fun ht => ?_
  obtain ⟨r, hr, hrc⟩ := List.any_eq_true.1 hc
  obtain ⟨u, hu, huc⟩ := List.any_eq_true.1 ht
  obtain ⟨m, hm, -⟩ := CodeRange.exists_meet?.2 ⟨hrc, huc⟩
  have hn := List.all_eq_true.1 (List.all_eq_true.1 h r hr) u hu
  rw [hm] at hn
  cases hn

end CodeSet

namespace Unicode

open CodeSet

variable {c : Char}

/-- A spelling of the table of letters whose ranges meet none of white space. -/
theorem exists_spelled_alphabetic : ∃ spellings, Spelled alphabeticProperty.runs spellings ∧
    disjointRanges whiteSpace.ranges (rangesOfSpellings spellings) = true := by
  apply Exists.intro
  apply And.intro
  · dsimp only [alphabeticProperty]
    repeat first | exact .nil | apply Spelled.cons
  · decide +kernel

/-- No white space is alphabetic. -/
theorem disjoint_whiteSpace_alphabetic :
    disjointRanges whiteSpace.ranges alphabetic.ranges = true := by
  obtain ⟨spellings, hs, hd⟩ := exists_spelled_alphabetic
  rwa [alphabetic, NamedSet.codeSet, hs.ranges_ofRunLengths]

/-- A general category has a table, and a spelling of it whose ranges meet none of white space. -/
def IsApart (name : String) : Prop :=
  ∃ s spellings, generalCategories.find? (fun s => s.names.contains name) = some s ∧
    Spelled s.runs spellings ∧
    disjointRanges whiteSpace.ranges (rangesOfSpellings spellings) = true

/-- The tables of numbers hold no white space. -/
theorem isApart_of_mem {name : String} (h : name ∈ ["nd", "nl", "no"]) : IsApart name := by
  simp only [List.mem_cons, List.not_mem_nil, or_false] at h
  rcases h with rfl | rfl | rfl
  all_goals
    apply Exists.intro
    apply Exists.intro
    refine And.intro rfl (And.intro ?_ ?_)
    · repeat first | exact .nil | apply Spelled.cons
    · decide +kernel

/-- No white space is numeric. -/
theorem numeric_of_isWhiteSpace (h : isWhiteSpace c = true) : numeric.contains c = false := by
  refine Bool.eq_false_iff.2 fun hc => ?_
  rw [numeric, categoriesNamed, contains_unions] at hc
  obtain ⟨_, hs, hc⟩ := hc
  obtain ⟨name, hname, rfl⟩ := List.mem_map.1 hs
  obtain ⟨s, spellings, hf, hspelled, hd⟩ := isApart_of_mem hname
  rw [categoryNamed, NamedSet.find?, hf] at hc
  rw [← hspelled.ranges_ofRunLengths] at hd
  exact Bool.eq_false_iff.1 (contains_of_disjointRanges hd h) hc

/-- The letters of one byte lie between the capital `A` and the small `z`. -/
theorem toNat_of_isAlpha (h : c.isAlpha = true) : 'A'.toNat ≤ c.toNat ∧ c.toNat ≤ 'z'.toNat := by
  simp only [Char.isAlpha, Char.isUpper, Char.isLower, Bool.or_eq_true, Bool.and_eq_true,
    decide_eq_true_eq, ge_iff_le, UInt32.le_iff_toNat_le] at h
  rcases h with ⟨h₁, h₂⟩ | ⟨h₁, h₂⟩
  · exact ⟨h₁, Nat.le_trans h₂ (by decide)⟩
  · exact ⟨Nat.le_trans (by decide) h₁, h₂⟩

/-- White space is in no range of code points that its own ranges leave out. -/
theorem not_mem_of_isWhiteSpace {a b : Nat} (h : isWhiteSpace c = true)
    (hw : ∀ r ∈ whiteSpace.ranges, r.last < a ∨ b < r.first) :
    ¬ (a ≤ c.toNat ∧ c.toNat ≤ b) := by
  obtain ⟨r, hr, hc⟩ := List.any_eq_true.1 h
  obtain ⟨h₁, h₂⟩ := CodeRange.contains_iff.1 hc
  have := hw r hr
  omega

/-- No white space is a letter. -/
theorem isAlpha_of_isWhiteSpace (h : isWhiteSpace c = true) : c.isAlpha = false := by
  refine Bool.eq_false_iff.2 fun ha => ?_
  exact not_mem_of_isWhiteSpace h (by decide) (toNat_of_isAlpha ha)

/-- No white space is a digit. -/
theorem isDigit_of_isWhiteSpace (h : isWhiteSpace c = true) : c.isDigit = false := by
  refine Bool.eq_false_iff.2 fun hd => ?_
  simp only [Char.isDigit, Bool.and_eq_true, decide_eq_true_eq, ge_iff_le,
    UInt32.le_iff_toNat_le] at hd
  exact not_mem_of_isWhiteSpace (a := '0'.toNat) (b := '9'.toNat) h (by decide) hd

/-- No white space is a letter. -/
theorem isAlphabetic_of_isWhiteSpace (h : isWhiteSpace c = true) : isAlphabetic c = false := by
  unfold isAlphabetic
  split
  · exact isAlpha_of_isWhiteSpace h
  · exact contains_of_disjointRanges disjoint_whiteSpace_alphabetic h

/-- No white space is a letter or stands for a number. -/
theorem isAlphanumeric_of_isWhiteSpace (h : isWhiteSpace c = true) :
    isAlphanumeric c = false := by
  have ha := isAlphabetic_of_isWhiteSpace h
  unfold isAlphabetic at ha
  unfold isAlphanumeric
  split at ha
  · next hc => rw [if_pos hc, Char.isAlphanum, ha, isDigit_of_isWhiteSpace h, Bool.or_false]
  · next hc => rw [if_neg hc, ha, numeric_of_isWhiteSpace h, Bool.or_false]

end Unicode
end RecordFilter
