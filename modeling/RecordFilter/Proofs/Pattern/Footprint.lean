/-
# The size of the program for a pattern

The size of a program is that of its parts, and only for sets of characters is there anything to
count: what the ways on from all places come to (`Extent.ofSet_forward`).  The sets that a glob has
for its signs are counted once (`Extent.ofSet_notSlash`, `Extent.ofSet_notLineFeed`), and with that
the size of a program is read off its parts (`Regex.isSmall_of_programSize`).
-/

import Mathlib
import RecordFilter.Pattern.Footprint

namespace RecordFilter
namespace Pattern

open Unicode (ByteSequence)

/-! ### Sets of characters -/

namespace Extent

variable {s : CodeSet}

/-- Read forwards, the program for a set has an instruction for each place, and a range for each
way on. -/
theorem ofSet_forward (h : s.ranges.all (·.last < 0x80) = false) :
    ofSet true s =
      let nodes := (ByteSequence.nodes 4 (ByteSequence.ofSet s)).eraseDups
      ⟨instruction * (nodes.length + 1) +
        8 * (nodes.map fun node => (ByteSequence.groups node).length).sum, false⟩ := by
  rw [ofSet, h]
  simp only [Bool.false_eq_true, if_false, if_true]
  rw [List.sum_map_add, List.sum_map_mul_left, List.map_const', List.sum_replicate, smul_eq_mul,
    Nat.mul_add, Nat.mul_comm instruction, Nat.mul_one, ← Nat.add_assoc, Nat.add_comm instruction]

/-- Any character but a slash. -/
theorem ofSet_notSlash (forward : Bool) :
    ofSet forward ⟨[⟨0, 46⟩, ⟨48, 55295⟩, ⟨57344, 1114111⟩]⟩ =
      ⟨if forward then 424 else 1000, false⟩ := by
  cases forward with
  | false => cbv
  | true =>
    rw [ofSet_forward rfl]
    cbv

/-- Any character but a line feed. -/
theorem ofSet_notLineFeed (forward : Bool) :
    ofSet forward ⟨[⟨0, 9⟩, ⟨11, 55295⟩, ⟨57344, 1114111⟩]⟩ =
      ⟨if forward then 424 else 1000, false⟩ := by
  cases forward with
  | false => cbv
  | true =>
    rw [ofSet_forward rfl]
    cbv

end Extent

/-! ### Patterns -/

/-- A pattern is not too large if neither program for its simplest form is. -/
theorem Regex.isSmall_of_programSize {r : Regex}
    (h : ∀ forward, r.simplified.programSize forward ≤ sizeLimit) : r.isSmall = true := by
  have hfits : isSmall.fits r.simplified = true := by
    rw [isSmall.fits, List.all_eq_true]
    exact fun forward _ => decide_eq_true (h forward)
  unfold isSmall
  split
  · next branches hbranches =>
    split
    · rfl
    · rwa [← hbranches]
  · exact hfits

end Pattern
end RecordFilter
