/-
# Ignoring case

Characters that differ in case only form classes, most of two members.  Ignoring case turns a set of
characters into the union of the classes that it touches (`CodeSet.ignoreCase`).
-/

import RecordFilter.Unicode.CodeSet
import RecordFilter.Unicode.Data.CaseFolding

namespace RecordFilter

namespace Unicode

/-- The classes of characters that differ in case only. -/
def caseOrbits : List (List Nat) :=
  (caseOrbitLines.flatMap (·.splitOn ",")).filterMap fun orbit =>
    match CodeSet.hexNumbers orbit.toList none with
    | [] => none
    | codes => some codes

end Unicode

namespace CodeSet

/-- The set with all characters that differ from a member in case only. -/
def ignoreCase (s : CodeSet) : CodeSet :=
  let touched := Unicode.caseOrbits.filter fun orbit => orbit.any s.containsCode
  union s (ofRanges (touched.flatten.map fun code => ⟨code, code⟩))

/-- The set with the letters of one byte that differ from a member in case only. -/
def ignoreAsciiCase (s : CodeSet) : CodeSet :=
  let shifted (first last offset : Nat) : List CodeRange :=
    (s.inter (range first last)).ranges.map fun r => ⟨r.first + offset, r.last + offset⟩
  let lowered := shifted 0x41 0x5A 0x20
  let raised := (s.inter (range 0x61 0x7A)).ranges.map fun r => ⟨r.first - 0x20, r.last - 0x20⟩
  ofRanges (s.ranges ++ lowered ++ raised)

end CodeSet

end RecordFilter
