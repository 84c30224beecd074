/-
# What globs match

The language of a glob, apart from how a glob is matched.  A glob without classes is the text of a
`Form` (`Spells`), and the texts of a form are given by induction on it (`Matches`).  A subject is
in the language of a glob if it is a text of a form that the glob spells (`Language`).

Inside braces a comma and a closing brace are signs, outside they stand for themselves; so whether a
text spells a form depends on the place, and a brace that is never closed is part of no spelling.
-/

import Mathlib
import RecordFilter.Pattern.Glob

namespace RecordFilter
namespace Pattern
namespace Glob

/-- What a glob without classes says. -/
inductive Form where
  /-- The end of the glob, or of a branch. -/
  | done
  /-- A character that stands for itself. -/
  | char (c : Char) (rest : Form)
  /-- A question mark. -/
  | one (rest : Form)
  /-- A single star. -/
  | run (rest : Form)
  /-- Two or more stars. -/
  | all (rest : Form)
  /-- Two or more stars with a slash behind them. -/
  | folders (rest : Form)
  /-- Braces around one or more branches. -/
  | choice (first : Form) (others : List Form) (rest : Form)

/-- Whether a text is a text of a form. -/
inductive Matches : Form → List Char → Prop
  | done : Matches .done []
  | char {c t s} : Matches t s → Matches (.char c t) (c :: s)
  | one {c t s} : c ≠ '/' → Matches t s → Matches (.one t) (c :: s)
  | run {r t s} : '/' ∉ r → Matches t s → Matches (.run t) (r ++ s)
  | all {r t s} : Matches t s → Matches (.all t) (r ++ s)
  | folders {r t s} : (r = [] ∨ ∃ p, r = p ++ ['/']) → Matches t s → Matches (.folders t) (r ++ s)
  | choice {first others b r t s} : b ∈ first :: others → Matches b r → Matches t s →
      Matches (.choice first others t) (r ++ s)

/-- The characters that a glob without classes gives a meaning at every place. -/
def signChars : List Char := ['*', '?', '[', '\x7b', '\\']

/-- Whether a text spells a form, inside or outside of braces. -/
inductive Spells : (inside : Bool) → List Char → Form → Prop
  | done {inside} : Spells inside [] .done
  | plain {inside c cs t} : c ∉ signChars → (inside = true → c ≠ ',' ∧ c ≠ '\x7d') →
      Spells inside cs t → Spells inside (c :: cs) (.char c t)
  | escaped {inside c cs t} : Spells inside cs t → Spells inside ('\\' :: c :: cs) (.char c t)
  | backslash : Spells false ['\\'] (.char '\\' .done)
  | one {inside cs t} : Spells inside cs t → Spells inside ('?' :: cs) (.one t)
  | run {inside cs t} : cs.head? ≠ some '*' → Spells inside cs t →
      Spells inside ('*' :: cs) (.run t)
  | all {inside cs t} (more : Nat) : cs.head? ≠ some '*' → cs.head? ≠ some '/' →
      Spells inside cs t → Spells inside (List.replicate (more + 2) '*' ++ cs) (.all t)
  | folders {inside cs t} (more : Nat) : Spells inside cs t →
      Spells inside (List.replicate (more + 2) '*' ++ '/' :: cs) (.folders t)
  | choice {inside text first cs t} {others : List (List Char × Form)} : Spells true text first →
      (∀ b ∈ others, Spells true b.1 b.2) → Spells inside cs t →
      Spells inside ('\x7b' :: (text ++ ((others.flatMap fun b => ',' :: b.1) ++ '\x7d' :: cs)))
        (.choice first (others.map (·.2)) t)

/-- Whether a subject is in the language of a glob without classes. -/
def Language (glob subject : List Char) : Prop :=
  ∃ t, Spells false glob t ∧ Matches t subject

/-! ### Signs of a glob -/

/-- The characters of a glob, where `none` stands for a backslash and the character behind it. -/
def signs : List Char → List (Option Char)
  | [] => []
  | '\\' :: _ :: rest => none :: signs rest
  | c :: rest => some c :: signs rest

/-- Whether a glob has no class: each opening bracket has a backslash before it. -/
def ClassFree (glob : List Char) : Prop := some '[' ∉ signs glob

/-- Whether no two stars of a glob stand side by side. -/
def LongRunFree (glob : List Char) : Prop := ¬[some '*', some '*'] <:+: signs glob

/-- The number of open braces behind a sign. -/
def bracesAfter (depth : Nat) : Option Char → Nat
  | some '\x7b' => depth + 1
  | some '\x7d' => depth - 1
  | _ => depth

/-- The number of braces that a glob does not close. -/
def unclosed (glob : List Char) : Nat := (signs glob).foldl bracesAfter 0

/-- A bracket is looked for among the signs. -/
instance (glob : List Char) : Decidable (ClassFree glob) :=
  inferInstanceAs (Decidable (some '[' ∉ signs glob))

/-- Two stars are looked for side by side among the signs. -/
instance (glob : List Char) : Decidable (LongRunFree glob) :=
  inferInstanceAs (Decidable ¬[some '*', some '*'] <:+: signs glob)

/-- A character other than a backslash is a sign of its own. -/
theorem signs_cons {c : Char} (hc : c ≠ '\\') (cs : List Char) :
    signs (c :: cs) = some c :: signs cs := by
  rw [signs]
  rintro _ _ rfl
  exact absurd rfl hc

/-- A plain character is a sign of its own. -/
theorem signs_plain {c : Char} (hc : c ∉ signChars) (cs : List Char) :
    signs (c :: cs) = some c :: signs cs := by
  refine signs_cons ?_ cs
  rintro rfl
  exact hc (by decide)

/-- Stars are signs of their own. -/
theorem signs_stars (n : Nat) (cs : List Char) :
    signs (List.replicate n '*' ++ cs) = List.replicate n (some '*') ++ signs cs := by
  induction n with
  | zero => rfl
  | succ n ih => rw [List.replicate_succ, List.cons_append, signs_cons (by decide), ih]; rfl

end Glob
end Pattern
end RecordFilter
