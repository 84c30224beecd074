/-
# Classes of a glob

What stands between the brackets of a glob, and which characters it names (`CharClass`).  The class
is read from left to right: a hyphen between two characters makes a range of them, and one that is
first, last or behind a range names itself (`entries`).  A backslash takes the meaning away from the
character behind it, also from a hyphen.

A class is cut off a glob as one item, whatever follows it (`CharClass.items`), and the cutting
takes no other text for a class (`exists_charClass`).
-/

import Mathlib
import RecordFilter.Proofs.Pattern.GlobItems

namespace RecordFilter
namespace Pattern
namespace Glob

/-- A character in a class of a glob. -/
inductive Listed where
  /-- A character as it is. -/
  | bare (c : Char)
  /-- A character with a backslash before it. -/
  | escaped (c : Char)
deriving DecidableEq, Repr

namespace Listed

/-- The character that is listed. -/
def char : Listed → Char
  | bare c | escaped c => c

/-- How it stands in the glob. -/
def text : Listed → List Char
  | bare c => [c]
  | escaped c => ['\\', c]

/-- How it stands in the search pattern for the glob. -/
def source : Listed → List Char
  | bare c => member c
  | escaped c => quoted c

/-- Whether it is none of some characters, or has a backslash. -/
def Avoids (cs : List Char) : Listed → Prop
  | bare c => c ∉ cs
  | escaped _ => True

/-- A character is looked up among those to avoid. -/
instance (cs : List Char) (x : Listed) : Decidable (x.Avoids cs) :=
  match x with
  | bare c => inferInstanceAs (Decidable (c ∉ cs))
  | escaped _ => inferInstanceAs (Decidable True)

/-- What avoids some characters avoids fewer. -/
theorem Avoids.mono {x : Listed} {cs ds : List Char} (h : x.Avoids cs) (hd : ds ⊆ cs) :
    x.Avoids ds := by
  cases x with
  | bare c => exact fun hc => h (hd hc)
  | escaped c => trivial

end Listed

/-- What a class names: a character, or those from one to another. -/
inductive Entry where
  /-- One character. -/
  | one (c : Char)
  /-- A range, with both of its ends. -/
  | range (first last : Char)
deriving DecidableEq, Repr

namespace Entry

/-- Whether a character is named. -/
def Has (c : Char) : Entry → Prop
  | one d => c = d
  | range a b => a ≤ c ∧ c ≤ b

/-- Whether a range has its ends in order. -/
def IsOrdered : Entry → Prop
  | one _ => True
  | range a b => a ≤ b

/-- The ends of a range are compared. -/
instance (e : Entry) : Decidable e.IsOrdered :=
  match e with
  | one _ => inferInstanceAs (Decidable True)
  | range a b => inferInstanceAs (Decidable (a ≤ b))

end Entry

/-- What the characters of a class name, read from left to right. -/
def entries : List Listed → List Entry
  | x :: .bare '-' :: y :: rest => .range x.char y.char :: entries rest
  | x :: rest => .one x.char :: entries rest
  | [] => []

/-- A class of a glob.  It lists a character at least, and a closing bracket stands in it without a
backslash only in front. -/
structure CharClass where
  /-- The mark behind the opening bracket that turns a class into its complement. -/
  mark : Option Char
  /-- The first character. -/
  first : Listed
  /-- The characters behind it. -/
  others : List Listed
  /-- There are two marks. -/
  mark_mem : mark ∈ [none, some '!', some '^']
  /-- A mark in front is not a character of the class. -/
  first_avoids : first.Avoids (if mark.isSome then ['\\'] else ['\\', '!', '^'])
  /-- A closing bracket behind the first character would be the end. -/
  others_avoid : ∀ x ∈ others, x.Avoids ['\\', ']']

namespace CharClass

/-- The characters of a class. -/
def members (k : CharClass) : List Listed := k.first :: k.others

/-- Whether the class names what is not in it. -/
def negated (k : CharClass) : Bool := k.mark.isSome

/-- The class as it stands in a glob. -/
def text (k : CharClass) : List Char :=
  '[' :: (k.mark.toList ++ (k.members.flatMap Listed.text ++ [']']))

/-- The item that the class is. -/
def item (k : CharClass) : Item := .oneOf k.negated (k.members.flatMap Listed.source)

/-- Whether a character is between the brackets. -/
def Lists (k : CharClass) (c : Char) : Prop := ∃ e ∈ entries k.members, e.Has c

/-- Whether a class names a character. -/
def Has (k : CharClass) (c : Char) : Prop := if k.negated then ¬k.Lists c else k.Lists c

/-- Whether no two hyphens stand side by side, each without a backslash. -/
def HyphensApart (k : CharClass) : Prop := ¬[.bare '-', .bare '-'] <:+: k.members

/-- Two hyphens are looked for side by side. -/
instance (k : CharClass) : Decidable k.HyphensApart :=
  inferInstanceAs (Decidable ¬[.bare '-', .bare '-'] <:+: k.members)

end CharClass

/-! ### Cutting off a class -/

variable {depth : Nat} {negated inFront : Bool} {sofar cs : List Char} {x : Listed}

/-- A member that does not close the class is cut off with those in front of it. -/
theorem classThen?_listed (hx : x.Avoids ['\\']) (hb : inFront = true ∨ x.Avoids [']'])
    (cs : List Char) : classThen? depth negated inFront sofar (x.text ++ cs) =
      classThen? depth negated false (sofar ++ x.source) cs := by
  cases x with
  | escaped c => exact classThen?.eq_2 ..
  | bare c =>
    have hc : c ≠ '\\' := fun h => hx (h ▸ List.mem_singleton_self _)
    have hend : ¬(c = ']' ∧ ¬inFront = true) := fun h =>
      hb.elim h.2 fun hb => hb (h.1 ▸ List.mem_singleton_self _)
    rw [Listed.text, List.singleton_append, classThen?.eq_3 _ _ _ _ _ _ fun _ _ h => absurd h hc,
      if_neg hc, if_neg hend]
    rfl

/-- The end of a class behind characters. -/
theorem classThen?_close {xs : List Listed} (hxs : ∀ x ∈ xs, x.Avoids ['\\', ']'])
    (cs : List Char) :
    classThen? depth negated false sofar (xs.flatMap Listed.text ++ ']' :: cs) =
      (itemsWithin? depth cs).map (.oneOf negated (sofar ++ xs.flatMap Listed.source) :: ·) := by
  induction xs generalizing sofar with
  | nil =>
    rw [List.flatMap_nil, List.flatMap_nil, List.nil_append, List.append_nil,
      classThen?.eq_3 _ _ _ _ _ _ fun _ _ h => absurd h (by decide)]
    rfl
  | cons x xs ih =>
    obtain ⟨hx, hxs⟩ := List.forall_mem_cons.1 hxs
    rw [List.flatMap_cons, List.append_assoc, classThen?_listed (hx.mono (by simp))
      (.inr (hx.mono (by simp))), ih hxs, List.flatMap_cons, List.append_assoc]

/-- **A class is cut off a glob as one item**, whatever follows it. -/
theorem CharClass.items (k : CharClass) (depth : Nat) (cs : List Char) :
    itemsWithin? depth (k.text ++ cs) = (itemsWithin? depth cs).map (k.item :: ·) := by
  obtain ⟨mark, first, others, hmark, hfirst, hothers⟩ := k
  have hx : first.Avoids ['\\'] := by
    refine hfirst.mono ?_
    split <;> simp
  have hclass (negated : Bool) :
      classThen? depth negated true [] (first.text ++ (others.flatMap Listed.text ++ ']' :: cs)) =
        (itemsWithin? depth cs).map
          (.oneOf negated ((first :: others).flatMap Listed.source) :: ·) := by
    rw [classThen?_listed hx (.inl rfl), classThen?_close hothers]
    rfl
  simp only [CharClass.text, members, List.cons_append, List.append_assoc, List.flatMap_cons,
    List.nil_append, item]
  simp only [List.mem_cons, List.not_mem_nil, or_false] at hmark
  rcases hmark with rfl | rfl | rfl
  · have hfront (c : Char) (hc : c ∈ ['!', '^']) (more : List Char) :
        first.text ++ (others.flatMap Listed.text ++ ']' :: cs) ≠ c :: more := by
      intro h
      cases first with
      | escaped d =>
        rw [Listed.text, List.cons_append, List.cons.injEq] at h
        exact absurd (h.1 ▸ hc) (by decide)
      | bare d =>
        rw [Listed.text, List.singleton_append, List.cons.injEq] at h
        exact hfirst (h.1 ▸ List.mem_cons_of_mem _ hc)
    rw [Option.toList_none, List.nil_append,
      itemsWithin?.eq_7 _ _ (hfront '!' (by simp)) (hfront '^' (by simp)), hclass]
    rfl
  · exact (itemsWithin?.eq_5 ..).trans (hclass true)
  · exact (itemsWithin?.eq_6 ..).trans (hclass true)

/-- What is read as the rest of a class has an end. -/
theorem exists_close (h : (classThen? depth negated false sofar cs).isSome) :
    ∃ (xs : List Listed) (rest : List Char), (∀ x ∈ xs, x.Avoids ['\\', ']']) ∧
      cs = xs.flatMap Listed.text ++ ']' :: rest := by
  generalize hn : cs.length = n
  induction n using Nat.strongRecOn generalizing cs sofar with
  | ind n ih =>
    have hlisted (x : Listed) (more : List Char) (hx : x.Avoids ['\\', ']'])
        (hcs : cs = x.text ++ more) (hmore : more.length < n) :
        ∃ (xs : List Listed) (rest : List Char), (∀ x ∈ xs, x.Avoids ['\\', ']']) ∧
          cs = xs.flatMap Listed.text ++ ']' :: rest := by
      rw [hcs, classThen?_listed (hx.mono (by simp)) (.inr (hx.mono (by simp)))] at h
      obtain ⟨xs, rest, hxs, rfl⟩ := ih _ hmore h rfl
      exact ⟨x :: xs, rest, List.forall_mem_cons.2 ⟨hx, hxs⟩, by simp [hcs]⟩
    cases cs with
    | nil => simp [classThen?] at h
    | cons c more =>
      rw [List.length_cons] at hn
      by_cases hend : c = ']'
      · exact ⟨[], more, List.forall_mem_nil _, by rw [hend]; rfl⟩
      by_cases hslash : c = '\\'
      · cases more with
        | nil => simp [classThen?, hslash] at h
        | cons d more =>
          rw [List.length_cons] at hn
          exact hlisted (.escaped d) more trivial (by rw [hslash]; rfl) (by omega)
      · exact hlisted (.bare c) more (by simp [Listed.Avoids, hslash, hend]) rfl (by omega)

/-- What is read as a class behind its mark lists characters and has an end. -/
theorem exists_members (h : (classThen? depth negated true sofar cs).isSome) :
    ∃ (x : Listed) (xs : List Listed) (rest : List Char), x.Avoids ['\\'] ∧
      (∀ y ∈ xs, y.Avoids ['\\', ']']) ∧
        cs = x.text ++ (xs.flatMap Listed.text ++ ']' :: rest) := by
  have hlisted (x : Listed) (more : List Char) (hx : x.Avoids ['\\']) (hcs : cs = x.text ++ more) :
      ∃ (x : Listed) (xs : List Listed) (rest : List Char), x.Avoids ['\\'] ∧
        (∀ y ∈ xs, y.Avoids ['\\', ']']) ∧
          cs = x.text ++ (xs.flatMap Listed.text ++ ']' :: rest) := by
    rw [hcs, classThen?_listed hx (.inl rfl)] at h
    obtain ⟨xs, rest, hxs, rfl⟩ := exists_close h
    exact ⟨x, xs, rest, hx, hxs, hcs⟩
  cases cs with
  | nil => simp [classThen?] at h
  | cons c more =>
    by_cases hslash : c = '\\'
    · cases more with
      | nil => simp [classThen?, hslash] at h
      | cons d more => exact hlisted (.escaped d) more trivial (by rw [hslash]; rfl)
    · exact hlisted (.bare c) more (by simpa [Listed.Avoids] using hslash) rfl

/-- **What is cut off as a class is one.** -/
theorem exists_charClass (h : (itemsWithin? depth ('[' :: cs)).isSome) :
    ∃ (k : CharClass) (rest : List Char), '[' :: cs = k.text ++ rest := by
  have hmarked (c : Char) (more : List Char) (hc : some c ∈ [none, some '!', some '^'])
      (hcs : cs = c :: more) (hclass : (classThen? depth true true [] more).isSome) :
      ∃ (k : CharClass) (rest : List Char), '[' :: cs = k.text ++ rest := by
    obtain ⟨x, xs, rest, hx, hxs, rfl⟩ := exists_members hclass
    exact ⟨⟨some c, x, xs, hc, hx, hxs⟩, rest, by simp [CharClass.text, CharClass.members, hcs]⟩
  cases cs with
  | nil => simp [itemsWithin?, classThen?] at h
  | cons c more =>
    by_cases hbang : c = '!'
    · subst hbang
      rw [itemsWithin?.eq_5] at h
      exact hmarked '!' more (by simp) rfl h
    by_cases hcaret : c = '^'
    · subst hcaret
      rw [itemsWithin?.eq_6] at h
      exact hmarked '^' more (by simp) rfl h
    rw [itemsWithin?.eq_7 _ _ (fun _ hc => hbang (List.cons.inj hc).1)
      (fun _ hc => hcaret (List.cons.inj hc).1)] at h
    obtain ⟨x, xs, rest, hx, hxs, hcs⟩ := exists_members h
    refine ⟨⟨none, x, xs, by simp, ?_, hxs⟩, rest, by simp [CharClass.text, CharClass.members, hcs]⟩
    cases x with
    | escaped d => trivial
    | bare d =>
      obtain rfl : c = d := (List.cons.inj hcs).1
      simp only [Listed.Avoids, List.mem_singleton] at hx
      simp [Listed.Avoids, hx, hbang, hcaret]

end Glob
end Pattern
end RecordFilter
