/-
# What the class of a glob matches

A class in which no two hyphens stand side by side is read again as the characters and ranges that
it names (`classTree?_eq`), and it stands for one character that it names
(`matchesText_charClass_iff`).

Two hyphens side by side are not written in a way that keeps the reader from seeing the sign that
takes one class from another, so a range that ends in a hyphen is lost (`hyphens_side_by_side`).
-/

import Mathlib
import RecordFilter.Proofs.Pattern.ClassReading

namespace RecordFilter
namespace Pattern

open Reader Regex

namespace Glob

variable {x y : Listed} {xs : List Listed} {e : Entry} {es : List Entry} {c : Char} {k : OpenClass}

/-! ### The tree of a class -/

/-- What is named, as an item of a class. -/
def Entry.set : Entry → ClassSet
  | one c => .char ⟨c, false⟩
  | range a b => .range ⟨a, false⟩ ⟨b, false⟩

/-- A member without a hyphen and an end behind it names itself. -/
theorem entries_cons (h : ∀ y rest, xs ≠ .bare '-' :: y :: rest) :
    entries (x :: xs) = .one x.char :: entries xs :=
  entries.eq_2 x xs fun y rest hxs => h y rest hxs

/-- Where no two hyphens stand side by side, what is named is read item by item. -/
theorem readOn?_eq (happart : ¬[.bare '-', .bare '-'] <:+: xs)
    (hordered : ∀ e ∈ entries xs, e.IsOrdered) :
    readOn? k xs = some { k with items := ((entries xs).map Entry.set).reverse ++ k.items } := by
  fun_induction readOn? k xs with
  | case1 k => rfl
  | case2 k more => exact absurd ⟨[], more, rfl⟩ happart
  | case3 k x more => exact absurd ⟨[x], more, rfl⟩ happart
  | case4 k x y more hx hy hle ih =>
    have hmore : more <:+: x :: .bare '-' :: y :: more := ⟨[x, .bare '-', y], [], by simp⟩
    rw [entries, List.forall_mem_cons] at hordered
    rw [ih (fun h => happart (h.trans hmore)) hordered.2, entries]
    simp [Entry.set, OpenClass.push, Listed.literal]
  | case5 k x y more hx hy hle =>
    rw [entries, List.forall_mem_cons] at hordered
    exact absurd hordered.1 hle
  | case6 k x more h₁ h₂ h₃ ih =>
    have hmore : more <:+: x :: more := ⟨[x], [], by simp⟩
    rw [entries_cons h₃, List.forall_mem_cons] at hordered
    rw [ih (fun h => happart (h.trans hmore)) hordered.2, entries_cons h₃]
    simp [Entry.set, OpenClass.push, Listed.literal]

/-- **The tree of a class** in which no two hyphens stand side by side has what is named, and
nothing else. -/
theorem classTree?_eq (happart : ¬[.bare '-', .bare '-'] <:+: xs)
    (hordered : ∀ e ∈ entries xs, e.IsOrdered) (negated : Bool) :
    classTree? negated xs =
      some (.bracketed negated (.ofItems ((entries xs).map Entry.set))) := by
  rw [classTree?]
  cases xs with
  | nil => rfl
  | cons x more =>
    rcases Decidable.em (x = .bare '-') with rfl | hx
    · have hmore : more <:+: .bare '-' :: more := ⟨[.bare '-'], [], by simp⟩
      have hhead : ∀ rest, more ≠ .bare '-' :: rest := fun rest h => happart ⟨[], rest, by simp [h]⟩
      have hentries := entries_cons (x := .bare '-') fun y rest => hhead (y :: rest)
      rw [hentries, List.forall_mem_cons] at hordered
      have hfront : more.takeWhile (· = .bare '-') = [] ∧
          more.dropWhile (· = .bare '-') = more := by
        cases more with
        | nil => exact ⟨rfl, rfl⟩
        | cons y more =>
          have hy : y ≠ .bare '-' := fun h => hhead more (h ▸ rfl)
          exact ⟨List.takeWhile_cons_of_neg (by simpa using hy),
            List.dropWhile_cons_of_neg (by simpa using hy)⟩
      rw [List.takeWhile_cons_of_pos (by simp), List.dropWhile_cons_of_pos (by simp), hfront.1,
        hfront.2, readOn?_eq (fun h => happart (h.trans hmore)) hordered.2, hentries]
      simp [opened, OpenClass.set, Entry.set, Listed.literal]
    · rw [List.takeWhile_cons_of_neg (by simpa using hx), List.dropWhile_cons_of_neg
        (by simpa using hx), readOn?_eq happart hordered]
      simp [opened, OpenClass.set]

/-! ### The characters of a class -/

/-- The characters that are named. -/
def Entry.codes : Entry → CodeSet
  | one c => .singleton c
  | range a b => .range a.toNat b.toNat

/-- The item of an entry stands for the characters of the entry. -/
theorem Entry.codes?_set (e : Entry) : e.set.codes? .initial = some e.codes := by
  cases e <;> rfl

/-- The characters of an entry are those that it has. -/
theorem Entry.contains_codes : e.codes.contains c = true ↔ e.Has c := by
  cases e with
  | one d => exact CodeSet.contains_singleton
  | range a b => exact CodeSet.contains_range

/-- The ranges of an entry that is in order are, too. -/
theorem Entry.first_le_last (h : e.IsOrdered) : ∀ r ∈ e.codes.ranges, r.first ≤ r.last := by
  cases e with
  | one d => exact List.forall_mem_singleton.2 (Nat.le_refl _)
  | range a b => exact List.forall_mem_singleton.2 h

/-- The ranges of an entry that is in order ascend. -/
theorem Entry.ascending_codes (h : e.IsOrdered) : CodeSet.Ascending 0 e.codes.ranges := by
  cases e with
  | one d => exact ⟨Nat.zero_le _, Nat.le_refl _, trivial⟩
  | range a b => exact ⟨Nat.zero_le _, h, trivial⟩

/-- The items of entries stand for the characters of each. -/
theorem codesOfAll?_set (es : List Entry) :
    ClassSet.codesOfAll? .initial (es.map Entry.set) = some (es.map Entry.codes) := by
  induction es with
  | nil => rfl
  | cons e es ih => simp only [List.map_cons, ClassSet.codesOfAll?, Entry.codes?_set, ih]

/-- The characters of several items are those that are named. -/
theorem exists_codes (h : ∀ e ∈ es, e.IsOrdered) :
    ∃ s, (ClassSet.ofItems (es.map Entry.set)).codes? .initial = some s ∧
      CodeSet.Ascending 0 s.ranges ∧ ∀ c, s.contains c = true ↔ ∃ e ∈ es, e.Has c := by
  cases es with
  | nil => exact ⟨.empty, rfl, trivial, fun c => iff_of_false Bool.false_ne_true (by simp)⟩
  | cons e es =>
    cases es with
    | nil =>
      exact ⟨e.codes, e.codes?_set, e.ascending_codes (h e List.mem_cons_self),
        by simp [Entry.contains_codes]⟩
    | cons f es =>
      refine ⟨.unions ((e :: f :: es).map Entry.codes), ?_, ?_, fun c => ?_⟩
      · have hall := codesOfAll?_set (e :: f :: es)
        simp only [List.map_cons] at hall ⊢
        rw [ClassSet.ofItems, ClassSet.codes?, hall]
        · rfl
        · simp
        · simp
      · refine CodeSet.ascending_ofRanges fun r hr => ?_
        obtain ⟨s, hs, hr⟩ := List.mem_flatMap.1 hr
        obtain ⟨e, he, rfl⟩ := List.mem_map.1 hs
        exact e.first_le_last (h e he) r hr
      · rw [CodeSet.contains_unions]
        simp only [List.mem_map, exists_exists_and_eq_and, Entry.contains_codes]

/-! ### Classes with any characters -/

/-- Whether a class stands for a set of characters. -/
def HasCodes (s : ClassSet) : Prop := ∃ t, s.codes? .initial = some t

/-- Whether all that was read of an open class stands for sets of characters. -/
structure OpenHasCodes (k : OpenClass) : Prop where
  items : ∀ s ∈ k.items, HasCodes s
  pending : ∀ op left, k.pending = some (op, left) → HasCodes left

/-- A character stands for a set of characters. -/
theorem hasCodes_char (l : Literal) : HasCodes (.char l) := ⟨_, rfl⟩

/-- A range stands for a set of characters. -/
theorem hasCodes_range (a b : Literal) : HasCodes (.range a b) := ⟨_, rfl⟩

/-- Items stand for a set of characters if each of them does. -/
theorem hasCodes_ofItems {sets : List ClassSet} (h : ∀ s ∈ sets, HasCodes s) :
    HasCodes (.ofItems sets) := by
  have hall : ∃ ts, ClassSet.codesOfAll? .initial sets = some ts := by
    induction sets with
    | nil => exact ⟨[], rfl⟩
    | cons s sets ih =>
      obtain ⟨⟨t, ht⟩, hsets⟩ := List.forall_mem_cons.1 h
      obtain ⟨ts, hts⟩ := ih hsets
      exact ⟨t :: ts, by simp only [ClassSet.codesOfAll?, ht, hts]⟩
  cases sets with
  | nil => exact ⟨_, rfl⟩
  | cons s sets =>
    cases sets with
    | nil => exact h s List.mem_cons_self
    | cons s' sets =>
      obtain ⟨ts, hts⟩ := hall
      refine ⟨.unions ts, ?_⟩
      rw [ClassSet.ofItems, ClassSet.codes?, hts]
      · rfl
      · simp
      · simp

/-- An open class stands for a set of characters where it is closed. -/
theorem OpenHasCodes.set (h : OpenHasCodes k) : HasCodes k.set := by
  have hitems : ∀ s ∈ k.items.reverse, HasCodes s := fun s hs => h.items s (List.mem_reverse.1 hs)
  obtain ⟨t, ht⟩ := hasCodes_ofItems hitems
  rw [OpenClass.set]
  cases hpending : k.pending with
  | none => exact ⟨t, ht⟩
  | some pending =>
    obtain ⟨op, left⟩ := pending
    obtain ⟨t', ht'⟩ := h.pending op left hpending
    exact ⟨op.apply t' t, by simp only [ClassSet.codes?, ht, ht']; rfl⟩

/-- An open class still stands for sets of characters with one more item. -/
theorem OpenHasCodes.push (h : OpenHasCodes k) {s : ClassSet} (hs : HasCodes s) :
    OpenHasCodes (k.push s) :=
  ⟨List.forall_mem_cons.2 ⟨hs, h.items⟩, h.pending⟩

/-- An open class still stands for sets of characters behind an operator. -/
theorem OpenHasCodes.operate (h : OpenHasCodes k) (op : SetOp) : OpenHasCodes (k.operate op) := by
  refine ⟨List.forall_mem_nil _, fun _ _ hpending => ?_⟩
  cases hpending
  exact h.set

/-- An open class still stands for sets of characters when it is read on. -/
theorem readOn?_hasCodes {k' : OpenClass} (h : OpenHasCodes k) (hread : readOn? k xs = some k') :
    OpenHasCodes k' := by
  fun_induction readOn? k xs with
  | case1 k => exact Option.some.inj hread ▸ h
  | case2 k more ih => exact ih (h.operate _) hread
  | case3 k x more hx ih => exact ih ((h.push (hasCodes_char _)).operate _) hread
  | case4 k x y more hx hy hle ih => exact ih (h.push (hasCodes_range _ _)) hread
  | case5 => cases hread
  | case6 k x more h₁ h₂ h₃ ih => exact ih (h.push (hasCodes_char _)) hread

/-- **Whatever a class of a glob is read as has a meaning**, also where two hyphens stand side by
side. -/
theorem read?_classTree {negated : Bool} {p : Syntax} (h : classTree? negated xs = some p) :
    ∃ r, read? .initial p = some (r, .initial) := by
  obtain ⟨k, hk, rfl⟩ := Option.map_eq_some_iff.1 h
  have hopened : OpenHasCodes (opened negated (xs.takeWhile (· = .bare '-'))) := by
    refine ⟨fun s hs => ?_, nofun⟩
    obtain ⟨x, -, rfl⟩ := List.mem_map.1 (List.mem_reverse.1 hs)
    exact hasCodes_char _
  obtain ⟨t, ht⟩ := (readOn?_hasCodes hopened hk).set
  cases hnegated : k.negated
  · exact ⟨.chars t, by simp only [read?, ht]; rfl⟩
  · exact ⟨.chars t.complement, by simp only [read?, ht]; rfl⟩

namespace CharClass

variable {k : CharClass}

/-- What the class of a glob is read as. -/
def tree (k : CharClass) : Syntax :=
  .bracketed k.negated (.ofItems ((entries k.members).map Entry.set))

/-- No member of a class is a bare backslash. -/
theorem members_avoid (k : CharClass) : ∀ x ∈ k.members, x.Avoids ['\\'] := by
  have hmark : ['\\'] ⊆ if k.mark.isSome = true then ['\\'] else ['\\', '!', '^'] := by
    split <;> simp
  exact List.forall_mem_cons.2 ⟨k.first_avoids.mono hmark,
    fun x hx => (k.others_avoid x hx).mono (by simp)⟩

/-- The search pattern of a class is its members in brackets. -/
theorem pattern_item (k : CharClass) (rest : List Char) : k.item.pattern ++ rest =
    '[' :: ((if k.negated then ['^'] else []) ++
      (k.members.flatMap Listed.source ++ ']' :: rest)) := by
  change '[' :: ((if k.negated then ['^'] else []) ++ k.members.flatMap Listed.source ++ [']']) ++
    rest = _
  rw [List.cons_append, List.append_assoc, List.append_assoc, List.singleton_append]

/-- The reader goes over a class if and only if it has a tree. -/
theorem part?_class {s : State} (hs : s.spaced = false) (rest : List Char) :
    part? s '[' ((if k.negated then ['^'] else []) ++
      (k.members.flatMap Listed.source ++ ']' :: rest)) =
      (classTree? k.negated k.members).map fun p => (s.push p, rest) := by
  simp only [part?, hs]
  rw [bracketed?_sources k.members_avoid (List.cons_ne_nil _ _), Option.map_map]
  rfl

/-- The search pattern of a class is read as its tree. -/
theorem reads_classTree {s : State} {p : Syntax} (hp : classTree? k.negated k.members = some p)
    (hs : s.spaced = false) (rest : List Char) :
    Reads s (k.item.pattern ++ rest) (s.push p) rest := by
  rw [pattern_item]
  refine .single hs ?_ (by simp; omega)
  rw [part?_class hs, hp]
  rfl

/-- Where no two hyphens stand side by side, the reader takes a class for its tree. -/
theorem reads_item {s : State} (happart : k.HyphensApart)
    (hordered : ∀ e ∈ entries k.members, e.IsOrdered) (hs : s.spaced = false) (rest : List Char) :
    Reads s (k.item.pattern ++ rest) (s.push k.tree) rest :=
  reads_classTree (classTree?_eq happart hordered k.negated) hs rest

/-- The tree of a class is a set of the characters that it names. -/
theorem exists_chars (hordered : ∀ e ∈ entries k.members, e.IsOrdered) :
    ∃ s, read? .initial k.tree = some (.chars s, .initial) ∧
      ∀ c, s.contains c = true ↔ k.Has c := by
  obtain ⟨s, hs, hascending, hcontains⟩ := exists_codes hordered
  cases hnegated : k.negated with
  | true =>
    refine ⟨s.complement, ?_, fun c => ?_⟩
    · rw [tree, hnegated, read?, hs]
      rfl
    · rw [CodeSet.contains_complement hascending, hcontains, Has, hnegated]
      rfl
  | false =>
    refine ⟨s, ?_, fun c => ?_⟩
    · rw [tree, hnegated, read?, hs]
      rfl
    · rw [hcontains, Has, hnegated]
      rfl

/-- A glob that is a class has the search pattern of the class. -/
theorem toPattern?_text (k : CharClass) :
    toPattern? k.text = some ('^' :: (k.item.pattern ++ ['$'])) := by
  have hitems := k.items 0 []
  rw [List.append_nil] at hitems
  rw [toPattern?, items?, hitems]
  simp [itemsWithin?]

/-- **A class of a glob matches the characters that it names.**  If no two hyphens stand side by
side in it and the ends of its ranges are in order, a class is cut off a glob whatever follows it,
and read again as its characters and ranges, with no other sign of a class among them.  It stands
for one character that it names, so a glob that is nothing but a class matches the texts of one such
character, as long as its search pattern keeps to the limits. -/
theorem matchesText_charClass_iff (k : CharClass) (happart : k.HyphensApart)
    (hordered : ∀ e ∈ entries k.members, e.IsOrdered) :
    (∀ depth cs, itemsWithin? depth (k.text ++ cs) = (itemsWithin? depth cs).map (k.item :: ·)) ∧
    (∀ (s : State) (rest : List Char), s.spaced = false →
      Reads s (k.item.pattern ++ rest) (s.push k.tree) rest) ∧
    (∃ s, read? .initial k.tree = some (.chars s, .initial) ∧
      ∀ c, s.contains c = true ↔ k.Has c) ∧
    ∀ subject : String, (∀ source, toPattern? k.text = some source → WithinLimits source) →
      ((Matcher.ofPattern .glob (.ofList k.text)).matchesText subject = true ↔
        ∃ c, k.Has c ∧ subject.toList = [c]) := by
  obtain ⟨s, hread, hcontains⟩ := k.exists_chars hordered
  refine ⟨k.items, fun s rest hs => reads_item happart hordered hs rest, ⟨s, hread, hcontains⟩,
    fun subject hlimits => ?_⟩
  have hchars : Denotes (fun _ => True) k.tree fun text => ∃ c, k.Has c ∧ text = [c] :=
    denotes_chars hcontains hread
  obtain ⟨r, hr, hoccurs⟩ := exists_anchored (hchars.cons denoteInTurn_nil)
  have hreads (s : State) (hs : s.spaced = false) :
      Reads s (k.item.pattern ++ ['$']) (s.extend [k.tree]) ['$'] :=
    reads_item happart hordered hs ['$']
  have hparts := parts?_anchored hreads
  have hregex := ofText?_of_parts? hparts hr (hlimits _ k.toPattern?_text)
  have hsigns : isPlain k.text = false := by simp [isPlain, text]
  rw [Matcher.ofPattern, Matcher.ofGlob, String.toList_ofList, hsigns]
  simp only [Bool.false_eq_true, if_false, k.toPattern?_text, Matcher.ofSearch, hregex,
    Matcher.matchesText, hoccurs subject.toList trivial]
  constructor
  · rintro ⟨_, _, h, ⟨c, hc, rfl⟩, rfl⟩
    exact ⟨c, hc, h⟩
  · rintro ⟨c, hc, h⟩
    exact ⟨[c], [], h, ⟨c, hc, rfl⟩, rfl⟩

/-- Any character but four. -/
theorem ofSet_letters (forward : Bool) :
    Extent.ofSet forward ⟨[⟨0, 44⟩, ⟨46, 96⟩, ⟨100, 55295⟩, ⟨57344, 1114111⟩]⟩ =
      ⟨if forward then 432 else 1036, false⟩ := by
  cases forward with
  | false => cbv
  | true =>
    rw [Extent.ofSet_forward rfl]
    cbv

/-- The search pattern of a class with a mark keeps to the limits. -/
theorem withinLimits_letters : WithinLimits "^[^a-c\\-]$".toList := by
  refine withinLimits_of_programSize (p := .sequence [.place .textStart,
    .chars ⟨[⟨0, 44⟩, ⟨46, 96⟩, ⟨100, 55295⟩, ⟨57344, 1114111⟩]⟩, .place .textEnd])
    (by decide_cbv) (by cbv) fun forward => ?_
  simp only [Part.programSize, Part.extent, Part.extents, ofSet_letters]
  cases forward <;> decide

/-- A class with a mark, a range and a hyphen behind a backslash, at a character that is none of
them. -/
theorem matchesText_charClass_letters : ∃ k : CharClass, k.text = "[!a-c\\-]".toList ∧
    k.HyphensApart ∧ (∀ e ∈ entries k.members, e.IsOrdered) ∧
      ((Matcher.ofPattern .glob (.ofList k.text)).matchesText "d" = true ↔
        ∃ c, k.Has c ∧ "d".toList = [c]) := by
  obtain ⟨k, hk⟩ : ∃ k : CharClass, k = ⟨some '!', .bare 'a',
    [.bare '-', .bare 'c', .escaped '-'], by decide, by decide, by decide⟩ := ⟨_, rfl⟩
  have happart : k.HyphensApart := hk ▸ by decide
  have hordered : ∀ e ∈ entries k.members, e.IsOrdered := hk ▸ by decide
  have hsource : toPattern? k.text = some "^[^a-c\\-]$".toList := hk ▸ by decide +kernel
  refine ⟨k, hk ▸ by decide +kernel, happart, hordered,
    (matchesText_charClass_iff k happart hordered).2.2.2 "d" fun source h => ?_⟩
  rw [hsource] at h
  cases h
  exact withinLimits_letters

/-- A hyphen is the upper end of a range.  The reader sees the sign between two classes in the two
hyphens, so a character that the class names is not matched. -/
theorem hyphens_side_by_side : ∃ k : CharClass, k.text = "[+--]".toList ∧
    (∀ e ∈ entries k.members, e.IsOrdered) ∧ k.Has ',' ∧
      bracketed? false "+--]".toList =
        some (.bracketed false (.op .difference (.char ⟨'+', false⟩) .empty), []) ∧
      (Matcher.ofPattern .glob "[+--]").matchesText "," = false := by
  refine ⟨⟨none, .bare '+', [.bare '-', .bare '-'], by decide, by decide, by decide⟩,
    by decide +kernel, by decide, ⟨.range '+' '-', List.mem_cons_self, by decide, by decide⟩, rfl,
    ?_⟩
  have hplain : isPlain "[+--]".toList = false := by decide +kernel
  have hsource : toPattern? "[+--]".toList = some "^[+--]$".toList := by decide +kernel
  have hparts : parts? ("^[+--]$".toList.length + 1) .initial "^[+--]$".toList =
    some (anchored [.bracketed false (.op .difference (.char ⟨'+', false⟩) .empty)]) := rfl
  have hread : ofSyntax? (anchored [.bracketed false
      (.op .difference (.char ⟨'+', false⟩) .empty)]) =
    some (.sequence [.place .textStart, .chars ⟨[⟨43, 43⟩]⟩, .place .textEnd]) := by cbv
  have hregex := ofText?_of_parts? hparts hread (by decide_cbv)
  rw [Matcher.ofPattern, Matcher.ofGlob, hplain]
  simp only [Bool.false_eq_true, if_false, hsource, Matcher.ofSearch, hregex, Matcher.matchesText]
  decide

end CharClass

end Glob
end Pattern
end RecordFilter
