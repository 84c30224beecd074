/-
# Cutting a glob into items

A glob without classes is cut by one turn after another: a turn takes an item off the front and may
open or close a brace (`Turn`).  Two statements connect the items with the language of a glob.  A
text that spells a form is cut into the items of the form (`Spells.items`), and a glob that is cut
into items spells a form (`exists_spells`).  The second follows the turns from the end of the glob
to its front; in between braces are open, and what is left of the glob goes through as many closing
braces (`Closes`).

The only globs without items are those that leave a brace open (`isSome_itemsWithin?`).
-/

import Mathlib
import RecordFilter.Proofs.Pattern.GlobLanguage

namespace RecordFilter
namespace Pattern
namespace Glob

/-! ### Turns -/

/-- One turn of the cutting: the item in front, the open braces behind it, and what is left. -/
inductive Turn : (depth : Nat) → List Char → Item → (after : Nat) → List Char → Prop
  | plain {depth c cs} : c ∉ signChars → (depth ≠ 0 → c ≠ ',' ∧ c ≠ '\x7d') →
      Turn depth (c :: cs) (.char c) depth cs
  | escaped {depth c cs} : Turn depth ('\\' :: c :: cs) (.char c) depth cs
  | backslash {depth} : Turn depth ['\\'] (.char '\\') depth []
  | one {depth cs} : Turn depth ('?' :: cs) .one depth cs
  | run {depth cs} : cs.head? ≠ some '*' → Turn depth ('*' :: cs) .run depth cs
  | all {depth cs} (more : Nat) : cs.head? ≠ some '*' → cs.head? ≠ some '/' →
      Turn depth (List.replicate (more + 2) '*' ++ cs) .all depth cs
  | folders {depth cs} (more : Nat) :
      Turn depth (List.replicate (more + 2) '*' ++ '/' :: cs) .folders depth cs
  | openBrace {depth cs} : Turn depth ('\x7b' :: cs) .openBrace (depth + 1) cs
  | comma {depth cs} : Turn (depth + 1) (',' :: cs) .comma (depth + 1) cs
  | closeBrace {depth cs} : Turn (depth + 1) ('\x7d' :: cs) .closeBrace depth cs

variable {depth after : Nat} {cs rest : List Char} {x : Item}

/-- Further stars change nothing behind the second one. -/
theorem itemsWithin?_stars (depth more : Nat) (cs : List Char) :
    itemsWithin? depth (List.replicate (more + 2) '*' ++ cs) =
      itemsWithin? depth ('*' :: '*' :: cs) := by
  induction more with
  | zero => rfl
  | succ more ih =>
    rw [← ih]
    exact itemsWithin?.eq_2 depth (List.replicate more '*' ++ cs)

/-- The cutting at a character that no longer sign starts with. -/
theorem itemsWithin?_cons (depth : Nat) {c : Char} {rest : List Char} (hc : c ≠ '[')
    (hb : c = '\\' → rest = []) (hs : c = '*' → rest.head? ≠ some '*') :
    itemsWithin? depth (c :: rest) =
      if c = '*' then (itemsWithin? depth rest).map (.run :: ·)
      else if c = '?' then (itemsWithin? depth rest).map (.one :: ·)
      else if c = '\x7b' then (itemsWithin? (depth + 1) rest).map (.openBrace :: ·)
      else if c = ',' ∧ depth ≠ 0 then (itemsWithin? depth rest).map (.comma :: ·)
      else if c = '\x7d' ∧ depth ≠ 0 then (itemsWithin? (depth - 1) rest).map (.closeBrace :: ·)
      else (itemsWithin? depth rest).map (.char c :: ·) := by
  refine itemsWithin?.eq_9 depth c rest ?_ ?_ ?_ ?_ ?_ hc ?_
  · rintro more h rfl
    exact hs h rfl
  · rintro more h rfl
    exact hs h rfl
  · rintro more h rfl
    exact hs h rfl
  · exact fun _ h _ => hc h
  · exact fun _ h _ => hc h
  · rintro d more h rfl
    cases hb h

/-- A turn takes one item. -/
theorem Turn.items (h : Turn depth cs x after rest) :
    itemsWithin? depth cs = (itemsWithin? after rest).map (x :: ·) := by
  cases h with
  | plain hc hd =>
    simp only [signChars, List.mem_cons, List.not_mem_nil, or_false, not_or] at hc
    obtain ⟨hstar, hquestion, hbracket, hbrace, hslash⟩ := hc
    rw [itemsWithin?_cons depth hbracket (absurd · hslash) (absurd · hstar), if_neg hstar,
      if_neg hquestion, if_neg hbrace, if_neg fun h => (hd h.2).1 h.1,
      if_neg fun h => (hd h.2).2 h.1]
  | escaped => rfl
  | backslash => exact itemsWithin?_cons depth (by decide) (fun _ => rfl) (by simp)
  | one => exact itemsWithin?_cons depth (by decide) (by simp) (by simp)
  | run hs => exact itemsWithin?_cons depth (by decide) (by simp) fun _ => hs
  | all more hs hf =>
    rw [itemsWithin?_stars]
    refine itemsWithin?.eq_4 depth rest ?_ ?_
    · rintro more rfl
      exact hs rfl
    · rintro more rfl
      exact hf rfl
  | folders more => exact itemsWithin?_stars depth more ('/' :: rest)
  | openBrace => exact itemsWithin?_cons depth (by decide) (by simp) (by simp)
  | comma => exact itemsWithin?_cons _ (by decide) (by simp) (by simp)
  | closeBrace => exact itemsWithin?_cons _ (by decide) (by simp) (by simp)

/-- A text is some stars and a rest that starts with none. -/
theorem exists_stars (cs : List Char) :
    ∃ n rest, cs = List.replicate n '*' ++ rest ∧ rest.head? ≠ some '*' := by
  induction cs with
  | nil => exact ⟨0, [], rfl, by decide⟩
  | cons c cs ih =>
    by_cases hc : c = '*'
    · obtain ⟨n, rest, rfl, h⟩ := ih
      exact ⟨n + 1, rest, by rw [hc, List.replicate_succ, List.cons_append], h⟩
    · exact ⟨0, c :: cs, rfl, by simpa using hc⟩

/-- A character other than a backslash, a star or an opening bracket is a turn by itself, whatever
follows it. -/
theorem exists_turn_single (depth : Nat) {c : Char} (hslash : c ≠ '\\') (hstar : c ≠ '*')
    (hbracket : c ≠ '[') : ∃ x after, ∀ cs, Turn depth (c :: cs) x after cs := by
  rcases Decidable.em (c = '?') with rfl | hquestion
  · exact ⟨_, _, fun _ => .one⟩
  rcases Decidable.em (c = '\x7b') with rfl | hbrace
  · exact ⟨_, _, fun _ => .openBrace⟩
  have hc : c ∉ signChars := by
    simp [signChars, hslash, hstar, hquestion, hbrace, hbracket]
  cases depth with
  | zero => exact ⟨_, _, fun _ => .plain hc (absurd rfl)⟩
  | succ depth =>
    rcases Decidable.em (c = ',') with rfl | hcomma
    · exact ⟨_, _, fun _ => .comma⟩
    rcases Decidable.em (c = '\x7d') with rfl | hclose
    · exact ⟨_, _, fun _ => .closeBrace⟩
    · exact ⟨_, _, fun _ => .plain hc fun _ => ⟨hcomma, hclose⟩⟩

/-- What is left of a glob starts with a turn, unless a class is in front. -/
theorem exists_turn (depth : Nat) {c : Char} (hbracket : c ≠ '[') :
    ∃ x after rest, Turn depth (c :: cs) x after rest := by
  rcases Decidable.em (c = '\\') with rfl | hslash
  · cases cs with
    | nil => exact ⟨_, _, _, .backslash⟩
    | cons c cs => exact ⟨_, _, _, .escaped⟩
  rcases Decidable.em (c = '*') with rfl | hstar
  · obtain ⟨n, rest, rfl, hrest⟩ := exists_stars cs
    cases n with
    | zero => exact ⟨_, _, _, .run hrest⟩
    | succ more =>
      cases rest with
      | nil => exact ⟨_, _, _, .all more hrest (by decide)⟩
      | cons d rest =>
        rcases Decidable.em (d = '/') with rfl | hd
        · exact ⟨_, _, _, .folders more⟩
        · exact ⟨_, _, _, .all more hrest (by simpa using hd)⟩
  obtain ⟨x, after, hturn⟩ := exists_turn_single depth hslash hstar hbracket
  exact ⟨x, after, cs, hturn cs⟩

/-- A turn takes a character at least. -/
theorem Turn.length_lt (h : Turn depth cs x after rest) : rest.length < cs.length := by
  cases h <;> simp only [List.length_append, List.length_cons, List.length_replicate,
    List.length_nil] <;> omega

/-- Stars open and close no brace. -/
theorem bracesAfter_stars (depth n : Nat) :
    (List.replicate n (some '*')).foldl bracesAfter depth = depth := by
  induction n with
  | zero => rfl
  | succ n ih => exact ih

/-- The signs that a turn takes. -/
theorem Turn.signs (h : Turn depth cs x after rest) :
    ∃ front, front ≠ [] ∧ signs cs = front ++ signs rest ∧
      front.foldl bracesAfter depth = after := by
  cases h with
  | @plain _ c _ hc hd =>
    have hbrace : c ≠ '\x7b' := fun h => hc (h ▸ by decide)
    refine ⟨[some c], List.cons_ne_nil _ _, signs_plain hc _, ?_⟩
    change bracesAfter depth (some c) = depth
    rcases Decidable.em (c = '\x7d') with rfl | hclose
    · cases depth with
      | zero => rfl
      | succ depth => exact absurd rfl (hd (Nat.succ_ne_zero _)).2
    · simp [bracesAfter, hbrace, hclose]
  | escaped => exact ⟨[none], List.cons_ne_nil _ _, rfl, rfl⟩
  | backslash => exact ⟨[some '\\'], List.cons_ne_nil _ _, rfl, rfl⟩
  | one => exact ⟨[some '?'], List.cons_ne_nil _ _, rfl, rfl⟩
  | run => exact ⟨[some '*'], List.cons_ne_nil _ _, rfl, rfl⟩
  | all more =>
    exact ⟨_, List.cons_ne_nil _ _, signs_stars (more + 2) rest, bracesAfter_stars _ _⟩
  | folders more =>
    refine ⟨List.replicate (more + 2) (some '*') ++ [some '/'], List.cons_ne_nil _ _, ?_, ?_⟩
    · rw [signs_stars, List.append_assoc]
      rfl
    · rw [List.foldl_append, bracesAfter_stars]
      rfl
  | openBrace => exact ⟨[some '\x7b'], List.cons_ne_nil _ _, rfl, rfl⟩
  | comma => exact ⟨[some ','], List.cons_ne_nil _ _, rfl, rfl⟩
  | closeBrace => exact ⟨[some '\x7d'], List.cons_ne_nil _ _, rfl, rfl⟩

/-- Induction on the turns of a glob without classes, from its end to its front. -/
@[elab_as_elim]
theorem turn_induction {motive : Nat → List Char → Prop} (nil : ∀ depth, motive depth [])
    (turn : ∀ {depth cs x after rest}, Turn depth cs x after rest → motive after rest →
      motive depth cs) (depth : Nat) {cs : List Char} (h : ClassFree cs) : motive depth cs := by
  generalize hn : (signs cs).length = n
  induction n using Nat.strongRecOn generalizing depth cs with
  | ind n ih =>
    cases cs with
    | nil => exact nil depth
    | cons c cs =>
      have hbracket : c ≠ '[' := by
        rintro rfl
        rw [ClassFree, signs_cons (by decide)] at h
        exact h List.mem_cons_self
      obtain ⟨x, after, rest, hturn⟩ := exists_turn depth hbracket
      obtain ⟨front, hfront, hsigns, -⟩ := hturn.signs
      have hlt : (signs rest).length < n := by
        have := List.length_pos_iff.2 hfront
        rw [← hn, hsigns, List.length_append]
        omega
      have hrest : ClassFree rest := by
        rw [ClassFree, hsigns] at h
        exact fun hmem => h (List.mem_append_right _ hmem)
      exact turn hturn (ih _ hlt after hrest rfl)

/-- **A glob without classes is cut into items if and only if it closes its braces.** -/
theorem isSome_itemsWithin? (depth : Nat) (h : ClassFree cs) :
    (itemsWithin? depth cs).isSome ↔ (signs cs).foldl bracesAfter depth = 0 := by
  refine turn_induction (fun depth => ?_) (fun hturn ih => ?_) depth h
  · by_cases hd : depth = 0 <;> simp [itemsWithin?, signs, hd]
  · obtain ⟨front, -, hsigns, hafter⟩ := hturn.signs
    rw [hturn.items, Option.isSome_map, ih, hsigns, List.foldl_append, hafter]

/-! ### Items of what a glob says -/

mutual

/-- The items of a form. -/
def Form.items : Form → List Item
  | .done => []
  | .char c rest => .char c :: rest.items
  | .one rest => .one :: rest.items
  | .run rest => .run :: rest.items
  | .all rest => .all :: rest.items
  | .folders rest => .folders :: rest.items
  | .choice first others rest =>
    .openBrace :: (first.items ++ (itemsOfOthers others ++ .closeBrace :: rest.items))

/-- The items of branches, each with a comma before it. -/
def itemsOfOthers : List Form → List Item
  | [] => []
  | t :: rest => .comma :: (t.items ++ itemsOfOthers rest)

end

/-- What may follow a text that spells a form, inside or outside of braces. -/
inductive Follows : (inside : Bool) → (depth : Nat) → List Char → Prop
  | nothing : Follows false 0 []
  | comma (depth : Nat) (cs : List Char) : Follows true (depth + 1) (',' :: cs)
  | closeBrace (depth : Nat) (cs : List Char) : Follows true (depth + 1) ('\x7d' :: cs)

variable {inside : Bool}

/-- What may follow a text is neither a star nor a slash. -/
theorem Follows.head? (h : Follows inside depth rest) {c : Char} (hc : c = '*' ∨ c = '/')
    (hcs : cs.head? ≠ some c) : (cs ++ rest).head? ≠ some c := by
  cases cs with
  | cons d cs => exact hcs
  | nil => rcases hc with rfl | rfl <;> cases h <;> simp

/-- The items of a turn are in front of those of the rest. -/
theorem Turn.items_append {cs' : List Char} {xs : List Item} (h : Turn depth cs x after cs')
    {depth' : Nat} (ih : itemsWithin? after cs' = (itemsWithin? depth' rest).map (xs ++ ·)) :
    itemsWithin? depth cs = (itemsWithin? depth' rest).map (x :: xs ++ ·) := by
  rw [h.items, ih, Option.map_map]
  rfl

/-- What may follow branches is a closing brace or, before more of them, a comma. -/
theorem follows_branches (depth : Nat) (others : List (List Char × Form)) (rest : List Char) :
    Follows true (depth + 1) ((others.flatMap fun b => ',' :: b.1) ++ '\x7d' :: rest) := by
  cases others with
  | nil => exact .closeBrace depth rest
  | cons b others => exact .comma depth _

/-- Branches are cut into their items, each behind a comma. -/
theorem items_others {others : List (List Char × Form)}
    (h : ∀ b ∈ others, ∀ depth rest, Follows true depth rest →
      itemsWithin? depth (b.1 ++ rest) = (itemsWithin? depth rest).map (b.2.items ++ ·))
    {xs : List Item} {cs' : List Char} {depth' : Nat}
    (ih : itemsWithin? depth rest = (itemsWithin? depth' cs').map (xs ++ ·)) :
    itemsWithin? (depth + 1) ((others.flatMap fun b => ',' :: b.1) ++ '\x7d' :: rest) =
      (itemsWithin? depth' cs').map
        (itemsOfOthers (others.map (·.2)) ++ .closeBrace :: xs ++ ·) := by
  induction others with
  | nil => exact Turn.items_append .closeBrace ih
  | cons b others ihs =>
    obtain ⟨hb, hbs⟩ := List.forall_mem_cons.1 h
    rw [List.flatMap_cons, List.cons_append, List.cons_append, List.append_assoc]
    rw [Turn.comma.items, hb _ _ (follows_branches depth others rest), ihs hbs]
    simp [itemsOfOthers, Function.comp_def]

/-- A text that spells a form is cut into the items of the form. -/
theorem Spells.items {t : Form} (h : Spells inside cs t) (hrest : Follows inside depth rest) :
    itemsWithin? depth (cs ++ rest) = (itemsWithin? depth rest).map (t.items ++ ·) := by
  induction h generalizing depth rest with
  | done => simp [Form.items]
  | plain hc hin h ih =>
    refine Turn.items_append (.plain hc fun hd => hin ?_) (ih hrest)
    cases hrest with
    | nothing => exact absurd rfl hd
    | comma | closeBrace => rfl
  | escaped h ih => exact Turn.items_append .escaped (ih hrest)
  | backslash =>
    cases hrest
    exact Turn.items_append .backslash rfl
  | one h ih => exact Turn.items_append .one (ih hrest)
  | run hs h ih => exact Turn.items_append (.run (hrest.head? (.inl rfl) hs)) (ih hrest)
  | all more hs hf h ih =>
    rw [List.append_assoc]
    exact Turn.items_append (.all more (hrest.head? (.inl rfl) hs) (hrest.head? (.inr rfl) hf))
      (ih hrest)
  | folders more h ih =>
    rw [List.append_assoc]
    exact Turn.items_append (.folders more) (ih hrest)
  | @choice _ text _ cs _ others hfirst hothers h ihfirst ihothers ih =>
    rw [List.cons_append, List.append_assoc, List.append_assoc, List.cons_append]
    refine Turn.items_append .openBrace ?_
    have hbranches := items_others (fun b hb _ _ => ihothers b hb) (ih hrest)
    rw [ihfirst (follows_branches depth others (cs ++ rest)), hbranches]
    simp [Function.comp_def]

/-! ### What a glob with items says -/

/-- What is left of a glob inside a number of braces: for each of them branches up to its end. -/
def Closes : (depth : Nat) → List Char → Prop
  | 0, cs => ∃ t, Spells false cs t
  | depth + 1, cs => ∃ (first : List Char × Form) (others : List (List Char × Form)) (rest : _),
      Spells true first.1 first.2 ∧ (∀ b ∈ others, Spells true b.1 b.2) ∧
        cs = first.1 ++ ((others.flatMap fun b => ',' :: b.1) ++ '\x7d' :: rest) ∧
          Closes depth rest

/-- What can stand in front of every text that spells a form can stand in front of what is left. -/
theorem Closes.prepend (front : List Char) (h : Closes depth cs)
    (hfront : ∀ inside cs' t, (inside = true → depth ≠ 0) → (inside = false → depth = 0) →
      (∀ c, cs'.head? = some c → cs.head? = some c) → Spells inside cs' t →
        ∃ t', Spells inside (front ++ cs') t') :
    Closes depth (front ++ cs) := by
  cases depth with
  | zero =>
    obtain ⟨t, h⟩ := h
    exact hfront false cs t (by simp) (fun _ => rfl) (fun _ hc => hc) h
  | succ depth =>
    obtain ⟨first, others, rest, hfirst, hothers, rfl, hrest⟩ := h
    have hhead (c : Char) (hc : first.1.head? = some c) :
        (first.1 ++ ((others.flatMap fun b => ',' :: b.1) ++ '\x7d' :: rest)).head? = some c := by
      rw [List.head?_append, hc]
      rfl
    obtain ⟨t, ht⟩ := hfront true _ _ (fun _ => Nat.succ_ne_zero _) (by simp) hhead hfirst
    exact ⟨(front ++ first.1, t), others, rest, ht, hothers, by rw [List.append_assoc], hrest⟩

/-- Before a turn a glob has as many braces to close as the turn leaves or takes. -/
theorem Turn.closes (h : Turn depth cs x after rest) (hrest : Closes after rest) :
    Closes depth cs := by
  cases h with
  | plain hc hd =>
    exact hrest.prepend [_] fun _ _ _ hin _ _ hs => ⟨_, .plain hc (fun h => hd (hin h)) hs⟩
  | escaped => exact hrest.prepend ['\\', _] fun _ _ _ _ _ _ hs => ⟨_, .escaped hs⟩
  | backslash =>
    cases depth with
    | zero => exact ⟨_, .backslash⟩
    | succ depth =>
      obtain ⟨first, others, rest, -, -, h, -⟩ := hrest
      simp at h
  | one => exact hrest.prepend ['?'] fun _ _ _ _ _ _ hs => ⟨_, .one hs⟩
  | run hs =>
    exact hrest.prepend ['*'] fun _ _ _ _ _ hc h => ⟨_, .run (fun h => hs (hc _ h)) h⟩
  | all more hs hf =>
    exact hrest.prepend _ fun _ _ _ _ _ hc h =>
      ⟨_, .all more (fun h => hs (hc _ h)) (fun h => hf (hc _ h)) h⟩
  | folders more =>
    have h := hrest.prepend (List.replicate (more + 2) '*' ++ ['/']) fun _ _ _ _ _ _ h =>
      ⟨_, by rw [List.append_assoc]; exact .folders more h⟩
    rwa [List.append_assoc] at h
  | openBrace =>
    obtain ⟨first, others, rest, hfirst, hothers, rfl, hrest⟩ := hrest
    have h := hrest.prepend
      ('\x7b' :: (first.1 ++ ((others.flatMap fun b => ',' :: b.1) ++ ['\x7d'])))
      fun _ _ _ _ _ _ h => ⟨_, by
        rw [List.cons_append, List.append_assoc, List.append_assoc]
        exact .choice hfirst hothers h⟩
    rwa [List.cons_append, List.append_assoc, List.append_assoc] at h
  | comma =>
    obtain ⟨first, others, rest, hfirst, hothers, rfl, hrest⟩ := hrest
    refine ⟨([], .done), first :: others, rest, .done, List.forall_mem_cons.2 ⟨hfirst, hothers⟩,
      ?_, hrest⟩
    rw [List.flatMap_cons, List.append_assoc]
    rfl
  | closeBrace => exact ⟨([], .done), [], rest, .done, by simp, rfl, hrest⟩

/-- **A glob without classes that has items spells a form.** -/
theorem exists_spells {glob : List Char} (h : ClassFree glob) (hitems : (items? glob).isSome) :
    ∃ t, Spells false glob t := by
  suffices hcloses : ∀ depth, (itemsWithin? depth glob).isSome → Closes depth glob from
    hcloses 0 hitems
  intro depth
  refine turn_induction (fun depth hd => ?_) (fun hturn ih h => ?_) depth h
  · cases depth with
    | zero => exact ⟨.done, .done⟩
    | succ depth => simp [itemsWithin?] at hd
  · rw [hturn.items, Option.isSome_map] at h
    exact hturn.closes (ih h)

end Glob
end Pattern
end RecordFilter
