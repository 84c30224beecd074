/-
# Two stars match what one star does

A glob is followed piece by piece up to a star (`Piece`, `exists_pieces`), and another glob has two
stars there.  Up to that place both are cut into the same items, and behind it again (`hasItems`,
`exists_items_twoStars`).  So the two search patterns are read side by side, and what one reader
holds stays below what the other one holds (`Abreast`): at the star because a run without slashes is
a run of any characters, and a run without slashes before a slash is any folders (`abreast_star`,
`abreast_starSlash`); at every other item because both take the same (`abreast_item`).

Two stars stop at a line feed, one star does not, so all this holds of subjects of one line only
(`matchesText_twoStars`, `twoStars_lineFeed`).
-/

import Mathlib
import RecordFilter.Proofs.Pattern.ClassMembers
import RecordFilter.Proofs.Pattern.Containment

namespace RecordFilter
namespace Pattern

open Reader Regex

namespace Glob

/-! ### Pieces of a glob -/

/-- A part of a glob that is read as a whole. -/
inductive Piece where
  /-- A character that starts neither an escape nor a class. -/
  | sign (c : Char) (h : c ≠ '\\' ∧ c ≠ '[')
  /-- A character with a backslash before it. -/
  | escaped (c : Char)
  /-- A class. -/
  | charClass (k : CharClass)

namespace Piece

/-- A star that is not escaped and not in a class. -/
def star : Piece := .sign '*' (by decide)

/-- A slash that is not escaped and not in a class. -/
def slash : Piece := .sign '/' (by decide)

/-- How a piece is written. -/
def text : Piece → List Char
  | sign c _ => [c]
  | escaped c => ['\\', c]
  | charClass k => k.text

/-- A piece starts with a sign only if it is this sign. -/
theorem head?_text {p : Piece} {c : Char} {hc : c ≠ '\\' ∧ c ≠ '['} (h : p ≠ .sign c hc)
    (cs : List Char) : (p.text ++ cs).head? ≠ some c := by
  cases p with
  | sign d hd =>
    have hne : d ≠ c := by
      rintro rfl
      exact h rfl
    simpa [text] using hne
  | escaped d => simpa [text] using hc.1.symm
  | charClass k => simpa [text, CharClass.text] using hc.2.symm

end Piece

/-- The glob of several pieces. -/
def textOf (ps : List Piece) : List Char := ps.flatMap Piece.text

variable {depth : Nat} {cs : List Char} {xs : List Item} {x : Item}

/-- Pieces are written one behind the other. -/
theorem textOf_cons (p : Piece) (ps : List Piece) : textOf (p :: ps) = p.text ++ textOf ps := rfl

/-- Stars are written as they are. -/
theorem textOf_stars (n : Nat) (ps : List Piece) :
    textOf (List.replicate n .star ++ ps) = List.replicate n '*' ++ textOf ps := by
  induction n with
  | zero => rfl
  | succ n ih =>
    rw [List.replicate_succ, List.cons_append, textOf_cons, ih]
    rfl

/-- Pieces that do not end in a star go on with another piece behind all stars in front. -/
theorem exists_leading_stars {ps : List Piece} (hlast : ps.getLast? ≠ some .star) (hps : ps ≠ []) :
    ∃ n q qs, ps = List.replicate n .star ++ q :: qs ∧ q ≠ .star := by
  induction ps with
  | nil => exact absurd rfl hps
  | cons p ps ih =>
    by_cases hp : p = .star
    · have hne : ps ≠ [] := by
        rintro rfl
        exact hlast (by rw [hp]; rfl)
      rw [← List.singleton_append, List.getLast?_append_of_ne_nil _ hne] at hlast
      obtain ⟨n, q, qs, rfl, hq⟩ := ih hlast hne
      exact ⟨n + 1, q, qs, by rw [hp]; rfl, hq⟩
    · exact ⟨0, p, ps, rfl, hp⟩

/-- Whether the items of pieces can be told, and the open braces behind them, whatever follows. -/
def HasItems (depth : Nat) (ps : List Piece) : Prop :=
  ∃ xs after, ∀ cs, itemsWithin? depth (textOf ps ++ cs) = (itemsWithin? after cs).map (xs ++ ·)

/-- No pieces have no items. -/
theorem hasItems_nil (depth : Nat) : HasItems depth [] :=
  ⟨[], depth, fun cs => by simp [textOf]⟩

/-- Pieces with an item in front. -/
theorem HasItems.prepend {ps qs : List Piece} {after : Nat} (h : HasItems after qs)
    (hfront : ∀ cs, itemsWithin? depth (textOf ps ++ cs) =
      (itemsWithin? after (textOf qs ++ cs)).map (x :: ·)) : HasItems depth ps := by
  obtain ⟨xs, last, h⟩ := h
  exact ⟨x :: xs, last, fun cs => by rw [hfront, h, Option.map_map]; rfl⟩

/-- A piece other than a star is an item. -/
theorem exists_item {p : Piece} (h : p ≠ .star) (depth : Nat) : ∃ x after, ∀ cs,
    itemsWithin? depth (p.text ++ cs) = (itemsWithin? after cs).map (x :: ·) := by
  cases p with
  | sign c hc =>
    have hstar : c ≠ '*' := by
      rintro rfl
      exact h rfl
    obtain ⟨x, after, hturn⟩ := exists_turn_single depth hc.1 hstar hc.2
    exact ⟨x, after, fun cs => (hturn cs).items⟩
  | escaped c => exact ⟨_, _, fun cs => Turn.items .escaped⟩
  | charClass k => exact ⟨_, _, k.items depth⟩

/-- **Pieces that do not end in a star are cut into the same items whatever follows.** -/
theorem hasItems {ps : List Piece} (hlast : ps.getLast? ≠ some .star) (depth : Nat) :
    HasItems depth ps := by
  generalize hn : ps.length = n
  induction n using Nat.strongRecOn generalizing ps depth with
  | ind n ih =>
    by_cases hps : ps = []
    · exact hps ▸ hasItems_nil depth
    obtain ⟨m, q, qs, rfl, hq⟩ := exists_leading_stars hlast hps
    simp only [List.length_append, List.length_replicate, List.length_cons] at hn
    rw [List.getLast?_append_of_ne_nil _ (List.cons_ne_nil _ _)] at hlast
    have htail : qs.getLast? ≠ some .star := by
      cases qs with
      | nil => simp
      | cons r qs => rwa [List.getLast?_cons_cons] at hlast
    have hhead (cs : List Char) : (textOf (q :: qs) ++ cs).head? ≠ some '*' := by
      rw [textOf_cons, List.append_assoc]
      exact Piece.head?_text hq _
    match m with
    | 0 =>
      obtain ⟨x, after, hx⟩ := exists_item hq depth
      exact (ih _ (by omega) htail after rfl).prepend (x := x) fun cs => by
        rw [List.replicate_zero, List.nil_append, textOf_cons, List.append_assoc, hx]
    | 1 =>
      exact (ih _ (by simp; omega) hlast depth rfl).prepend fun cs => Turn.items (.run (hhead cs))
    | more + 2 =>
      by_cases hslash : q = .slash
      · exact (ih _ (by omega) htail depth rfl).prepend (x := .folders) fun cs => by
          rw [hslash, textOf_stars, List.append_assoc]
          exact Turn.items (.folders more)
      · exact (ih _ (by simp; omega) hlast depth rfl).prepend (x := .all) fun cs => by
          rw [textOf_stars, List.append_assoc]
          refine Turn.items (.all more (hhead cs) ?_)
          rw [textOf_cons, List.append_assoc]
          exact Piece.head?_text hslash _

/-! ### Items of any glob -/

/-- Induction on the items that a glob is cut into. -/
@[elab_as_elim]
theorem items_induction {motive : List Char → List Item → Prop} (nil : motive [] [])
    (charClass : ∀ k cs xs, motive cs xs → motive (k.text ++ cs) (CharClass.item k :: xs))
    (turn : ∀ {depth cs x after rest xs}, Turn depth cs x after rest → motive rest xs →
      motive cs (x :: xs)) (h : itemsWithin? depth cs = some xs) : motive cs xs := by
  generalize hn : cs.length = n
  induction n using Nat.strongRecOn generalizing cs depth xs with
  | ind n ih =>
    match cs with
    | [] =>
      rw [itemsWithin?] at h
      split at h
      · exact Option.some.inj h ▸ nil
      · cases h
    | c :: cs =>
      by_cases hc : c = '['
      · subst hc
        obtain ⟨k, rest, hcs⟩ := exists_charClass (Option.isSome_of_eq_some h)
        rw [hcs, k.items, Option.map_eq_some_iff] at h
        obtain ⟨ys, hys, rfl⟩ := h
        rw [hcs] at hn ⊢
        refine charClass k rest ys (ih rest.length ?_ hys rfl)
        simp only [CharClass.text, List.length_append, List.length_cons] at hn
        omega
      · obtain ⟨x, after, rest, hturn⟩ := @exists_turn cs depth c hc
        rw [hturn.items, Option.map_eq_some_iff] at h
        obtain ⟨ys, hys, rfl⟩ := h
        exact turn hturn (ih rest.length (hn ▸ hturn.length_lt) hys rfl)

/-- Whether an item is not taken for a class without being one. -/
def Item.IsSound : Item → Prop
  | .oneOf negated members => ∃ k : CharClass, k.item = .oneOf negated members
  | _ => True

/-- The item of a turn is sound. -/
theorem Turn.isSound {after : Nat} {rest : List Char} (h : Turn depth cs x after rest) :
    x.IsSound := by
  cases h <;> trivial

/-- The items of a glob are sound. -/
theorem isSound_items (h : itemsWithin? depth cs = some xs) : ∀ x ∈ xs, x.IsSound := by
  refine items_induction ?_ (fun k cs xs ih => ?_) (fun hturn ih => ?_) h
  · exact List.forall_mem_nil _
  · exact List.forall_mem_cons.2 ⟨⟨k, rfl⟩, ih⟩
  · exact List.forall_mem_cons.2 ⟨hturn.isSound, ih⟩

/-- The text of a turn is pieces, unless it is a backslash at the end. -/
theorem Turn.exists_pieces {after : Nat} {rest : List Char} (h : Turn depth cs x after rest) :
    (cs = ['\\'] ∧ rest = []) ∨ ∃ ps, cs = textOf ps ++ rest := by
  cases h with
  | backslash => exact .inl ⟨rfl, rfl⟩
  | @plain _ c _ hc =>
    refine .inr ⟨[.sign c ⟨?_, ?_⟩], rfl⟩ <;> rintro rfl <;> exact hc (by decide)
  | @escaped _ c => exact .inr ⟨[.escaped c], rfl⟩
  | one => exact .inr ⟨[.sign '?' (by decide)], rfl⟩
  | run => exact .inr ⟨[.star], rfl⟩
  | all more =>
    refine .inr ⟨List.replicate (more + 2) .star ++ [], ?_⟩
    rw [textOf_stars, List.append_assoc]
    rfl
  | folders more =>
    refine .inr ⟨List.replicate (more + 2) .star ++ [.slash], ?_⟩
    rw [textOf_stars, List.append_assoc]
    rfl
  | openBrace => exact .inr ⟨[.sign '\x7b' (by decide)], rfl⟩
  | comma => exact .inr ⟨[.sign ',' (by decide)], rfl⟩
  | closeBrace => exact .inr ⟨[.sign '\x7d' (by decide)], rfl⟩

/-- **A glob that is cut into items is pieces**, but for a backslash at its end. -/
theorem exists_pieces (h : itemsWithin? depth cs = some xs) :
    ∃ ps last, cs = textOf ps ++ last ∧ last ∈ [[], ['\\']] := by
  refine items_induction ?_ (fun k cs xs ih => ?_) (fun hturn ih => ?_) h
  · exact ⟨[], [], rfl, by simp⟩
  · obtain ⟨ps, last, rfl, hlast⟩ := ih
    exact ⟨.charClass k :: ps, last, by rw [textOf_cons, List.append_assoc]; rfl, hlast⟩
  · obtain ⟨ps, last, rfl, hlast⟩ := ih
    rcases hturn.exists_pieces with ⟨rfl, -⟩ | ⟨front, rfl⟩
    · exact ⟨[], ['\\'], rfl, by simp⟩
    · exact ⟨front ++ ps, last, by simp [textOf], hlast⟩

/-! ### Two readings side by side -/

variable {subject : List Char} {xs' ys ys' : List Item}

/-- Whether two readers, one of which holds something below what the other holds, still do so behind
the pieces of a search pattern for some items; the first of them is not stopped by a mistake. -/
def Abreast (subject : List Char) (xs xs' : List Item) : Prop :=
  ∀ (s t : State) (rest rest' : List Char) (limit : Nat) (p : Syntax), s.Below subject t →
    rest.head? ≠ some '?' → rest'.head? ≠ some '?' →
    (xs.flatMap Item.pattern ++ rest).length < limit →
    parts? limit s (xs.flatMap Item.pattern ++ rest) = some p →
    ∃ s' t', s'.Below subject t' ∧ Reads s (xs.flatMap Item.pattern ++ rest) s' rest ∧
      Reads t (xs'.flatMap Item.pattern ++ rest') t' rest'

/-- Readers stay abreast behind no items. -/
theorem abreast_nil : Abreast subject [] [] :=
  fun _ _ _ _ _ _ h _ _ _ _ => ⟨_, _, h, .refl _ _, .refl _ _⟩

/-- Readers stay abreast behind items that follow each other. -/
theorem Abreast.append (h : Abreast subject xs xs') (h' : Abreast subject ys ys') :
    Abreast subject (xs ++ ys) (xs' ++ ys') := by
  intro s t rest rest' limit p hbelow hrest hrest' hlimit hparts
  rw [List.flatMap_append, List.append_assoc] at hlimit hparts
  obtain ⟨s₁, t₁, hbelow, hreads, hreads'⟩ := h _ _ _ _ _ _ hbelow (head?_patterns ys hrest)
    (head?_patterns ys' hrest') hlimit hparts
  obtain ⟨limit', hlimit', heq⟩ := hreads.parts? hlimit
  rw [heq] at hparts
  obtain ⟨s₂, t₂, hbelow, hmore, hmore'⟩ := h' _ _ _ _ _ _ hbelow hrest hrest' hlimit' hparts
  refine ⟨s₂, t₂, hbelow, ?_, ?_⟩
  · rw [List.flatMap_append, List.append_assoc]
    exact hreads.trans hmore
  · rw [List.flatMap_append, List.append_assoc]
    exact hreads'.trans hmore'

/-- Items that are read as parts, those of one reader below those of the other. -/
theorem abreast_of_reads {ps qs : List Syntax}
    (h : ∀ {s : State} {rest}, s.spaced = false → rest.head? ≠ some '?' →
      Reads s (xs.flatMap Item.pattern ++ rest) (s.extend ps) rest)
    (h' : ∀ {s : State} {rest}, s.spaced = false → rest.head? ≠ some '?' →
      Reads s (xs'.flatMap Item.pattern ++ rest) (s.extend qs) rest)
    (hpq : InTurnBelow subject ps qs) : Abreast subject xs xs' :=
  fun _ _ _ _ _ _ hbelow hrest hrest' _ _ => ⟨_, _, hbelow.extend hpq, h hbelow.spaced.1 hrest,
    h' hbelow.spaced.2 hrest'⟩

/-- Items of two forms, where the second has the texts of the first. -/
theorem abreast_forms {cs' : List Char} {t t' : Form} (ht : Spells false cs t)
    (ht' : Spells false cs' t') (hsubject : '\n' ∉ subject)
    (h : ∀ text, Matches t text → Matches t' text) : Abreast subject t.items t'.items := by
  have hline : ∀ s : List Char, '\n' ∉ s → '\n' ∉ s := fun _ => id
  exact abreast_of_reads (reads_form t) (reads_form t')
    ((denotes_spells ht (.inr hline)).below (denotes_spells ht' (.inr hline)) hsubject h)

/-- Two stars beside one. -/
theorem abreast_star (hsubject : '\n' ∉ subject) : Abreast subject [.run] [.all] := by
  have hrun : Spells false ['*'] (.run .done) := .run (by simp) .done
  have hall : Spells false ['*', '*'] (.all .done) := .all 0 (by simp) (by simp) .done
  refine abreast_forms hrun hall hsubject fun text h => ?_
  obtain ⟨a, b, rfl, -, h⟩ := matches_run.1 h
  exact .all h

/-- Two stars beside one in front of a slash. -/
theorem abreast_starSlash (hsubject : '\n' ∉ subject) :
    Abreast subject [.run, .char '/'] [.folders] := by
  have hrun : Spells false ['*', '/'] (.run (.char '/' .done)) :=
    .run (by simp) (.plain (by decide) nofun .done)
  have hfolders : Spells false ['*', '*', '/'] (.folders .done) := .folders 0 .done
  refine abreast_forms hrun hfolders hsubject fun text h => ?_
  obtain ⟨a, _, rfl, -, hslash⟩ := matches_run.1 h
  obtain ⟨_, b, rfl, ⟨_, rfl, rfl⟩, hdone⟩ := matches_char.1 hslash
  rw [← List.append_assoc]
  exact .folders (.inr ⟨a, rfl⟩) hdone

/-- A reader that is not stopped goes over the part in front. -/
theorem exists_part {s : State} {c : Char} {limit : Nat} {p : Syntax} (hs : s.spaced = false)
    (h : parts? limit s (c :: cs) = some p) : ∃ s' rest, part? s c cs = some (s', rest) := by
  cases limit with
  | zero => cases h
  | succ limit =>
    rw [parts?, skip, hs] at h
    simp only [Bool.false_eq_true, if_false] at h
    split at h
    · next s' rest hpart => exact ⟨s', rest, hpart⟩
    · cases h

/-- Readers stay abreast behind a class. -/
theorem abreast_class (k : CharClass) : Abreast subject [k.item] [k.item] := by
  intro s t rest rest' limit p hbelow hrest hrest' hlimit hparts
  rw [List.flatMap_singleton, k.pattern_item] at hparts
  obtain ⟨s', after, hpart⟩ := exists_part hbelow.spaced.1 hparts
  rw [CharClass.part?_class hbelow.spaced.1, Option.map_eq_some_iff] at hpart
  obtain ⟨tree, htree, -⟩ := hpart
  obtain ⟨r, hread⟩ := read?_classTree htree
  rw [List.flatMap_singleton]
  exact ⟨_, _, hbelow.push (.refl hread), CharClass.reads_classTree htree hbelow.spaced.1 rest,
    CharClass.reads_classTree htree hbelow.spaced.2 rest'⟩

/-- Readers stay abreast behind an opening brace. -/
theorem abreast_openBrace : Abreast subject [.openBrace] [.openBrace] :=
  fun _ _ rest rest' _ _ hbelow _ _ _ _ => ⟨_, _, hbelow.inGroup,
    reads_opening hbelow.spaced.1 rest, reads_opening hbelow.spaced.2 rest'⟩

/-- Readers stay abreast behind a comma in braces. -/
theorem abreast_comma : Abreast subject [.comma] [.comma] :=
  fun _ _ _ _ _ _ hbelow _ _ _ _ => ⟨_, _, hbelow.branched,
    .single hbelow.spaced.1 rfl (Nat.le_refl _), .single hbelow.spaced.2 rfl (Nat.le_refl _)⟩

/-- Readers stay abreast behind a closing brace. -/
theorem abreast_closeBrace : Abreast subject [.closeBrace] [.closeBrace] := by
  intro s t rest rest' limit p hbelow hrest hrest' hlimit hparts
  obtain ⟨s', after, hpart⟩ := exists_part (c := ')') hbelow.spaced.1 hparts
  rw [part?, Option.map_eq_some_iff] at hpart
  obtain ⟨s', hs', -⟩ := hpart
  obtain ⟨t', ht', hbelow'⟩ := hbelow.closed? hs'
  exact ⟨s', t', hbelow',
    .single (c := ')') hbelow.spaced.1 (by rw [part?, hs']; rfl) (Nat.le_refl _),
    .single (c := ')') hbelow.spaced.2 (by rw [part?, ht']; rfl) (Nat.le_refl _)⟩

/-- Readers stay abreast behind a sound item, for subjects of one line. -/
theorem abreast_item (hsubject : '\n' ∉ subject) (h : x.IsSound) : Abreast subject [x] [x] := by
  have hform {cs : List Char} {t : Form} (ht : Spells false cs t) :
      Abreast subject t.items t.items := abreast_forms ht ht hsubject fun _ => id
  cases x with
  | char c => exact hform (.escaped .done)
  | one => exact hform (.one .done)
  | run => exact hform (.run (by simp) .done)
  | all => exact hform (.all 0 (by simp) (by simp) .done)
  | folders => exact hform (.folders 0 .done)
  | oneOf negated members =>
    obtain ⟨k, hk⟩ := h
    exact hk ▸ abreast_class k
  | openBrace => exact abreast_openBrace
  | comma => exact abreast_comma
  | closeBrace => exact abreast_closeBrace

/-- Readers stay abreast behind sound items, for subjects of one line. -/
theorem abreast_items (hsubject : '\n' ∉ subject) (h : ∀ x ∈ xs, x.IsSound) :
    Abreast subject xs xs := by
  induction xs with
  | nil => exact abreast_nil
  | cons x xs ih =>
    obtain ⟨hx, hxs⟩ := List.forall_mem_cons.1 h
    exact (abreast_item hsubject hx).append (ih hxs)

/-- A reader at the end of a pattern is outside of groups. -/
theorem eq_inner_of_parts? {s : State} {limit : Nat} {p : Syntax} (hs : s.spaced = false)
    (h : parts? limit s [] = some p) : s.outer = [] ∧ p = s.inner := by
  cases limit with
  | zero => cases h
  | succ limit =>
    simp only [parts?, skip, hs, Bool.false_eq_true, if_false, Option.ite_none_right_eq_some,
      List.isEmpty_iff, Option.some.injEq] at h
    exact ⟨h.1, h.2.symm⟩

/-- Where two search patterns are read side by side, one is below the other. -/
theorem Abreast.below {p : Syntax} (h : Abreast subject xs xs') {source source' : List Char}
    (hsource : source = '^' :: (xs.flatMap Item.pattern ++ ['$']))
    (hsource' : source' = '^' :: (xs'.flatMap Item.pattern ++ ['$']))
    (hp : parts? (source.length + 1) .initial source = some p) :
    ∃ q, parts? (source'.length + 1) .initial source' = some q ∧ Below subject p q := by
  subst hsource hsource'
  have hstart (rest : List Char) : Reads .initial ('^' :: rest)
      (State.initial.push (.assertion .startLine)) rest := .single rfl rfl (Nat.le_refl _)
  have hend {s : State} (hs : s.spaced = false) : Reads s ['$'] (s.push (.assertion .endLine)) [] :=
    .single hs rfl (Nat.le_refl _)
  have hbegun : (State.initial.push (.assertion .startLine)).Below subject
      (State.initial.push (.assertion .startLine)) := State.below_initial.push (.refl rfl)
  obtain ⟨limit, hlimit, heq⟩ := (hstart _).parts? (Nat.lt_succ_self _)
  rw [heq] at hp
  obtain ⟨s, t, hbelow, hreads, hreads'⟩ :=
    h _ _ ['$'] ['$'] _ _ hbegun (by simp) (by simp) hlimit hp
  have hended : (s.push (.assertion .endLine)).Below subject (t.push (.assertion .endLine)) :=
    hbelow.push (.refl rfl)
  obtain ⟨limit', -, heq'⟩ := (hreads.trans (hend hbelow.spaced.1)).parts? hlimit
  rw [heq'] at hp
  obtain ⟨houter, rfl⟩ := eq_inner_of_parts? hended.spaced.1 hp
  have houter' : (t.push (.assertion .endLine)).outer = [] :=
    List.forall₂_nil_left_iff.1 (houter ▸ hended.outer)
  have hreads' := (hstart _).trans (hreads'.trans (hend hbelow.spaced.2))
  exact ⟨_, hreads'.ofText hended.spaced.2 houter', hended.inner⟩

/-! ### Two stars for one -/

variable {before : List Piece} {after : List Char}

/-- The items of a glob with one star, and of the glob with two stars there. -/
theorem exists_items_twoStars (hbefore : before.getLast? ≠ some .star)
    (hafter : after.head? ≠ some '*') (h : items? (textOf before ++ '*' :: after) = some xs) :
    ∃ xs', items? (textOf before ++ '*' :: '*' :: after) = some xs' ∧
      ('\n' ∉ subject → Abreast subject xs xs') := by
  have hsound := isSound_items h
  obtain ⟨front, depth, hfront⟩ := hasItems hbefore 0
  rw [items?, hfront, Option.map_eq_some_iff] at h
  obtain ⟨back, hback, rfl⟩ := h
  rw [Turn.items (.run hafter), Option.map_eq_some_iff] at hback
  obtain ⟨back, hback, rfl⟩ := hback
  simp only [List.forall_mem_append, List.forall_mem_cons] at hsound
  obtain ⟨hsoundFront, -, hsoundBack⟩ := hsound
  by_cases hslash : after.head? = some '/'
  · obtain ⟨rest, rfl⟩ := List.head?_eq_some_iff.1 hslash
    rw [Turn.items (.plain (by decide) fun _ => by decide), Option.map_eq_some_iff] at hback
    obtain ⟨back, hback, rfl⟩ := hback
    refine ⟨front ++ .folders :: back, ?_, fun hsubject => ?_⟩
    · have hturn : Turn depth ('*' :: '*' :: '/' :: rest) .folders depth rest := .folders 0
      rw [items?, hfront, hturn.items, hback]
      rfl
    · have hrest := (abreast_starSlash hsubject).append
        (abreast_items hsubject (List.forall_mem_cons.1 hsoundBack).2)
      exact (abreast_items hsubject hsoundFront).append hrest
  · refine ⟨front ++ .all :: back, ?_, fun hsubject => ?_⟩
    · have hturn : Turn depth ('*' :: '*' :: after) .all depth after := .all 0 hafter hslash
      rw [items?, hfront, hturn.items, hback]
      rfl
    · have hrest := (abreast_star hsubject).append (abreast_items hsubject hsoundBack)
      exact (abreast_items hsubject hsoundFront).append hrest

/-- Whether a glob is translated, and into a search pattern that keeps to the limits. -/
def Builds (glob : List Char) : Prop := ∃ source r,
  toPattern? glob = some source ∧ Regex.ofText? source = some r

/-- A glob with a star is matched by way of its search pattern. -/
theorem matchesText_of_star {glob : List Char} (h : '*' ∈ glob) {subject : String} :
    (Matcher.ofPattern .glob (.ofList glob)).matchesText subject = true ↔
      ∃ source r, toPattern? glob = some source ∧ Regex.ofText? source = some r ∧
        r.occursIn subject.toList = true := by
  have hplain : isPlain glob = false := by
    rw [isPlain, Bool.not_eq_false', List.any_eq_true]
    exact ⟨'*', h, rfl⟩
  rw [Matcher.ofPattern, Matcher.ofGlob, String.toList_ofList, hplain]
  simp only [Bool.false_eq_true, if_false]
  cases toPattern? glob with
  | none => simp [Matcher.matchesText]
  | some source =>
    cases hr : Regex.ofText? source <;> simp [Matcher.ofSearch, Matcher.matchesText, hr]

/-- What has a meaning is a search pattern without mistakes. -/
theorem exists_parts?_of_ofText? {source : List Char} {r : Regex}
    (h : Regex.ofText? source = some r) :
    ∃ p, parts? (source.length + 1) .initial source = some p := by
  rw [Regex.ofText?, Syntax.ofText?] at h
  cases hp : parts? (source.length + 1) .initial source with
  | none => simp [hp] at h
  | some p => exact ⟨p, rfl⟩

/-- **Two stars match what one star does**, in a subject of one line: where a glob has a star that
is not escaped, not in a class and not beside another star, the glob with two stars there matches
every subject that it matches, as long as that glob can be built. -/
theorem matchesText_twoStars (before : List Piece) (after : List Char)
    (hbefore : before.getLast? ≠ some .star) (hafter : after.head? ≠ some '*')
    (hbuilds : Builds (textOf before ++ '*' :: '*' :: after)) (subject : String)
    (hsubject : '\n' ∉ subject.toList)
    (hmatch : (Matcher.ofPattern .glob
      (.ofList (textOf before ++ '*' :: after))).matchesText subject = true) :
    (Matcher.ofPattern .glob
      (.ofList (textOf before ++ '*' :: '*' :: after))).matchesText subject = true := by
  rw [matchesText_of_star (by simp)] at hmatch ⊢
  obtain ⟨source', r', hsource', hr'⟩ := hbuilds
  obtain ⟨source, r, hsource, hr, hoccurs⟩ := hmatch
  refine ⟨source', r', hsource', hr', ?_⟩
  obtain ⟨xs, hxs, hpattern⟩ := Option.map_eq_some_iff.1 hsource
  obtain ⟨xs', hxs', habreast⟩ := exists_items_twoStars hbefore hafter hxs
  rw [toPattern?, hxs'] at hsource'
  obtain ⟨p, hp⟩ := exists_parts?_of_ofText? hr
  obtain ⟨q, hq, hbelow⟩ :=
    (habreast hsubject).below hpattern.symm (Option.some.inj hsource').symm hp
  obtain ⟨u, v, hu, hv⟩ := hbelow.exists_read
  rw [eq_of_ofText? hp hu hr] at hoccurs
  rw [eq_of_ofText? hq hv hr']
  exact hbelow.occursIn hu hv hoccurs

/-- Any character but one letter. -/
theorem ofSet_notLetter (forward : Bool) :
    Extent.ofSet forward ⟨[⟨0, 96⟩, ⟨98, 55295⟩, ⟨57344, 1114111⟩]⟩ =
      ⟨if forward then 424 else 1000, false⟩ := by
  cases forward with
  | false => cbv
  | true =>
    rw [Extent.ofSet_forward rfl]
    cbv

/-- A class and one star keep to the limits. -/
theorem withinLimits_star : WithinLimits "^[^a][^/]*/b$".toList := by
  refine withinLimits_of_programSize (p := .sequence [.place .textStart,
    .chars ⟨[⟨0, 96⟩, ⟨98, 55295⟩, ⟨57344, 1114111⟩]⟩,
    .repetition (.chars ⟨[⟨0, 46⟩, ⟨48, 55295⟩, ⟨57344, 1114111⟩]⟩) 0 none,
    .literal [47, 98], .place .textEnd]) (by decide_cbv) (by cbv) fun forward => ?_
  simp only [Part.programSize, Part.extent, Part.extents, ofSet_notLetter, Extent.ofSet_notSlash]
  cases forward <;> decide

/-- A class and two stars keep to the limits. -/
theorem withinLimits_twoStars : WithinLimits "^[^a](?:.*/)?b$".toList := by
  refine withinLimits_of_programSize (p := .sequence [.place .textStart,
    .chars ⟨[⟨0, 96⟩, ⟨98, 55295⟩, ⟨57344, 1114111⟩]⟩,
    .repetition (.sequence [.repetition (.chars ⟨[⟨0, 9⟩, ⟨11, 55295⟩, ⟨57344, 1114111⟩]⟩) 0 none,
      .literal [47]]) 0 (some 1), .literal [98], .place .textEnd])
    (by decide_cbv) (by cbv) fun forward => ?_
  simp only [Part.programSize, Part.extent, Part.extents, ofSet_notLetter,
    Extent.ofSet_notLineFeed]
  cases forward <;> decide

/-- One star alone keeps to the limits. -/
theorem withinLimits_loneStar : WithinLimits "^[^/]*$".toList := by
  refine withinLimits_of_programSize (p := .sequence [.place .textStart,
    .repetition (.chars ⟨[⟨0, 46⟩, ⟨48, 55295⟩, ⟨57344, 1114111⟩]⟩) 0 none, .place .textEnd])
    (by decide_cbv) (by cbv) fun forward => ?_
  simp only [Part.programSize, Part.extent, Part.extents, Extent.ofSet_notSlash]
  cases forward <;> decide

/-- Two stars alone keep to the limits. -/
theorem withinLimits_loneStars : WithinLimits "^.*$".toList := by
  refine withinLimits_of_programSize (p := .sequence [.place .textStart,
    .repetition (.chars ⟨[⟨0, 9⟩, ⟨11, 55295⟩, ⟨57344, 1114111⟩]⟩) 0 none, .place .textEnd])
    (by decide_cbv) (by cbv) fun forward => ?_
  simp only [Part.programSize, Part.extent, Part.extents, Extent.ofSet_notLineFeed]
  cases forward <;> decide

/-- A star between a class and a slash, at a path that the glob matches. -/
theorem matchesText_twoStars_folder : ∃ k : CharClass,
    textOf [.charClass k] ++ '*' :: ['/', 'b'] = "[!a]*/b".toList ∧
      (Matcher.ofPattern .glob (.ofList
        (textOf [.charClass k] ++ '*' :: '*' :: ['/', 'b']))).matchesText "d/b" = true := by
  obtain ⟨k, hk⟩ : ∃ k : CharClass, k = ⟨some '!', .bare 'a', [], by decide, by decide,
    by decide⟩ := ⟨_, rfl⟩
  have hone : textOf [.charClass k] ++ '*' :: ['/', 'b'] = "[!a]*/b".toList :=
    hk ▸ by decide +kernel
  have htwo : textOf [.charClass k] ++ '*' :: '*' :: ['/', 'b'] = "[!a]**/b".toList :=
    hk ▸ by decide +kernel
  have hbuilds : Builds (textOf [.charClass k] ++ '*' :: '*' :: ['/', 'b']) := by
    have hregex : (Regex.ofText? "^[^a](?:.*/)?b$".toList).isSome = true := by
      rw [ofText?_of_withinLimits withinLimits_twoStars]
      decide_cbv
    obtain ⟨r, hr⟩ := Option.isSome_iff_exists.1 hregex
    exact ⟨_, r, htwo ▸ by decide +kernel, hr⟩
  have hmatch : (Matcher.ofPattern .glob
      (.ofList (textOf [.charClass k] ++ '*' :: ['/', 'b']))).matchesText "d/b" = true := by
    have hregex : (Regex.ofText? "^[^a][^/]*/b$".toList).any (·.occursIn "d/b".toList) = true := by
      rw [ofText?_of_withinLimits withinLimits_star]
      decide_cbv
    obtain ⟨r, hr, hoccurs⟩ := (Option.any_eq_true _ _).1 hregex
    exact (matchesText_of_star (by simp)).2 ⟨_, r, hone ▸ by decide +kernel, hr, hoccurs⟩
  exact ⟨k, hone, matchesText_twoStars [.charClass k] ['/', 'b'] (by simp [Piece.star]) (by decide)
    hbuilds "d/b" (by decide +kernel) hmatch⟩

/-- A line feed is any character but a slash to one star, and stops two. -/
theorem twoStars_lineFeed : Builds "*".toList ∧ Builds "**".toList ∧
    (Matcher.ofPattern .glob "*").matchesText "\n" = true ∧
      (Matcher.ofPattern .glob "**").matchesText "\n" = false := by
  have hone : (Regex.ofText? "^[^/]*$".toList).any (·.occursIn "\n".toList) = true := by
    rw [ofText?_of_withinLimits withinLimits_loneStar]
    decide_cbv
  have htwo : (Regex.ofText? "^.*$".toList).any (!·.occursIn "\n".toList) = true := by
    rw [ofText?_of_withinLimits withinLimits_loneStars]
    decide_cbv
  obtain ⟨r, hr, hoccurs⟩ := (Option.any_eq_true _ _).1 hone
  obtain ⟨r', hr', hoccurs'⟩ := (Option.any_eq_true _ _).1 htwo
  have hsource : toPattern? "*".toList = some "^[^/]*$".toList := by decide +kernel
  have hsource' : toPattern? "**".toList = some "^.*$".toList := by decide +kernel
  refine ⟨⟨_, r, hsource, hr⟩, ⟨_, r', hsource', hr'⟩, ?_, ?_⟩
  · exact (matchesText_of_star (List.mem_singleton_self _)).2 ⟨_, r, hsource, hr, hoccurs⟩
  · rw [← Bool.not_eq_true]
    intro hmatch
    obtain ⟨source, r'', hs, hr'', h⟩ :=
      (matchesText_of_star (List.mem_cons_self (l := ['*']))).1 hmatch
    obtain rfl : "^.*$".toList = source := Option.some.inj (hsource'.symm.trans hs)
    obtain rfl : r' = r'' := Option.some.inj (hr'.symm.trans hr'')
    rw [h] at hoccurs'
    cases hoccurs'

end Glob
end Pattern
end RecordFilter
