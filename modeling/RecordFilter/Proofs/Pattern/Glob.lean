/-
# Globs match their languages

A glob is matched by way of a search pattern, and the pattern matches what the glob says: a subject
matches if and only if it is in the language of the glob (`matchesText_glob_iff`).  The parts of the
pattern denote the texts of the form that the glob spells (`denotes_spells`), and the conditions at
its two ends leave the whole subject (`exists_regex`).

The point of a search pattern stops at a line feed, the two stars of a glob do not.  A glob that has
them is therefore translated faithfully only for subjects of one line.
-/

import Mathlib
import RecordFilter.Pattern.Matcher
import RecordFilter.Proofs.Pattern.Denotation
import RecordFilter.Proofs.Pattern.Footprint
import RecordFilter.Proofs.Pattern.GlobReading

namespace RecordFilter
namespace Pattern
namespace Glob

open Regex

/-! ### Signs of parts of a glob -/

/-- The signs of branches, each behind a comma. -/
theorem signs_others {others : List (List Char × Form)} (rest : List Char)
    (h : ∀ b ∈ others, ∀ rest, signs (b.1 ++ rest) = signs b.1 ++ signs rest) :
    signs ((others.flatMap fun b => ',' :: b.1) ++ rest) =
      (others.flatMap fun b => some ',' :: signs b.1) ++ signs rest := by
  induction others with
  | nil => rfl
  | cons b others ih =>
    obtain ⟨hb, hothers⟩ := List.forall_mem_cons.1 h
    rw [List.flatMap_cons, List.cons_append, List.cons_append, List.append_assoc,
      signs_cons (by decide), hb, ih hothers]
    simp

/-- The signs of braces and what follows them. -/
theorem signs_choice {text : List Char} {others : List (List Char × Form)} (cs : List Char)
    (htext : ∀ rest, signs (text ++ rest) = signs text ++ signs rest)
    (hothers : ∀ b ∈ others, ∀ rest, signs (b.1 ++ rest) = signs b.1 ++ signs rest) :
    signs ('\x7b' :: (text ++ ((others.flatMap fun b => ',' :: b.1) ++ '\x7d' :: cs))) =
      some '\x7b' :: (signs text ++
        ((others.flatMap fun b => some ',' :: signs b.1) ++ some '\x7d' :: signs cs)) := by
  rw [signs_cons (by decide), htext, signs_others _ hothers, signs_cons (by decide)]

/-- Inside of braces no text ends in a backslash, so that its signs do not depend on what follows
it. -/
theorem Spells.signs_append {inside : Bool} {cs : List Char} {t : Form} (h : Spells inside cs t)
    (hin : inside = true) (rest : List Char) : signs (cs ++ rest) = signs cs ++ signs rest := by
  induction h generalizing rest with
  | done => rfl
  | plain hc _ _ ih =>
    rw [List.cons_append, signs_plain hc, signs_plain hc, ih hin, List.cons_append]
  | escaped _ ih => exact congrArg (none :: ·) (ih hin rest)
  | backslash => cases hin
  | one _ ih => exact congrArg (some '?' :: ·) (ih hin rest)
  | run _ _ ih => exact congrArg (some '*' :: ·) (ih hin rest)
  | all more _ _ _ ih => rw [List.append_assoc, signs_stars, signs_stars, ih hin, List.append_assoc]
  | folders more _ ih =>
    rw [List.append_assoc, signs_stars, signs_stars, List.append_assoc]
    exact congrArg (_ ++ some '/' :: ·) (ih hin rest)
  | choice _ _ _ ihfirst ihothers ih =>
    have hothers := fun b hb => ihothers b hb rfl
    rw [List.cons_append, List.append_assoc, List.append_assoc, List.cons_append,
      signs_choice _ (ihfirst rfl) hothers, signs_choice _ (ihfirst rfl) hothers, ih hin]
    simp

/-- The parts of a glob with braces have no long runs if the glob has none. -/
theorem LongRunFree.of_choice {text cs : List Char} {first : Form}
    {others : List (List Char × Form)} (hfirst : Spells true text first)
    (hothers : ∀ b ∈ others, Spells true b.1 b.2)
    (h : LongRunFree ('\x7b' :: (text ++ ((others.flatMap fun b => ',' :: b.1) ++ '\x7d' :: cs)))) :
    LongRunFree text ∧ (∀ b ∈ others, LongRunFree b.1) ∧ LongRunFree cs := by
  rw [LongRunFree, signs_choice cs (hfirst.signs_append rfl)
    fun b hb => (hothers b hb).signs_append rfl] at h
  refine ⟨fun hrun => h (hrun.trans ⟨[some '\x7b'], _, rfl⟩),
    fun b hb hrun => h (hrun.trans ?_), fun hrun => h (hrun.trans ?_)⟩
  · obtain ⟨front, back, rfl⟩ := List.append_of_mem hb
    refine ⟨some '\x7b' :: (signs text ++ ((front.flatMap fun b => some ',' :: signs b.1) ++
      [some ','])), (back.flatMap fun b => some ',' :: signs b.1) ++ some '\x7d' :: signs cs, ?_⟩
    simp
  · refine ⟨some '\x7b' :: (signs text ++ ((others.flatMap fun b => some ',' :: signs b.1) ++
      [some '\x7d'])), [], ?_⟩
    simp

/-- Two stars are a long run. -/
theorem not_longRunFree_stars (more : Nat) (cs : List Char) :
    ¬LongRunFree (List.replicate (more + 2) '*' ++ cs) := by
  rw [LongRunFree, signs_stars, not_not]
  exact ⟨[], List.replicate more (some '*') ++ signs cs, rfl⟩

/-- A part of a glob without long runs has none. -/
theorem LongRunFree.of_part {cs cs' : List Char} (h : LongRunFree cs)
    (hsub : signs cs' <:+: signs cs) : LongRunFree cs' :=
  fun hrun => h (hrun.trans hsub)

/-! ### Texts of forms -/

variable {c : Char} {t : Form} {s : List Char}

/-- A form that is done matches the empty text. -/
theorem matches_done : Matches .done s ↔ s = [] := by
  constructor
  · rintro ⟨⟩
    rfl
  · rintro rfl
    exact .done

/-- A character matches itself in front of the rest. -/
theorem matches_char : Matches (.char c t) s ↔
    ∃ a b, s = a ++ b ∧ (∃ d, d = c ∧ a = [d]) ∧ Matches t b := by
  constructor
  · rintro ⟨⟩
    exact ⟨[c], _, rfl, ⟨c, rfl, rfl⟩, ‹_›⟩
  · rintro ⟨_, b, rfl, ⟨_, rfl, rfl⟩, h⟩
    exact .char h

/-- A question mark matches one character other than a slash in front of the rest. -/
theorem matches_one : Matches (.one t) s ↔
    ∃ a b, s = a ++ b ∧ (∃ d, d ≠ '/' ∧ a = [d]) ∧ Matches t b := by
  constructor
  · intro h
    cases h with
    | one hc h => exact ⟨[_], _, rfl, ⟨_, hc, rfl⟩, h⟩
  · rintro ⟨_, b, rfl, ⟨_, hc, rfl⟩, h⟩
    exact .one hc h

/-- A star matches a text without a slash in front of the rest. -/
theorem matches_run : Matches (.run t) s ↔
    ∃ a b, s = a ++ b ∧ (∀ d ∈ a, d ≠ '/') ∧ Matches t b := by
  constructor
  · intro h
    cases h with
    | run hr h => exact ⟨_, _, rfl, fun d hd hslash => hr (hslash ▸ hd), h⟩
  · rintro ⟨a, b, rfl, ha, h⟩
    exact .run (fun hslash => ha _ hslash rfl) h

/-- Two stars match any text in front of the rest. -/
theorem matches_all : Matches (.all t) s ↔ ∃ a b, s = a ++ b ∧ True ∧ Matches t b := by
  constructor
  · intro h
    cases h with
    | all h => exact ⟨_, _, rfl, trivial, h⟩
  · rintro ⟨a, b, rfl, -, h⟩
    exact .all h

/-- Two stars and a slash match nothing, or a text that ends in a slash, in front of the rest. -/
theorem matches_folders : Matches (.folders t) s ↔
    ∃ a b, s = a ++ b ∧ (a = [] ∨ ∃ p, a = p ++ ['/']) ∧ Matches t b := by
  constructor
  · intro h
    cases h with
    | folders hr h => exact ⟨_, _, rfl, hr, h⟩
  · rintro ⟨a, b, rfl, ha, h⟩
    exact .folders ha h

/-- Braces match what one of their branches does in front of the rest. -/
theorem matches_choice {first : Form} {others : List Form} : Matches (.choice first others t) s ↔
    ∃ a b, s = a ++ b ∧ (∃ u ∈ first :: others, Matches u a) ∧ Matches t b := by
  constructor
  · intro h
    cases h with
    | choice hu hr h => exact ⟨_, _, rfl, ⟨_, hu, hr⟩, h⟩
  · rintro ⟨a, b, rfl, ⟨u, hu, ha⟩, h⟩
    exact .choice hu ha h

/-! ### What the parts of a search pattern denote -/

variable {S : List Char → Prop}

/-- A literal denotes its character. -/
theorem denotes_literal (c : Char) :
    Denotes S (.literal ⟨c, false⟩) fun text => ∃ d, d = c ∧ text = [d] :=
  denotes_chars (fun _ => CodeSet.contains_singleton) rfl

/-- The class without a slash denotes the other characters. -/
theorem denotes_noSlash : Denotes S noSlash fun text => ∃ d, d ≠ '/' ∧ text = [d] :=
  denotes_chars (fun _ => CodeSet.contains_complement_singleton) rfl

/-- The class without a slash, any number of times, denotes the texts without one. -/
theorem denotes_noSlashes :
    Denotes S (.repetition noSlash 0 none) fun text => ∀ d ∈ text, d ≠ '/' :=
  denotes_run (fun _ => CodeSet.contains_complement_singleton) rfl

/-- In a subject of one line a point any number of times is any text. -/
theorem denotes_anything (hS : ∀ subject, S subject → '\n' ∉ subject) :
    Denotes S anything fun _ => True := by
  refine Denotes.congr (denotes_run (fun _ => CodeSet.contains_complement_singleton) rfl)
    fun subject hs text htext => iff_true_intro ?_
  rintro d hd rfl
  exact hS subject hs (htext _ hd)

/-- In a subject of one line, the pattern for folders denotes nothing or a text that ends in a
slash. -/
theorem denotes_anyFolders (hS : ∀ subject, S subject → '\n' ∉ subject) :
    Denotes S anyFolders fun text => text = [] ∨ ∃ p, text = p ++ ['/'] := by
  have hinside := (denotes_anything hS).cons ((denotes_literal '/').cons denoteInTurn_nil)
  refine hinside.ofItems.group.optional.congr fun subject hs text htext => or_congr_right ?_
  constructor
  · rintro ⟨p, _, rfl, -, _, _, rfl, ⟨_, rfl, rfl⟩, rfl⟩
    exact ⟨p, rfl⟩
  · rintro ⟨p, rfl⟩
    exact ⟨p, _, rfl, trivial, ['/'], [], rfl, ⟨_, rfl, rfl⟩, rfl⟩

/-- The alternatives of forms denote what one of them matches. -/
theorem denoteByAny_forms (ts : List Form) (h : ∀ t ∈ ts, DenoteInTurn S t.parts (Matches t)) :
    DenoteByAny S (partsOfEach ts) fun text => ∃ t ∈ ts, Matches t text := by
  induction ts with
  | nil => exact denoteByAny_nil.congr fun text => by simp
  | cons t ts ih =>
    obtain ⟨ht, hts⟩ := List.forall_mem_cons.1 h
    exact (ht.ofItems.or (ih hts)).congr fun text => by simp

/-- **The parts of the search pattern for a form denote the texts of the form**, in all subjects if
no two stars stand side by side, else in those of one line. -/
theorem denotes_spells {inside : Bool} {cs : List Char} (h : Spells inside cs t)
    (hS : LongRunFree cs ∨ ∀ subject, S subject → '\n' ∉ subject) :
    DenoteInTurn S t.parts (Matches t) := by
  have hpart {cs part : List Char} (hsub : signs part <:+: signs cs)
      (hS : LongRunFree cs ∨ ∀ subject, S subject → '\n' ∉ subject) :
      LongRunFree part ∨ ∀ subject, S subject → '\n' ∉ subject :=
    hS.imp_left fun h => h.of_part hsub
  induction h with
  | done => exact denoteInTurn_nil.congr fun _ => matches_done.symm
  | @plain _ c _ _ hc _ _ ih =>
    have ih := ih (hpart (signs_plain hc _ ▸ (List.suffix_cons _ _).isInfix) hS)
    exact ((denotes_literal c).cons ih).congr fun _ => matches_char.symm
  | @escaped _ c _ _ _ ih =>
    have ih := ih (hpart (List.suffix_cons _ _).isInfix hS)
    exact ((denotes_literal c).cons ih).congr fun _ => matches_char.symm
  | backslash =>
    have hdone : DenoteInTurn S [] (Matches .done) :=
      denoteInTurn_nil.congr fun _ => matches_done.symm
    exact ((denotes_literal '\\').cons hdone).congr fun _ => matches_char.symm
  | one _ ih =>
    have ih := ih (hpart (List.suffix_cons _ _).isInfix hS)
    exact (denotes_noSlash.cons ih).congr fun _ => matches_one.symm
  | run _ _ ih =>
    have ih := ih (hpart (List.suffix_cons _ _).isInfix hS)
    exact (denotes_noSlashes.cons ih).congr fun _ => matches_run.symm
  | all more _ _ _ ih =>
    have hS := hS.resolve_left (not_longRunFree_stars more _)
    exact ((denotes_anything hS).cons (ih (.inr hS))).congr fun _ => matches_all.symm
  | folders more _ ih =>
    have hS := hS.resolve_left (not_longRunFree_stars more _)
    exact ((denotes_anyFolders hS).cons (ih (.inr hS))).congr fun _ => matches_folders.symm
  | @choice _ text first cs _ others hfirst hothers _ ihfirst ihothers ih =>
    have hS : (LongRunFree text ∧ (∀ b ∈ others, LongRunFree b.1) ∧ LongRunFree cs) ∨
        ∀ subject, S subject → '\n' ∉ subject := hS.imp_left (·.of_choice hfirst hothers)
    have hbranches := denoteByAny_forms (S := S) (first :: others.map (·.2)) <| by
      refine List.forall_mem_cons.2 ⟨ihfirst (hS.imp_left (·.1)), ?_⟩
      rw [List.forall_mem_map]
      exact fun b hb => ihothers b hb (hS.imp_left fun h => h.2.1 b hb)
    have hchoice := (hbranches.ofBranches (List.cons_ne_nil _ _)).group
    exact (hchoice.cons (ih (hS.imp_left (·.2.2)))).congr fun _ => matches_choice.symm

/-! ### The whole subject -/

/-- The start of the text leads from the first place to itself. -/
theorem leads_textStart {subject : List Char} {i j : Nat} :
    (Regex.place .textStart).Leads subject i j ↔ i = 0 ∧ j = 0 := by
  cases i with
  | zero => simp [Leads, Place.holds, charBefore?]
  | succ i =>
    simp only [Leads, Place.holds, charBefore?, Option.isNone_iff_eq_none,
      List.getElem?_eq_none_iff]
    omega

/-- The end of the text leads from the last place to itself. -/
theorem leads_textEnd {subject : List Char} {i j : Nat} :
    (Regex.place .textEnd).Leads subject i j ↔ i = subject.length ∧ j = i := by
  simp only [Leads, Place.holds, Option.isNone_iff_eq_none, List.getElem?_eq_none_iff]
  omega

/-- A pattern with conditions on both of its ends leads over the whole subject. -/
theorem leads_anchored {subject : List Char} {rs : List Regex} {i j : Nat} :
    (Regex.sequence (.place .textStart :: (rs ++ [.place .textEnd]))).Leads subject i j ↔
      i = 0 ∧ j = subject.length ∧ LeadsInTurn subject rs 0 subject.length := by
  rw [Leads, LeadsInTurn]
  simp only [leadsInTurn_append, LeadsInTurn, leads_textStart, leads_textEnd]
  constructor
  · rintro ⟨_, ⟨rfl, rfl⟩, _, h, _, ⟨rfl, rfl⟩, rfl⟩
    exact ⟨rfl, rfl, h⟩
  · rintro ⟨rfl, rfl, h⟩
    exact ⟨0, ⟨rfl, rfl⟩, _, h, _, ⟨rfl, rfl⟩, rfl⟩

/-- A pattern with conditions on both of its ends occurs in the texts of what is between them. -/
theorem exists_anchored {ps : List Syntax} {L : List Char → Prop} (h : DenoteInTurn S ps L) :
    ∃ r, ofSyntax? (anchored ps) = some r ∧
      ∀ subject, S subject → (r.occursIn subject = true ↔ L subject) := by
  obtain ⟨rs, hread, hlead⟩ := h
  refine ⟨.sequence (.place .textStart :: (rs ++ [.place .textEnd])), ?_, fun subject hs => ?_⟩
  · have hend : readAll? .initial [.assertion .endLine] = some ([.place .textEnd], .initial) := rfl
    have hstart : readAll? .initial [.assertion .startLine] =
      some ([.place .textStart], .initial) := rfl
    have hall := readAll?_append hstart (readAll?_append hread hend)
    rw [List.singleton_append, List.singleton_append] at hall
    rw [ofSyntax?, anchored, read?, hall]
    rfl
  · rw [occursIn_iff, ← covers_whole (L := L), ← hlead subject hs]
    simp only [leads_anchored]
    constructor
    · rintro ⟨i, j, -, -, -, h⟩
      exact h
    · exact fun h => ⟨0, _, Nat.zero_le _, rfl, rfl, h⟩

/-- **The search pattern for a form has a meaning and occurs in the texts of the form.** -/
theorem exists_regex {glob : List Char} (h : Spells false glob t) :
    ∃ r, ofSyntax? t.tree = some r ∧ ∀ subject, '\n' ∉ subject ∨ LongRunFree glob →
      (r.occursIn subject = true ↔ Matches t subject) := by
  have hS : LongRunFree glob ∨
      ∀ subject : List Char, '\n' ∉ subject ∨ LongRunFree glob → '\n' ∉ subject := by
    by_cases hfree : LongRunFree glob
    · exact .inl hfree
    · exact .inr fun subject hs => hs.resolve_right hfree
  exact exists_anchored (denotes_spells h hS)

/-! ### Globs without signs -/

/-- A glob is plain if none of its characters is a sign. -/
theorem isPlain_cons {c : Char} {cs : List Char} :
    isPlain (c :: cs) = true ↔ c ∉ signChars ∧ isPlain cs = true := by
  simp [isPlain, signChars]

/-- A glob without signs spells a form. -/
theorem exists_spells_of_isPlain {glob : List Char} (h : isPlain glob = true) :
    ∃ t, Spells false glob t := by
  induction glob with
  | nil => exact ⟨.done, .done⟩
  | cons c cs ih =>
    obtain ⟨hc, hcs⟩ := isPlain_cons.1 h
    obtain ⟨t, ht⟩ := ih hcs
    exact ⟨.char c t, .plain hc nofun ht⟩

/-- What a glob without signs spells has one text, the glob. -/
theorem Spells.matches_iff {inside : Bool} {glob : List Char} (h : Spells inside glob t)
    (hplain : isPlain glob = true) : Matches t s ↔ s = glob := by
  induction h generalizing s with
  | done => exact matches_done
  | plain hc _ _ ih =>
    rw [matches_char]
    simp only [ih (isPlain_cons.1 hplain).2]
    constructor
    · rintro ⟨_, _, rfl, ⟨_, rfl, rfl⟩, rfl⟩
      rfl
    · rintro rfl
      exact ⟨[_], _, rfl, ⟨_, rfl, rfl⟩, rfl⟩
  | escaped | backslash | one | run | all | folders | choice =>
    exact absurd (by decide) (isPlain_cons.1 hplain).1

/-- A plain glob has no long runs. -/
theorem longRunFree_of_isPlain {glob : List Char} (h : isPlain glob = true) : LongRunFree glob := by
  have hstar : some '*' ∉ signs glob := by
    induction glob with
    | nil => exact List.not_mem_nil
    | cons c cs ih =>
      obtain ⟨hc, hcs⟩ := isPlain_cons.1 h
      rw [signs_plain hc, List.mem_cons, Option.some.injEq, not_or]
      exact ⟨fun hstar => hc (hstar ▸ by decide), ih hcs⟩
  exact fun hrun => hstar (hrun.subset List.mem_cons_self)

/-! ### Globs -/

/-- Whether the search pattern that a text is read as has few enough levels, and whether its program
is not too large. -/
def WithinLimits (source : List Char) : Prop :=
  ∀ p, Reader.parts? (source.length + 1) .initial source = some p →
    p.nesting ≤ nestingLimit ∧ ∀ r, ofSyntax? p = some r → r.isSmall = true

/-- The limits are looked at for the one tree, and the one pattern, that a text is read as. -/
instance (source : List Char) : Decidable (WithinLimits source) :=
  match hp : Reader.parts? (source.length + 1) .initial source with
  | none => .isTrue (by simp [WithinLimits, hp])
  | some p =>
    match hr : ofSyntax? p with
    | none => decidable_of_iff (p.nesting ≤ nestingLimit) (by simp [WithinLimits, hp, hr])
    | some r =>
      decidable_of_iff (p.nesting ≤ nestingLimit ∧ r.isSmall = true)
        (by simp [WithinLimits, hp, hr])

/-- The limits are kept if the pattern has few levels and its simplest form has small programs. -/
theorem withinLimits_of_programSize {source : List Char} {p : Part}
    (hnesting : (Reader.parts? (source.length + 1) .initial source).all
      (fun p => decide (p.nesting ≤ nestingLimit)) = true)
    (hpart : ((Reader.parts? (source.length + 1) .initial source).bind ofSyntax?).map
      Regex.simplified = some p)
    (hsize : ∀ forward, p.programSize forward ≤ sizeLimit) : WithinLimits source := by
  intro p' hp
  rw [hp] at hnesting hpart
  refine ⟨of_decide_eq_true hnesting, fun r hr => Regex.isSmall_of_programSize ?_⟩
  rw [Option.bind_some, hr] at hpart
  obtain rfl := Option.some.inj hpart
  exact hsize

/-- A text that keeps to the limits is read by its parts. -/
theorem ofText?_of_withinLimits {source : List Char} (h : WithinLimits source) :
    Regex.ofText? source =
      (Reader.parts? (source.length + 1) .initial source).bind ofSyntax? := by
  rw [Regex.ofText?, Syntax.ofText?]
  cases hp : Reader.parts? (source.length + 1) .initial source with
  | none => rfl
  | some p =>
    obtain ⟨hnesting, hsmall⟩ := h p hp
    simp only [if_pos hnesting, Option.bind_some]
    cases hr : ofSyntax? p with
    | none => rfl
    | some r => simp only [hsmall r hr, if_true]

/-- A text within the limits is read as the pattern of its tree. -/
theorem ofText?_of_parts? {source : List Char} {p : Syntax} {r : Regex}
    (hp : Reader.parts? (source.length + 1) .initial source = some p) (hread : ofSyntax? p = some r)
    (hlimits : WithinLimits source) : Regex.ofText? source = some r := by
  rw [ofText?_of_withinLimits hlimits, hp]
  exact hread

/-- Whatever a text is read as is the pattern of its tree. -/
theorem eq_of_ofText? {source : List Char} {p : Syntax} {r r' : Regex}
    (hp : Reader.parts? (source.length + 1) .initial source = some p) (hread : ofSyntax? p = some r)
    (h : Regex.ofText? source = some r') : r' = r := by
  rw [Regex.ofText?, Syntax.ofText?, hp] at h
  by_cases hnesting : p.nesting ≤ nestingLimit
  · simp only [hnesting, if_true, Option.bind_some, hread] at h
    split at h
    · exact (Option.some.inj h).symm
    · cases h
  · simp [hnesting] at h

/-- Whatever the text of a form is read as is the pattern of the form. -/
theorem eq_of_ofText?_source {r r' : Regex} (hread : ofSyntax? t.tree = some r)
    (h : Regex.ofText? t.source = some r') : r' = r :=
  eq_of_ofText? (parts?_source t) hread h

/-- What a glob spells is what it matches. -/
theorem matchesText_of_spells {glob subject : String} (h : Spells false glob.toList t)
    (hsubject : '\n' ∉ subject.toList ∨ LongRunFree glob.toList)
    (hlimits : ∀ source, toPattern? glob.toList = some source → WithinLimits source) :
    (Matcher.ofPattern .glob glob).matchesText subject = true ↔ Matches t subject.toList := by
  rw [Matcher.ofPattern, Matcher.ofGlob]
  split
  · next hplain =>
    rw [h.matches_iff hplain, Matcher.matchesText, beq_iff_eq, String.ofList_toList,
      String.toList_inj]
  · obtain ⟨r, hread, hoccurs⟩ := exists_regex h
    have hsource := ofText?_of_parts? (parts?_source t) hread (hlimits _ h.toPattern?)
    rw [h.toPattern?]
    simp only [Matcher.ofSearch, hsource, Matcher.matchesText]
    exact hoccurs _ hsubject

/-- A glob without classes has no search pattern if and only if it leaves a brace open. -/
theorem toPattern?_eq_none_iff {glob : List Char} (h : ClassFree glob) :
    toPattern? glob = none ↔ unclosed glob ≠ 0 := by
  rw [toPattern?, Option.map_eq_none_iff, items?, ← Option.not_isSome_iff_eq_none,
    isSome_itemsWithin? 0 h]
  rfl

/-- A glob without classes that has a search pattern spells a form. -/
theorem exists_spells_of_toPattern? {glob source : List Char} (h : ClassFree glob)
    (hsource : toPattern? glob = some source) : ∃ t, Spells false glob t := by
  rw [toPattern?, Option.map_eq_some_iff] at hsource
  obtain ⟨items, hitems, -⟩ := hsource
  exact exists_spells h (hitems ▸ rfl)

/-- A glob without classes that matches anything spells a form. -/
theorem exists_spells_of_matchesText {glob subject : String} (h : ClassFree glob.toList)
    (hmatch : (Matcher.ofPattern .glob glob).matchesText subject = true) :
    ∃ t, Spells false glob.toList t := by
  by_cases hplain : isPlain glob.toList = true
  · exact exists_spells_of_isPlain hplain
  cases hsource : toPattern? glob.toList with
  | some source => exact exists_spells_of_toPattern? h hsource
  | none => simp [Matcher.ofPattern, Matcher.ofGlob, hplain, hsource, Matcher.matchesText] at hmatch

/-- **Globs without classes are translated exactly.**  A subject matches such a glob if and only if
it is in the language of the glob; where the glob has two stars side by side, the subject has to be
of one line, and the search pattern for the glob has to keep to its limits.  A glob has no search
pattern if and only if it leaves a brace open, and then its language is empty; any other is
translated into a search pattern without mistakes.  The search pattern for a glob without signs,
which is compared with the subject instead, occurs in the glob alone. -/
theorem matchesText_glob_iff (glob : String) (h : ClassFree glob.toList) :
    (∀ subject : String, '\n' ∉ subject.toList ∨ LongRunFree glob.toList →
      (∀ source, toPattern? glob.toList = some source → WithinLimits source) →
        ((Matcher.ofPattern .glob glob).matchesText subject = true ↔
          Language glob.toList subject.toList)) ∧
    (toPattern? glob.toList = none ↔ unclosed glob.toList ≠ 0) ∧
    (unclosed glob.toList ≠ 0 → ∀ subject, ¬Language glob.toList subject) ∧
    (∀ source, toPattern? glob.toList = some source → ∃ p r,
      Reader.parts? (source.length + 1) .initial source = some p ∧ ofSyntax? p = some r) ∧
    (isPlain glob.toList = true → ∃ source, toPattern? glob.toList = some source ∧
      ∀ r, Regex.ofText? source = some r →
        ∀ subject, r.occursIn subject = true ↔ subject = glob.toList) := by
  refine ⟨fun subject hsubject hlimits => ?_, toPattern?_eq_none_iff h, ?_, ?_, ?_⟩
  · constructor
    · intro hmatch
      obtain ⟨t, ht⟩ := exists_spells_of_matchesText h hmatch
      exact ⟨t, ht, (matchesText_of_spells ht hsubject hlimits).1 hmatch⟩
    · rintro ⟨t, ht, hmatches⟩
      exact (matchesText_of_spells ht hsubject hlimits).2 hmatches
  · rintro hunclosed subject ⟨t, ht, -⟩
    rw [← toPattern?_eq_none_iff h, ht.toPattern?] at hunclosed
    cases hunclosed
  · intro source hsource
    obtain ⟨t, ht⟩ := exists_spells_of_toPattern? h hsource
    obtain ⟨r, hread, -⟩ := exists_regex ht
    rw [ht.toPattern?] at hsource
    cases hsource
    exact ⟨t.tree, r, parts?_source t, hread⟩
  · intro hplain
    obtain ⟨t, ht⟩ := exists_spells_of_isPlain hplain
    obtain ⟨r, hread, hoccurs⟩ := exists_regex ht
    refine ⟨t.source, ht.toPattern?, fun r' hr' subject => ?_⟩
    rw [eq_of_ofText?_source hread hr', hoccurs subject (.inr (longRunFree_of_isPlain hplain)),
      ht.matches_iff hplain]

/-- The search pattern of a glob with every kind of sign keeps to the limits. -/
theorem withinLimits_sources : WithinLimits "^(?:.*/)?[^/]*\\.(?:rs|to[^/]l)$".toList := by
  refine withinLimits_of_programSize (p := .sequence [.place .textStart,
    .repetition (.sequence [.repetition (.chars ⟨[⟨0, 9⟩, ⟨11, 55295⟩, ⟨57344, 1114111⟩]⟩) 0 none,
      .literal [47]]) 0 (some 1),
    .repetition (.chars ⟨[⟨0, 46⟩, ⟨48, 55295⟩, ⟨57344, 1114111⟩]⟩) 0 none, .literal [46],
    .choice [.literal [114, 115], .sequence [.literal [116, 111],
      .chars ⟨[⟨0, 46⟩, ⟨48, 55295⟩, ⟨57344, 1114111⟩]⟩, .literal [108]]], .place .textEnd])
    (by decide_cbv) (by cbv) fun forward => ?_
  simp only [Part.programSize, Part.extent, Part.extents, Extent.ofSet_notSlash,
    Extent.ofSet_notLineFeed]
  cases forward <;> decide

/-- The two sides for a path and a glob with every kind of sign, whose search pattern keeps to the
limits. -/
theorem matchesText_glob_sources :
    ClassFree "**/*.\x7brs,to?l\x7d".toList ∧
      WithinLimits "^(?:.*/)?[^/]*\\.(?:rs|to[^/]l)$".toList ∧
      ((Matcher.ofPattern .glob "**/*.\x7brs,to?l\x7d").matchesText "a/b.toml" = true ↔
        Language "**/*.\x7brs,to?l\x7d".toList "a/b.toml".toList) := by
  have hfree : ClassFree "**/*.\x7brs,to?l\x7d".toList := by decide +kernel
  have hsource : toPattern? "**/*.\x7brs,to?l\x7d".toList =
      some "^(?:.*/)?[^/]*\\.(?:rs|to[^/]l)$".toList := by decide +kernel
  refine ⟨hfree, withinLimits_sources,
    (matchesText_glob_iff _ hfree).1 _ (.inl (by decide +kernel)) ?_⟩
  intro source h
  rw [hsource] at h
  cases h
  exact withinLimits_sources

end Glob
end Pattern
end RecordFilter
