/-
# The search pattern of a glob is one

A glob is translated as text, and the text is read again as a search pattern.  Each item of a glob
stands for a piece of the text that the reader takes as a whole (`Reads`), whatever stands before it
and as long as no question mark stands behind it, which would belong to a repetition.  So the text
for a form is read as the parts that the form says (`reads_form`), and the translation of a glob is
a search pattern without mistakes (`parts?_source`).
-/

import Mathlib
import RecordFilter.Pattern.Reader
import RecordFilter.Proofs.Pattern.GlobItems

namespace RecordFilter
namespace Pattern

open Reader

/-! ### Steps of the reader -/

namespace Reader

/-- The reader goes from one state and text to another, part by part. -/
inductive Reads : State → List Char → State → List Char → Prop
  | refl (s : State) (cs : List Char) : Reads s cs s cs
  | step {s s' s'' : State} {c : Char} {cs cs' cs'' : List Char} :
      s.spaced = false → part? s c cs = some (s', cs') → cs'.length ≤ cs.length →
      Reads s' cs' s'' cs'' → Reads s (c :: cs) s'' cs''

variable {s s' s'' : State} {c : Char} {cs cs' cs'' rest : List Char}

/-- Readings follow each other. -/
theorem Reads.trans (h : Reads s cs s' cs') (h' : Reads s' cs' s'' cs'') :
    Reads s cs s'' cs'' := by
  induction h with
  | refl => exact h'
  | step hspaced hpart hlen _ ih => exact .step hspaced hpart hlen (ih h')

/-- A single part. -/
theorem Reads.single (hs : s.spaced = false) (h : part? s c cs = some (s', cs'))
    (hlen : cs'.length ≤ cs.length) : Reads s (c :: cs) s' cs' :=
  .step hs h hlen (.refl s' cs')

/-- The steps of the reader are those of `parts?`. -/
theorem Reads.parts? (h : Reads s cs s' cs') {limit : Nat} (hlimit : cs.length < limit) :
    ∃ limit', cs'.length < limit' ∧ parts? limit s cs = parts? limit' s' cs' := by
  induction h generalizing limit with
  | refl => exact ⟨limit, hlimit, rfl⟩
  | @step s s' s'' c cs cs' cs'' hspaced hpart hlen _ ih =>
    cases limit with
    | zero => exact absurd hlimit (Nat.not_lt_zero _)
    | succ limit =>
      obtain ⟨limit', hl, h⟩ := ih (Nat.lt_of_le_of_lt hlen (Nat.lt_of_succ_lt_succ hlimit))
      refine ⟨limit', hl, ?_⟩
      rw [Reader.parts?, skip, hspaced]
      simp only [Bool.false_eq_true, if_false, hpart, h]

/-- A pattern that is read to its end, outside of groups, is a search pattern. -/
theorem Reads.ofText (h : Reads .initial cs s []) (hs : s.spaced = false) (houter : s.outer = []) :
    Reader.parts? (cs.length + 1) .initial cs = some s.inner := by
  obtain ⟨limit, hlimit, h⟩ := h.parts? (Nat.lt_succ_self _)
  rw [h]
  cases limit with
  | zero => exact absurd hlimit (Nat.not_lt_zero _)
  | succ limit => simp [Reader.parts?, skip, hs, houter]

namespace State

/-- The reader with more items. -/
def extend (s : State) (items : List Syntax) : State :=
  { s with items := items.reverse ++ s.items }

/-- The reader inside a group without a name, behind some of its branches. -/
def inGroup (s : State) (branches : List Syntax) : State :=
  ⟨branches, [], ⟨s.branches, s.items, false, [], s.spaced⟩ :: s.outer, s.spaced, s.names⟩

variable {p : Syntax} {ps branches : List Syntax}

/-- A reader gets its items one by one. -/
theorem extend_cons : s.extend (p :: ps) = (s.push p).extend ps := by
  simp [extend, push]

/-- In a group, the items so far are a branch where another one starts. -/
theorem branched_inGroup :
    ((s.inGroup branches).extend ps).branched = s.inGroup (.ofItems ps :: branches) := by
  simp [extend, branched, inGroup]

/-- A group is closed to the choice of its branches. -/
theorem closed?_inGroup :
    ((s.inGroup branches).extend ps).closed? =
      some (s.push (.group false [] (.ofBranches (branches.reverse ++ [.ofItems ps])))) := by
  simp [extend, closed?, inGroup, inner, push]

end State
end Reader

/-! ### Parts of what a glob says -/

namespace Glob

/-- A character other than a slash. -/
def noSlash : Syntax := .bracketed true (.char ⟨'/', false⟩)

/-- Any characters. -/
def anything : Syntax := .repetition .dot 0 none

/-- Nothing, or any characters with a slash behind them. -/
def anyFolders : Syntax :=
  .repetition (.group false [] (.sequence [anything, .literal ⟨'/', false⟩])) 0 (some 1)

mutual

/-- The parts of the search pattern for a form. -/
def Form.parts : Form → List Syntax
  | .done => []
  | .char c rest => .literal ⟨c, false⟩ :: rest.parts
  | .one rest => noSlash :: rest.parts
  | .run rest => .repetition noSlash 0 none :: rest.parts
  | .all rest => anything :: rest.parts
  | .folders rest => anyFolders :: rest.parts
  | .choice first others rest =>
    .group false [] (.ofBranches (.ofItems first.parts :: partsOfEach others)) :: rest.parts

/-- The patterns for several branches. -/
def partsOfEach : List Form → List Syntax
  | [] => []
  | t :: rest => .ofItems t.parts :: partsOfEach rest

end

/-- Induction on what a glob says. -/
@[elab_as_elim]
theorem Form.induct {motive : Form → Prop} (done : motive .done)
    (char : ∀ c rest, motive rest → motive (.char c rest))
    (one : ∀ rest, motive rest → motive (.one rest))
    (run : ∀ rest, motive rest → motive (.run rest))
    (all : ∀ rest, motive rest → motive (.all rest))
    (folders : ∀ rest, motive rest → motive (.folders rest))
    (choice : ∀ first others rest, motive first → (∀ t ∈ others, motive t) → motive rest →
      motive (.choice first others rest)) (t : Form) : motive t :=
  @Form.rec motive (fun ts => ∀ t ∈ ts, motive t) done char one run all folders choice
    (fun _ h => absurd h List.not_mem_nil)
    (fun _ _ ht hts => List.forall_mem_cons.2 ⟨ht, hts⟩) t

variable {s : State} {rest : List Char}

/-- A character is read as itself. -/
theorem reads_quoted (hs : s.spaced = false) (c : Char) (rest : List Char) :
    Reads s (quoted c ++ rest) (s.push (.literal ⟨c, false⟩)) rest := by
  rw [quoted]
  split
  · next h =>
    have hescapable : specialChars.all isEscapable = true := by decide
    rw [List.all_eq_true] at hescapable
    refine .single hs ?_ (Nat.le_succ _)
    simp [part?, escape?, hescapable c (List.contains_iff_mem.1 h), Primitive.item]
  · next h =>
    rw [List.contains_iff_mem] at h
    refine .single hs (part?.eq_13 s c rest ?_ ?_ ?_ ?_ ?_ ?_ ?_ ?_ ?_ ?_ ?_ ?_) (Nat.le_refl _)
    all_goals
      rintro rfl
      exact h (by decide)

/-- A question mark is written as a class without a slash. -/
theorem pattern_one : Item.one.pattern = ['[', '^', '/', ']'] := by decide

/-- A star is written as that class any number of times. -/
theorem pattern_run : Item.run.pattern = Item.one.pattern ++ ['*'] := by decide

/-- Two stars are written as a point any number of times. -/
theorem pattern_all : Item.all.pattern = ['.', '*'] := by decide

/-- A brace is written as a group without a number. -/
theorem pattern_openBrace : Item.openBrace.pattern = ['(', '?', ':'] := by decide

/-- Two stars and a slash are written as an optional group. -/
theorem pattern_folders :
    Item.folders.pattern = Item.openBrace.pattern ++ Item.all.pattern ++ ['/', ')', '?'] := by
  decide

/-- The class without a slash is read as one item. -/
theorem reads_noSlash (hs : s.spaced = false) (rest : List Char) :
    Reads s (Item.one.pattern ++ rest) (s.push noSlash) rest := by
  rw [pattern_one]
  refine .single hs ?_ (Nat.le_add_right _ 3)
  simp only [part?, hs]
  rfl

/-- The start of a group is read as a group. -/
theorem reads_opening (hs : s.spaced = false) (rest : List Char) :
    Reads s (Item.openBrace.pattern ++ rest) (s.inGroup []) rest := by
  rw [pattern_openBrace]
  refine .single hs ?_ (Nat.le_add_right _ 2)
  simp only [part?, hs, skip]
  rfl

/-- Without a question mark behind it, a repetition is greedy. -/
theorem skipLazyMark_eq (h : rest.head? ≠ some '?') : skipLazyMark rest = rest := by
  rw [skipLazyMark]
  rintro more rfl
  exact h rfl

/-- A star behind a part. -/
theorem reads_star {p : Syntax} (hs : s.spaced = false) (hp : ∀ change, p ≠ .flags change)
    (h : rest.head? ≠ some '?') :
    Reads (s.push p) ('*' :: rest) (s.push (.repetition p 0 none)) rest := by
  refine .single hs ?_ (Nat.le_refl _)
  have hrepeated : (s.push p).repeated? 0 none = some (s.push (.repetition p 0 none)) := by
    cases p with
    | flags change => exact absurd rfl (hp change)
    | _ => rfl
  simp only [part?, hrepeated, skipLazyMark_eq h, Option.map_some]

/-- A point any number of times is read as one item. -/
theorem reads_anything (hs : s.spaced = false) (h : rest.head? ≠ some '?') :
    Reads s (Item.all.pattern ++ rest) (s.push anything) rest := by
  rw [pattern_all]
  exact (Reads.single hs rfl (Nat.le_refl _)).trans (reads_star hs nofun h)

/-- The end of a group, behind the parts of its last branch. -/
theorem reads_closing (hs : s.spaced = false) (branches ps : List Syntax) (rest : List Char) :
    Reads ((s.inGroup branches).extend ps) (')' :: rest)
      (s.push (.group false [] (.ofBranches (branches.reverse ++ [.ofItems ps])))) rest := by
  refine .single hs ?_ (Nat.le_refl _)
  simp only [part?, State.closed?_inGroup, Option.map_some]

/-- The optional group for folders is read as one item. -/
theorem reads_anyFolders (hs : s.spaced = false) (h : rest.head? ≠ some '?') :
    Reads s (Item.folders.pattern ++ rest) (s.push anyFolders) rest := by
  have hslash : Reads ((s.inGroup []).push anything) ('/' :: ')' :: '?' :: rest)
      ((s.inGroup []).extend [anything, .literal ⟨'/', false⟩]) (')' :: '?' :: rest) :=
    reads_quoted (s := (s.inGroup []).push anything) hs '/' _
  have hmark : Reads (s.push (.group false [] (.sequence [anything, .literal ⟨'/', false⟩])))
      ('?' :: rest) (s.push anyFolders) rest := by
    refine .single hs ?_ (Nat.le_refl _)
    simp only [part?, State.repeated?, State.push, Option.map_some, skipLazyMark_eq h, anyFolders]
  rw [pattern_folders, List.append_assoc, List.append_assoc]
  have hanything : Reads (s.inGroup []) (Item.all.pattern ++ '/' :: ')' :: '?' :: rest)
      ((s.inGroup []).push anything) ('/' :: ')' :: '?' :: rest) :=
    reads_anything hs (by simp)
  exact (reads_opening hs _).trans
    (hanything.trans (hslash.trans ((reads_closing hs [] _ _).trans hmark)))

/-- What is quoted starts with no question mark. -/
theorem head?_quoted (c : Char) (rest : List Char) : (quoted c ++ rest).head? ≠ some '?' := by
  by_cases h : specialChars.contains c = true
  · rw [quoted, if_pos h]
    simp
  · rw [quoted, if_neg h, List.singleton_append, List.head?_cons, ne_eq, Option.some.injEq]
    rintro rfl
    exact h (by decide)

/-- No piece of a search pattern begins with a question mark, so that none belongs to a repetition
before it. -/
theorem Item.head?_pattern (x : Item) (rest : List Char) :
    (x.pattern ++ rest).head? ≠ some '?' := by
  cases x with
  | char c => exact head?_quoted c rest
  | one => simp [pattern_one]
  | run => simp [pattern_run, pattern_one]
  | all => simp [pattern_all]
  | folders => simp [pattern_folders, pattern_openBrace]
  | oneOf negated members =>
    change some '[' ≠ some '?'
    decide
  | openBrace => simp [pattern_openBrace]
  | comma =>
    change some '|' ≠ some '?'
    decide
  | closeBrace =>
    change some ')' ≠ some '?'
    decide

/-- The search pattern of items starts with no question mark. -/
theorem head?_patterns (xs : List Item) (h : rest.head? ≠ some '?') :
    (xs.flatMap Item.pattern ++ rest).head? ≠ some '?' := by
  cases xs with
  | nil => exact h
  | cons x xs =>
    rw [List.flatMap_cons, List.append_assoc]
    exact x.head?_pattern _

/-- The branches of a group behind its first one, up to its end. -/
theorem reads_others {others : List Form} (hs : s.spaced = false) (branches ps : List Syntax)
    (h : ∀ t ∈ others, ∀ {s rest}, s.spaced = false → rest.head? ≠ some '?' →
      Reads s (t.items.flatMap Item.pattern ++ rest) (s.extend t.parts) rest) :
    Reads ((s.inGroup branches).extend ps)
      ((itemsOfOthers others).flatMap Item.pattern ++ ')' :: rest)
      (s.push (.group false [] (.ofBranches (branches.reverse ++ .ofItems ps ::
        partsOfEach others)))) rest := by
  induction others generalizing branches ps with
  | nil => exact reads_closing hs branches ps rest
  | cons t others ih =>
    obtain ⟨ht, hothers⟩ := List.forall_mem_cons.1 h
    have hbar (cs : List Char) : Reads ((s.inGroup branches).extend ps) ('|' :: cs)
        (s.inGroup (.ofItems ps :: branches)) cs := by
      refine .single hs ?_ (Nat.le_refl _)
      simp only [part?, State.branched_inGroup]
    have hrest : (')' :: rest).head? ≠ some '?' := by simp
    have hbranch := ht (s := s.inGroup (.ofItems ps :: branches)) hs
      (head?_patterns (itemsOfOthers others) hrest)
    have hend := ih (.ofItems ps :: branches) t.parts hothers
    rw [List.reverse_cons, List.append_assoc, List.singleton_append] at hend
    rw [itemsOfOthers, List.flatMap_cons, List.flatMap_append, List.append_assoc, List.append_assoc,
      partsOfEach]
    exact (hbar _).trans (hbranch.trans hend)

/-- The search pattern for a form is read as the parts of the form. -/
theorem reads_form (t : Form) (hs : s.spaced = false) (h : rest.head? ≠ some '?') :
    Reads s (t.items.flatMap Item.pattern ++ rest) (s.extend t.parts) rest := by
  induction t using Form.induct generalizing s rest with
  | done => exact .refl s rest
  | char c t ih =>
    rw [Form.items, List.flatMap_cons, List.append_assoc, Form.parts, State.extend_cons]
    exact (reads_quoted hs c _).trans (ih hs h)
  | one t ih =>
    rw [Form.items, List.flatMap_cons, List.append_assoc, Form.parts, State.extend_cons]
    exact (reads_noSlash hs _).trans (ih hs h)
  | run t ih =>
    rw [Form.items, List.flatMap_cons, List.append_assoc, Form.parts, State.extend_cons,
      pattern_run, List.append_assoc]
    have hstar := reads_star hs (p := noSlash) (fun _ hf => by cases hf) (head?_patterns t.items h)
    exact (reads_noSlash hs _).trans (hstar.trans (ih hs h))
  | all t ih =>
    rw [Form.items, List.flatMap_cons, List.append_assoc, Form.parts, State.extend_cons]
    exact (reads_anything hs (head?_patterns t.items h)).trans (ih hs h)
  | folders t ih =>
    rw [Form.items, List.flatMap_cons, List.append_assoc, Form.parts, State.extend_cons]
    exact (reads_anyFolders hs (head?_patterns t.items h)).trans (ih hs h)
  | choice first others t ihfirst ihothers ih =>
    rw [Form.items, Form.parts, State.extend_cons]
    simp only [List.flatMap_cons, List.flatMap_append, List.append_assoc]
    have hclose : (')' :: (t.items.flatMap Item.pattern ++ rest)).head? ≠ some '?' := by simp
    have hfirst := ihfirst (s := s.inGroup []) hs (head?_patterns (itemsOfOthers others) hclose)
    exact (reads_opening hs _).trans
      (hfirst.trans ((reads_others hs [] first.parts ihothers).trans (ih hs h)))

/-- The search pattern for a form as the text that it is written as. -/
def Form.source (t : Form) : List Char := '^' :: (t.items.flatMap Item.pattern ++ ['$'])

/-- The search pattern for a form as the tree that it is read as. -/
def Form.tree (t : Form) : Syntax :=
  .sequence (.assertion .startLine :: (t.parts ++ [.assertion .endLine]))

/-- A glob that spells a form is translated into the search pattern for the form. -/
theorem Spells.toPattern? {glob : List Char} {t : Form} (h : Spells false glob t) :
    toPattern? glob = some t.source := by
  have hitems := h.items .nothing
  rw [List.append_nil] at hitems
  rw [Glob.toPattern?, items?, hitems]
  simp [itemsWithin?, Form.source]

/-- The tree of a pattern with conditions on both of its ends. -/
def anchored (ps : List Syntax) : Syntax :=
  .sequence (.assertion .startLine :: (ps ++ [.assertion .endLine]))

/-- A pattern with conditions on both of its ends is read as its parts between them. -/
theorem parts?_anchored {source : List Char} {ps : List Syntax}
    (h : ∀ s : State, s.spaced = false → Reads s (source ++ ['$']) (s.extend ps) ['$']) :
    Reader.parts? (('^' :: (source ++ ['$'])).length + 1) .initial ('^' :: (source ++ ['$'])) =
      some (anchored ps) := by
  have hstart : Reads .initial ('^' :: (source ++ ['$']))
      (State.initial.push (.assertion .startLine)) (source ++ ['$']) :=
    .single rfl rfl (Nat.le_refl _)
  have hend (s : State) (hs : s.spaced = false) : Reads s ['$'] (s.push (.assertion .endLine)) [] :=
    .single hs rfl (Nat.le_refl _)
  rw [(hstart.trans ((h _ rfl).trans (hend _ rfl))).ofText rfl rfl]
  cases ps <;>
    simp [State.inner, State.push, State.extend, State.initial, Syntax.ofItems, Syntax.ofBranches,
      anchored]

/-- **The search pattern for a form is one without mistakes**, and its tree is that of the form. -/
theorem parts?_source (t : Form) :
    Reader.parts? (t.source.length + 1) .initial t.source = some t.tree :=
  parts?_anchored fun _ hs => reads_form t hs (by simp)

end Glob

end Pattern
end RecordFilter
