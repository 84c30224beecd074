/-
# What arguments ask for

Arguments write items (`CommandLine.Spells`): an option by its long name (`Long`) or by letters
(`Letters`), with its value attached or in the next argument (`HasValue`), and whatever does not
look like an option.  The items and the environment ask for something (`Asks`) if there is one
expression and nothing is given twice; what is given on the command line goes before what is given
in the environment (`IsGiven`).

Arguments are understood if and only if they write items that ask for something, and as that
(`ofList?_eq_some_iff`).
-/

import Mathlib
import RecordFilter.CommandLine.Arguments
import RecordFilter.Proofs.Number.Decimal
import RecordFilter.Proofs.Number.Numeral

namespace RecordFilter
namespace CommandLine

/-- The long name of an option. -/
def Name.long : Name → String
  | input => "input"
  | settings => "config"
  | maxDepth => "max-depth"
  | pretty => "pretty"

/-- The letter of an option. -/
def Name.letter? : Name → Option Char
  | input => some 'i'
  | settings => some 'c'
  | maxDepth => none
  | pretty => some 'p'

/-- An argument does not look like an option. -/
def IsPlain (argument : String) : Prop := ∀ c more, argument.toList ≠ '-' :: c :: more

/-- The value of an option behind its name: the rest of the argument with the name, the arguments
behind that, the value, and the arguments that are left. -/
inductive HasValue : List Char → List String → String → List String → Prop where
  /-- Behind an equals sign. -/
  | attached (value : String) (rest : List String) : HasValue ('=' :: value.toList) rest value rest
  /-- In the next argument. -/
  | next {value : String} (hvalue : IsPlain value) (rest : List String) :
    HasValue [] (value :: rest) value rest

/-- An option by its long name, behind two hyphens. -/
inductive Long : List Char → List String → Item → List String → Prop where
  /-- The option without a value. -/
  | pretty (rest : List String) : Long Name.pretty.long.toList rest (.flag .pretty) rest
  /-- An option with its value. -/
  | option {name more rest value left} (hname : name ≠ .pretty)
      (h : HasValue more rest value left) :
    Long (name.long.toList ++ more) rest (.option name value) left

/-- Options by their letters, behind one hyphen. -/
inductive Letters : List Char → List String → List Item → List String → Prop where
  /-- No letter is left. -/
  | nil (rest : List String) : Letters [] rest [] rest
  /-- The option without a value, and other letters. -/
  | pretty {more rest items left} (h : Letters more rest items left) :
    Letters ('p' :: more) rest (.flag .pretty :: items) left
  /-- An option with its value. -/
  | option {name letter more rest value left} (hname : name ≠ .pretty)
      (hletter : name.letter? = some letter) (h : HasValue more rest value left) :
    Letters (letter :: more) rest [.option name value] left
  /-- An option with its value right behind the letter. -/
  | direct {name letter} {value : String} {rest} (hname : name ≠ .pretty)
      (hletter : name.letter? = some letter) (hsome : value.toList ≠ [])
      (hvalue : value.toList.head? ≠ some '=') :
    Letters (letter :: value.toList) rest [.option name value] rest

/-- Arguments write items. -/
inductive Spells : List String → List Item → Prop where
  /-- No argument is left. -/
  | nil : Spells [] []
  /-- What does not look like an option is an expression. -/
  | expression {argument rest items} (hplain : IsPlain argument) (h : Spells rest items) :
    Spells (argument :: rest) (.expression argument :: items)
  /-- A long name. -/
  | long {argument text rest item left items} (htext : argument.toList = '-' :: '-' :: text)
      (hlong : Long text rest item left) (h : Spells left items) :
    Spells (argument :: rest) (item :: items)
  /-- Letters. -/
  | letters {argument text rest more left items} (htext : argument.toList = '-' :: text)
      (hsome : text ≠ []) (hletters : Letters text rest more left) (h : Spells left items) :
    Spells (argument :: rest) (more ++ items)
  /-- Behind two hyphens alone everything is an expression. -/
  | expressions (rest : List String) : Spells ("--" :: rest) (rest.map .expression)

/-- No item is made like that. -/
def Never (make : String → Item) (items : List Item) : Prop := ∀ text, make text ∉ items

/-- One item is made like that, from the text. -/
def Once (make : String → Item) (text : String) (items : List Item) : Prop :=
  ∃ before behind, items = before ++ make text :: behind ∧ Never make before ∧ Never make behind

/-- The text that is given for an option, on the command line or else elsewhere. -/
inductive IsGiven (items : List Item) (elsewhere : Option String) (name : Name) :
    Option String → Prop where
  /-- Once on the command line. -/
  | here {text : String} (h : Once (.option name) text items) :
    IsGiven items elsewhere name (some text)
  /-- Only elsewhere, if at all. -/
  | there (h : Never (.option name) items) : IsGiven items elsewhere name elsewhere

/-- A count is written in digits, perhaps behind a plus sign. -/
def WritesCount (text : String) (n : Nat) : Prop :=
  ∃ digits, (text.toList = digits ∨ text.toList = '+' :: digits) ∧ Numeral.IsRun digits ∧
    Nat.ofDigitChars 10 digits 0 = n ∧ n < 2 ^ 64

/-- What the items and the environment ask for. -/
structure Asks (items : List Item) (environment : String → Option String) (a : Arguments) :
    Prop where
  /-- There is one expression. -/
  expression : Once .expression a.expression items
  /-- Line breaks are asked for once or not at all. -/
  pretty : items.count (.flag .pretty) = a.pretty.toNat
  /-- The file with the records is given on the command line. -/
  input : IsGiven items none .input a.input
  /-- The file with the settings may be given in the environment. -/
  settings : IsGiven items (environment "HISTFILTER_CONFIG") .settings a.settings
  /-- So may be the number of levels. -/
  maxDepth : ∃ text, IsGiven items (environment "HISTFILTER_MAX_DEPTH") .maxDepth text ∧
    Option.Rel WritesCount text a.maxDepth
  /-- A file has a name. -/
  named : a.input ≠ some "" ∧ a.settings ≠ some ""

variable {name : Name} {letter : Char} {argument value text : String} {item : Item}
  {arguments rest left : List String} {items more : List Item} {cs : List Char} {limit n : Nat}
  {environment : String → Option String} {a : Arguments} {elsewhere : Option String}

/-! ### Options -/

/-- An option is found by its long name. -/
theorem ofLong?_eq_some_iff : Name.ofLong? text = some name ↔ text = name.long := by
  constructor
  · intro h
    unfold Name.ofLong? at h
    split at h
    · next htext =>
      cases h
      exact htext
    split at h
    · next htext =>
      cases h
      exact htext
    split at h
    · next htext =>
      cases h
      exact htext
    split at h
    · next htext =>
      cases h
      exact htext
    · cases h
  · rintro rfl
    cases name <;> rfl

/-- An option is found by its letter. -/
theorem ofLetter?_eq_some_iff : Name.ofLetter? letter = some name ↔ name.letter? = some letter := by
  constructor
  · intro h
    unfold Name.ofLetter? at h
    split at h <;> cases h <;> rfl
  · intro h
    cases name <;> cases h <;> rfl

/-- An argument is taken as a value unless it looks like an option. -/
theorem isOption_eq_false_iff : isOption argument = false ↔ IsPlain argument := by
  unfold isOption IsPlain
  split
  · next c more h => exact iff_of_false nofun fun hplain => hplain c more h
  · next h => exact iff_of_true rfl fun c more => h c more

/-- A value that is not attached is the next argument. -/
theorem withValue_none_eq_some_iff :
    withValue name none rest = some (item, left) ↔
      ∃ value, item = .option name value ∧ rest = value :: left ∧ IsPlain value := by
  cases rest with
  | nil => exact iff_of_false nofun fun ⟨_, _, h, _⟩ => nomatch h
  | cons value more =>
    change (if isOption value then none else some (Item.option name value, more)) = _ ↔ _
    cases hplain : isOption value with
    | true =>
      refine iff_of_false nofun fun ⟨_, _, hrest, h⟩ => ?_
      cases hrest
      exact Bool.noConfusion (hplain.symm.trans (isOption_eq_false_iff.2 h))
    | false =>
      rw [if_neg Bool.false_ne_true]
      constructor
      · intro h
        cases h
        exact ⟨value, rfl, rfl, isOption_eq_false_iff.1 hplain⟩
      · rintro ⟨_, rfl, hrest, -⟩
        cases hrest
        rfl

/-- A value is attached to a name by an equals sign. -/
theorem withValue_equals (name : Name) (value : List Char) (rest : List String) :
    withValue name (some (.ofList value)) rest = some (item, left) ↔
      ∃ v, item = .option name v ∧ HasValue ('=' :: value) rest v left := by
  constructor
  · intro h
    cases h
    have hvalue := HasValue.attached (.ofList value) left
    rw [String.toList_ofList] at hvalue
    exact ⟨_, rfl, hvalue⟩
  · rintro ⟨v, rfl, h⟩
    cases h
    rw [String.ofList_toList]
    rfl

/-- Where a name ends, its value is the next argument. -/
theorem withValue_end (name : Name) (rest : List String) :
    withValue name none rest = some (item, left) ↔
      ∃ v, item = .option name v ∧ HasValue [] rest v left := by
  rw [withValue_none_eq_some_iff]
  refine exists_congr fun v => and_congr_right fun _ => ?_
  constructor
  · rintro ⟨rfl, hplain⟩
    exact .next hplain left
  · intro h
    cases h with
    | next hplain => exact ⟨rfl, hplain⟩

/-- There is no equals sign in a long name. -/
theorem not_mem_long (name : Name) : '=' ∉ name.long.toList := by
  cases name <;> decide

/-- The name goes up to the equals sign. -/
theorem takeWhile_long (name : Name) (h : cs = [] ∨ cs.head? = some '=') :
    (name.long.toList ++ cs).takeWhile (fun c => decide (c ≠ '=')) = name.long.toList ∧
      (name.long.toList ++ cs).dropWhile (fun c => decide (c ≠ '=')) = cs := by
  have hall : ∀ c ∈ name.long.toList, decide (c ≠ '=') = true := fun c hc =>
    decide_eq_true (ne_of_mem_of_not_mem hc (not_mem_long name))
  rw [List.takeWhile_append_of_pos hall, List.dropWhile_append_of_pos hall]
  rcases h with rfl | h
  · exact ⟨List.append_nil _, rfl⟩
  · obtain ⟨more, rfl⟩ := List.head?_eq_some_iff.1 h
    exact ⟨List.append_nil _, rfl⟩

/-- What stands behind a long name: nothing, or an equals sign and a value. -/
theorem HasValue.ends (h : HasValue cs rest value left) : cs = [] ∨ cs.head? = some '=' := by
  cases h with
  | attached => exact .inr rfl
  | next => exact .inl rfl

/-- What is read behind the long name of the option without a value. -/
theorem longOption?_pretty (h : cs = [] ∨ cs.head? = some '=') :
    longOption? (Name.pretty.long.toList ++ cs) rest = some (item, left) ↔
      cs = [] ∧ item = .flag .pretty ∧ left = rest := by
  rw [longOption?, List.span_eq_takeWhile_dropWhile, (takeWhile_long .pretty h).1,
    (takeWhile_long .pretty h).2]
  dsimp only
  rw [String.ofList_toList, ofLong?_eq_some_iff.2 rfl]
  cases cs with
  | nil =>
    constructor
    · intro h
      cases h
      exact ⟨rfl, rfl, rfl⟩
    · rintro ⟨-, rfl, rfl⟩
      rfl
  | cons c cs => exact iff_of_false nofun fun h => nomatch h.1

/-- What is read behind the long name of another option. -/
theorem longOption?_append (hname : name ≠ .pretty) (h : cs = [] ∨ cs.head? = some '=') :
    longOption? (name.long.toList ++ cs) rest = some (item, left) ↔
      ∃ value, item = .option name value ∧ HasValue cs rest value left := by
  rw [longOption?, List.span_eq_takeWhile_dropWhile, (takeWhile_long name h).1,
    (takeWhile_long name h).2]
  dsimp only
  rw [String.ofList_toList, ofLong?_eq_some_iff.2 rfl]
  rcases h with rfl | h
  · cases name with
    | pretty => exact absurd rfl hname
    | input | settings | maxDepth => exact withValue_end _ rest
  · obtain ⟨more, rfl⟩ := List.head?_eq_some_iff.1 h
    cases name with
    | pretty => exact absurd rfl hname
    | input | settings | maxDepth => exact withValue_equals _ more rest

/-- What is read as an option starts with its long name. -/
theorem exists_of_longOption? (h : longOption? cs rest = some (item, left)) :
    ∃ (name : Name) (more : List Char), (more = [] ∨ more.head? = some '=') ∧
      cs = name.long.toList ++ more := by
  rw [longOption?, List.span_eq_takeWhile_dropWhile] at h
  dsimp only at h
  cases hname : Name.ofLong? (.ofList (cs.takeWhile fun c => decide (c ≠ '='))) with
  | none =>
    rw [hname] at h
    cases h
  | some name =>
    refine ⟨name, cs.dropWhile fun c => decide (c ≠ '='), ?_, ?_⟩
    · have hhead := List.head?_dropWhile_not (fun c => decide (c ≠ '=')) cs
      cases hmore : cs.dropWhile fun c => decide (c ≠ '=') with
      | nil => exact .inl rfl
      | cons c more =>
        rw [hmore] at hhead
        exact .inr (congrArg some (by simpa using hhead))
    · rw [← ofLong?_eq_some_iff.1 hname, String.toList_ofList, List.takeWhile_append_dropWhile]

/-- An option is read by its long name if and only if it is written by that. -/
theorem longOption?_eq_some_iff :
    longOption? cs rest = some (item, left) ↔ Long cs rest item left := by
  constructor
  · intro h
    obtain ⟨name, more, hmore, rfl⟩ := exists_of_longOption? h
    by_cases hname : name = .pretty
    · subst hname
      obtain ⟨rfl, rfl, rfl⟩ := (longOption?_pretty hmore).1 h
      rw [List.append_nil]
      exact .pretty left
    · obtain ⟨value, rfl, hvalue⟩ := (longOption?_append hname hmore).1 h
      exact .option hname hvalue
  · intro h
    cases h with
    | pretty => exact (longOption?_pretty (.inl rfl)).2 ⟨rfl, rfl, rfl⟩
    | option hname h => exact (longOption?_append hname h.ends).2 ⟨_, rfl, h⟩

/-- The value of an option by its letter: behind an equals sign, in the next argument, or right
behind the letter. -/
theorem withValue_attachedToLetter :
    withValue name (attachedToLetter? cs) rest = some (item, left) ↔
      ∃ value, item = .option name value ∧ (HasValue cs rest value left ∨
        cs = value.toList ∧ cs ≠ [] ∧ cs.head? ≠ some '=' ∧ left = rest) := by
  cases cs with
  | nil =>
    refine (withValue_end name rest).trans (exists_congr fun v => and_congr_right fun _ => ?_)
    exact (or_iff_left fun h => h.2.1 rfl).symm
  | cons c cs =>
    by_cases hc : c = '='
    · subst hc
      refine (withValue_equals name cs rest).trans
        (exists_congr fun v => and_congr_right fun _ => ?_)
      exact (or_iff_left fun h => h.2.2.1 rfl).symm
    · have hattached : attachedToLetter? (c :: cs) = some (.ofList (c :: cs)) := by
        unfold attachedToLetter?
        split
        · next h => cases h
        · next h => exact absurd (List.cons.inj h).1 hc
        · rfl
      have hhead : (c :: cs).head? ≠ some '=' := fun h => hc (Option.some.inj h)
      rw [hattached]
      constructor
      · intro h
        cases h
        exact ⟨_, rfl, .inr ⟨String.toList_ofList.symm, List.cons_ne_nil _ _, hhead, rfl⟩⟩
      · rintro ⟨v, rfl, h | ⟨hv, -, -, rfl⟩⟩
        · cases h
          exact absurd rfl hc
        · rw [hv, String.ofList_toList]
          rfl

/-- The letter of an option with a value is read with that. -/
theorem letters?_option (hname : name ≠ .pretty) (hletter : name.letter? = some letter)
    (cs : List Char) (rest : List String) :
    letters? (letter :: cs) rest =
      (withValue name (attachedToLetter? cs) rest).map fun (item, rest) => ([item], rest) := by
  unfold letters?
  rw [ofLetter?_eq_some_iff.2 hletter]
  cases name with
  | pretty => exact absurd rfl hname
  | input | settings | maxDepth => rfl

/-- Options are read by their letters if and only if they are written by these. -/
theorem letters?_eq_some_iff :
    letters? cs rest = some (items, left) ↔ Letters cs rest items left := by
  constructor
  · intro h
    induction cs generalizing items with
    | nil =>
      cases h
      exact .nil _
    | cons c cs ih =>
      cases hletter : Name.ofLetter? c with
      | none =>
        unfold letters? at h
        rw [hletter] at h
        cases h
      | some name =>
        have hc := ofLetter?_eq_some_iff.1 hletter
        by_cases hname : name = .pretty
        · subst hname
          cases hc
          obtain ⟨⟨more, _⟩, hmore, h⟩ := Option.map_eq_some_iff.1 h
          cases h
          exact .pretty (ih hmore)
        · rw [letters?_option hname hc] at h
          obtain ⟨⟨item, _⟩, hitem, h⟩ := Option.map_eq_some_iff.1 h
          cases h
          obtain ⟨value, rfl, hvalue | ⟨rfl, hsome, hvalue, rfl⟩⟩ :=
            withValue_attachedToLetter.1 hitem
          · exact .option hname hc hvalue
          · exact .direct hname hc hsome hvalue
  · intro h
    induction h with
    | nil => rfl
    | pretty _ ih => exact Option.map_eq_some_iff.2 ⟨_, ih, rfl⟩
    | option hname hletter h =>
      rw [letters?_option hname hletter]
      exact Option.map_eq_some_iff.2
        ⟨_, withValue_attachedToLetter.2 ⟨_, rfl, .inl h⟩, rfl⟩
    | direct hname hletter hsome hvalue =>
      rw [letters?_option hname hletter]
      exact Option.map_eq_some_iff.2
        ⟨_, withValue_attachedToLetter.2 ⟨_, rfl, .inr ⟨rfl, hsome, hvalue, rfl⟩⟩, rfl⟩

/-! ### Arguments -/

/-- No more arguments are left than there were. -/
theorem HasValue.length_le (h : HasValue cs rest value left) : left.length ≤ rest.length := by
  cases h with
  | attached => exact Nat.le_refl _
  | next => exact Nat.le_succ _

/-- No more arguments are left behind a long name. -/
theorem Long.length_le (h : Long cs rest item left) : left.length ≤ rest.length := by
  cases h with
  | pretty => exact Nat.le_refl _
  | option _ h => exact h.length_le

/-- No more arguments are left behind letters. -/
theorem Letters.length_le (h : Letters cs rest items left) : left.length ≤ rest.length := by
  induction h with
  | nil | direct => exact Nat.le_refl _
  | pretty _ ih => exact ih
  | option _ _ h => exact h.length_le

/-- A long name has a letter. -/
theorem Long.ne_nil (h : Long cs rest item left) : cs ≠ [] := by
  cases h with
  | pretty => exact List.cons_ne_nil _ _
  | @option name => cases name <;> exact List.cons_ne_nil _ _

/-- Letters do not start with a hyphen. -/
theorem Letters.head?_ne (h : Letters cs rest items left) : cs.head? ≠ some '-' := by
  cases h with
  | nil => nofun
  | pretty => exact (by decide : some 'p' ≠ some '-')
  | @option name | @direct name =>
    rintro h
    cases h
    cases name <;> contradiction

/-- What is read as items is written by the arguments. -/
theorem spells_of_items? (h : items? limit arguments = some items) : Spells arguments items := by
  induction limit generalizing arguments items with
  | zero => cases h
  | succ limit ih =>
    cases arguments with
    | nil =>
      cases h
      exact .nil
    | cons argument rest =>
      rw [items?] at h
      split at h
      · next htext =>
        cases h
        obtain rfl : argument = "--" := String.toList_inj.1 htext
        exact .expressions rest
      · next text _ htext =>
        split at h
        · next item left hlong =>
          obtain ⟨others, hothers, rfl⟩ := Option.map_eq_some_iff.1 h
          exact .long htext (longOption?_eq_some_iff.1 hlong) (ih hothers)
        · cases h
      · next c text _ _ htext =>
        split at h
        · next more left hletters =>
          obtain ⟨others, hothers, rfl⟩ := Option.map_eq_some_iff.1 h
          exact .letters htext (List.cons_ne_nil c text) (letters?_eq_some_iff.1 hletters)
            (ih hothers)
        · cases h
      · next _ _ hplain =>
        obtain ⟨others, hothers, rfl⟩ := Option.map_eq_some_iff.1 h
        exact .expression (fun c text htext => hplain c text htext) (ih hothers)

/-- The items that arguments write are read. -/
theorem Spells.items? (h : Spells arguments items) (hlimit : arguments.length < limit) :
    items? limit arguments = some items := by
  induction h generalizing limit with
  | nil =>
    obtain ⟨limit, rfl⟩ := Nat.exists_eq_succ_of_ne_zero (Nat.ne_of_gt hlimit)
    rfl
  | @expression argument rest items hplain _ ih =>
    obtain ⟨limit, rfl⟩ := Nat.exists_eq_succ_of_ne_zero (Nat.ne_of_gt (Nat.zero_lt_of_lt hlimit))
    have hrest := ih (Nat.lt_of_succ_lt_succ hlimit)
    rw [CommandLine.items?]
    split
    · next htext => exact absurd htext (hplain _ _)
    · next htext => exact absurd htext (hplain _ _)
    · next htext => exact absurd htext (hplain _ _)
    · rw [hrest]
      rfl
  | @long argument text rest item left items htext hlong _ ih =>
    obtain ⟨limit, rfl⟩ := Nat.exists_eq_succ_of_ne_zero (Nat.ne_of_gt (Nat.zero_lt_of_lt hlimit))
    have hleft := ih (Nat.lt_of_le_of_lt hlong.length_le (Nat.lt_of_succ_lt_succ hlimit))
    have hsome := hlong.ne_nil
    obtain ⟨c, text, rfl⟩ := List.exists_cons_of_ne_nil hsome
    rw [CommandLine.items?, htext]
    split
    · next h => cases h
    · next h =>
      cases h
      rw [longOption?_eq_some_iff.2 hlong]
      dsimp only
      rw [hleft]
      rfl
    · next hlong h => exact absurd (List.cons.inj (List.cons.inj h).2).1.symm hlong
    · next h => exact absurd rfl (h _ _)
  | @letters argument text rest more left items htext hsome hletters _ ih =>
    obtain ⟨limit, rfl⟩ := Nat.exists_eq_succ_of_ne_zero (Nat.ne_of_gt (Nat.zero_lt_of_lt hlimit))
    have hleft := ih (Nat.lt_of_le_of_lt hletters.length_le (Nat.lt_of_succ_lt_succ hlimit))
    obtain ⟨c, text, rfl⟩ := List.exists_cons_of_ne_nil hsome
    have hc : c ≠ '-' := fun hc => hletters.head?_ne (congrArg some hc)
    rw [CommandLine.items?, htext]
    split
    · next h => exact absurd (List.cons.inj (List.cons.inj h).2).1 hc
    · next h => exact absurd (List.cons.inj (List.cons.inj h).2).1 hc
    · next h =>
      cases h
      rw [letters?_eq_some_iff.2 hletters]
      dsimp only
      rw [hleft]
      rfl
    · next h => exact absurd rfl (h _ _)
  | expressions rest =>
    obtain ⟨limit, rfl⟩ := Nat.exists_eq_succ_of_ne_zero (Nat.ne_of_gt (Nat.zero_lt_of_lt hlimit))
    rfl

/-! ### What is asked for -/

section Kinds

variable {make : String → Item} {text? : Item → Option String}
  (hmake : ∀ item text, text? item = some text ↔ item = make text)
include hmake

/-- No item is of a kind. -/
theorem filterMap_eq_nil_iff_never : items.filterMap text? = [] ↔ Never make items := by
  rw [List.filterMap_eq_nil_iff]
  constructor
  · intro h text hmem
    exact nomatch (h _ hmem).symm.trans ((hmake _ text).2 rfl)
  · intro h item hmem
    by_contra hsome
    obtain ⟨text, htext⟩ := Option.ne_none_iff_exists'.1 hsome
    exact h text ((hmake item text).1 htext ▸ hmem)

/-- One item is of a kind. -/
theorem filterMap_eq_singleton_iff_once :
    items.filterMap text? = [text] ↔ Once make text items := by
  rw [List.filterMap_eq_cons_iff]
  constructor
  · rintro ⟨before, item, behind, rfl, hbefore, hitem, hbehind⟩
    rw [(hmake item text).1 hitem]
    exact ⟨before, behind, rfl,
      (filterMap_eq_nil_iff_never hmake).1 (List.filterMap_eq_nil_iff.2 hbefore),
      (filterMap_eq_nil_iff_never hmake).1 hbehind⟩
  · rintro ⟨before, behind, rfl, hbefore, hbehind⟩
    exact ⟨before, make text, behind, rfl,
      List.filterMap_eq_nil_iff.1 ((filterMap_eq_nil_iff_never hmake).2 hbefore),
      (hmake _ text).2 rfl, (filterMap_eq_nil_iff_never hmake).2 hbehind⟩

end Kinds

/-- The text of an expression is that of an item that is one. -/
theorem Item.expression?_eq_some_iff (item : Item) (text : String) :
    item.expression? = some text ↔ item = .expression text := by
  cases item <;> simp [expression?]

/-- The value for an option is that of an item that gives it. -/
theorem Item.value?_eq_some_iff (name : Name) (item : Item) (text : String) :
    item.value? name = some text ↔ item = .option name text := by
  cases item <;> simp [value?]

/-- An option is not given on the command line. -/
theorem given_eq_nil_iff : given items name = [] ↔ Never (.option name) items :=
  filterMap_eq_nil_iff_never (Item.value?_eq_some_iff name)

/-- An option is given once on the command line. -/
theorem given_eq_singleton_iff : given items name = [text] ↔ Once (.option name) text items :=
  filterMap_eq_singleton_iff_once (Item.value?_eq_some_iff name)

/-- The value of an option is read if and only if it is given and makes sense, or is not given. -/
theorem optionValue?_eq_some_iff {α : Type} {read : String → Option α} {reads : String → α → Prop}
    (hread : ∀ text x, read text = some x ↔ reads text x) {value : Option α} :
    optionValue? items environment name read = some value ↔
      ∃ text, IsGiven items (name.environmentName?.bind environment) name text ∧
        Option.Rel reads text value := by
  have hsome (text : String) :
      (read text).map some = some value ↔ Option.Rel reads (some text) value := by
    rw [Option.map_eq_some_iff]
    constructor
    · rintro ⟨x, hx, rfl⟩
      exact .some ((hread text x).1 hx)
    · intro h
      cases h with
      | some h => exact ⟨_, (hread text _).2 h, rfl⟩
  constructor
  · intro h
    unfold optionValue? at h
    split at h
    · next hgiven => exact ⟨_, .here (given_eq_singleton_iff.1 hgiven), (hsome _).1 h⟩
    · next hgiven henvironment =>
      refine ⟨_, .there (given_eq_nil_iff.1 hgiven), ?_⟩
      rw [henvironment]
      exact (hsome _).1 h
    · next hgiven henvironment =>
      refine ⟨_, .there (given_eq_nil_iff.1 hgiven), ?_⟩
      rw [henvironment]
      cases h
      exact .none
    · cases h
  · rintro ⟨text, hgiven, h⟩
    unfold optionValue?
    cases hgiven with
    | here hgiven =>
      rw [given_eq_singleton_iff.2 hgiven]
      exact (hsome _).2 h
    | there hgiven =>
      rw [given_eq_nil_iff.2 hgiven]
      cases henvironment : name.environmentName?.bind environment with
      | none =>
        rw [henvironment] at h
        cases h
        rfl
      | some text =>
        rw [henvironment] at h
        exact (hsome text).2 h

/-- A file name is any text but the empty one. -/
theorem fileName?_eq_some_iff (text file : String) :
    fileName? text = some file ↔ text = file ∧ file ≠ "" := by
  unfold fileName?
  split
  · next h =>
    rw [String.isEmpty_iff] at h
    refine iff_of_false nofun ?_
    rintro ⟨rfl, hne⟩
    exact hne h
  · next h =>
    rw [Option.some.injEq]
    refine (and_iff_left_of_imp ?_).symm
    rintro rfl hempty
    exact h (String.isEmpty_iff.2 hempty)

/-- A file is asked for if and only if one is given, or none. -/
theorem optionValue?_fileName_iff {file : Option String} :
    optionValue? items environment name fileName? = some file ↔
      IsGiven items (name.environmentName?.bind environment) name file ∧ file ≠ some "" := by
  rw [optionValue?_eq_some_iff fileName?_eq_some_iff]
  constructor
  · rintro ⟨text, hgiven, h⟩
    cases h with
    | none => exact ⟨hgiven, nofun⟩
    | some h => exact ⟨h.1 ▸ hgiven, fun heq => h.2 (Option.some.inj heq)⟩
  · rintro ⟨hgiven, hne⟩
    refine ⟨file, hgiven, ?_⟩
    cases file with
    | none => exact .none
    | some file => exact .some ⟨rfl, fun heq => hne (congrArg some heq)⟩

/-- Only a plus sign in front makes a difference. -/
theorem withoutPlus_eq_iff {digits : List Char} (h : digits.head? ≠ some '+') :
    withoutPlus cs = digits ↔ cs = digits ∨ cs = '+' :: digits := by
  unfold withoutPlus
  split
  · next rest =>
    rw [List.cons.injEq, and_iff_right rfl]
    refine (or_iff_right ?_).symm
    rintro rfl
    exact h rfl
  · next hplus => exact (or_iff_left fun heq => hplus digits heq).symm

/-- Digits do not start with a plus sign. -/
theorem head?_ne_plus (h : Numeral.IsRun cs) : cs.head? ≠ some '+' := by
  intro hhead
  obtain ⟨more, rfl⟩ := List.head?_eq_some_iff.1 hhead
  exact nomatch h.2 '+' List.mem_cons_self

/-- A count is read if and only if one is written. -/
theorem count?_eq_some_iff (text : String) (n : Nat) :
    count? text = some n ↔ WritesCount text n := by
  have hrun (ds : List Char) :
      (!ds.isEmpty && ds.all Numeral.isDigit && decide (Decimal.ofDigits ds < 2 ^ (64 : Nat))) =
        true ↔ Numeral.IsRun ds ∧ Decimal.ofDigits ds < 2 ^ (64 : Nat) := by
    simp [Numeral.IsRun]
  have hcount : count? text = some n ↔ (Numeral.IsRun (withoutPlus text.toList) ∧
      Decimal.ofDigits (withoutPlus text.toList) < 2 ^ (64 : Nat)) ∧
      Decimal.ofDigits (withoutPlus text.toList) = n := by
    rw [← hrun]
    exact Option.ite_none_right_eq_some.trans (and_congr_right' (Option.some.injEq ..).to_iff)
  rw [hcount, Decimal.ofDigits_eq]
  constructor
  · rintro ⟨⟨hrun, hbits⟩, hvalue⟩
    exact ⟨_, (withoutPlus_eq_iff (head?_ne_plus hrun)).1 rfl, hrun, hvalue, hvalue ▸ hbits⟩
  · rintro ⟨digits, htext, hrun, hvalue, hbits⟩
    rw [(withoutPlus_eq_iff (head?_ne_plus hrun)).2 htext]
    exact ⟨⟨hrun, hvalue.symm ▸ hbits⟩, hvalue⟩

/-- The options are asked for if and only if they are given. -/
theorem asks_iff {expression : String} {input settings : Option String} {maxDepth : Option Nat}
    {pretty : Bool} : Asks items environment ⟨expression, input, settings, maxDepth, pretty⟩ ↔
      optionValue? items environment .input fileName? = some input ∧
        optionValue? items environment .settings fileName? = some settings ∧
        optionValue? items environment .maxDepth count? = some maxDepth ∧
        items.filterMap Item.expression? = [expression] ∧
        (items.filter (· == .flag .pretty)).length = pretty.toNat := by
  rw [optionValue?_fileName_iff, optionValue?_fileName_iff,
    optionValue?_eq_some_iff count?_eq_some_iff,
    filterMap_eq_singleton_iff_once Item.expression?_eq_some_iff, ← List.count_eq_length_filter]
  constructor
  · rintro ⟨hexpression, hpretty, hinput, hsettings, hmaxDepth, hinputNamed, hsettingsNamed⟩
    exact ⟨⟨hinput, hinputNamed⟩, ⟨hsettings, hsettingsNamed⟩, hmaxDepth, hexpression, hpretty⟩
  · rintro ⟨⟨hinput, hinputNamed⟩, ⟨hsettings, hsettingsNamed⟩, hmaxDepth, hexpression, hpretty⟩
    exact ⟨hexpression, hpretty, hinput, hsettings, hmaxDepth, hinputNamed, hsettingsNamed⟩

/-- **Arguments are understood if and only if they ask for something**, and as that. -/
theorem ofList?_eq_some_iff :
    Arguments.ofList? arguments environment = some a ↔
      ∃ items, Spells arguments items ∧ Asks items environment a := by
  constructor
  · intro h
    rw [Arguments.ofList?] at h
    obtain ⟨items, hitems, h⟩ := Option.bind_eq_some_iff.1 h
    obtain ⟨input, hinput, h⟩ := Option.bind_eq_some_iff.1 h
    obtain ⟨settings, hsettings, h⟩ := Option.bind_eq_some_iff.1 h
    obtain ⟨maxDepth, hmaxDepth, h⟩ := Option.bind_eq_some_iff.1 h
    refine ⟨items, spells_of_items? hitems, ?_⟩
    split at h
    · next hexpression hpretty =>
      cases h
      exact asks_iff.2 ⟨hinput, hsettings, hmaxDepth, hexpression, congrArg List.length hpretty⟩
    · next hexpression hpretty =>
      cases h
      exact asks_iff.2 ⟨hinput, hsettings, hmaxDepth, hexpression, congrArg List.length hpretty⟩
    · cases h
  · rintro ⟨items, hitems, hasks⟩
    obtain ⟨expression, input, settings, maxDepth, pretty⟩ := a
    obtain ⟨hinput, hsettings, hmaxDepth, hexpression, hpretty⟩ := asks_iff.1 hasks
    refine Option.bind_eq_some_iff.2 ⟨items, hitems.items? (Nat.lt_succ_self _),
      Option.bind_eq_some_iff.2 ⟨_, hinput, Option.bind_eq_some_iff.2 ⟨_, hsettings,
        Option.bind_eq_some_iff.2 ⟨_, hmaxDepth, ?_⟩⟩⟩⟩
    rw [hexpression]
    cases pretty with
    | false => rw [List.length_eq_zero_iff.1 hpretty]
    | true =>
      obtain ⟨flag, hflag⟩ := List.length_eq_one_iff.1 hpretty
      rw [hflag]

example : Arguments.ofList? ["-p", "--max-depth=+3", "x"] (fun _ => some "7") =
    some ⟨"x", none, some "7", some 3, true⟩ := by
  decide +kernel

end CommandLine
end RecordFilter
