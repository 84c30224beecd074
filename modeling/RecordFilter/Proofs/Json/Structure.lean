/-
# Arrays, objects and variants read back

A text is read as something under a condition (`Json.Reads`): where it holds the text is taken off
the front of whatever follows, and where it does not hold reading fails.  Parts that stand one
behind the other are read under both conditions (`Reads.andThen`), and from that the rules for
arrays (`reads_elements`), objects (`reads_entries`) and variants (`reads_holding`) are put
together.  The only condition that a container adds to those of its parts is that a level is left
for it.  Blanks may stand in front of each part of an array or object and in front of its end
(`IsBlanks`).
-/

import Mathlib
import RecordFilter.Json.Structure
import RecordFilter.Proofs.Json.Scan

namespace RecordFilter
namespace Json

/-- The text is read as `a` if `p` holds, and not at all if not. -/
structure Reads (read : Read α) (text : List Char) (p : Prop) (a : α) : Prop where
  /-- The text is taken off the front of what it stands in front of. -/
  succeeds : p → ∀ rest, Ends rest → read (text ++ rest) = .ok (a, rest)
  /-- The text is refused, whatever stands behind it. -/
  fails : ¬ p → ∀ rest, Ends rest → ∃ d, read (text ++ rest) = .error d

variable {α β σ : Type} {c : Char} {text text' rest gap close : List Char} {p q : Prop} {a : α}
  {b : β} {s s' t : σ} {read read' : Read α} {element : Read α} {encode : Char → List Char}
  {levels limit : Nat}

/-! ### Steps that succeed -/

/-- A step and what follows it succeed if both do. -/
theorem bind_eq_ok {ε : Type} {x : Except ε α} {f : α → Except ε β} (h : x.bind f = .ok b) :
    ∃ a, x = .ok a ∧ f a = .ok b := by
  cases x with
  | error e => cases h
  | ok a => exact ⟨a, rfl, h⟩

/-- What is made of the result of a step that succeeds. -/
theorem map_eq_ok {ε : Type} {x : Except ε α} {f : α → β} (h : x.map f = .ok b) :
    ∃ a, x = .ok a ∧ f a = b := by
  cases x with
  | error e => cases h
  | ok a => exact ⟨a, rfl, Except.ok.inj h⟩

/-! ### Ends and beginnings -/

/-- A value may stand at the end of a text. -/
theorem ends_nil : Ends [] := fun _ h => absurd h nofun

/-- A value may stand in front of a comma or a closing bracket. -/
theorem ends_cons (h : c = ',' ∨ c = ']' ∨ c = '\x7d') (rest : List Char) : Ends (c :: rest) := by
  intro d hd
  obtain rfl := Option.some.inj hd
  exact .inr h

/-- A value may stand in front of a blank. -/
theorem ends_blank (h : isBlank c = true) (rest : List Char) : Ends (c :: rest) := by
  intro d hd
  obtain rfl := Option.some.inj hd
  exact .inl h

/-- Whether a text is made of blanks. -/
def IsBlanks (text : List Char) : Prop := ∀ c ∈ text, isBlank c = true

/-- An empty text is made of blanks. -/
theorem isBlanks_nil : IsBlanks [] := fun _ h => absurd h List.not_mem_nil

/-- Blanks in front are skipped. -/
theorem skipBlanks_append (h : IsBlanks gap) (rest : List Char) :
    skipBlanks (gap ++ rest) = skipBlanks rest :=
  List.dropWhile_append_of_pos h

/-- Blanks may stand in front of what ends a number. -/
theorem IsBlanks.ends (h : IsBlanks gap) (hrest : Ends rest) : Ends (gap ++ rest) := by
  cases gap with
  | nil => exact hrest
  | cons c gap => exact ends_blank (h c List.mem_cons_self) _

/-- A text starts with a character that is no blank and closes no array. -/
def Starts (text : List Char) : Prop :=
  ∃ c more, text = c :: more ∧ isBlank c = false ∧ c ≠ ']'

/-- Nothing is skipped where no blank is in front. -/
theorem skipBlanks_cons (h : isBlank c = false) (rest : List Char) :
    skipBlanks (c :: rest) = c :: rest := by
  rw [skipBlanks, List.dropWhile_cons, h]
  rfl

/-- What a text starts with does not depend on what follows it. -/
theorem Starts.append (h : Starts text) (rest : List Char) : Starts (text ++ rest) := by
  obtain ⟨c, more, rfl, hc⟩ := h
  exact ⟨c, more ++ rest, rfl, hc⟩

/-- A text that starts with something is not empty. -/
theorem Starts.length_pos (h : Starts text) : 0 < text.length := by
  obtain ⟨c, more, rfl, -⟩ := h
  exact Nat.succ_pos _

/-! ### Rules -/

namespace Reads

/-- A text is read back on conditions that are the same. -/
theorem congr (h : Reads read text p a) (hpq : q ↔ p) : Reads read text q a :=
  ⟨fun hq => h.succeeds (hpq.1 hq), fun hq => h.fails (mt hpq.2 hq)⟩

/-- What is read in front of each text like something else is read as the same. -/
theorem of_eq (h : ∀ rest, Ends rest → ∃ read' text', Reads read' text' p a ∧
    read (text ++ rest) = read' (text' ++ rest)) : Reads read text p a where
  succeeds hp rest hrest := by
    obtain ⟨read', text', hreads, heq⟩ := h rest hrest
    rw [heq, hreads.succeeds hp rest hrest]
  fails hp rest hrest := by
    obtain ⟨read', text', hreads, heq⟩ := h rest hrest
    rw [heq]
    exact hreads.fails hp rest hrest

/-- A text that is always refused is read back on a condition that fails. -/
theorem refused (h : ∀ rest, ∃ d, read (text ++ rest) = .error d) (hp : ¬ p) :
    Reads read text p a :=
  ⟨fun h => absurd h hp, fun _ rest _ => h rest⟩

/-- What opens a level is read if there is one left for it. -/
theorem of_levels (hzero : levels = 0 → ∀ rest, ∃ d, read (text ++ rest) = .error d)
    (h : 0 < levels → Reads read text p a) : Reads read text (0 < levels ∧ p) a := by
  rcases Nat.eq_zero_or_pos levels with hlevels | hlevels
  · exact .refused (hzero hlevels) fun hp => Nat.ne_of_gt hp.1 hlevels
  · exact (h hlevels).congr (and_iff_right hlevels)

/-- A text is read back as what is made of the result. -/
theorem map (h : Reads read text p a) (f : α → β) :
    Reads (fun cs => (read cs).map fun (a, cs) => (f a, cs)) text p (f a) where
  succeeds hp rest hrest := by rw [h.succeeds hp rest hrest]; rfl
  fails hp rest hrest := by
    obtain ⟨d, hd⟩ := h.fails hp rest hrest
    exact ⟨d, by rw [hd]; rfl⟩

/-- A part is read, and then another one by what the first was read as. -/
theorem andThen (h : Reads read text p a) (next : α → Read β) (hnext : Reads (next a) text' q b)
    (hends : ∀ rest, Ends (text' ++ rest)) :
    Reads (fun cs => (read cs).bind fun (a, cs) => next a cs) (text ++ text') (p ∧ q) b where
  succeeds hpq rest hrest := by
    rw [List.append_assoc, h.succeeds hpq.1 _ (hends rest)]
    exact hnext.succeeds hpq.2 rest hrest
  fails hpq rest hrest := by
    rw [List.append_assoc]
    by_cases hp : p
    · rw [h.succeeds hp _ (hends rest)]
      exact hnext.fails (fun hq => hpq ⟨hp, hq⟩) rest hrest
    · obtain ⟨d, hd⟩ := h.fails hp _ (hends rest)
      exact ⟨d, by rw [hd]; rfl⟩

end Reads

/-! ### Strings -/

/-- A string in quotes is read back. -/
theorem string_quoted (h : ∀ c, StandsFor (encode c) c) (str : String) (rest : List Char) :
    string (Text.quotedBy encode str ++ rest) = .ok (str, rest) := by
  rw [Text.quotedBy, List.cons_append, List.append_assoc]
  exact stringBody_quoted h str rest

/-- A string in quotes is read back, whatever follows it. -/
theorem reads_string (h : ∀ c, StandsFor (encode c) c) (str : String) :
    Reads string (Text.quotedBy encode str) True str :=
  ⟨fun _ rest _ => string_quoted h str rest, fun hp => absurd trivial hp⟩

/-! ### Arrays -/

/-- Texts with commas between them. -/
def commas : List (List Char) → List Char
  | [] => []
  | first :: more => first ++ more.flatMap (',' :: ·)

/-- What writes items with commas between them writes each by itself. -/
theorem eq_commas (write : List β → List Char) (item : β → List Char) (hnil : write [] = [])
    (hone : ∀ b, write [b] = item b)
    (hmore : ∀ b b' more, write (b :: b' :: more) = item b ++ ',' :: write (b' :: more))
    (items : List β) : write items = commas (items.map item) := by
  induction items with
  | nil => exact hnil
  | cons b items ih =>
    cases items with
    | nil => exact (hone b).trans (List.append_nil _).symm
    | cons b' items =>
      rw [hmore, ih]
      rfl

/-- The first element follows the opening bracket. -/
theorem nextElement_first (hgap : IsBlanks gap) (h : Starts text) :
    nextElement true (gap ++ text) = .ok (true, text) := by
  obtain ⟨c, more, rfl, hblank, hclose⟩ := h
  unfold nextElement
  rw [skipBlanks_append hgap, skipBlanks_cons hblank]
  split
  · cases ‹_›
  · next h => exact absurd (List.cons.inj h).1 hclose
  · next h => cases h; rfl

/-- The next element follows a comma. -/
theorem nextElement_comma (hgap : IsBlanks gap) (h : Starts text) :
    nextElement false (',' :: (gap ++ text)) = .ok (true, text) := by
  obtain ⟨c, more, rfl, hblank, hclose⟩ := h
  have hcomma := skipBlanks_cons (show isBlank ',' = false from rfl) (gap ++ c :: more)
  unfold nextElement
  rw [hcomma]
  split
  · cases ‹_›
  · next h => exact absurd (List.cons.inj h).1 (by decide)
  · next h =>
    cases h
    rw [if_neg Bool.false_ne_true, if_pos rfl, skipBlanks_append hgap, skipBlanks_cons hblank]
    split
    · cases ‹_›
    · next h => exact absurd (List.cons.inj h).1 hclose
    · rfl

/-- No element follows where the bracket closes. -/
theorem nextElement_close (hclose : IsBlanks close) (isFirst : Bool) (rest : List Char) :
    nextElement isFirst (close ++ ']' :: rest) = .ok (false, ']' :: rest) := by
  unfold nextElement
  rw [skipBlanks_append hclose]
  rfl

/-- In front of an element, the element is read and then the others. -/
theorem elementsFrom_next {isFirst : Bool} {cs : List Char}
    (h : nextElement isFirst cs = .ok (true, text)) (limit : Nat) :
    elementsFrom element (limit + 1) isFirst cs =
      (element text).bind fun (a, cs) =>
        (elementsFrom element limit false cs).map fun (more, cs) => (a :: more, cs) := by
  rw [elementsFrom, h]
  rfl

/-- The first element is read as one behind a comma. -/
theorem elementsFrom_first (hgap : IsBlanks gap) (h : Starts text) (limit : Nat) :
    elementsFrom element (limit + 1) true (gap ++ text) =
      elementsFrom element (limit + 1) false (',' :: (gap ++ text)) := by
  rw [elementsFrom_next (nextElement_first hgap h), elementsFrom_next (nextElement_comma hgap h)]

section Items

variable {items : List β} {written : β → List Char} {holds : β → Prop} {f : β → α}

section Spaced

variable (hgap : IsBlanks gap) (hclose : IsBlanks close)
include hgap hclose

/-- Elements behind a comma each, and the end of the array. -/
theorem reads_elementsFrom
    (h : ∀ b ∈ items, Starts (written b) ∧ Reads element (written b) (holds b) (f b))
    (hlimit : items.length < limit) :
    Reads (elementsFrom element limit false)
      (items.flatMap (fun b => ',' :: (gap ++ written b)) ++ (close ++ [']']))
      (∀ b ∈ items, holds b) (items.map f) := by
  induction items generalizing limit with
  | nil =>
    obtain ⟨limit, rfl⟩ := Nat.exists_eq_succ_of_ne_zero (Nat.ne_of_gt hlimit)
    refine ⟨fun _ rest _ => ?_, fun hp => absurd (fun _ hb => absurd hb List.not_mem_nil) hp⟩
    rw [List.flatMap_nil, List.nil_append, List.append_assoc, List.singleton_append, elementsFrom,
      nextElement_close hclose]
    rfl
  | cons b items ih =>
    obtain ⟨limit, rfl⟩ := Nat.exists_eq_succ_of_ne_zero (Nat.ne_of_gt (Nat.zero_lt_of_lt hlimit))
    obtain ⟨⟨hstarts, hb⟩, hitems⟩ := List.forall_mem_cons.1 h
    have hmore := (ih hitems (Nat.lt_of_succ_lt_succ hlimit)).map (f b :: ·)
    have hends (rest : List Char) :
        Ends (items.flatMap (fun b => ',' :: (gap ++ written b)) ++ (close ++ [']']) ++ rest) := by
      cases items with
      | nil =>
        rw [List.flatMap_nil, List.nil_append, List.append_assoc]
        exact hclose.ends (ends_cons (.inr (.inl rfl)) rest)
      | cons b items => exact ends_cons (.inl rfl) _
    refine (Reads.of_eq fun rest _ => ⟨_, _, hb.andThen (fun a cs =>
      (elementsFrom element limit false cs).map fun (more, cs) => (a :: more, cs)) hmore hends,
      ?_⟩).congr List.forall_mem_cons
    simp only [List.flatMap_cons, List.append_assoc, List.cons_append]
    rw [elementsFrom_next (nextElement_comma hgap (hstarts.append _))]

/-- The elements of an array and its end. -/
theorem reads_elements
    (h : ∀ b ∈ items, Starts (written b) ∧ Reads element (written b) (holds b) (f b)) :
    Reads (elements element) (commas (items.map fun b => gap ++ written b) ++ (close ++ [']']))
      (∀ b ∈ items, holds b) (items.map f) := by
  cases items with
  | nil =>
    refine ⟨fun _ rest _ => ?_, fun hp => absurd (fun _ hb => absurd hb List.not_mem_nil) hp⟩
    rw [List.map_nil, commas, List.nil_append, List.append_assoc, List.singleton_append, elements,
      elementsFrom, nextElement_close hclose]
    rfl
  | cons b items =>
    refine Reads.of_eq fun rest _ => ?_
    have hstarts := (h b List.mem_cons_self).1
    have hlength : (b :: items).length <
        (commas ((b :: items).map fun b => gap ++ written b) ++ (close ++ [']']) ++ rest).length +
          1 := by
      have := hstarts.length_pos
      have := length_le_flatMap (f := (',' :: ·)) (fun _ => Nat.succ_pos _)
        (items.map fun b => gap ++ written b)
      simp only [List.length_map, List.length_append, List.map_cons, commas, List.length_cons] at *
      omega
    refine ⟨_, _, reads_elementsFrom hgap hclose h hlength, ?_⟩
    simp only [List.map_cons, commas, List.append_assoc, List.flatMap_map, List.flatMap_cons,
      List.cons_append]
    rw [elements, elementsFrom_first hgap (hstarts.append _)]

end Spaced

/-- An array is read back, if a level is left for it and its items are. -/
theorem reads_array
    (h : ∀ b ∈ items, Starts (written b) ∧ Reads element (written b) (holds b) (f b)) :
    Reads (array levels element) ('[' :: (commas (items.map written) ++ [']']))
      (0 < levels ∧ ∀ b ∈ items, holds b) (items.map f) := by
  refine .of_levels (fun hzero rest => ⟨_, if_pos hzero⟩) fun hlevels => .of_eq fun rest _ =>
    ⟨_, _, reads_elements isBlanks_nil isBlanks_nil h, ?_⟩
  exact if_neg (Nat.ne_of_gt hlevels)

end Items

/-! ### Objects -/

/-- The entries of an object are read one after the other, each with what the former ones were read
as. -/
inductive ReadsEntries (entry : σ → String → Read σ) :
    List (String × List Char) → σ → Prop → σ → Prop
  /-- No entry is left. -/
  | nil (s : σ) : ReadsEntries entry [] s True s
  /-- An entry is read, and the others. -/
  | cons {key : String} {text : List Char} {more : List (String × List Char)} {s s' t : σ}
      {p q : Prop} (h : Reads (entry s key) (':' :: text) p s')
      (hmore : ReadsEntries entry more s' q t) :
      ReadsEntries entry ((key, text) :: more) s (p ∧ q) t

/-- An entry of an object. -/
def entryText (encode : Char → List Char) (entry : String × List Char) : List Char :=
  Text.quotedBy encode entry.1 ++ ':' :: entry.2

section Entries

variable {entry : σ → String → Read σ} {written : List (String × List Char)}

/-- The first key follows the opening brace. -/
theorem nextKey_first (hgap : IsBlanks gap) (rest : List Char) :
    nextKey true (gap ++ '"' :: rest) = .ok (true, rest) := by
  unfold nextKey
  rw [skipBlanks_append hgap]
  rfl

/-- The next key follows a comma. -/
theorem nextKey_comma (hgap : IsBlanks gap) (rest : List Char) :
    nextKey false (',' :: (gap ++ '"' :: rest)) = .ok (true, rest) := by
  have hcomma := skipBlanks_cons (show isBlank ',' = false from rfl) (gap ++ '"' :: rest)
  unfold nextKey
  rw [hcomma]
  simp only [skipBlanks_append hgap]
  rfl

/-- No key follows where the brace closes. -/
theorem nextKey_close (hclose : IsBlanks close) (isFirst : Bool) (rest : List Char) :
    nextKey isFirst (close ++ '\x7d' :: rest) = .ok (false, '\x7d' :: rest) := by
  unfold nextKey
  rw [skipBlanks_append hclose]
  rfl

/-- In front of an entry, its key is read, then the entry, and then the others. -/
theorem entriesFrom_next (h : ∀ c, StandsFor (encode c) c) {isFirst : Bool} {cs : List Char}
    {key : String}
    (hnext : nextKey isFirst cs = .ok (true, key.toList.flatMap encode ++ '"' :: rest))
    (limit : Nat) :
    entriesFrom entry (limit + 1) isFirst s cs =
      (entry s key rest).bind fun (s, cs) => entriesFrom entry limit false s cs := by
  rw [entriesFrom, hnext]
  change (stringBody _).bind _ = _
  rw [stringBody_quoted h]
  rfl

variable (hgap : IsBlanks gap) (hclose : IsBlanks close)
include hgap hclose

/-- Entries behind a comma each, and the end of the object. -/
theorem reads_entriesFrom (h : ∀ c, StandsFor (encode c) c)
    (hentries : ReadsEntries entry written s p t) (hlimit : written.length < limit) :
    Reads (entriesFrom entry limit false s)
      (written.flatMap (fun e => ',' :: (gap ++ entryText encode e)) ++ (close ++ ['\x7d'])) p
      t := by
  induction hentries generalizing limit with
  | nil s =>
    obtain ⟨limit, rfl⟩ := Nat.exists_eq_succ_of_ne_zero (Nat.ne_of_gt hlimit)
    refine ⟨fun _ rest _ => ?_, fun hp => absurd trivial hp⟩
    rw [List.flatMap_nil, List.nil_append, List.append_assoc, List.singleton_append, entriesFrom,
      nextKey_close hclose]
    rfl
  | @cons key text more s s' t p q hentry hmore ih =>
    obtain ⟨limit, rfl⟩ := Nat.exists_eq_succ_of_ne_zero (Nat.ne_of_gt (Nat.zero_lt_of_lt hlimit))
    have hends (rest : List Char) :
        Ends (more.flatMap (fun e => ',' :: (gap ++ entryText encode e)) ++ (close ++ ['\x7d']) ++
          rest) := by
      cases more with
      | nil =>
        rw [List.flatMap_nil, List.nil_append, List.append_assoc]
        exact hclose.ends (ends_cons (.inr (.inr rfl)) rest)
      | cons e more => exact ends_cons (.inl rfl) _
    refine Reads.of_eq fun rest _ => ⟨_, _, hentry.andThen (fun s cs =>
      entriesFrom entry limit false s cs) (ih (Nat.lt_of_succ_lt_succ hlimit)) hends, ?_⟩
    simp only [List.flatMap_cons, entryText, Text.quotedBy, List.append_assoc, List.cons_append,
      List.nil_append]
    rw [entriesFrom_next h (nextKey_comma hgap _)]

/-- The entries of an object and its end. -/
theorem reads_entries (h : ∀ c, StandsFor (encode c) c)
    (hentries : ReadsEntries entry written s p t) :
    Reads (entries entry s)
      (commas (written.map fun e => gap ++ entryText encode e) ++ (close ++ ['\x7d'])) p t := by
  cases hentries with
  | nil s =>
    refine ⟨fun _ rest _ => ?_, fun hp => absurd trivial hp⟩
    rw [List.map_nil, commas, List.nil_append, List.append_assoc, List.singleton_append, entries,
      entriesFrom, nextKey_close hclose]
    rfl
  | @cons key text more s s' t p q hentry hmore =>
    refine Reads.of_eq fun rest _ => ?_
    have hlength : ((key, text) :: more).length <
        (commas (((key, text) :: more).map fun e => gap ++ entryText encode e) ++
          (close ++ ['\x7d']) ++ rest).length + 1 := by
      have := length_le_flatMap (f := (',' :: ·)) (fun _ => Nat.succ_pos _)
        (more.map fun e => gap ++ entryText encode e)
      simp only [List.length_map, List.length_append, List.map_cons, commas, List.length_cons,
        entryText] at *
      omega
    refine ⟨_, _, reads_entriesFrom hgap hclose h (.cons hentry hmore) hlength, ?_⟩
    simp only [List.map_cons, commas, List.append_assoc, List.flatMap_map, List.flatMap_cons,
      entryText, Text.quotedBy, List.cons_append, List.nil_append]
    rw [entries, entriesFrom_next h (nextKey_first hgap _),
      entriesFrom_next h (nextKey_comma hgap _)]

end Entries

/-! ### Structures -/

/-- A field that was not read yet is read after its key. -/
theorem reads_fieldByName {all : List (Field σ)} {get? : σ → Option α} {put : α → σ → σ}
    {name key : String} {others : Bool}
    (hfield : all.find? (fun field => field.name = key) = some (.of name get? put read))
    (hset : get? s = none) (h : Reads read text p a) :
    Reads (fieldByName all others s key) (':' :: text) p (put a s) := by
  refine Reads.of_eq fun rest _ => ⟨_, _, h.map (put · s), ?_⟩
  have hnew : (Field.of name get? put read).isSet s = false := by
    change (get? s).isSome = false
    rw [hset]
    rfl
  rw [fieldByName, hfield]
  dsimp only
  rw [hnew]
  rfl

/-- A structure is an object of its fields. -/
theorem reads_fields (h : ∀ c, StandsFor (encode c) c) {all : List (Field σ)} {others : Bool}
    {written : List (String × List Char)}
    (hentries : ReadsEntries (fieldByName all others) written s p t) :
    Reads (fields levels all others s)
      ('\x7b' :: (commas (written.map (entryText encode)) ++ ['\x7d'])) (0 < levels ∧ p) t := by
  refine .of_levels (fun hzero rest => ⟨_, if_pos hzero⟩) fun hlevels => .of_eq fun rest _ =>
    ⟨_, _, reads_entries isBlanks_nil isBlanks_nil h hentries, ?_⟩
  exact if_neg (Nat.ne_of_gt hlevels)

/-- An object is read back as what its fields make up. -/
theorem Reads.complete {finish? : σ → Option α} {readState : Read σ} (h : Reads readState text p s)
    (hfinish : finish? s = some a) : Reads (complete readState finish?) text p a where
  succeeds hp rest hrest := by
    rw [Json.complete, h.succeeds hp rest hrest]
    dsimp only
    rw [hfinish]
  fails hp rest hrest := by
    obtain ⟨d, hd⟩ := h.fails hp rest hrest
    exact ⟨d, by rw [Json.complete, hd]⟩

/-! ### Variants -/

section Variants

variable {named? : String → Option (Variant α)} {name : String}

/-- A variant without content is its name. -/
theorem reads_plain (h : ∀ c, StandsFor (encode c) c) (hname : named? name = some (.plain a)) :
    Reads (variant levels named?) (Text.quotedBy encode name) True a := by
  refine ⟨fun _ rest hrest => ?_, fun hp => absurd trivial hp⟩
  have hread := string_quoted h name rest
  change (string (Text.quotedBy encode name ++ rest)).bind _ = _
  rw [hread]
  dsimp only [Except.bind]
  rw [hname]
  rfl

/-- The closing brace behind something that was read. -/
def closed (a : α) : Read α := fun cs =>
  match skipBlanks cs with
  | [] => .error .ended
  | '\x7d' :: rest => .ok (a, rest)
  | _ => .error .malformed

/-- A variant with content is an object with the content under its name. -/
theorem reads_holding (h : ∀ c, StandsFor (encode c) c) {content : Read α}
    (hname : named? name = some (.holding content)) (hcontent : Reads content text p a) :
    Reads (variant levels named?) ('\x7b' :: (entryText encode (name, text) ++ ['\x7d']))
      (0 < levels ∧ p) a := by
  have hclosed : Reads (closed a) ['\x7d'] True a :=
    ⟨fun _ _ _ => rfl, fun hp => absurd trivial hp⟩
  have hboth := hcontent.andThen closed hclosed (ends_cons (.inr (.inr rfl)))
  rw [and_true] at hboth
  refine .of_levels (fun hzero rest => ⟨_, if_pos hzero⟩) fun hlevels => .of_eq fun rest _ =>
    ⟨_, _, hboth, ?_⟩
  rw [List.cons_append, entryText, List.append_assoc, List.append_assoc, List.append_assoc]
  change (if levels = 0 then _ else (string _).bind _) = _
  rw [if_neg (Nat.ne_of_gt hlevels), string_quoted h name]
  dsimp only [Except.bind]
  rw [hname]
  rfl

end Variants

/-! ### Whole texts -/

/-- Blanks may stand behind a whole text. -/
theorem Reads.whole_append (h : Reads read text p a) (hclose : IsBlanks close) :
    (p → Json.whole read (.ofList (text ++ close)) = .ok a) ∧
      (¬ p → ∃ d, Json.whole read (.ofList (text ++ close)) = .error d) := by
  have hnil : close ++ [] = close := List.append_nil close
  have hskip : skipBlanks close = [] := hnil ▸ skipBlanks_append hclose []
  have hends : Ends close := hnil ▸ hclose.ends ends_nil
  constructor
  · intro hp
    rw [Json.whole, String.toList_ofList, h.succeeds hp close hends]
    dsimp only
    rw [hskip]
    rfl
  · intro hp
    obtain ⟨d, hd⟩ := h.fails hp close hends
    exact ⟨d, by rw [Json.whole, String.toList_ofList, hd]⟩

/-- A text that is read back is so as a whole. -/
theorem Reads.whole (h : Reads read text p a) :
    (p → Json.whole read (.ofList text) = .ok a) ∧
      (¬ p → ∃ d, Json.whole read (.ofList text) = .error d) := by
  have hnil : text ++ [] = text := List.append_nil text
  have hwhole := h.whole_append isBlanks_nil
  rwa [hnil] at hwhole

end Json
end RecordFilter
