/-
# Values read back

Values have two texts that are read back: their JSON and the text in which they are shown.  The two
write strings and numbers in different ways and are otherwise one (`Json.Writes`), so one induction
on the value, for every number of levels that may be read (`Json.IsReadAs`), holds of both.  What is
read is the value without the signs of its zeros, which equals the value
(`Value.ofJson_written`).
-/

import Mathlib
import RecordFilter.Proofs.Json.Structure
import RecordFilter.Proofs.Number.Decimal
import RecordFilter.Proofs.Value.Equality

namespace RecordFilter

namespace Json

/-- A way to write values that is JSON, apart from the characters of strings and the numbers. -/
structure Writes (encode : Char → List Char) (number : Float → List Char)
    (write : Value → List Char) : Prop where
  char : ∀ c, StandsFor (encode c) c
  null : write .null = ['n', 'u', 'l', 'l']
  bool : ∀ b, write (.bool b) = if b then ['t', 'r', 'u', 'e'] else ['f', 'a', 'l', 's', 'e']
  number : ∀ x, write (.number x) = number x
  string : ∀ s, write (.string s) = Text.quotedBy encode s
  list : ∀ items, write (.list items) = '[' :: (commas (items.map write) ++ [']'])
  map : ∀ fields, write (.map fields) =
    '\x7b' :: (commas ((fields.map fun f => (f.1, write f.2)).map (entryText encode)) ++ ['\x7d'])

/-- The compact writer writes arrays and objects without blanks. -/
theorem writes_written (number : Float → List Char) :
    Writes Text.jsonChar number (Value.written number) where
  char := standsFor_jsonChar
  null := rfl
  bool b := by cases b <;> rfl
  number _ := rfl
  string _ := rfl
  list items := by
    have hitems := eq_commas (Value.writtenItems number) (Value.written number) rfl (fun _ => rfl)
      (fun _ _ _ => rfl) items
    exact congrArg (fun text => '[' :: (text ++ [']'])) hitems
  map fields := by
    have hfields := eq_commas (Value.writtenFields number)
      (fun f => entryText Text.jsonChar (f.1, f.2.written number)) rfl (fun _ => rfl)
      (fun _ _ _ => (List.append_assoc _ (':' :: _) _).symm) fields
    rw [List.map_map]
    exact congrArg (fun text => '\x7b' :: (text ++ ['\x7d'])) hfields

/-- What is shown of a value is written without blanks, too. -/
theorem writes_shown :
    Writes Text.shownChar (fun x => (Value.numberText x).toList) Value.shown where
  char := standsFor_shownChar
  null := rfl
  bool b := by cases b <;> rfl
  number _ := rfl
  string _ := rfl
  list items := by
    have hitems := eq_commas Value.shownItems Value.shown rfl (fun _ => rfl)
      (fun _ _ _ => rfl) items
    exact congrArg (fun text => '[' :: (text ++ [']'])) hitems
  map fields := by
    have hfields := eq_commas Value.shownFields
      (fun f => entryText Text.shownChar (f.1, f.2.shown)) rfl (fun _ => rfl)
      (fun _ _ _ => (List.append_assoc _ (':' :: _) _).symm) fields
    rw [List.map_map]
    exact congrArg (fun text => '\x7b' :: (text ++ ['\x7d'])) hfields

/-! ### Single values -/

/-- Whether a text is read as `w` exactly if there is a level left for each of those of `v`. -/
structure IsReadAs (text : List Char) (v w : Value) : Prop where
  /-- The text starts as a value does. -/
  starts : Starts text
  /-- The text is read, or refused. -/
  reads : ∀ levels, Reads (value levels) text (v.depth ≤ levels) w

variable {c : Char} {text rest gap close lead : List Char} {levels bound : Nat} {v w : Value}
  {n : Numeral} {x : Float} {encode : Char → List Char}

/-- What has no levels is read at any level. -/
theorem IsReadAs.single (hstarts : Starts text) (hdepth : v.depth = 0)
    (h : ∀ levels, Reads (value levels) text True w) : IsReadAs text v w :=
  ⟨hstarts, fun levels => (h levels).congr (iff_true_intro (hdepth ▸ Nat.zero_le levels))⟩

/-- What is no array and no object is read at any level. -/
theorem value_single (hblank : isBlank c = false) (hc : c ≠ '[' ∧ c ≠ '\x7b') (levels : Nat)
    (rest : List Char) : value levels (c :: rest) = single (c :: rest) := by
  cases levels
  all_goals
    unfold value
    rw [skipBlanks_cons hblank]
    split
    · next h => exact absurd (List.cons.inj h).1 hc.1
    · next h => exact absurd (List.cons.inj h).1 hc.2
    · rfl

/-- The word `null` is read as null. -/
theorem isReadAs_null (hdepth : v.depth = 0) : IsReadAs ['n', 'u', 'l', 'l'] v .null :=
  .single ⟨_, _, rfl, by decide, by decide⟩ hdepth fun levels =>
    ⟨fun _ _ _ => value_single (by decide) (by decide) levels _, fun hp => absurd trivial hp⟩

/-- A truth value is read as it. -/
theorem isReadAs_bool (b : Bool) :
    IsReadAs (if b then ['t', 'r', 'u', 'e'] else ['f', 'a', 'l', 's', 'e']) (.bool b)
      (.bool b) := by
  cases b
  all_goals
    refine .single ⟨_, _, rfl, by decide, by decide⟩ rfl fun levels =>
      ⟨fun _ _ _ => ?_, fun hp => absurd trivial hp⟩
    exact value_single (by decide) (by decide) levels _

/-- A string in quotes is read as it. -/
theorem isReadAs_string (h : ∀ c, StandsFor (encode c) c) (s : String) :
    IsReadAs (Text.quotedBy encode s) (.string s) (.string s) := by
  refine .single ⟨_, _, rfl, by decide, by decide⟩ rfl fun levels =>
    .of_eq fun rest _ => ⟨_, _, (reads_string h s).map Value.string, ?_⟩
  exact value_single (by decide) (by decide) levels _

/-- A number starts with a sign or a digit. -/
theorem exists_written (h : n.IsProper) :
    ∃ c more, n.written = c :: more ∧ (c = '-' ∨ RecordFilter.Numeral.isDigit c = true) := by
  obtain ⟨d, ds, hds⟩ := List.exists_cons_of_ne_nil h.whole.1
  rw [Numeral.written, hds]
  split
  · exact ⟨'-', _, rfl, .inl rfl⟩
  · exact ⟨d, _, rfl, .inr (h.whole.2 d (hds ▸ List.mem_cons_self))⟩

/-- A sign or a digit is the start of a number. -/
theorem single_number (h : c = '-' ∨ RecordFilter.Numeral.isDigit c = true) (rest : List Char) :
    single (c :: rest) = (number (c :: rest)).map fun ((_, x), cs) => (.number x, cs) := by
  have hne {d : Char} (hd : ¬ (d = '-' ∨ RecordFilter.Numeral.isDigit d = true)) : c ≠ d :=
    fun he => hd (he ▸ h)
  unfold single
  split
  · next h => cases h
  · next h => exact absurd (List.cons.inj h).1 (hne (by decide))
  · next h => exact absurd (List.cons.inj h).1 (hne (by decide))
  · next h => exact absurd (List.cons.inj h).1 (hne (by decide))
  · next h => exact absurd (List.cons.inj h).1 (hne (by decide))
  · next hcons =>
    cases hcons
    rw [if_pos h]

/-- A proper number is read as its value. -/
theorem isReadAs_number (h : n.IsProper) (hx : n.value? = some x) (y : Float) :
    IsReadAs n.written (.number y) (.number x) := by
  obtain ⟨c, more, htext, hc⟩ := exists_written h
  have hne {d : Char} (hd : ¬ (d = '-' ∨ RecordFilter.Numeral.isDigit d = true)) : c ≠ d :=
    fun he => hd (he ▸ hc)
  have hblank : isBlank c = false := by
    simp only [isBlank, Bool.or_eq_false_iff, beq_eq_false_iff_ne]
    exact ⟨⟨⟨hne (by decide), hne (by decide)⟩, hne (by decide)⟩, hne (by decide)⟩
  refine .single ⟨c, more, htext, hblank, hne (by decide)⟩ rfl fun levels =>
    ⟨fun _ rest hrest => ?_, fun hp => absurd trivial hp⟩
  have hread := number_written h hx hrest
  rw [htext, List.cons_append] at hread ⊢
  rw [value_single hblank ⟨hne (by decide), hne (by decide)⟩, single_number hc, hread]
  rfl

/-! ### Lists and maps -/

/-- Blanks in front of a value are passed over. -/
theorem value_append (hlead : IsBlanks lead) (levels : Nat) (cs : List Char) :
    value levels (lead ++ cs) = value levels cs := by
  cases levels
  all_goals
    unfold value
    rw [skipBlanks_append hlead]

/-- A field that is not there yet becomes the last one. -/
theorem putField_new {name : String} {w : Value} {fields : List (String × Value)}
    (h : name ∉ fields.map Prod.fst) : Value.putField name w fields = fields ++ [(name, w)] := by
  induction fields with
  | nil => rfl
  | cons f fields ih =>
    obtain ⟨hf, hfields⟩ := not_or.1 (mt List.mem_cons.2 h)
    rw [Value.putField, if_neg (Ne.symm hf), ih hfields]
    rfl

/-- Fields with distinct names are put behind those that are there. -/
theorem foldl_putField_new {fields : List (String × Value)} (read : String × Value → Value)
    (before : List (String × Value))
    (hdistinct : (before.map Prod.fst ++ fields.map Prod.fst).Nodup) :
    fields.foldl (fun all f => Value.putField f.1 (read f) all) before =
      before ++ fields.map fun f => (f.1, read f) := by
  induction fields generalizing before with
  | nil => exact (List.append_nil before).symm
  | cons f fields ih =>
    have hnew : f.1 ∉ before.map Prod.fst := fun hmem =>
      (List.nodup_append.1 hdistinct).2.2 f.1 hmem f.1 List.mem_cons_self rfl
    have hmore := ih (before ++ [(f.1, read f)]) (by rwa [List.map_append, List.append_assoc])
    rw [List.foldl_cons, putField_new hnew, hmore, List.append_assoc]
    rfl

/-- An entry is read as its field, put with those that were read. -/
theorem reads_valueEntry (name : String) (fields : List (String × Value)) {w : Value} {p : Prop}
    (hlead : IsBlanks lead) (h : Reads (value levels) text p w) :
    Reads (valueEntry (value levels) fields name) (':' :: (lead ++ text)) p
      (Value.putField name w fields) := by
  refine .of_eq fun rest _ => ⟨_, _, h.map (Value.putField name · fields), ?_⟩
  have hcolon : (colon (':' :: (lead ++ text) ++ rest)).bind (value levels) =
      value levels (text ++ rest) := by
    rw [← value_append hlead, ← List.append_assoc]
    rfl
  rw [valueEntry, hcolon]
  cases value levels (text ++ rest) <;> rfl

/-- The fields of a map are read in order, and each is put with those that were read. -/
theorem readsEntries_fields {fields : List (String × Value)} {write : Value → List Char}
    (hlead : IsBlanks lead) (read : String × Value → Value) (before : List (String × Value))
    (h : ∀ f ∈ fields, Reads (value levels) (write f.2) (f.2.depth ≤ levels) (read f)) :
    ReadsEntries (valueEntry (value levels)) (fields.map fun f => (f.1, lead ++ write f.2)) before
      (∀ f ∈ fields, f.2.depth ≤ levels)
      (fields.foldl (fun all f => Value.putField f.1 (read f) all) before) := by
  induction fields generalizing before with
  | nil =>
    have hnone : (∀ f ∈ ([] : List (String × Value)), f.2.depth ≤ levels) = True :=
      eq_true fun _ hf => absurd hf List.not_mem_nil
    rw [hnone]
    exact .nil before
  | cons f fields ih =>
    obtain ⟨hf, hfields⟩ := List.forall_mem_cons.1 h
    have hall : (∀ g ∈ f :: fields, g.2.depth ≤ levels) =
        (f.2.depth ≤ levels ∧ ∀ g ∈ fields, g.2.depth ≤ levels) :=
      propext List.forall_mem_cons
    rw [hall]
    exact .cons (reads_valueEntry f.1 before hlead hf) (ih _ hfields)

section Spaced

variable (hgap : IsBlanks gap) (hclose : IsBlanks close)
include hgap hclose

/-- A list is read as that of what its items are read as. -/
theorem isReadAs_list {items : List Value} {write : Value → List Char} {read : Value → Value}
    (h : ∀ v ∈ items, IsReadAs (write v) v (read v)) :
    IsReadAs ('[' :: (commas (items.map fun v => gap ++ write v) ++ (close ++ [']'])))
      (.list items) (.list (items.map read)) := by
  refine ⟨⟨_, _, rfl, by decide, by decide⟩, fun levels => ?_⟩
  cases levels with
  | zero =>
    refine Reads.refused (fun rest => ⟨_, rfl⟩) ?_
    rw [Value.depth]
    exact Nat.not_succ_le_zero _
  | succ levels =>
    have hitems := reads_elements hgap hclose fun v hv => ⟨(h v hv).starts, (h v hv).reads levels⟩
    refine (Reads.of_eq fun rest _ => ⟨_, _, hitems.map Value.list, rfl⟩).congr ?_
    rw [Value.depth, Nat.succ_le_succ_iff, Value.depthOfItems_le]

/-- A map is read as that of what its fields are read as, the last one of each name. -/
theorem isReadAs_map (hlead : IsBlanks lead) (hencode : ∀ c, StandsFor (encode c) c)
    {fields : List (String × Value)} {write : Value → List Char} (read : String × Value → Value)
    (h : ∀ f ∈ fields, IsReadAs (write f.2) f.2 (read f)) :
    IsReadAs
      ('\x7b' :: (commas ((fields.map fun f => (f.1, lead ++ write f.2)).map fun e =>
        gap ++ entryText encode e) ++ (close ++ ['\x7d'])))
      (.map fields) (.map (fields.foldl (fun all f => Value.putField f.1 (read f) all) [])) := by
  refine ⟨⟨_, _, rfl, by decide, by decide⟩, fun levels => ?_⟩
  cases levels with
  | zero =>
    refine Reads.refused (fun rest => ⟨_, rfl⟩) ?_
    rw [Value.depth]
    exact Nat.not_succ_le_zero _
  | succ levels =>
    have hfields := reads_entries hgap hclose hencode
      (readsEntries_fields hlead read [] fun f hf => (h f hf).reads levels)
    refine (Reads.of_eq fun rest _ => ⟨_, _, hfields.map Value.map, rfl⟩).congr ?_
    rw [Value.depth, Nat.succ_le_succ_iff, Value.depthOfFields_le]

end Spaced

/-! ### Values -/

end Json

/-- The value is not absent, and if it is a number, it is a whole number of at most `bound`. -/
def Value.WholeWithin (bound : Nat) : Value → Prop
  | absent => False
  | number x => ∃ n, Binary64.whole? x = some n ∧ n.natAbs ≤ bound
  | _ => True

namespace Json

section Values

variable {number : Float → List Char} {write : Value → List Char}

/-- A value is read back exactly if there is a level left for each of its own. -/
theorem isReadAs_unsignedZeros (hwrite : Writes encode number write) (hbound : bound ≤ 2 ^ 63)
    (hnumber : ∀ x i, Binary64.whole? x = some i → i.natAbs ≤ bound →
      number x = Value.integerText (min i (2 ^ 63 - 1)))
    (hwhole : v.Everywhere (Value.WholeWithin bound)) (hkeys : v.KeysDistinct) :
    IsReadAs (write v) v v.unsignedZeros := by
  induction v using Value.induct with
  | null =>
    rw [hwrite.null]
    exact isReadAs_null rfl
  | absent => exact hwhole.holds.elim
  | bool b =>
    rw [hwrite.bool]
    exact isReadAs_bool b
  | number x =>
    obtain ⟨i, hx, hi⟩ := hwhole.holds
    rw [hwrite.number, hnumber x i hx hi, ← Numeral.written_ofInt]
    exact isReadAs_number (Numeral.isProper_ofInt _)
      (Numeral.value?_integer hx (Nat.le_trans hi hbound)) x
  | string s =>
    rw [hwrite.string]
    exact isReadAs_string hwrite.char s
  | list items ih =>
    rw [hwrite.list, Value.unsignedZeros_list]
    rw [Value.KeysDistinct, Value.allKeysDistinct_iff] at hkeys
    exact isReadAs_list isBlanks_nil isBlanks_nil fun v hv =>
      ih v hv (hwhole.inside v hv) (hkeys v hv)
  | map fields ih =>
    rw [Value.KeysDistinct, Value.fieldsKeysDistinct_iff] at hkeys
    have hfields := isReadAs_map isBlanks_nil isBlanks_nil isBlanks_nil hwrite.char
      (fun f => f.2.unsignedZeros) fun f hf =>
        ih f hf (hwhole.inside f.2 (List.mem_map_of_mem hf)) (hkeys.2 f hf)
    rw [foldl_putField_new (fun f => f.2.unsignedZeros) [] hkeys.1] at hfields
    rw [hwrite.map, Value.unsignedZeros_map]
    exact hfields

end Values

end Json

namespace Value

/-- A whole number within 64 bits is written as an integer, the greatest one as one less. -/
theorem numberJson_whole {x : Float} {i : Int} (h : Binary64.whole? x = some i)
    (hi : i.natAbs ≤ 2 ^ 63) : numberJson x = integerText (min i (2 ^ 63 - 1)) := by
  rw [numberJson, jsonInteger?, h]
  dsimp only
  rw [if_pos (by omega)]

/-- What is read back of the JSON of a value, if there are levels enough. -/
theorem reads_written {v : Value} (hwhole : v.Everywhere (WholeWithin (2 ^ 63)))
    (hkeys : v.KeysDistinct) (levels : Nat) :
    Json.Reads (Json.value levels) (v.written numberJson) (v.depth ≤ levels) v.unsignedZeros :=
  (Json.isReadAs_unsignedZeros (Json.writes_written numberJson) (Nat.le_refl _)
    (fun _ _ => numberJson_whole) hwhole hkeys).reads levels

/-- What is shown of a value is read back, if levels are left for it. -/
theorem reads_shown {v : Value} (hwhole : v.Everywhere (WholeWithin (2 ^ 53)))
    (hkeys : v.KeysDistinct) (levels : Nat) :
    Json.Reads (Json.value levels) v.shown (v.depth ≤ levels) v.unsignedZeros := by
  refine (Json.isReadAs_unsignedZeros Json.writes_shown (by decide) (fun x i hx hi => ?_) hwhole
    hkeys).reads levels
  rw [numberText_whole hx hi, Int.min_eq_left (by omega)]

/-- **Values are read back as equal values.**  A value in which nothing is absent and all numbers
are whole is read back from its JSON, and from the text in which it is shown, as an equal value with
the fields of every map in the same order, if it nests no deeper than JSON is read.  In JSON the
numbers may be as large as an integer of 64 bits with sign, and in the text as large as the numbers
that a double counts one by one. -/
theorem ofJson_written (v : Value) (hkeys : v.KeysDistinct) (hdepth : v.depth ≤ 127) :
    (v.Everywhere (WholeWithin (2 ^ 63)) →
      ∃ w, ofJson v.toJson = .ok w ∧ (w == v) = true ∧ SameOrder w v) ∧
    (v.Everywhere (WholeWithin (2 ^ 53)) →
      ∃ w, ofJson v.text = .ok w ∧ (w == v) = true ∧ SameOrder w v) := by
  have hequal := unsignedZeros_beq hkeys
  have horder := sameOrder_unsignedZeros v
  exact ⟨fun h => ⟨_, (reads_written h hkeys _).whole.1 hdepth, hequal, horder⟩,
    fun h => ⟨_, (reads_shown h hkeys _).whole.1 hdepth, hequal, horder⟩⟩

/-- A map with a list in it, a control character in a name, and a zero with a sign. -/
theorem ofJson_written_map :
    let v : Value := .map [("\x08\"", .list [.number (Binary64.ofInt (-12)), .null]),
      ("a", .number Binary64.negativeZero)]
    v.KeysDistinct ∧ v.depth ≤ 127 ∧ v.Everywhere (WholeWithin (2 ^ 53)) ∧
      v.toJson = "\x7b\"\\b\\\"\":[-12,null],\"a\":0\x7d" ∧
      v.text = "\x7b\"\\u0008\\\"\":[-12,null],\"a\":0\x7d" ∧
      ∃ w, ofJson v.text = .ok w ∧ (w == v) = true ∧ SameOrder w v := by
  intro v
  have hkeys : v.KeysDistinct := by
    simp [v, KeysDistinct, FieldsKeysDistinct, AllKeysDistinct]
  have hdepth : v.depth ≤ 127 := by decide
  have hwhole : v.Everywhere (WholeWithin (2 ^ 53)) := by
    have hitem : (number (Binary64.ofInt (-12))).Everywhere (WholeWithin (2 ^ 53)) :=
      .single ⟨-12, rfl, by decide⟩ rfl
    have hzero : (number Binary64.negativeZero).Everywhere (WholeWithin (2 ^ 53)) :=
      .single ⟨0, rfl, by decide⟩ rfl
    have hlist : (list [number (Binary64.ofInt (-12)), null]).Everywhere (WholeWithin (2 ^ 53)) :=
      .intro trivial (List.forall_mem_cons.2 ⟨hitem,
        List.forall_mem_singleton.2 (.single trivial rfl)⟩)
    exact .intro trivial (List.forall_mem_cons.2 ⟨hlist, List.forall_mem_singleton.2 hzero⟩)
  exact ⟨hkeys, hdepth, hwhole, by decide +kernel, by decide +kernel,
    (ofJson_written v hkeys hdepth).2 hwhole⟩

end Value
end RecordFilter
