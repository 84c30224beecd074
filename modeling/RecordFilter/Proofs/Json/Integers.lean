/-
# Integers in JSON

A reader of JSON that keeps integers exact finds the number literals of a text by its characters
alone: outside of the strings, a literal starts with a digit or a minus sign, and goes on as long as
a number can (`Json.literals`).  In the JSON of a value these are the literals of its finite numbers
in order (`Json.hasLiterals_written`).  A literal without a point and an exponent is the number it
is written for, with one exception (`Json.literals_exact`): `2 ^ 63` is a double, but no integer of
64 bits with sign, and is written as the integer below it, which is no double
(`Json.not_exact_greatest`).
-/

import Mathlib
import RecordFilter.Proofs.Json.Indented
import RecordFilter.Proofs.Json.Nesting
import RecordFilter.Proofs.Number.Exact

namespace RecordFilter

namespace Value

mutual

/-- The finite numbers inside a value, in the order in which they are written. -/
def finiteNumbers : Value → List Float
  | number x => if x.isFinite then [x] else []
  | list items => finiteNumbersOfItems items
  | map fields => finiteNumbersOfFields fields
  | _ => []

/-- The finite numbers inside the items of a list. -/
def finiteNumbersOfItems : List Value → List Float
  | [] => []
  | v :: rest => v.finiteNumbers ++ finiteNumbersOfItems rest

/-- The finite numbers inside the fields of a map. -/
def finiteNumbersOfFields : List (String × Value) → List Float
  | [] => []
  | (_, v) :: rest => v.finiteNumbers ++ finiteNumbersOfFields rest

end

/-- The numbers of items are those of each. -/
theorem finiteNumbersOfItems_eq (items : List Value) :
    finiteNumbersOfItems items = items.flatMap finiteNumbers := by
  induction items with
  | nil => rfl
  | cons v items ih => rw [finiteNumbersOfItems, ih, List.flatMap_cons]

/-- The numbers of fields are those of each. -/
theorem finiteNumbersOfFields_eq (fields : List (String × Value)) :
    finiteNumbersOfFields fields = fields.flatMap fun f => f.2.finiteNumbers := by
  induction fields with
  | nil => rfl
  | cons f fields ih => rw [finiteNumbersOfFields, ih, List.flatMap_cons]

/-- The numbers that are listed are finite. -/
theorem isFinite_of_mem {v : Value} {x : Float} (h : x ∈ v.finiteNumbers) : x.isFinite = true := by
  induction v using induct with
  | null | absent | bool | string => cases h
  | number y =>
    rw [finiteNumbers] at h
    split at h
    · next hy =>
      obtain rfl := List.mem_singleton.1 h
      exact hy
    · cases h
  | list items ih =>
    rw [finiteNumbers, finiteNumbersOfItems_eq] at h
    obtain ⟨v, hv, hx⟩ := List.mem_flatMap.1 h
    exact ih v hv hx
  | map fields ih =>
    rw [finiteNumbers, finiteNumbersOfFields_eq] at h
    obtain ⟨f, hf, hx⟩ := List.mem_flatMap.1 h
    exact ih f hf hx

end Value

namespace Json

open Binary64 (toRat?)
open RecordFilter.Numeral (isDigit isDigit_of_mem_toDigits)

/-! ### Literals of a text -/

/-- Whether a character starts the literal of a number. -/
def startsLiteral (c : Char) : Bool := c = '-' || isDigit c

/-- Whether a character goes on with the literal of a number. -/
def continuesLiteral (c : Char) : Bool :=
  startsLiteral c || c ∈ ['.', '+', 'e', 'E']

/-- What the next character is part of, behind one more character. -/
def Place.next : Place → Char → Place
  | .escaped, _ => .inString
  | .inString, c => if c = '"' then .outside else if c = '\\' then .escaped else .inString
  | .outside, c => if c = '"' then .inString else .outside

/-- The literals of a text up to one of its characters. -/
structure LiteralScan where
  /-- What the next character is part of. -/
  place : Place
  /-- The literal that is open; empty if there is none. -/
  literal : List Char
  /-- The literals before that. -/
  closed : List (List Char)

namespace LiteralScan

/-- All literals, with the one that is open. -/
def all (s : LiteralScan) : List (List Char) :=
  if s.literal = [] then s.closed else s.closed ++ [s.literal]

/-- Whether a character is part of a literal. -/
def takes (s : LiteralScan) (c : Char) : Bool :=
  if s.literal = [] then startsLiteral c else continuesLiteral c

/-- The literals behind one more character. -/
def pass (s : LiteralScan) (c : Char) : LiteralScan :=
  if s.place ≠ .outside then { s with place := s.place.next c }
  else if s.takes c then { s with literal := s.literal ++ [c] }
  else ⟨s.place.next c, [], s.all⟩

end LiteralScan

/-- The literals of numbers in a text, in order. -/
def literals (text : List Char) : List (List Char) :=
  (text.foldl LiteralScan.pass ⟨.outside, [], []⟩).all

/-- The integer that a literal is, if it has no point and no exponent. -/
def integer? : List Char → Option ℤ
  | '-' :: ds => if ds ≠ [] ∧ ds.all isDigit then some (-Decimal.ofDigits ds) else none
  | ds => if ds ≠ [] ∧ ds.all isDigit then some (Decimal.ofDigits ds) else none

/-- A text has these literals, whatever was found before it, and no string is open behind it. -/
def HasLiterals (text : List Char) (ls : List (List Char)) : Prop :=
  ∀ closed, (text.foldl LiteralScan.pass ⟨.outside, [], closed⟩).place = .outside ∧
    (text.foldl LiteralScan.pass ⟨.outside, [], closed⟩).all = closed ++ ls

variable {α : Type} {c : Char} {cs text text' : List Char} {ls ls' : List (List Char)}
  {x : Float} {v : Value} {i n : ℤ}

/-- A text has the literals that are found in it. -/
theorem HasLiterals.literals (h : HasLiterals text ls) : literals text = ls := (h []).2

/-- An empty text has no literals. -/
theorem hasLiterals_nil : HasLiterals [] [] := fun closed => ⟨rfl, (List.append_nil closed).symm⟩

/-- Between literals stands a character that is part of none. -/
theorem HasLiterals.separated (h : HasLiterals text ls) (h' : HasLiterals text' ls')
    (hc : c ∈ [',', ':', '[', ']', '\x7b', '\x7d']) :
    HasLiterals (text ++ c :: text') (ls ++ ls') := by
  intro closed
  obtain ⟨hplace, hall⟩ := h closed
  obtain ⟨hplace', hall'⟩ := h' (closed ++ ls)
  have hpart : ∀ c ∈ [',', ':', '[', ']', '\x7b', '\x7d'], startsLiteral c = false ∧
      continuesLiteral c = false ∧ c ≠ '"' := by
    simp [startsLiteral, continuesLiteral, isDigit]
  obtain ⟨hstarts, hcontinues, hquote⟩ := hpart c hc
  have hpass : LiteralScan.pass (text.foldl LiteralScan.pass ⟨.outside, [], closed⟩) c =
      ⟨.outside, [], closed ++ ls⟩ := by
    simp only [LiteralScan.pass, LiteralScan.takes, Place.next, hplace, hstarts, hcontinues,
      hquote, ite_self, ne_eq, not_true_eq_false, Bool.false_eq_true, if_false, hall]
  rw [List.foldl_append, List.foldl_cons, hpass]
  exact ⟨hplace', hall'.trans (List.append_assoc _ _ _)⟩

/-- A text without quotes and digits has no literals. -/
theorem hasLiterals_plain (h : ∀ c ∈ text, startsLiteral c = false ∧ c ≠ '"') :
    HasLiterals text [] := by
  intro closed
  have hfold : text.foldl LiteralScan.pass ⟨.outside, [], closed⟩ = ⟨.outside, [], closed⟩ := by
    induction text with
    | nil => rfl
    | cons c text ih =>
      obtain ⟨⟨hstarts, hquote⟩, htext⟩ := List.forall_mem_cons.1 h
      have hpass : LiteralScan.pass ⟨.outside, [], closed⟩ c = ⟨.outside, [], closed⟩ := by
        simp only [LiteralScan.pass, LiteralScan.takes, LiteralScan.all, Place.next, if_true,
          hstarts, hquote, ne_eq, not_true_eq_false, Bool.false_eq_true, if_false]
      rw [List.foldl_cons, hpass, ih htext]
  rw [hfold]
  exact ⟨rfl, (List.append_nil closed).symm⟩

/-- A literal is found as a whole. -/
theorem hasLiterals_single (hc : startsLiteral c = true)
    (hcs : ∀ d ∈ cs, continuesLiteral d = true) : HasLiterals (c :: cs) [c :: cs] := by
  intro closed
  have hfold (ds : List Char) (hds : ∀ d ∈ ds, continuesLiteral d = true) (front : List Char)
      (hfront : front ≠ []) : ds.foldl LiteralScan.pass ⟨.outside, front, closed⟩ =
        ⟨.outside, front ++ ds, closed⟩ := by
    induction ds generalizing front with
    | nil => rw [List.foldl_nil, List.append_nil]
    | cons d ds ih =>
      obtain ⟨hd, hds⟩ := List.forall_mem_cons.1 hds
      have hpass : LiteralScan.pass ⟨.outside, front, closed⟩ d =
          ⟨.outside, front ++ [d], closed⟩ := by
        simp only [LiteralScan.pass, LiteralScan.takes, ne_eq, not_true_eq_false, if_false,
          if_neg hfront, hd, if_true]
      rw [List.foldl_cons, hpass, ih hds _ (by simp), List.append_assoc, List.singleton_append]
  have hfirst : LiteralScan.pass ⟨.outside, [], closed⟩ c = ⟨.outside, [c], closed⟩ := by
    simp only [LiteralScan.pass, LiteralScan.takes, ne_eq, not_true_eq_false, if_false, if_true,
      hc, List.nil_append]
  rw [List.foldl_cons, hfirst, hfold cs hcs [c] (List.cons_ne_nil _ _)]
  exact ⟨rfl, rfl⟩

/-- What stands in a string is no literal. -/
theorem hasLiterals_stringJson (s : String) : HasLiterals (Value.stringJson s) [] := by
  intro closed
  have hpasses : PassesStrings LiteralScan.pass ⟨.outside, [], closed⟩ ⟨.inString, [], closed⟩
      ⟨.escaped, [], closed⟩ ⟨.outside, [], closed⟩ := by
    refine ⟨rfl, fun c hquote hslash => ?_, rfl, fun c => rfl, rfl⟩
    simp [LiteralScan.pass, Place.next, hquote, hslash]
  rw [hpasses.stringJson]
  exact ⟨rfl, (List.append_nil closed).symm⟩

/-- What stands in a string and what belongs to a word is no literal. -/
example : literals "[-0.5e-7,\"1\\\"2\",true,30]".toList = ["-0.5e-7".toList, "30".toList] := by
  decide

/-- Items with commas between them have the literals of each. -/
theorem hasLiterals_commas {items : List α} {write : α → List Char} {found : α → List (List Char)}
    (h : ∀ a ∈ items, HasLiterals (write a) (found a)) :
    HasLiterals (commas (items.map write)) (items.flatMap found) := by
  have hmore {text : List Char} {ls : List (List Char)} (htext : HasLiterals text ls)
      {items : List α} (h : ∀ a ∈ items, HasLiterals (write a) (found a)) :
      HasLiterals (text ++ (items.map write).flatMap (',' :: ·)) (ls ++ items.flatMap found) := by
    induction items generalizing text ls with
    | nil => simpa using htext
    | cons a items ih =>
      obtain ⟨ha, hitems⟩ := List.forall_mem_cons.1 h
      have hnext := ih (htext.separated ha (c := ',') (by decide)) hitems
      simpa using hnext
  cases items with
  | nil => exact hasLiterals_nil
  | cons a items =>
    obtain ⟨ha, hitems⟩ := List.forall_mem_cons.1 h
    exact hmore ha hitems

/-- Brackets around a text are part of no literal. -/
theorem HasLiterals.enclosed {d : Char} (h : HasLiterals text ls)
    (hc : (c, d) ∈ [('[', ']'), ('\x7b', '\x7d')]) : HasLiterals (c :: (text ++ [d])) ls := by
  have hmem : ∀ p ∈ [('[', ']'), ('\x7b', '\x7d')],
      p.1 ∈ [',', ':', '[', ']', '\x7b', '\x7d'] ∧ p.2 ∈ [',', ':', '[', ']', '\x7b', '\x7d'] := by
    decide
  obtain ⟨hopen, hclose⟩ := hmem _ hc
  have hclosed := h.separated hasLiterals_nil hclose
  rw [List.append_nil] at hclosed
  exact hasLiterals_nil.separated hclosed hopen

/-- An entry has the literals of its value; its key has none. -/
theorem hasLiterals_entryText (key : String) (h : HasLiterals text ls) :
    HasLiterals (entryText Text.jsonChar (key, text)) ls :=
  (hasLiterals_stringJson key).separated h (by decide)

/-! ### Numbers -/

/-- A digit starts a literal. -/
theorem startsLiteral_of_isDigit (h : isDigit c = true) : startsLiteral c = true := by
  rw [startsLiteral, h, Bool.or_true]

/-- A digit goes on with a literal. -/
theorem continuesLiteral_of_isDigit (h : isDigit c = true) : continuesLiteral c = true := by
  rw [continuesLiteral, startsLiteral_of_isDigit h, Bool.true_or]

/-- A numeral is one literal. -/
theorem hasLiterals_written_numeral {n : Numeral} (h : n.IsProper) :
    HasLiterals n.written [n.written] := by
  obtain ⟨c, more, hwritten, hc⟩ := exists_written h
  have hstarts : startsLiteral c = true := by
    rcases hc with rfl | hc
    · rfl
    · exact startsLiteral_of_isDigit hc
  have hrun {ds : List Char} (hds : ds ≠ [] → RecordFilter.Numeral.IsRun ds) :
      ∀ d ∈ ds, continuesLiteral d = true := fun d hd =>
    continuesLiteral_of_isDigit ((hds (List.ne_nil_of_mem hd)).2 d hd)
  have hall : ∀ d ∈ n.written, continuesLiteral d = true := by
    intro d hd
    simp only [Numeral.written, List.mem_append] at hd
    rcases hd with hsign | hwhole | hfraction | hexponent
    · split at hsign
      · rw [List.mem_singleton.1 hsign]
        rfl
      · exact absurd hsign List.not_mem_nil
    · exact hrun (fun _ => h.whole) d hwhole
    · cases hdigits : n.fraction with
      | nil => exact absurd (hdigits ▸ hfraction) List.not_mem_nil
      | cons e es =>
        rw [hdigits] at hfraction
        rcases List.mem_cons.1 hfraction with rfl | hd
        · rfl
        · exact hrun h.fraction d (hdigits ▸ hd)
    · cases hpower : n.exponent with
      | none => exact absurd (hpower ▸ hexponent) List.not_mem_nil
      | some power =>
        obtain ⟨negative, ds⟩ := power
        rw [hpower] at hexponent
        rcases List.mem_cons.1 hexponent with rfl | hexponent
        · rfl
        · rcases List.mem_cons.1 hexponent with rfl | hd
          · cases negative <;> rfl
          · exact hrun (fun _ => h.exponent negative ds hpower) d hd
  rw [hwritten] at hall ⊢
  exact hasLiterals_single hstarts fun d hd => hall d (List.mem_cons_of_mem c hd)

/-- **The literals in the JSON of a value are those of its finite numbers**, in order. -/
theorem hasLiterals_written (v : Value) :
    HasLiterals (v.written Value.numberJson) (v.finiteNumbers.map Value.numberJson) := by
  have hwrites := writes_written Value.numberJson
  have hnull : HasLiterals ['n', 'u', 'l', 'l'] [] :=
    hasLiterals_plain (by simp [startsLiteral, isDigit])
  induction v using Value.induct with
  | null | absent => exact hnull
  | bool b =>
    rw [hwrites.bool]
    exact hasLiterals_plain (by cases b <;> simp [startsLiteral, isDigit])
  | number x =>
    rw [hwrites.number, Value.finiteNumbers]
    split
    · next hx =>
      obtain ⟨n, hproper, hwritten, -⟩ := Numeral.exists_numberJson hx
      rw [List.map_singleton, ← hwritten]
      exact hasLiterals_written_numeral hproper
    · next hx =>
      rw [numberJson_infinite (Bool.not_eq_true _ ▸ hx)]
      exact hnull
  | string s => exact hasLiterals_stringJson s
  | list items ih =>
    have hitems := (hasLiterals_commas ih).enclosed (c := '[') (d := ']') (by decide)
    rw [hwrites.list, Value.finiteNumbers, Value.finiteNumbersOfItems_eq, List.map_flatMap]
    exact hitems
  | map fields ih =>
    have hfields := (hasLiterals_commas fun f hf => hasLiterals_entryText f.1 (ih f hf)).enclosed
      (c := '\x7b') (d := '\x7d') (by decide)
    rw [hwrites.map, Value.finiteNumbers, Value.finiteNumbersOfFields_eq, List.map_flatMap,
      List.map_map]
    exact hfields

/-! ### Integers -/

/-- The text of an integer is read as it. -/
theorem integer?_integerText (n : ℤ) : integer? (Value.integerText n) = some n := by
  have hdigits (k : ℕ) : Nat.toDigits 10 k ≠ [] ∧ (Nat.toDigits 10 k).all isDigit = true :=
    ⟨Nat.toDigits_ne_nil, List.all_eq_true.2 fun d hd => isDigit_of_mem_toDigits hd⟩
  rw [Value.integerText]
  split
  · next hneg =>
    rw [List.singleton_append, integer?, if_pos (hdigits _), Decimal.ofDigits_toDigits]
    exact congrArg some (by omega)
  · next hpos =>
    rw [List.nil_append, integer?, if_pos (hdigits _), Decimal.ofDigits_toDigits]
    · exact congrArg some (by omega)
    · intro ds hds
      have hminus := (hdigits n.natAbs).2
      rw [hds] at hminus
      cases hminus

/-- A literal with a point or an exponent is no integer. -/
theorem integer?_eq_none (hc : c ∈ cs) (hdigit : isDigit c = false) (hminus : c ≠ '-') :
    integer? cs = none := by
  have hall {ds : List Char} (hmem : c ∈ ds) : ¬ (ds ≠ [] ∧ ds.all isDigit = true) := by
    rintro ⟨-, hds⟩
    rw [List.all_eq_true.1 hds c hmem] at hdigit
    cases hdigit
  unfold integer?
  split
  · exact if_neg (hall ((List.mem_cons.1 hc).resolve_left hminus))
  · exact if_neg (hall hc)

/-- A number that is written as a decimal has a point or an exponent. -/
theorem mem_renderDecimal (d : Decimal) :
    '.' ∈ Value.jsonLayout.renderDecimal d ∨ 'e' ∈ Value.jsonLayout.renderDecimal d := by
  simp only [Number.Layout.renderDecimal]
  split
  · exact .inl (Number.Layout.point_mem_plain _ _ (.inl rfl))
  · exact .inr (List.mem_append_right _ List.mem_cons_self)

/-- A number that is not written as an integer has a point or an exponent. -/
theorem mem_pointedText (hx : x.isFinite = true) :
    '.' ∈ Value.pointedText x ∨ 'e' ∈ Value.pointedText x := by
  rw [Value.pointedText, if_pos hx, Number.Layout.render, String.toList_ofList]
  change (Binary64.unpack x).isFinite = true at hx
  split
  · next h =>
    rw [h] at hx
    cases hx
  · next h =>
    rw [h] at hx
    cases hx
  · exact .inl (List.mem_append_right _ (Number.Layout.point_mem_plain _ _ (.inl rfl)))
  · exact (mem_renderDecimal _).imp (List.mem_append_right _) (List.mem_append_right _)

/-- The numbers that are written as integers, and the integers that are written for them. -/
theorem jsonInteger?_eq_some_iff : Value.jsonInteger? x = some n ↔
    ∃ i : ℤ, toRat? x = some (i : ℚ) ∧ (-2 ^ 63 ≤ i ∧ i ≤ 2 ^ 63) ∧ n = min i (2 ^ 63 - 1) := by
  simp only [← Binary64.whole?_eq_some_iff, Value.jsonInteger?]
  constructor
  · intro h
    split at h
    · next i hi =>
      split at h
      · next hrange => exact ⟨i, hi, hrange, (Option.some.inj h).symm⟩
      · cases h
    · cases h
  · rintro ⟨i, hi, hrange, rfl⟩
    rw [hi]
    exact if_pos hrange

/-- What holds of the literal that is written for a number. -/
structure IsWrittenAs (x : Float) (literal : List Char) : Prop where
  /-- It is an integer for the whole numbers from `-2 ^ 63` to `2 ^ 63`, and for no others. -/
  integer : (∃ n, integer? literal = some n) ↔
    ∃ i : ℤ, toRat? x = some (i : ℚ) ∧ -2 ^ 63 ≤ i ∧ i ≤ 2 ^ 63
  /-- That integer is the number, unless it is the greatest of them. -/
  exact : toRat? x ≠ some (2 ^ 63) → ∀ n, integer? literal = some n → toRat? x = some (n : ℚ)
  /-- For the greatest the integer below it is written. -/
  greatest : toRat? x = some (2 ^ 63) → integer? literal = some (2 ^ 63 - 1)
  /-- A zero is written without a sign. -/
  zero : toRat? x = some 0 → literal = ['0']

/-- A finite number is written as its integer if it is one of 64 bits, and else as no integer. -/
theorem isWrittenAs_numberJson (hx : x.isFinite = true) :
    IsWrittenAs x (Value.numberJson x) := by
  rw [Value.numberJson]
  split
  · next n hn =>
    obtain ⟨i, hi, hrange, rfl⟩ := jsonInteger?_eq_some_iff.1 hn
    have hliteral := integer?_integerText (min i (2 ^ 63 - 1))
    refine ⟨iff_of_true ⟨_, hliteral⟩ ⟨i, hi, hrange⟩, fun hless n hn => ?_, fun hgreatest => ?_,
      fun hzero => ?_⟩
    · have hne : i ≠ 2 ^ 63 := by
        rintro rfl
        exact hless hi
      obtain rfl : min i (2 ^ 63 - 1) = n := Option.some.inj (hliteral.symm.trans hn)
      rw [hi, min_eq_left (by omega)]
    · obtain rfl : i = 2 ^ 63 := by
        have hcast := Option.some.inj (hi.symm.trans hgreatest)
        exact_mod_cast hcast
      exact hliteral
    · obtain rfl : i = 0 := by
        have hcast := Option.some.inj (hi.symm.trans hzero)
        exact_mod_cast hcast
      rfl
  · next hnone =>
    have hliteral (n : ℤ) : integer? (Value.pointedText x) ≠ some n := by
      have hnone : integer? (Value.pointedText x) = none := by
        rcases mem_pointedText hx with h | h
        · exact integer?_eq_none h rfl (by decide)
        · exact integer?_eq_none h rfl (by decide)
      rw [hnone]
      exact (Option.some_ne_none n).symm
    have hrange {i : ℤ} (hi : toRat? x = some (i : ℚ)) : ¬ (-2 ^ 63 ≤ i ∧ i ≤ 2 ^ 63) := by
      intro h
      rw [jsonInteger?_eq_some_iff.2 ⟨i, hi, h, rfl⟩] at hnone
      cases hnone
    have hwhole : ¬ ∃ i : ℤ, toRat? x = some (i : ℚ) ∧ -2 ^ 63 ≤ i ∧ i ≤ 2 ^ 63 :=
      not_exists.2 fun i hi => hrange hi.1 hi.2
    refine ⟨iff_of_false (not_exists.2 hliteral) hwhole,
      fun _ n hn => absurd hn (hliteral n), fun hgreatest => ?_, fun hzero => ?_⟩
    · exact absurd ⟨by decide, le_rfl⟩ (hrange (i := 2 ^ 63) (by exact_mod_cast hgreatest))
    · exact absurd ⟨by decide, by decide⟩ (hrange (i := 0) (by exact_mod_cast hzero))

/-- **Integers in JSON are exact, but for one.**  The literals in the JSON of a value are written
for its finite numbers, one for each in order.  Those of whole numbers from `-2 ^ 63` to `2 ^ 63`
are integers, and are the numbers that they are written for, except that `2 ^ 63 - 1` is written
for `2 ^ 63`. -/
theorem literals_exact (v : Value) :
    List.Forall₂ IsWrittenAs v.finiteNumbers (literals v.toJson.toList) := by
  rw [Value.toJson, String.toList_ofList, (hasLiterals_written v).literals,
    List.forall₂_map_right_iff, List.forall₂_same]
  exact fun x hx => isWrittenAs_numberJson (Value.isFinite_of_mem hx)

/-- The double above all integers of 64 bits with sign is written as the greatest of these. -/
theorem not_exact_greatest :
    ¬ ∀ v : Value, List.Forall₂
      (fun x literal => ∀ n : ℤ, integer? literal = some n → toRat? x = some (n : ℚ))
      v.finiteNumbers (literals v.toJson.toList) := by
  intro h
  have hdouble : toRat? (Binary64.ofInt (2 ^ 63)) = some ((2 ^ 63 : ℤ) : ℚ) :=
    Binary64.toRat?_ofInt ⟨1, 63, by decide, by decide, by decide, by norm_num [Binary64.size]⟩
  have hfinite : (Binary64.ofInt (2 ^ 63)).isFinite = true := by
    rw [← Bool.not_eq_false, ← Binary64.toRat?_eq_none_iff, hdouble]
    exact Option.some_ne_none _
  have hliteral : integer? (Value.numberJson (Binary64.ofInt (2 ^ 63))) = some (2 ^ 63 - 1) := by
    rw [Value.numberJson_whole (Binary64.whole?_eq_some_iff.2 hdouble) (by decide)]
    exact integer?_integerText _
  have hexact := h (.number (Binary64.ofInt (2 ^ 63)))
  rw [Value.toJson, String.toList_ofList, (hasLiterals_written _).literals, Value.finiteNumbers,
    if_pos hfinite, List.map_singleton, List.forall₂_cons] at hexact
  have hless := hexact.1 _ hliteral
  rw [hdouble, Option.some.injEq, Int.cast_inj] at hless
  cases hless

end Json
end RecordFilter
