/-
# How deep a text nests

The levels of a text are counted from the text alone: each bracket outside of the strings opens or
closes one (`Json.nesting`).  A text that closes what it opens adds to the levels around it and
leaves them as they are (`Nests`), so levels are counted part by part, and the JSON of a value has
those of its lists and maps (`nests_written`).
-/

import Mathlib
import RecordFilter.Proofs.Json.Value

namespace RecordFilter
namespace Json

/-- What a character of a text is part of. -/
inductive Place where
  /-- Something outside of strings. -/
  | outside
  /-- A string. -/
  | inString
  /-- An escape, of which the backslash is passed. -/
  | escaped
deriving DecidableEq, Repr

/-- The levels of a text up to one of its characters. -/
structure Levels where
  /-- What the next character is part of. -/
  place : Place
  /-- The arrays and objects that are open. -/
  level : Nat
  /-- The most of them that were open at once. -/
  deepest : Nat
deriving DecidableEq, Repr

/-- The levels behind one more character. -/
def Levels.pass (s : Levels) (c : Char) : Levels :=
  match s.place with
  | .escaped => { s with place := .inString }
  | .inString =>
    if c = '"' then { s with place := .outside }
    else if c = '\\' then { s with place := .escaped }
    else s
  | .outside =>
    if c = '"' then { s with place := .inString }
    else if c = '[' ∨ c = '\x7b' then
      { s with level := s.level + 1, deepest := max s.deepest (s.level + 1) }
    else if c = ']' ∨ c = '\x7d' then { s with level := s.level - 1 }
    else s

/-- The number of arrays and objects that a text has inside each other. -/
def nesting (text : List Char) : Nat := (text.foldl Levels.pass ⟨.outside, 0, 0⟩).deepest

/-- A text has `n` levels and closes each of them. -/
def Nests (text : List Char) (n : Nat) : Prop :=
  ∀ level deepest, level ≤ deepest →
    text.foldl Levels.pass ⟨.outside, level, deepest⟩ = ⟨.outside, level, max deepest (level + n)⟩

variable {β : Type} {c d : Char} {text text' : List Char} {n m : Nat}

namespace Nests

/-- A text that nests some levels has this nesting. -/
theorem nesting_eq (h : Nests text n) : nesting text = n := by
  rw [nesting, h 0 0 (Nat.le_refl 0)]
  simp

/-- A text nests as many levels as another count gives. -/
theorem congr (h : Nests text n) (hm : m = n) : Nests text m := hm ▸ h

/-- Texts behind each other nest as deep as the deeper one. -/
theorem append (h : Nests text n) (h' : Nests text' m) : Nests (text ++ text') (max n m) := by
  intro level deepest hle
  rw [List.foldl_append, h level deepest hle, h' level _ (by omega), Levels.mk.injEq]
  exact ⟨rfl, rfl, by omega⟩

/-- A level around a text. -/
theorem enclosed (h : Nests text n) (hc : (c, d) ∈ [('[', ']'), ('\x7b', '\x7d')]) :
    Nests (c :: (text ++ [d])) (n + 1) := by
  intro level deepest hle
  have hopen : Levels.pass ⟨.outside, level, deepest⟩ c =
      ⟨.outside, level + 1, max deepest (level + 1)⟩ := by
    simp only [List.mem_cons, Prod.mk.injEq, List.not_mem_nil, or_false] at hc
    rcases hc with ⟨rfl, -⟩ | ⟨rfl, -⟩ <;> rfl
  have hclose (deepest : Nat) : Levels.pass ⟨.outside, level + 1, deepest⟩ d =
      ⟨.outside, level, deepest⟩ := by
    simp only [List.mem_cons, Prod.mk.injEq, List.not_mem_nil, or_false] at hc
    rcases hc with ⟨-, rfl⟩ | ⟨-, rfl⟩ <;> rfl
  rw [List.foldl_cons, hopen, List.foldl_append, h _ _ (by omega), List.foldl_cons, hclose,
    List.foldl_nil, Levels.mk.injEq]
  exact ⟨rfl, rfl, by omega⟩

end Nests

/-- A text without quotes and brackets has no levels. -/
theorem nests_plain (h : ∀ c ∈ text, c ∉ ['"', '[', ']', '\x7b', '\x7d']) : Nests text 0 := by
  intro level deepest hle
  induction text with
  | nil => rw [List.foldl_nil, Nat.add_zero, Nat.max_eq_left hle]
  | cons c text ih =>
    obtain ⟨hc, htext⟩ := List.forall_mem_cons.1 h
    simp only [List.mem_cons, List.not_mem_nil, or_false, not_or] at hc
    have hpass : Levels.pass ⟨.outside, level, deepest⟩ c = ⟨.outside, level, deepest⟩ := by
      simp only [Levels.pass, hc, or_self, if_false]
    rw [List.foldl_cons, hpass, ih htext]

/-- A hexadecimal digit ends no string and starts no escape. -/
theorem digitChar_ne : ∀ n < 16, Nat.digitChar n ≠ '"' ∧ Nat.digitChar n ≠ '\\' := by
  decide

/-- What is counted along a text passes over the strings in it: inside of a string only a quote and
a backslash are seen, and behind a backslash nothing is. -/
structure PassesStrings {σ : Type} (pass : σ → Char → σ) (outside inside escaped behind : σ) :
    Prop where
  /-- A quote opens a string. -/
  opens : pass outside '"' = inside
  /-- Other characters change nothing. -/
  plain : ∀ c, c ≠ '"' → c ≠ '\\' → pass inside c = inside
  /-- A backslash starts an escape. -/
  backslash : pass inside '\\' = escaped
  /-- Any character is escaped. -/
  escape : ∀ c, pass escaped c = inside
  /-- A quote closes the string. -/
  closes : pass inside '"' = behind

section Strings

variable {σ : Type} {pass : σ → Char → σ} {outside inside escaped behind : σ}
  (h : PassesStrings pass outside inside escaped behind)
include h

/-- The text of a character leaves the string that it stands in. -/
theorem PassesStrings.jsonChar (c : Char) : (Text.jsonChar c).foldl pass inside = inside := by
  have hescape (d : Char) : ['\\', d].foldl pass inside = inside := by
    rw [List.foldl_cons, List.foldl_cons, h.backslash, h.escape, List.foldl_nil]
  unfold Text.jsonChar
  split
  · exact hescape _
  next hquote =>
  split
  · exact hescape _
  next hslash =>
  iterate 5
    split
    · exact hescape _
  split
  · next hc =>
    have hn : c.toNat < 32 := hc
    have htext := (fourDigitEscape_control c.toNat hn).1
    obtain ⟨hquote₁, hslash₁⟩ := digitChar_ne (c.toNat / 16) (by omega)
    obtain ⟨hquote₂, hslash₂⟩ := digitChar_ne (c.toNat % 16) (by omega)
    rw [Char.ofNat_toNat] at htext
    rw [htext]
    simp only [List.foldl_cons, List.foldl_nil]
    rw [h.backslash, h.escape, h.plain '0' (by decide) (by decide),
      h.plain '0' (by decide) (by decide), h.plain _ hquote₁ hslash₁, h.plain _ hquote₂ hslash₂]
  · exact h.plain c hquote hslash

/-- A string is passed over as a whole. -/
theorem PassesStrings.stringJson (s : String) :
    (Value.stringJson s).foldl pass outside = behind := by
  have hchars (chars : List Char) :
      (chars.flatMap Text.jsonChar).foldl pass inside = inside := by
    induction chars with
    | nil => rfl
    | cons c chars ih => rw [List.flatMap_cons, List.foldl_append, h.jsonChar, ih]
  rw [Value.stringJson, Text.quotedBy, List.foldl_cons, List.foldl_append, h.opens, hchars,
    List.foldl_cons, h.closes, List.foldl_nil]

end Strings

/-- A string nests no levels, whatever brackets it holds. -/
theorem nests_stringJson (s : String) : Nests (Value.stringJson s) 0 := by
  intro level deepest hle
  have hpasses : PassesStrings Levels.pass ⟨.outside, level, deepest⟩ ⟨.inString, level, deepest⟩
      ⟨.escaped, level, deepest⟩ ⟨.outside, level, deepest⟩ := by
    refine ⟨rfl, fun c hquote hslash => ?_, rfl, fun c => rfl, rfl⟩
    simp only [Levels.pass, hquote, hslash, if_false]
  rw [hpasses.stringJson, Nat.add_zero, Nat.max_eq_left hle]

/-- Brackets count outside of strings only, and only those that are open at once. -/
example : nesting "[\"[[\\\"[\",[]]".toList = 2 := by decide

/-- Texts with commas between them have the levels of the deepest. -/
theorem nests_commas {texts : List (List Char)} {ns : List Nat} (h : List.Forall₂ Nests texts ns) :
    Nests (commas texts) (ns.foldr max 0) := by
  have hcomma : Nests [','] 0 := nests_plain (by simp)
  have hmore {texts : List (List Char)} {ns : List Nat} (h : List.Forall₂ Nests texts ns) :
      Nests (texts.flatMap (',' :: ·)) (ns.foldr max 0) := by
    induction h with
    | nil => exact nests_plain nofun
    | cons hfirst _ ih => exact ((hcomma.append hfirst).congr (Nat.zero_max _).symm).append ih
  cases h with
  | nil => exact nests_plain nofun
  | cons hfirst htexts => exact hfirst.append (hmore htexts)

/-- Items with commas between them nest as deep as the deepest one. -/
theorem nests_commas_map {items : List β} {write : β → List Char} {levels : β → Nat}
    (h : ∀ b ∈ items, Nests (write b) (levels b)) :
    Nests (commas (items.map write)) ((items.map levels).foldr max 0) := by
  refine nests_commas ?_
  rw [List.forall₂_map_left_iff, List.forall₂_map_right_iff, List.forall₂_same]
  exact h

/-- An entry of an object has the levels of its value. -/
theorem nests_entryText (key : String) (h : Nests text n) :
    Nests (entryText Text.jsonChar (key, text)) n := by
  have hcolon : Nests [':'] 0 := nests_plain (by simp)
  have hkey := (nests_stringJson key).append (hcolon.append h)
  exact hkey.congr (by omega)

/-! ### Values -/

/-- An integer nests no levels. -/
theorem nests_integerText (i : Int) : Nests (Value.integerText i) 0 := by
  refine nests_plain fun c hc => ?_
  rcases List.mem_append.1 hc with hsign | hdigit
  · split at hsign
    · rw [List.mem_singleton.1 hsign]
      decide
    · exact absurd hsign List.not_mem_nil
  · have hdigit := Numeral.isDigit_of_mem_toDigits hdigit
    have hnone : ∀ c ∈ ['"', '[', ']', '\x7b', '\x7d'],
        RecordFilter.Numeral.isDigit c = false := by simp [RecordFilter.Numeral.isDigit]
    exact fun hmem => Bool.false_ne_true ((hnone c hmem).symm.trans hdigit)

/-- The JSON of a value has its levels. -/
theorem nests_written {v : Value} (hwhole : v.Everywhere (Value.WholeWithin (2 ^ 63))) :
    Nests (v.written Value.numberJson) v.depth := by
  have hwrites := writes_written Value.numberJson
  induction v using Value.induct with
  | null => exact nests_plain (by simp [Value.written])
  | absent => exact hwhole.holds.elim
  | bool b =>
    rw [hwrites.bool]
    exact nests_plain (by cases b <;> simp)
  | number x =>
    obtain ⟨i, hx, hi⟩ := hwhole.holds
    rw [hwrites.number, Value.numberJson_whole hx hi]
    exact nests_integerText _
  | string s => exact nests_stringJson s
  | list items ih =>
    have hitems := nests_commas_map fun v hv => ih v hv (hwhole.inside v hv)
    rw [hwrites.list, Value.depth, Value.depthOfItems_eq]
    exact hitems.enclosed (by decide)
  | map fields ih =>
    have hfields := nests_commas_map fun f hf => nests_entryText f.1
      (ih f hf (hwhole.inside f.2 (List.mem_map_of_mem hf)))
    rw [hwrites.map, Value.depth, Value.depthOfFields_eq, List.map_map]
    exact hfields.enclosed (by decide)

end Json
end RecordFilter
