/-
# Reading is parsing by the grammar

The reader finds exactly the expressions of the grammar (`parse_iff_derives`): a text with `n`
tokens is read as an expression with a limit of at least `2 * n + 1` levels if and only if the
tokens derive that expression.  The limit is never the reason for failing then, and no tokens derive
two expressions (`Derives.unique`), since a reading has one result.
-/

import Mathlib
import RecordFilter.Proofs.Expr.Completeness
import RecordFilter.Proofs.Expr.Depth
import RecordFilter.Proofs.Expr.Soundness

namespace RecordFilter
namespace Expr

open Grammar

namespace Parser

/-- What a step meets holds of what it yields. -/
theorem Step.Meets.of_yields {x : Step α n} {a : α} {t : State} {P : α → State → Prop}
    {E : SyntaxError → State → Prop} (h : x.Meets P E) (hy : x.Yields a t) : P a t := by
  obtain ⟨_, rfl⟩ := hy
  exact h

/-- A whole expression is one behind which no lexeme is left. -/
theorem yields_of_whole {limit : Nat} {s : State} {e : Expr} (h : (whole limit s).1 = .ok e) :
    ∃ t, (expression limit 0 s).Yields e t ∧ t.ahead = [] := by
  unfold whole at h
  split at h
  · cases h
  · next a t le hx =>
    split at h
    · next ht =>
      cases h
      exact ⟨t, ⟨le, hx⟩, ht⟩
    · cases h

/-- An expression that is read up to the end is a whole text. -/
theorem whole_of_yields {limit : Nat} {s t : State} {e : Expr}
    (h : (expression limit 0 s).Yields e t) (ht : t.ahead = []) : (whole limit s).1 = .ok e := by
  obtain ⟨le, hx⟩ := h
  unfold whole
  rw [hx]
  dsimp only
  rw [ht]

/-- What the lexemes are read as, they derive, within the levels of the limit. -/
theorem fits_of_whole {limit : Nat} {s : State} {e : Expr} (h : (whole limit s).1 = .ok e) :
    s.depth < limit ∧
      ∃ k, Fits .conditional (s.ahead.map (·.token)) e k (limit - (s.depth + 1)) := by
  obtain ⟨t, hy, ht⟩ := yields_of_whole h
  obtain ⟨-, hlt, -, ts, k, ⟨xs, rfl, hx⟩, hf⟩ := (sound_expression limit 0 _).of_yields hy
  rw [ht, List.append_nil] at hx
  rw [hx]
  exact ⟨hlt, k, hf .conditional (by decide) (Level.holds_conditional 0)⟩

/-- Lexemes that derive an expression within the levels of the limit are read as it. -/
theorem whole_of_fits {limit p k room : Nat} {ls : List Lexeme} {e : Expr}
    (h : Fits .conditional (ls.map (·.token)) e k room) (hr : room < limit) :
    (whole limit (before p ls 0)).1 = .ok e := by
  have hd : 0 + 1 + room ≤ limit := by omega
  have hy := ChainCompletes.expression (h.completes limit p) rfl hd
    (Nat.zero_le _) (clear_nil 0)
  rw [List.append_nil] at hy
  exact whole_of_yields hy rfl

/-- A limit of two levels for each lexeme and one more is not the reason why a reading fails. -/
theorem whole_ne_tooDeep {limit p : Nat} {ls : List Lexeme} (hl : 2 * ls.length + 1 ≤ limit)
    (m q : Nat) : (whole limit (before p ls 0)).1 ≠ .error (.tooDeep m q) := by
  have hs : Ample limit 1 (before p ls 0) := ⟨⟨p, rfl⟩, by simp only [State.size]; omega⟩
  have h := ample_expression limit 0 _ hs
  unfold whole
  cases hx : expression limit 0 (before p ls 0) with
  | error err t =>
    rw [hx] at h
    intro he
    cases he
    exact h trivial
  | ok a t le =>
    dsimp only
    split <;> exact nofun

end Parser

/-- In front of a text no level is counted, and lexemes are ahead unless the text has none. -/
theorem Parser.State.ofText_eq_ok {text : String} {s : Parser.State}
    (h : Parser.State.ofText text = .ok s) :
    (Source.ofText text).lexemes = (s.ahead, s.ending) ∧ s.depth = 0 ∧
      (s.ahead = [] → s.Finished) := by
  unfold Parser.State.ofText at h
  split at h
  · cases h
  · next ahead ending hne hl =>
    cases h
    refine ⟨hl, rfl, fun ha => ?_⟩
    cases ending with
    | finished p => exact ⟨p, rfl⟩
    | broken e after => exact absurd rfl (hne e after ha)

/-- To parse a text is to read its lexemes as a whole. -/
theorem parse_of_lexemes {text : String} {ls : List Lexeme} {p : Nat}
    (h : (Source.ofText text).lexemes = (ls, .finished p)) (limit : Nat) :
    parse limit text = (Parser.whole limit (Parser.before p ls 0)).1 := by
  unfold parse Parser.State.ofText
  rw [h]
  cases ls <;> rfl

namespace Grammar

/-- Tokens derive one expression at most: made up as lexemes, they would be read as both. -/
theorem Derives.unique {ts : List Token} {e₁ e₂ : Expr} (h₁ : Derives .conditional ts e₁)
    (h₂ : Derives .conditional ts e₂) : e₁ = e₂ := by
  obtain ⟨k₁, -, h₁⟩ := h₁.fits
  obtain ⟨k₂, -, h₂⟩ := h₂.fits
  have hm : (ts.map fun t => (⟨t, 0, 0⟩ : Lexeme)).map (·.token) = ts := by
    rw [List.map_map]
    exact List.map_id ts
  rw [← hm] at h₁ h₂
  have hr := Nat.lt_succ_self (2 * ((ts.map fun t => (⟨t, 0, 0⟩ : Lexeme)).map (·.token)).length)
  have h := (Parser.whole_of_fits (p := 0) h₁ hr).symm.trans (Parser.whole_of_fits h₂ hr)
  exact Except.ok.inj h

end Grammar

/-- **The reader is the grammar.**  A text with `n` tokens is read as an expression, with a limit of
`2 * n + 1` levels or more, if and only if its tokens derive that expression; the limit is never why
it is not read; and tokens derive one expression at most. -/
theorem parse_iff_derives {text : String} {ls : List Lexeme} {p limit : Nat}
    (h : (Source.ofText text).lexemes = (ls, .finished p)) (hl : 2 * ls.length + 1 ≤ limit) :
    (∀ e, parse limit text = .ok e ↔ Derives .conditional (ls.map (·.token)) e) ∧
      (∀ m q, parse limit text ≠ .error (.tooDeep m q)) ∧
      ∀ ts e₁ e₂, Derives .conditional ts e₁ → Derives .conditional ts e₂ → e₁ = e₂ := by
  rw [parse_of_lexemes h]
  refine ⟨fun e => ⟨fun he => ?_, fun hd => ?_⟩, Parser.whole_ne_tooDeep hl,
    fun _ _ _ => Derives.unique⟩
  · obtain ⟨-, k, hf⟩ := Parser.fits_of_whole he
    exact hf.derives
  · obtain ⟨k, -, hf⟩ := hd.fits
    rw [List.length_map] at hf
    exact Parser.whole_of_fits hf (by omega)

/-- The unary operator stands above the member behind it and below the conditional, and a reserved
word is a name behind a dot. -/
theorem parse_iff_derives_conditional :
    (Source.ofText "x ? !y.in : z").lexemes =
      ([⟨.name "x", 0, 1⟩, ⟨.symbol .question, 2, 3⟩, ⟨.symbol .bang, 4, 5⟩, ⟨.name "y", 5, 6⟩,
        ⟨.symbol .dot, 6, 7⟩, ⟨.word .inWord, 7, 9⟩, ⟨.symbol .colon, 10, 11⟩,
        ⟨.name "z", 12, 13⟩], .finished 13) ∧
    parse 17 "x ? !y.in : z" = .ok (.conditional (.name "x")
      (.unary .not (.member (.name "y") (.name "in") false)) (.name "z")) := by
  refine ⟨rfl, ((parse_iff_derives rfl (by decide)).1 _).2 ?_⟩
  have name (n : String) : Derives .primary [.name n] (.name n) := .atom rfl
  have member : Derives .suffixed _ _ :=
    .member (t := .word .inWord) (.tighter rfl (name "y")) rfl
  have negated : Derives .prefixed _ _ :=
    .unary (t := .symbol .bang) rfl (.tighter rfl member)
  exact .conditional ((name "x").loosen (by decide)) (negated.loosen (by decide))
    ((name "z").loosen (by decide))

end Expr
end RecordFilter
