/-
# Texts for tokens

Symbols, and names of the single letter `x`, are read back if a space is written behind each of them
(`exists_text`).  So what the grammar says of tokens like these can be said of texts.
-/

import Mathlib
import RecordFilter.Proofs.Expr.Tokenization

namespace RecordFilter

namespace Token

/-- Symbols, and the name `x`. -/
inductive IsSimple : Token → Prop where
  | symbol (s : Symbol) : IsSimple (.symbol s)
  | name : IsSimple (.name "x")

/-- A spelling of a simple token. -/
def spelling : Token → List Char
  | .symbol s => s.text.toList
  | _ => ['x']

/-- Tokens with a space behind each of them. -/
def spaced (ts : List Token) : List Char := ts.flatMap fun t => t.spelling ++ [' ']

/-- A simple token is read off its spelling. -/
theorem IsSimple.tokenizes {t : Token} (h : t.IsSimple) : Tokenizes t.spelling [t] := by
  cases h with
  | symbol s => exact .symbol s
  | name => exact .token rfl (fun _ => rfl) (.finished rfl)

/-- Simple tokens are read off their spellings with spaces between them. -/
theorem tokenizes_spaced {ts : List Token} (h : ∀ t ∈ ts, t.IsSimple) :
    Tokenizes (spaced ts) ts := by
  induction ts with
  | nil => exact .finished rfl
  | cons t ts ih =>
    obtain ⟨ht, hts⟩ := List.forall_mem_cons.1 h
    have hs : spaced (t :: ts) = t.spelling ++ ' ' :: spaced ts := by
      rw [spaced, List.flatMap_cons, List.append_assoc]
      rfl
    rw [hs]
    exact ht.tokenizes.append (Scan.ends_of_mem (by decide) _) (ih hts).space

end Token

/-- Simple tokens are the tokens of a text. -/
theorem exists_text {ts : List Token} (h : ∀ t ∈ ts, t.IsSimple) :
    ∃ text ls p, (Source.ofText text).lexemes = (ls, .finished p) ∧ ls.map (·.token) = ts := by
  refine ⟨.ofList (Token.spaced ts), exists_lexemes_iff.2 ?_⟩
  rw [String.toList_ofList]
  exact Token.tokenizes_spaced h

end RecordFilter
