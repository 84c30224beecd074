/-
# What an engine was asked before

An engine keeps filters, but no answer shows it: whatever it was asked before, it prepares a text
and selects records as if it read the text afresh (`answers_afresh`).  The invariant is that each
filter it keeps is the filter of the text it is kept for (`Engine.Faithful`).  A text with a mistake
has no filter, so none is kept for it.
-/

import Mathlib
import RecordFilter.Engine.Basic
import RecordFilter.Proofs.Engine.Cache

namespace RecordFilter

namespace Filter

variable {limit : Nat} {text : String} {f : Filter}

/-- A text has a filter if it can be read. -/
theorem ofText_eq_ok :
    ofText limit text = .ok f ↔
      ∃ ast, Expr.parse limit text = .ok ast ∧ f = ⟨some text, ast.compile⟩ := by
  rw [ofText]
  cases Expr.parse limit text with
  | error err => exact ⟨nofun, fun ⟨_, h, _⟩ => nomatch h⟩
  | ok ast =>
    constructor
    · rintro ⟨⟩
      exact ⟨ast, rfl, rfl⟩
    · rintro ⟨ast', ⟨⟩, rfl⟩
      rfl

/-- A filter is refused with the error of its text. -/
theorem ofText_eq_error {err : SyntaxError} :
    ofText limit text = .error err ↔ Expr.parse limit text = .error err := by
  rw [ofText]
  cases Expr.parse limit text with
  | error err' => exact ⟨fun h => by cases h; rfl, fun h => by cases h; rfl⟩
  | ok ast => exact ⟨nofun, nofun⟩

end Filter

namespace Engine

/-- What can be asked of an engine. -/
inductive Request where
  /-- The filter of a text. -/
  | compile (text : String)
  /-- The records on which the expression of a text counts as true. -/
  | select (text : String) (records : List Value)
  /-- To keep no filters. -/
  | clear

/-- The engine behind a request. -/
def serve (e : Engine) : Request → Engine
  | .compile text => (e.compile text).2
  | .select text records => (e.select text records).2
  | .clear => e.clear

/-- The engine behind several requests. -/
def run (e : Engine) (rs : List Request) : Engine := rs.foldl serve e

/-- Every filter that the engine keeps is that of its text. -/
def Faithful (e : Engine) : Prop :=
  ∀ x ∈ e.cache.entries, Filter.ofText e.settings.maxDepth x.1 = .ok x.2.value

variable {e : Engine} {text : String}

/-- An engine stays faithful when it compiles a text. -/
theorem Faithful.compile (h : e.Faithful) (text : String) : (e.compile text).2.Faithful := by
  rcases e.cache.ask_cases text fun () => Filter.ofText e.settings.maxDepth text with
    ⟨b, -, ha⟩ | ⟨-, err, -, ha⟩ | ⟨-, f, hf, ha⟩ <;> rw [Faithful, Engine.compile, ha]
  · exact h
  · exact h
  · rcases e.cache.entries_insert text f with ⟨-, he⟩ | ⟨kept, hsub, -, he⟩ <;> rw [he]
    · exact h
    · exact List.forall_mem_cons.2 ⟨hf, fun x hx => h x (hsub.subset hx)⟩

/-- One request leaves an engine faithful. -/
theorem Faithful.serve (h : e.Faithful) (r : Request) : (e.serve r).Faithful := by
  cases r with
  | compile text => exact h.compile text
  | select text records => exact h.compile text
  | clear => exact fun _ hx => absurd hx List.not_mem_nil

/-- Requests leave an engine faithful. -/
theorem Faithful.run (h : e.Faithful) (rs : List Request) : (e.run rs).Faithful := by
  induction rs generalizing e with
  | nil => exact h
  | cons r rs ih => exact ih (h.serve r)

/-- An engine is faithful from its start: it keeps nothing yet. -/
theorem faithful_ofSettings (s : Settings) : (ofSettings s).Faithful :=
  fun _ hx => absurd hx List.not_mem_nil

/-- Requests leave the settings as they are. -/
theorem settings_run (e : Engine) (rs : List Request) : (e.run rs).settings = e.settings := by
  induction rs generalizing e with
  | nil => rfl
  | cons r rs ih =>
    refine (ih (e.serve r)).trans ?_
    cases r <;> rfl

/-- What is kept for a text is prepared from it. -/
theorem Faithful.exists_of_get? (h : e.Faithful) {b : Built Filter}
    (hb : e.cache.get? text = some b) :
    ∃ ast, Expr.parse e.settings.maxDepth text = .ok ast ∧ b.value = ⟨some text, ast.compile⟩ := by
  have hf : Filter.ofText e.settings.maxDepth text = .ok b.value :=
    h (text, b) (Cache.mem_entries_of_get? hb)
  exact Filter.ofText_eq_ok.1 hf

/-- An engine refuses a text as reading it does, or gives its filter. -/
theorem Faithful.compile_cases (h : e.Faithful) (text : String) :
    (∃ err, Expr.parse e.settings.maxDepth text = .error err ∧
        (e.compile text).1 = .error err) ∨
      ∃ ast n, Expr.parse e.settings.maxDepth text = .ok ast ∧
        (e.compile text).1 = .ok ⟨n, ⟨some text, ast.compile⟩⟩ := by
  rcases e.cache.ask_cases text fun () => Filter.ofText e.settings.maxDepth text with
    ⟨⟨n, f⟩, hk, ha⟩ | ⟨-, err, hf, ha⟩ | ⟨-, f, hf, ha⟩ <;> rw [Engine.compile, ha]
  · obtain ⟨ast, hp, rfl⟩ := h.exists_of_get? hk
    exact .inr ⟨ast, n, hp, rfl⟩
  · exact .inl ⟨err, Filter.ofText_eq_error.1 hf, rfl⟩
  · obtain ⟨ast, hp, rfl⟩ := Filter.ofText_eq_ok.1 hf
    exact .inr ⟨ast, _, hp, rfl⟩

/-- An engine selects the records on which the expression of a text counts as true. -/
theorem Faithful.select_eq (h : e.Faithful) (text : String) (records : List Value) :
    (e.select text records).1 =
      (Expr.parse e.settings.maxDepth text).map fun ast =>
        records.filter fun r => (ast.compile.value r).isTruthy := by
  have hs : (e.select text records).1 = (e.compile text).1.map fun f => f.value.apply records := rfl
  rcases h.compile_cases text with ⟨err, hp, hc⟩ | ⟨ast, n, hp, hc⟩ <;> rw [hs, hp, hc] <;> rfl

/-- **What an engine was asked before does not matter.**  Behind any requests, the engine refuses a
text with the error with which it cannot be read, and prepares it otherwise; it selects the records
on which the expression of the text counts as true, which with the default limit is what is selected
without an engine; and what it keeps is prepared from the text for which it is kept, so that nothing
is kept for a text that cannot be read. -/
theorem answers_afresh (s : Settings) (rs : List Request) {e : Engine}
    (he : (ofSettings s).run rs = e) :
    (∀ text err, (e.compile text).1 = .error err ↔ Expr.parse s.maxDepth text = .error err) ∧
      (∀ text ast, Expr.parse s.maxDepth text = .ok ast →
        ∃ n, (e.compile text).1 = .ok ⟨n, ⟨some text, ast.compile⟩⟩) ∧
      (∀ text records, (e.select text records).1 =
        (Expr.parse s.maxDepth text).map fun ast =>
          records.filter fun r => (ast.compile.value r).isTruthy) ∧
      (s.maxDepth = Expr.defaultLimit → ∀ text records,
        (e.select text records).1 = Filter.select text records) ∧
      (∀ x ∈ e.cache.entries, ∃ ast, Expr.parse s.maxDepth x.1 = .ok ast ∧
        x.2.value = ⟨some x.1, ast.compile⟩) ∧
      ∀ text err, Expr.parse s.maxDepth text = .error err → e.has text = false := by
  have hs : e.settings = s := he ▸ settings_run (ofSettings s) rs
  have hf : e.Faithful := he ▸ (faithful_ofSettings s).run rs
  rw [← hs]
  refine ⟨fun text err => ?_, fun text ast h => ?_, hf.select_eq, fun hd text records => ?_,
    fun x hx => Filter.ofText_eq_ok.1 (hf x hx), fun text err h => ?_⟩
  · rcases hf.compile_cases text with ⟨err', hp, hc⟩ | ⟨ast, n, hp, hc⟩ <;> rw [hp, hc]
    · exact ⟨fun h => by cases h; rfl, fun h => by cases h; rfl⟩
    · exact ⟨nofun, nofun⟩
  · rcases hf.compile_cases text with ⟨err, hp, -⟩ | ⟨ast', n, hp, hc⟩ <;> rw [h] at hp <;> cases hp
    exact ⟨n, hc⟩
  · rw [hf.select_eq, hd, Filter.select, Filter.ofText]
    cases Expr.parse Expr.defaultLimit text <;> rfl
  · rw [Engine.has, Option.isSome_eq_false_iff, Option.isNone_iff_eq_none]
    cases hk : e.cache.get? text with
    | none => rfl
    | some b =>
      obtain ⟨ast, hp, -⟩ := hf.exists_of_get? hk
      rw [h] at hp
      cases hp

/-- With one place, a text is prepared as before after another one has taken the place. -/
theorem answers_afresh_one_place :
    ∃ e, (ofSettings { cacheCapacity := 1 }).run
        [.compile "x", .select "y" [.null], .compile "x =="] = e ∧
      Expr.parse 256 "x" = .ok (.name "x") ∧
      (∃ n, (e.compile "x").1 = .ok ⟨n, ⟨some "x", .field "x"⟩⟩) ∧
      (e.select "x" [.map [("x", .bool true)], .null]).1 =
        Filter.select "x" [.map [("x", .bool true)], .null] := by
  refine ⟨_, rfl, ?_⟩
  obtain ⟨-, hok, -, hsel, -⟩ := answers_afresh { cacheCapacity := 1 }
    [.compile "x", .select "y" [.null], .compile "x =="] rfl
  have hx : Expr.parse 256 "x" = .ok (.name "x") := by cbv
  exact ⟨hx, hok "x" (.name "x") hx, hsel rfl "x" _⟩

end Engine
end RecordFilter
