/-
# Patterns that match wherever others do

A pattern is below another one if the other one leads over a subject wherever it does (`Below`).
Groups, sequences and choices keep this (`InTurnBelow.ofItems`, `below_ofBranches`,
`Below.group`), so it can be followed through two readings that go side by side: what one of them
holds is below what the other one holds (`State.Below`), and each move of the reader keeps this.
-/

import Mathlib
import RecordFilter.Proofs.Pattern.Denotation
import RecordFilter.Proofs.Pattern.GlobReading

namespace RecordFilter
namespace Pattern

open Reader Regex

/-! ### Patterns -/

/-- Whether two patterns have a meaning, and the second leads over a subject wherever the first
does. -/
def Below (subject : List Char) (p q : Syntax) : Prop :=
  ∃ r r', read? .initial p = some (r, .initial) ∧ read? .initial q = some (r', .initial) ∧
    ∀ i j, r.Leads subject i j → r'.Leads subject i j

/-- Whether the same holds of patterns one after the other. -/
def InTurnBelow (subject : List Char) (ps qs : List Syntax) : Prop :=
  ∃ rs rs', readAll? .initial ps = some (rs, .initial) ∧
    readAll? .initial qs = some (rs', .initial) ∧
      ∀ i j, LeadsInTurn subject rs i j → LeadsInTurn subject rs' i j

variable {subject : List Char} {p q : Syntax} {ps qs ps' qs' : List Syntax}

/-- A pattern with a meaning is below itself. -/
theorem Below.refl {r : Regex} (h : read? .initial p = some (r, .initial)) : Below subject p p :=
  ⟨r, r, h, h, fun _ _ => id⟩

/-- Patterns one after the other are below those that denote more texts. -/
theorem DenoteInTurn.below {S : List Char → Prop} {L M : List Char → Prop}
    (h : DenoteInTurn S ps L) (h' : DenoteInTurn S qs M) (hs : S subject)
    (hLM : ∀ text, L text → M text) : InTurnBelow subject ps qs := by
  obtain ⟨rs, hread, hlead⟩ := h
  obtain ⟨rs', hread', hlead'⟩ := h'
  refine ⟨rs, rs', hread, hread', fun i j hij => ?_⟩
  obtain ⟨text, hspan, htext⟩ := (hlead subject hs i j).1 hij
  exact (hlead' subject hs i j).2 ⟨text, hspan, hLM text htext⟩

/-- No patterns are below none. -/
theorem inTurnBelow_nil : InTurnBelow subject [] [] :=
  ⟨[], [], rfl, rfl, fun _ _ => id⟩

/-- A pattern alone is below another one alone if it is below it. -/
theorem Below.singleton (h : Below subject p q) : InTurnBelow subject [p] [q] := by
  obtain ⟨r, r', hread, hread', hlead⟩ := h
  refine ⟨[r], [r'], by simp only [readAll?, hread], by simp only [readAll?, hread'], ?_⟩
  rintro i j ⟨k, hk, hj⟩
  exact ⟨k, hlead i k hk, hj⟩

/-- Patterns behind each other are below others if both parts are. -/
theorem InTurnBelow.append (h : InTurnBelow subject ps qs) (h' : InTurnBelow subject ps' qs') :
    InTurnBelow subject (ps ++ ps') (qs ++ qs') := by
  obtain ⟨rs₁, rs₂, hread₁, hread₂, hlead⟩ := h
  obtain ⟨rs₃, rs₄, hread₃, hread₄, hlead'⟩ := h'
  refine ⟨rs₁ ++ rs₃, rs₂ ++ rs₄, readAll?_append hread₁ hread₃, readAll?_append hread₂ hread₄,
    fun i j hij => ?_⟩
  obtain ⟨k, hik, hkj⟩ := leadsInTurn_append.1 hij
  exact leadsInTurn_append.2 ⟨k, hlead i k hik, hlead' k j hkj⟩

/-- A sequence is below another one if its items are. -/
theorem InTurnBelow.ofItems (h : InTurnBelow subject ps qs) :
    Below subject (.ofItems ps) (.ofItems qs) := by
  obtain ⟨rs, rs', hreads, hreads', hleads⟩ := h
  obtain ⟨r, hread, hlead⟩ := read?_ofItems hreads
  obtain ⟨r', hread', hlead'⟩ := read?_ofItems hreads'
  exact ⟨r, r', hread, hread', fun i j hij =>
    (hlead' subject i j).2 (hleads i j ((hlead subject i j).1 hij))⟩

/-- A choice is below one whose branches are above its own, one by one. -/
theorem below_ofBranches (h : List.Forall₂ (Below subject) ps qs) (hps : ps ≠ []) :
    Below subject (.ofBranches ps) (.ofBranches qs) := by
  have hany : ∃ rs rs', readAll? .initial ps = some (rs, .initial) ∧
      readAll? .initial qs = some (rs', .initial) ∧
        ∀ i j, LeadsByAny subject rs i j → LeadsByAny subject rs' i j := by
    clear hps
    induction h with
    | nil => exact ⟨[], [], rfl, rfl, fun _ _ => id⟩
    | cons hpq _ ih =>
      obtain ⟨r, r', hread, hread', hlead⟩ := hpq
      obtain ⟨rs, rs', hreads, hreads', hleads⟩ := ih
      exact ⟨r :: rs, r' :: rs', by simp only [readAll?, hread, hreads],
        by simp only [readAll?, hread', hreads'], fun i j => Or.imp (hlead i j) (hleads i j)⟩
  have hqs : qs ≠ [] := by
    rintro rfl
    cases h
    exact hps rfl
  obtain ⟨rs, rs', hreads, hreads', hleads⟩ := hany
  obtain ⟨r, hread, hlead⟩ := read?_ofBranches hreads hps
  obtain ⟨r', hread', hlead'⟩ := read?_ofBranches hreads' hqs
  exact ⟨r, r', hread, hread', fun i j hij =>
    (hlead' subject i j).2 (hleads i j ((hlead subject i j).1 hij))⟩

/-- A group is below another one if its inside is. -/
theorem Below.group (h : Below subject p q) :
    Below subject (.group false [] p) (.group false [] q) := by
  obtain ⟨r, r', hread, hread', hlead⟩ := h
  exact ⟨r, r', read?_group hread, read?_group hread', hlead⟩

/-- Where a pattern occurs in a subject, one above it does. -/
theorem Below.occursIn {r r' : Regex} (h : Below subject p q) (hp : ofSyntax? p = some r)
    (hq : ofSyntax? q = some r') (hoccurs : r.occursIn subject = true) :
    r'.occursIn subject = true := by
  obtain ⟨r₁, r₂, hread₁, hread₂, hlead⟩ := h
  rw [ofSyntax?, hread₁] at hp
  rw [ofSyntax?, hread₂] at hq
  cases hp
  cases hq
  obtain ⟨i, j, hi, hij⟩ := (occursIn_iff _ subject).1 hoccurs
  exact (occursIn_iff _ subject).2 ⟨i, j, hi, hlead i j hij⟩

/-- Patterns one of which is below the other have a meaning. -/
theorem Below.exists_read (h : Below subject p q) :
    ∃ r r', ofSyntax? p = some r ∧ ofSyntax? q = some r' := by
  obtain ⟨r, r', hread, hread', -⟩ := h
  exact ⟨r, r', by rw [ofSyntax?, hread]; rfl, by rw [ofSyntax?, hread']; rfl⟩

/-! ### Two readings side by side -/

namespace Reader

/-- Whether what was read before an open group without a name and flags is below what was read
before another one. -/
structure OpenGroup.Below (subject : List Char) (g h : OpenGroup) : Prop where
  branches : List.Forall₂ (Pattern.Below subject) g.branches h.branches
  items : InTurnBelow subject g.items.reverse h.items.reverse
  captures : g.captures = false ∧ h.captures = false
  change : g.change = [] ∧ h.change = []
  spacedAround : g.spacedAround = false ∧ h.spacedAround = false

/-- Whether what one reader holds is below what another one holds. -/
structure State.Below (subject : List Char) (s t : State) : Prop where
  branches : List.Forall₂ (Pattern.Below subject) s.branches t.branches
  items : InTurnBelow subject s.items.reverse t.items.reverse
  outer : List.Forall₂ (OpenGroup.Below subject) s.outer t.outer
  spaced : s.spaced = false ∧ t.spaced = false

namespace State

variable {s t s' : State}

/-- A reader at the start is below itself. -/
theorem below_initial : initial.Below subject initial where
  branches := .nil
  items := inTurnBelow_nil
  outer := .nil
  spaced := ⟨rfl, rfl⟩

/-- Readers stay below each other with more items that are. -/
theorem Below.extend (h : s.Below subject t) (hpq : InTurnBelow subject ps qs) :
    (s.extend ps).Below subject (t.extend qs) where
  branches := h.branches
  items := by
    have hitems := h.items.append hpq
    simpa [State.extend] using hitems
  outer := h.outer
  spaced := h.spaced

/-- Readers stay below each other with one more item that is. -/
theorem Below.push (h : s.Below subject t) (hpq : Pattern.Below subject p q) :
    (s.push p).Below subject (t.push q) :=
  h.extend hpq.singleton

/-- Readers stay below each other where both open a group. -/
theorem Below.inGroup (h : s.Below subject t) : (s.inGroup []).Below subject (t.inGroup []) where
  branches := .nil
  items := inTurnBelow_nil
  outer := .cons ⟨h.branches, h.items, ⟨rfl, rfl⟩, ⟨rfl, rfl⟩, h.spaced⟩ h.outer
  spaced := h.spaced

/-- Readers stay below each other where both start another branch. -/
theorem Below.branched (h : s.Below subject t) : s.branched.Below subject t.branched where
  branches := .cons h.items.ofItems h.branches
  items := inTurnBelow_nil
  outer := h.outer
  spaced := h.spaced

/-- What readers hold of the inside of a group is below each other if they are. -/
theorem Below.inner (h : s.Below subject t) : Pattern.Below subject s.inner t.inner := by
  refine below_ofBranches (List.forall₂_reverse_iff.2 (.cons h.items.ofItems h.branches)) ?_
  simp

/-- Readers stay below each other where they close a group, and the second one can if the first one
does. -/
theorem Below.closed? (h : s.Below subject t) (hs : s.closed? = some s') :
    ∃ t', t.closed? = some t' ∧ s'.Below subject t' := by
  have hinner := h.inner
  have houter := h.outer
  unfold State.closed? at hs ⊢
  generalize s.outer = outer at hs houter
  generalize t.outer = outer' at houter ⊢
  cases houter with
  | nil => cases hs
  | @cons g g' outer outer' hg houter =>
    cases hs
    refine ⟨_, rfl, hg.branches, ?_, houter, hg.spacedAround⟩
    rw [hg.captures.1, hg.captures.2, hg.change.1, hg.change.2, List.reverse_cons,
      List.reverse_cons]
    exact hg.items.append hinner.group.singleton

end State
end Reader

end Pattern
end RecordFilter
