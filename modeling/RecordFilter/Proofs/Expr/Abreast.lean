/-
# Two readings side by side

The reader looks at one token at a time, so two readings do the same as long as their states look
alike to it.  A `Coupling` says when they do and which errors correspond to each other; and it says
what is left to know of two readings that have parted: each keeps a property of its own from there
on (`Kept`).  What a coupling has to show is about the moves of a reader (`Coupling.Lawful`).  By
induction over all readers, two readings from states that look alike then go on side by side
(`Coupling.Beside`), and so do two readings of whole texts (`Coupling.Lawful.whole`).

`Step.Abreast` carries along, for both readings, that kept properties stay kept; this is what a
reading that has parted from the other one needs.
-/

import Mathlib
import RecordFilter.Proofs.Expr.Invariant

namespace RecordFilter

/-- The error at another position. -/
def SyntaxError.moved (f : Nat → Nat) : SyntaxError → SyntaxError
  | unexpectedToken t p => unexpectedToken t (f p)
  | unexpectedChar c p => unexpectedChar c (f p)
  | unexpectedEnd p => unexpectedEnd (f p)
  | invalidNumber text p => invalidNumber text (f p)
  | unclosedString p => unclosedString (f p)
  | invalidEscape escape p => invalidEscape escape (f p)
  | expected x t p => expected x t (f p)
  | invalidCallTarget p => invalidCallTarget (f p)
  | tooDeep limit p => tooDeep limit (f p)

/-- An error that depends on its position only. -/
def SyntaxError.IsPositional (e : Nat → SyntaxError) : Prop := ∀ f p, (e p).moved f = e (f p)

namespace Expr
namespace Parser

/-- What a reading goes on to keep, whatever is put back behind it. -/
structure Kept (limit : Nat) where
  /-- What holds in every state. -/
  holds : State → Prop
  /-- What holds of an error, and of the state in which it is found. -/
  fails : SyntaxError → State → Prop
  invariant : Invariant limit holds fails
  withDepth {s : State} (d : Nat) (h : holds s) : holds (s.withDepth d)
  fails_withDepth {e : SyntaxError} {s : State} (d : Nat) (h : fails e s) :
    fails e (s.withDepth d)

/-- The step keeps what the reading goes on to keep. -/
abbrev Kept.By {limit : Nat} (K : Kept limit) (x : Step α n) : Prop := x.Keeps K.holds K.fails

/-- A reading that has failed, with an error that has the property `E`. -/
def Kept.failed (limit : Nat) (E : SyntaxError → Prop) : Kept limit where
  holds _ := False
  fails e _ := E e
  invariant := .of_false limit _ fun _ => id
  withDepth _ := id
  fails_withDepth _ := id

/-- A reading of which nothing is said. -/
def Kept.anything (limit : Nat) : Kept limit where
  holds _ := True
  fails _ _ := True
  invariant := .of_true limit
  withDepth _ := id
  fails_withDepth _ := id

/-- Two readings, one under the limit `m` and one under the limit `n`. -/
structure Coupling (m n : Nat) where
  /-- The states that look alike. -/
  pairs : State → State → Prop
  /-- The errors that correspond to each other. -/
  agree : SyntaxError → SyntaxError → Prop
  /-- What the readings may keep once they have parted. -/
  parting : Kept m → Kept n → Prop

variable {m n : Nat}

/-- Two steps have led to states that look alike, have both failed, or have parted. -/
inductive Coupling.Beside (c : Coupling m n) {j k : Nat} : Step α j → Step α k → Prop where
  | ok {a t v le le'} (h : c.pairs t v) : Beside c (.ok a t le) (.ok a v le')
  | error {e e' t v} (h : c.agree e e') : Beside c (.error e t) (.error e' v)
  | apart {x y K K'} (h : c.parting K K') (hx : K.By x) (hy : K'.By y) : Beside c x y

/-- What the moves of a reader do from states that look alike. -/
structure Coupling.Lawful (c : Coupling m n) : Prop where
  token {s u} (h : c.pairs s u) : u.token? = s.token?
  advance {s u l l' rest rest'} (h : c.pairs s u) (hs : s.ahead = l :: rest)
    (hu : u.ahead = l' :: rest') : c.Beside (advance s l rest) (advance u l' rest')
  inAsName {s u l l' rest rest'} (h : c.pairs s u) (hs : s.ahead = l :: rest)
    (hu : u.ahead = l' :: rest') (ht : l.token = .word .inWord) :
    c.Beside (inAsName s l rest) (inAsName u l' rest')
  descend {s u} (h : c.pairs s u) : c.Beside (descend m s) (descend n u)
  restore {s u t v} (h : c.pairs s u) (h' : c.pairs t v) :
    c.pairs (t.withDepth s.depth) (v.withDepth u.depth)
  fails {s u e} (h : c.pairs s u) (he : SyntaxError.IsPositional e) :
    c.agree (e s.position) (e u.position)

/-- From states that look alike two steps go side by side, and each keeps what is kept. -/
structure Step.Abreast (c : Coupling m n) (s u : State) {j k : Nat} (x : Step α j) (y : Step α k) :
    Prop where
  beside (h : c.pairs s u) : c.Beside x y
  first (K : Kept m) (h : K.holds s) : K.By x
  second (K : Kept n) (h : K.holds u) : K.By y

variable {c : Coupling m n} {s u : State} {l l' : Lexeme} {rest rest' : List Lexeme}

/-! ### Ways to combine steps -/

/-- Steps stay side by side when they promise less about what is left. -/
theorem Coupling.Beside.weaken {j k i h : Nat} {x : Step α j} {y : Step α k} (hb : c.Beside x y)
    (le : j ≤ i) (le' : k ≤ h) : c.Beside (x.weaken le) (y.weaken le') := by
  cases hb with
  | ok ht => exact .ok ht
  | error he => exact .error he
  | apart hK h₁ h₂ => exact .apart hK (h₁.weaken le) (h₂.weaken le')

/-- Two steps side by side both succeed, both fail, or have parted. -/
theorem Coupling.Beside.cases {j k : Nat} {x : Step α j} {y : Step α k} (hb : c.Beside x y) :
    (∃ a t v le le', x = .ok a t le ∧ y = .ok a v le' ∧ c.pairs t v) ∨
      (∃ e e' t v, x = .error e t ∧ y = .error e' v ∧ c.agree e e') ∨
      ∃ K K', c.parting K K' ∧ K.By x ∧ K'.By y := by
  cases hb with
  | ok h => exact .inl ⟨_, _, _, _, _, rfl, rfl, h⟩
  | error h => exact .inr (.inl ⟨_, _, _, _, rfl, rfl, h⟩)
  | apart hK hx hy => exact .inr (.inr ⟨_, _, hK, hx, hy⟩)

namespace Step.Abreast

variable {j k i h : Nat} {x : Step α j} {y : Step α k}

/-- Steps that go abreast do so with what follows each of them, if it goes abreast from every two
states where they end. -/
theorem andThen {f : (a : α) → (t : State) → t.size ≤ j → Step β i}
    {g : (a : α) → (t : State) → t.size ≤ k → Step β h} (hx : x.Abreast c s u y)
    (hf : ∀ a t le v le', (f a t le).Abreast c t v (g a v le')) :
    (x.andThen f).Abreast c s u (y.andThen g) where
  beside hp := by
    cases hx.beside hp with
    | @ok a t v le le' ht => exact (hf a t le v le').beside ht
    | error he => exact .error he
    | apart hK h₁ h₂ =>
      -- Each reading needs some state for the other one; the empty one is small enough.
      refine .apart hK (h₁.andThen fun a t le ht => ?_) (h₂.andThen fun a v le hv => ?_)
      · exact (hf a t le ⟨[], t.ending, 0⟩ (Nat.zero_le _)).first _ ht
      · exact (hf a ⟨[], v.ending, 0⟩ (Nat.zero_le _) v le).second _ hv
  first K hs := (hx.first K hs).andThen fun a t le ht =>
    (hf a t le ⟨[], t.ending, 0⟩ (Nat.zero_le _)).first K ht
  second K hu := (hx.second K hu).andThen fun a v le hv =>
    (hf a ⟨[], v.ending, 0⟩ (Nat.zero_le _) v le).second K hv

/-- Steps go abreast whatever is made of their results. -/
theorem map (hx : x.Abreast c s u y) (f : α → β) : (x.map f).Abreast c s u (y.map f) where
  beside hp := by
    cases hx.beside hp with
    | ok ht => exact .ok ht
    | error he => exact .error he
    | apart hK h₁ h₂ => exact .apart hK (h₁.map fun _ _ => id) (h₂.map fun _ _ => id)
  first K hs := (hx.first K hs).map fun _ _ => id
  second K hu := (hx.second K hu).map fun _ _ => id

/-- Steps go abreast when they promise less about what is left. -/
theorem weaken (hx : x.Abreast c s u y) (le : j ≤ i) (le' : k ≤ h) :
    (x.weaken le).Abreast c s u (y.weaken le') where
  beside hp := (hx.beside hp).weaken le le'
  first K hs := (hx.first K hs).weaken le
  second K hu := (hx.second K hu).weaken le'

end Step.Abreast

/-- What is kept is kept when the depth is put back. -/
theorem Kept.by_restore {limit : Nat} (K : Kept limit) {x : Step α n} (hx : K.By x) (d : Nat) :
    K.By (x.restore d) :=
  Step.Meets.restore (hx.mono (fun _ _ => K.withDepth d) fun _ _ => K.fails_withDepth d)

namespace Coupling.Lawful

variable {j k : Nat} {x : Step α j} {y : Step α k}

/-- Steps go abreast when each of them puts its depth back. -/
theorem restored (hc : c.Lawful) (hx : x.Abreast c s u y) :
    (x.restore s.depth).Abreast c s u (y.restore u.depth) where
  beside hp := by
    cases hx.beside hp with
    | ok ht => exact .ok (hc.restore hp ht)
    | error he => exact .error he
    | apart hK h₁ h₂ => exact .apart hK (Kept.by_restore _ h₁ _) (Kept.by_restore _ h₂ _)
  first K hs := K.by_restore (hx.first K hs) _
  second K hu := K.by_restore (hx.second K hu) _

/-! ### Steps that read no expression -/

/-- Moves over a token go abreast. -/
theorem advanced (hc : c.Lawful) (hs : s.ahead = l :: rest) (hu : u.ahead = l' :: rest') :
    (Parser.advance s l rest).Abreast c s u (Parser.advance u l' rest') where
  beside hp := hc.advance hp hs hu
  first K := K.invariant.advance hs
  second K := K.invariant.advance hu

/-- A level is counted, and the steps go on from there. -/
theorem counted (hc : c.Lawful) {f : (a : Unit) → (t : State) → t.size ≤ s.size → Step β j}
    {g : (a : Unit) → (t : State) → t.size ≤ u.size → Step β k}
    (hf : ∀ le le', (f () (s.withDepth (s.depth + 1)) le).Abreast c (s.withDepth (s.depth + 1))
      (u.withDepth (u.depth + 1)) (g () (u.withDepth (u.depth + 1)) le')) :
    ((Parser.descend m s).andThen f).Abreast c s u ((Parser.descend n u).andThen g) := by
  have hnext := hf (Nat.le_refl _) (Nat.le_refl _)
  have hlt {limit : Nat} {t : State} (h : t.depth < limit) :
      Parser.descend limit t = .ok () (t.withDepth (t.depth + 1)) (Nat.le_refl _) := if_pos h
  have hge {limit : Nat} {t : State} (h : ¬ t.depth < limit) :
      Parser.descend limit t = .error (.tooDeep limit t.position) t := if_neg h
  refine ⟨fun hp => ?_, fun K hs => ?_, fun K hu => ?_⟩
  · have hd := hc.descend hp
    by_cases h₁ : s.depth < m <;> by_cases h₂ : u.depth < n
    · rw [hlt h₁, hlt h₂] at hd ⊢
      cases hd with
      | ok h => exact hnext.beside h
      | apart hK hx hy => exact .apart hK (hnext.first _ hx) (hnext.second _ hy)
    · rw [hlt h₁, hge h₂] at hd ⊢
      cases hd with
      | apart hK hx hy => exact .apart hK (hnext.first _ hx) hy
    · rw [hge h₁, hlt h₂] at hd ⊢
      cases hd with
      | apart hK hx hy => exact .apart hK hx (hnext.second _ hy)
    · rw [hge h₁, hge h₂] at hd ⊢
      cases hd with
      | error h => exact .error h
      | apart hK hx hy => exact .apart hK hx hy
  · by_cases h₁ : s.depth < m
    · rw [hlt h₁]
      exact hnext.first K (K.invariant.descend h₁ hs)
    · rw [hge h₁]
      exact K.invariant.tooDeep (Nat.le_of_not_lt h₁) hs
  · by_cases h₂ : u.depth < n
    · rw [hlt h₂]
      exact hnext.second K (K.invariant.descend h₂ hu)
    · rw [hge h₂]
      exact K.invariant.tooDeep (Nat.le_of_not_lt h₂) hu

/-- The same token is in front of states that look alike. -/
theorem exists_ahead (hc : c.Lawful) (hp : c.pairs s u) (hs : s.ahead = l :: rest) :
    ∃ l' rest', u.ahead = l' :: rest' ∧ l'.token = l.token :=
  exists_ahead_of_token? (hc.token hp) hs

/-- Errors of one kind at the tokens in front correspond to each other. -/
theorem agree_at (hc : c.Lawful) (hp : c.pairs s u) (hs : s.ahead = l :: rest)
    (hu : u.ahead = l' :: rest') {e : Nat → SyntaxError} (he : SyntaxError.IsPositional e) :
    c.agree (e l.start) (e l'.start) := by
  have h := hc.fails hp he
  obtain ⟨ahead, ending, depth⟩ := s
  obtain ⟨ahead', ending', depth'⟩ := u
  cases hs
  cases hu
  exact h

/-- Errors at the end of the tokens correspond to each other. -/
theorem agree_end (hc : c.Lawful) (hp : c.pairs s u) :
    c.agree (.unexpectedEnd s.position) (.unexpectedEnd u.position) :=
  hc.fails hp fun _ _ => rfl

/-- Errors about something else that is expected correspond to each other. -/
theorem agree_expected (hc : c.Lawful) (hp : c.pairs s u) (hs : s.ahead = l :: rest)
    (hu : u.ahead = l' :: rest') (ht : l'.token = l.token) (x : Expectation) :
    c.agree (.expected x l.token l.start) (.expected x l'.token l'.start) := by
  rw [ht]
  exact hc.agree_at hp hs hu (e := .expected x l.token) fun _ _ => rfl

/-- Errors about what is in front correspond to each other. -/
theorem agree_unexpected (hc : c.Lawful) (hp : c.pairs s u) :
    c.agree (unexpected s) (unexpected u) := by
  unfold unexpected
  cases hs : s.ahead with
  | nil =>
    rw [ahead_eq_nil_of_token? (hc.token hp) hs]
    exact hc.agree_end hp
  | cons l rest =>
    obtain ⟨l', rest', hu, ht⟩ := hc.exists_ahead hp hs
    rw [hu]
    dsimp only
    rw [ht]
    exact hc.agree_at hp hs hu (e := .unexpectedToken l.token) fun _ _ => rfl

/-- Checks for a symbol go abreast. -/
theorem expected (hc : c.Lawful) (close : Symbol) (s u : State) :
    (expect close s).Abreast c s u (expect close u) where
  beside hp := by
    cases hs : s.ahead with
    | nil =>
      rw [expect_nil hs, expect_nil (ahead_eq_nil_of_token? (hc.token hp) hs)]
      exact .error (hc.agree_end hp)
    | cons l rest =>
      obtain ⟨l', rest', hu, ht⟩ := hc.exists_ahead hp hs
      by_cases hl : l.token = .symbol close
      · rw [expect_symbol hs hl, expect_symbol hu (ht.trans hl)]
        exact ((hc.advanced hs hu).weaken _ _).beside hp
      · rw [expect_other hs hl, expect_other hu (ht ▸ hl)]
        exact .error (hc.agree_expected hp hs hu ht _)
  first K := K.invariant.keeps_expect close
  second K := K.invariant.keeps_expect close

/-- Readings of a property name go abreast. -/
theorem named (hc : c.Lawful) (s u : State) :
    (propertyName s).Abreast c s u (propertyName u) where
  beside hp := by
    cases hs : s.ahead with
    | nil =>
      rw [propertyName_nil hs, propertyName_nil (ahead_eq_nil_of_token? (hc.token hp) hs)]
      exact .error (hc.agree_end hp)
    | cons l rest =>
      obtain ⟨l', rest', hu, ht⟩ := hc.exists_ahead hp hs
      cases hn : propertyName? l.token with
      | some name =>
        rw [propertyName_name hs hn, propertyName_name hu (ht ▸ hn)]
        exact (((hc.advanced hs hu).map _).weaken _ _).beside hp
      | none =>
        rw [propertyName_other hs hn, propertyName_other hu (ht ▸ hn)]
        exact .error (hc.agree_expected hp hs hu ht _)
  first K := K.invariant.keeps_propertyName
  second K := K.invariant.keeps_propertyName

/-- What is called has no name. -/
theorem uncalled (hc : c.Lawful) (hs : s.ahead = l :: rest) (hu : u.ahead = l' :: rest') :
    (Step.error (.invalidCallTarget l.start) s : Step α j).Abreast c s u
      (Step.error (.invalidCallTarget l'.start) u : Step α k) where
  beside hp := .error (hc.agree_at hp hs hu (e := .invalidCallTarget) fun _ _ => rfl)
  first K h := K.invariant.invalidCallTarget hs h h
  second K h := K.invariant.invalidCallTarget hu h h

end Coupling.Lawful

/-! ### Readers -/

/-- A reader from `s` and from any other state. -/
abbrev Coupling.Reads (c : Coupling m n) (read read' : (s : State) → Step α s.size) (s : State) :
    Prop :=
  ∀ u, (read s).Abreast c s u (read' u)

/-- Readers keep what is kept, so that they go side by side is all that there is to show. -/
theorem Coupling.reads_of_beside {read read' : (s : State) → Step α s.size}
    (h : ∀ K : Kept m, ∀ s, KeepsFrom K.holds K.fails read s)
    (h' : ∀ K : Kept n, ∀ s, KeepsFrom K.holds K.fails read' s)
    (hb : ∀ u, c.pairs s u → c.Beside (read s) (read' u)) : c.Reads read read' s :=
  fun u => ⟨hb u, fun K => h K s, fun K => h' K u⟩

namespace Coupling.Lawful

section Operands

/-- It suffices for two readings of a primary expression that they end side by side. -/
theorem primary_of_beside (hb : ∀ u, c.pairs s u → c.Beside (primary m s) (primary n u)) :
    c.Reads (primary m) (primary n) s :=
  reads_of_beside (fun K => K.invariant.readers.all.primary)
    (fun K => K.invariant.readers.all.primary) hb

/-- Two readings that cannot start a primary expression fail alike. -/
theorem primary_fails (hc : c.Lawful) (hp : ∀ limit (u : State), u.token? = s.token? →
      primary limit u = .error (unexpected u) u) : c.Reads (primary m) (primary n) s := by
  refine primary_of_beside fun u h => ?_
  rw [hp m s rfl, hp n u (hc.token h)]
  exact .error (hc.agree_unexpected h)

/-- Two readings of a literal or a name go on side by side. -/
theorem primary_atom (hc : c.Lawful) (hs : s.ahead = l :: rest) {e : Expr}
    (he : atom? l.token = some e) : c.Reads (primary m) (primary n) s := by
  refine primary_of_beside fun u h => ?_
  obtain ⟨l', rest', hu, ht⟩ := hc.exists_ahead h hs
  rw [Parser.primary_atom hs he, Parser.primary_atom hu (ht ▸ he)]
  exact (((hc.advanced hs hu).map _).weaken _ _).beside h

/-- Two readings of the word `in` go on side by side. -/
theorem primary_in (hc : c.Lawful) (hs : s.ahead = l :: rest) (hl : l.token = .word .inWord) :
    c.Reads (primary m) (primary n) s := by
  refine primary_of_beside fun u h => ?_
  obtain ⟨l', rest', hu, ht⟩ := hc.exists_ahead h hs
  rw [Parser.primary_in hs hl, Parser.primary_in hu (ht.trans hl)]
  exact (hc.inAsName h hs hu hl).weaken _ _

/-- Two readings of a group go on side by side if the expressions inside do. -/
theorem primary_group (hc : c.Lawful) (hs : s.ahead = l :: rest)
    (hl : l.token = .symbol .leftParen)
    (ih : ∀ t : State, t.size ≤ rest.length → c.Reads (expression m 0) (expression n 0) t) :
    c.Reads (primary m) (primary n) s := by
  refine primary_of_beside fun u h => ?_
  obtain ⟨l', rest', hu, ht⟩ := hc.exists_ahead h hs
  rw [Parser.primary_group hs hl, Parser.primary_group hu (ht.trans hl)]
  refine Step.Abreast.beside ((hc.advanced hs hu).andThen fun _ s₁ le₁ u₁ le₁' => ?_) h
  refine (ih s₁ le₁ u₁).andThen fun e s₂ le₂ u₂ le₂' => ?_
  exact ((hc.expected .rightParen s₂ u₂).map _).weaken _ _

/-- Two readings of a list go on side by side if the items inside do. -/
theorem primary_list (hc : c.Lawful) (hs : s.ahead = l :: rest)
    (hl : l.token = .symbol .leftBracket)
    (ih : ∀ t : State, t.size ≤ rest.length →
      c.Reads (list m .rightBracket) (list n .rightBracket) t) :
    c.Reads (primary m) (primary n) s := by
  refine primary_of_beside fun u h => ?_
  obtain ⟨l', rest', hu, ht⟩ := hc.exists_ahead h hs
  rw [Parser.primary_list hs hl, Parser.primary_list hu (ht.trans hl)]
  refine Step.Abreast.beside ((hc.advanced hs hu).andThen fun _ s₁ le₁ u₁ le₁' => ?_) h
  exact ((ih s₁ le₁ u₁).map _).weaken _ _

variable {close : Symbol}

/-- It suffices for two readings of a list that they end side by side. -/
theorem list_of_beside (hb : ∀ u, c.pairs s u → c.Beside (list m close s) (list n close u)) :
    c.Reads (list m close) (list n close) s :=
  reads_of_beside (fun K => K.invariant.readers.all.list close)
    (fun K => K.invariant.readers.all.list close) hb

/-- Two readings of an empty list go on side by side. -/
theorem list_closed (hc : c.Lawful) (hs : s.token?.any (isSymbol close) = true) :
    c.Reads (list m close) (list n close) s := by
  refine list_of_beside fun u h => ?_
  rw [Parser.list_closed hs, Parser.list_closed ((hc.token h).symm ▸ hs)]
  exact (((hc.expected close s u).map _).weaken _ _).beside h

/-- Two readings of a list that has items go on side by side if the items do. -/
theorem list_open (hc : c.Lawful) (hs : ¬ s.token?.any (isSymbol close) = true)
    (ih : c.Reads (items m) (items n) s) : c.Reads (list m close) (list n close) s := by
  refine list_of_beside fun u h => ?_
  rw [Parser.list_open hs, Parser.list_open ((hc.token h).symm ▸ hs)]
  refine Step.Abreast.beside ((ih u).andThen fun es s₁ le₁ u₁ le₁' => ?_) h
  exact ((hc.expected close s₁ u₁).map _).weaken _ _

/-- Two readings of items go on side by side if the first one and the others do. -/
theorem items (ihe : c.Reads (expression m 0) (expression n 0) s)
    (ihm : ∀ t : State, t.size ≤ s.size → c.Reads (moreItems m) (moreItems n) t) :
    c.Reads (Parser.items m) (Parser.items n) s := by
  refine reads_of_beside (fun K => K.invariant.readers.all.items)
    (fun K => K.invariant.readers.all.items) fun u h => ?_
  rw [Parser.items, Parser.items]
  refine Step.Abreast.beside ((ihe u).andThen fun e s₁ le₁ u₁ le₁' => ?_) h
  exact ((ihm s₁ le₁ u₁).map _).weaken _ _

/-- It suffices for two readings of further items that they end side by side. -/
theorem moreItems_of_beside
    (hb : ∀ u, c.pairs s u → c.Beside (moreItems m s) (moreItems n u)) :
    c.Reads (moreItems m) (moreItems n) s :=
  reads_of_beside (fun K => K.invariant.readers.all.moreItems)
    (fun K => K.invariant.readers.all.moreItems) hb

/-- Two readings without a further item go on side by side. -/
theorem moreItems_stop (hc : c.Lawful) (hm : ∀ limit (u : State), u.token? = s.token? →
      moreItems limit u = .ok [] u (Nat.le_refl _)) : c.Reads (moreItems m) (moreItems n) s := by
  refine moreItems_of_beside fun u h => ?_
  rw [hm m s rfl, hm n u (hc.token h)]
  exact .ok h

/-- Two readings go on side by side behind a comma if the items there do. -/
theorem moreItems_comma (hc : c.Lawful) (hs : s.ahead = l :: rest)
    (hl : l.token = .symbol .comma)
    (ih : ∀ t : State, t.size ≤ rest.length → c.Reads (Parser.items m) (Parser.items n) t) :
    c.Reads (moreItems m) (moreItems n) s := by
  refine moreItems_of_beside fun u h => ?_
  obtain ⟨l', rest', hu, ht⟩ := hc.exists_ahead h hs
  rw [Parser.moreItems_comma hs hl, Parser.moreItems_comma hu (ht.trans hl)]
  refine Step.Abreast.beside ((hc.advanced hs hu).andThen fun _ s₁ le₁ u₁ le₁' => ?_) h
  exact (ih s₁ le₁ u₁).weaken _ _

end Operands

section Suffixes

variable {e : Expr}

/-- It suffices for two readings of suffixes that they end side by side. -/
theorem suffixes_of_beside
    (hb : ∀ u, c.pairs s u → c.Beside (suffixes m e s) (suffixes n e u)) :
    c.Reads (suffixes m e) (suffixes n e) s :=
  reads_of_beside (fun K => K.invariant.readers.all.suffixes e)
    (fun K => K.invariant.readers.all.suffixes e) hb

/-- Two readings without a suffix go on side by side. -/
theorem suffixes_stop (hc : c.Lawful) (hx : ∀ limit (u : State), u.token? = s.token? →
      suffixes limit e u = .ok e u (Nat.le_refl _)) : c.Reads (suffixes m e) (suffixes n e) s := by
  refine suffixes_of_beside fun u h => ?_
  rw [hx m s rfl, hx n u (hc.token h)]
  exact .ok h

/-- Two readings of a named member go on side by side if what follows the name does. -/
theorem suffixes_dot (hc : c.Lawful) (hs : s.ahead = l :: rest) (hl : l.token = .symbol .dot)
    (ih : ∀ (name : String) (t : State), t.size ≤ rest.length - 1 →
      c.Reads (suffixes m (.member e (.name name) false))
        (suffixes n (.member e (.name name) false)) t) :
    c.Reads (suffixes m e) (suffixes n e) s := by
  refine suffixes_of_beside fun u h => ?_
  obtain ⟨l', rest', hu, ht⟩ := hc.exists_ahead h hs
  rw [Parser.suffixes_dot hs hl, Parser.suffixes_dot hu (ht.trans hl)]
  refine Step.Abreast.beside (hc.counted fun _ _ => ?_) h
  refine Step.Abreast.andThen (hc.advanced hs hu) fun _ s₁ le₁ u₁ le₁' => ?_
  refine (hc.named s₁ u₁).andThen fun name s₂ le₂ u₂ le₂' => ?_
  exact (ih name s₂ (by omega) u₂).weaken _ _

/-- Two readings of a computed member go on side by side if the property and what follows it do. -/
theorem suffixes_bracket (hc : c.Lawful) (hs : s.ahead = l :: rest)
    (hl : l.token = .symbol .leftBracket)
    (ihe : ∀ t : State, t.size ≤ rest.length → c.Reads (expression m 0) (expression n 0) t)
    (ihs : ∀ (p : Expr) (t : State), t.size ≤ rest.length - 1 →
      c.Reads (suffixes m (.member e p true)) (suffixes n (.member e p true)) t) :
    c.Reads (suffixes m e) (suffixes n e) s := by
  refine suffixes_of_beside fun u h => ?_
  obtain ⟨l', rest', hu, ht⟩ := hc.exists_ahead h hs
  rw [Parser.suffixes_bracket hs hl, Parser.suffixes_bracket hu (ht.trans hl)]
  refine Step.Abreast.beside (hc.counted fun _ _ => ?_) h
  refine Step.Abreast.andThen (hc.advanced hs hu) fun _ s₁ le₁ u₁ le₁' => ?_
  refine (ihe s₁ le₁ u₁).andThen fun p s₂ le₂ u₂ le₂' => ?_
  refine (hc.expected .rightBracket s₂ u₂).andThen fun _ s₃ le₃ u₃ le₃' => ?_
  exact (ihs p s₃ (by omega) u₃).weaken _ _

/-- What is called has no name, in both readings. -/
theorem suffixes_nameless (hc : c.Lawful) (h : c.pairs s u) (hs : s.ahead = l :: rest)
    (hl : l.token = .symbol .leftParen) (hu : u.ahead = l' :: rest') (ht : l'.token = l.token)
    (hn : e.calleeName? = none) : c.Beside (suffixes m e s) (suffixes n e u) := by
  rw [Parser.suffixes_nameless hs hl hn, Parser.suffixes_nameless hu (ht.trans hl) hn]
  exact Step.Abreast.beside (hc.counted fun _ _ => hc.uncalled hs hu) h

/-- Two readings of a call go on side by side if the arguments and what follows them do. -/
theorem suffixes_paren (hc : c.Lawful) (hs : s.ahead = l :: rest)
    (hl : l.token = .symbol .leftParen)
    (ihl : ∀ t : State, t.size ≤ rest.length →
      c.Reads (list m .rightParen) (list n .rightParen) t)
    (ihs : ∀ (callee : String) (es : List Expr) (t : State), t.size ≤ rest.length →
      c.Reads (suffixes m (.call callee es)) (suffixes n (.call callee es)) t) :
    c.Reads (suffixes m e) (suffixes n e) s := by
  refine suffixes_of_beside fun u h => ?_
  obtain ⟨l', rest', hu, ht⟩ := hc.exists_ahead h hs
  cases hn : e.calleeName? with
  | none => exact hc.suffixes_nameless h hs hl hu ht hn
  | some callee =>
    rw [Parser.suffixes_paren hs hl hn, Parser.suffixes_paren hu (ht.trans hl) hn]
    refine Step.Abreast.beside (hc.counted fun _ _ => ?_) h
    refine Step.Abreast.andThen (hc.advanced hs hu) fun _ s₁ le₁ u₁ le₁' => ?_
    refine (ihl s₁ le₁ u₁).andThen fun es s₂ le₂ u₂ le₂' => ?_
    exact (ihs callee es s₂ (by omega) u₂).weaken _ _

end Suffixes

/-- Two readings of an operand go on side by side if the primary expression and its suffixes do. -/
theorem postfixed (hc : c.Lawful) (ihp : c.Reads (primary m) (primary n) s)
    (ihs : ∀ (e : Expr) (t : State), t.size ≤ s.size →
      c.Reads (suffixes m e) (suffixes n e) t) :
    c.Reads (Parser.postfixed m) (Parser.postfixed n) s := by
  refine reads_of_beside (fun K => K.invariant.readers.all.postfixed)
    (fun K => K.invariant.readers.all.postfixed) fun u h => ?_
  rw [Parser.postfixed, Parser.postfixed]
  refine Step.Abreast.beside (hc.restored ((ihp u).andThen fun e s₁ le₁ u₁ le₁' => ?_)) h
  exact (ihs e s₁ le₁ u₁).weaken _ _

/-- It suffices for two readings of a prefixed expression that they end side by side. -/
theorem prefixed_of_beside
    (hb : ∀ u, c.pairs s u → c.Beside (prefixed m s) (prefixed n u)) :
    c.Reads (prefixed m) (prefixed n) s :=
  reads_of_beside (fun K => K.invariant.readers.all.prefixed)
    (fun K => K.invariant.readers.all.prefixed) hb

/-- Two readings without a prefix operator go on side by side if the operands do. -/
theorem prefixed_operand (hc : c.Lawful) (hx : ∀ limit (u : State), u.token? = s.token? →
      prefixed limit u = Parser.postfixed limit u)
    (ih : c.Reads (Parser.postfixed m) (Parser.postfixed n) s) :
    c.Reads (prefixed m) (prefixed n) s := by
  refine prefixed_of_beside fun u h => ?_
  rw [hx m s rfl, hx n u (hc.token h)]
  exact (ih u).beside h

/-- Two readings behind a prefix operator go on side by side if their operands do. -/
theorem prefixed_operator (hc : c.Lawful) (hs : s.ahead = l :: rest) {op : UnaryOp}
    (ho : UnaryOp.ofToken? l.token = some op)
    (ih : ∀ t : State, t.size ≤ rest.length → c.Reads (prefixed m) (prefixed n) t) :
    c.Reads (prefixed m) (prefixed n) s := by
  refine prefixed_of_beside fun u h => ?_
  obtain ⟨l', rest', hu, ht⟩ := hc.exists_ahead h hs
  rw [Parser.prefixed_operator hs ho, Parser.prefixed_operator hu (ht ▸ ho)]
  refine Step.Abreast.beside ((hc.advanced hs hu).andThen fun _ s₁ le₁ u₁ le₁' => ?_) h
  refine ((hc.restored ?_).map _).weaken _ _
  exact hc.counted fun le le' => (ih _ (Nat.le_trans le le₁) _).weaken _ _

section Chain

variable {con : Connective} {power : Nat} {left : Expr}

/-- It suffices for two readings of a chain that they end side by side. -/
theorem chain_of_beside
    (hb : ∀ u, c.pairs s u → c.Beside (chain m power left s) (chain n power left u)) :
    c.Reads (chain m power left) (chain n power left) s :=
  reads_of_beside (fun K => K.invariant.readers.all.chain power left)
    (fun K => K.invariant.readers.all.chain power left) hb

/-- Two readings where a chain ends go on side by side. -/
theorem chain_stop (hc : c.Lawful) (hx : ∀ limit (u : State), u.token? = s.token? →
      chain limit power left u = .ok left u (Nat.le_refl _)) :
    c.Reads (chain m power left) (chain n power left) s := by
  refine chain_of_beside fun u h => ?_
  rw [hx m s rfl, hx n u (hc.token h)]
  exact .ok h

/-- Two readings of a link go on side by side if its right operand and the rest of the chain do. -/
theorem chain_operator (hc : c.Lawful) (hs : s.ahead = l :: rest)
    (hl : Connective.ofToken? l.token = some con) (hp : power ≤ con.leftPower)
    {node : Expr → Expr → Expr} (hn : con.node? = some node)
    (ihe : ∀ t : State, t.size ≤ rest.length →
      c.Reads (expression m con.rightPower) (expression n con.rightPower) t)
    (ihc : ∀ (right : Expr) (t : State), t.size ≤ rest.length →
      c.Reads (chain m power (node left right)) (chain n power (node left right)) t) :
    c.Reads (chain m power left) (chain n power left) s := by
  refine chain_of_beside fun u h => ?_
  obtain ⟨l', rest', hu, ht⟩ := hc.exists_ahead h hs
  rw [Parser.chain_operator hs hl hp hn, Parser.chain_operator hu (ht ▸ hl) hp hn]
  refine Step.Abreast.beside (hc.counted fun _ _ => ?_) h
  refine Step.Abreast.andThen (hc.advanced hs hu) fun _ s₁ le₁ u₁ le₁' => ?_
  refine (ihe s₁ le₁ u₁).andThen fun right s₂ le₂ u₂ le₂' => ?_
  exact (ihc right s₂ (by omega) u₂).weaken _ _

/-- Two readings of a conditional go on side by side if both branches and the rest of the chain do.
-/
theorem chain_conditional (hc : c.Lawful) (hs : s.ahead = l :: rest)
    (hl : Connective.ofToken? l.token = some con) (hp : power ≤ con.leftPower)
    (hn : con.node? = none)
    (ihp : ∀ t : State, t.size ≤ rest.length → c.Reads (expression m 0) (expression n 0) t)
    (ihn : ∀ t : State, t.size ≤ rest.length - 1 →
      c.Reads (expression m con.rightPower) (expression n con.rightPower) t)
    (ihc : ∀ (positive negative : Expr) (t : State), t.size ≤ rest.length - 1 →
      c.Reads (chain m power (.conditional left positive negative))
        (chain n power (.conditional left positive negative)) t) :
    c.Reads (chain m power left) (chain n power left) s := by
  refine chain_of_beside fun u h => ?_
  obtain ⟨l', rest', hu, ht⟩ := hc.exists_ahead h hs
  rw [Parser.chain_conditional hs hl hp hn, Parser.chain_conditional hu (ht ▸ hl) hp hn]
  refine Step.Abreast.beside (hc.counted fun _ _ => ?_) h
  refine Step.Abreast.andThen (hc.advanced hs hu) fun _ s₁ le₁ u₁ le₁' => ?_
  refine (ihp s₁ le₁ u₁).andThen fun p s₂ le₂ u₂ le₂' => ?_
  refine (hc.expected .colon s₂ u₂).andThen fun _ s₃ le₃ u₃ le₃' => ?_
  refine (ihn s₃ (by omega) u₃).andThen fun n s₄ le₄ u₄ le₄' => ?_
  exact (ihc p n s₄ (by omega) u₄).weaken _ _

/-- Two readings of an expression go on side by side if the first operand and the chain behind it
do. -/
theorem expression_chain (hc : c.Lawful)
    (ihp : ∀ t : State, t.size ≤ s.size → c.Reads (prefixed m) (prefixed n) t)
    (ihc : ∀ (left : Expr) (t : State), t.size ≤ s.size →
      c.Reads (chain m power left) (chain n power left) t) :
    c.Reads (expression m power) (expression n power) s := by
  refine reads_of_beside (fun K => K.invariant.readers.all.expression power)
    (fun K => K.invariant.readers.all.expression power) fun u h => ?_
  rw [expression, expression]
  refine Step.Abreast.beside (hc.restored (hc.counted fun le _ => ?_)) h
  refine Step.Abreast.andThen (ihp _ le _) fun left s₂ le₂ u₂ le₂' => ?_
  exact (ihc left s₂ (Nat.le_trans le₂ le) u₂).weaken _ _

end Chain

/-- Each reader goes side by side from states that look alike. -/
theorem readers (hc : c.Lawful) : EachReader (c.Reads (primary m) (primary n))
    (fun close => c.Reads (list m close) (list n close))
    (c.Reads (Parser.items m) (Parser.items n)) (c.Reads (moreItems m) (moreItems n))
    (fun power => c.Reads (expression m power) (expression n power))
    (fun power left => c.Reads (chain m power left) (chain n power left))
    (c.Reads (prefixed m) (prefixed n)) (c.Reads (Parser.postfixed m) (Parser.postfixed n))
    (fun e => c.Reads (suffixes m e) (suffixes n e)) where
  primary_fails := hc.primary_fails
  primary_atom hs he := hc.primary_atom hs he
  primary_in := hc.primary_in
  primary_group := hc.primary_group
  primary_list := hc.primary_list
  list_closed := hc.list_closed
  list_open := hc.list_open
  items := items
  moreItems_stop := hc.moreItems_stop
  moreItems_comma := hc.moreItems_comma
  suffixes_stop hx _ := hc.suffixes_stop hx
  suffixes_dot := hc.suffixes_dot
  suffixes_bracket := hc.suffixes_bracket
  suffixes_paren := hc.suffixes_paren
  postfixed := hc.postfixed
  prefixed_operand := hc.prefixed_operand
  prefixed_operator hs ho := hc.prefixed_operator hs ho
  chain_stop hx _ := hc.chain_stop hx
  chain_operator hs hl hp hn := hc.chain_operator hs hl hp hn
  chain_conditional hs hl hp := hc.chain_conditional hs hl hp rfl
  expression := hc.expression_chain

/-- **Two readings of whole texts go side by side.**  From states that look alike both read the
same expression, or both fail with errors that correspond to each other, or they have parted and
each of them ends with what it has kept. -/
theorem whole (hc : c.Lawful) (h : c.pairs s u) :
    (∃ e, (whole m s).1 = .ok e ∧ (whole n u).1 = .ok e) ∨
      (∃ e e', (whole m s).1 = .error e ∧ (whole n u).1 = .error e' ∧ c.agree e e') ∨
      ∃ K K', c.parting K K' ∧ Ends K.holds K.fails (whole m s) ∧
        Ends K'.holds K'.fails (whole n u) := by
  have hb : c.Beside (expression m 0 s) (expression n 0 u) := (hc.readers.holds 0 s u).beside h
  rcases hb.cases with ⟨a, t, v, le, le', hx, hy, hp⟩ | ⟨e, e', t, v, hx, hy, he⟩ |
    ⟨K, K', hK, hx, hy⟩
  · unfold Parser.whole
    rw [hx, hy]
    dsimp only
    cases ht : t.ahead with
    | nil =>
      rw [ahead_eq_nil_of_token? (hc.token hp) ht]
      exact .inl ⟨a, rfl, rfl⟩
    | cons l rest =>
      obtain ⟨l', rest', hv, htoken⟩ := hc.exists_ahead hp ht
      rw [hv]
      exact .inr (.inl ⟨_, _, rfl, rfl, hc.agree_expected hp ht hv htoken _⟩)
  · unfold Parser.whole
    rw [hx, hy]
    exact .inr (.inl ⟨e, e', rfl, rfl, he⟩)
  · exact .inr (.inr ⟨K, K', hK, K.invariant.ends hx, K'.invariant.ends hy⟩)

end Coupling.Lawful

end Parser
end Expr
end RecordFilter
