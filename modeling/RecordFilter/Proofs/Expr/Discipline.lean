/-
# Readings count back and go forward

The logged reader does what the reader does, and its log is a path (`Tells`).  This is shown step by
step, with a budget of moves beside it: nine for each lexeme that is passed over, and a few more for
the levels that are counted in front of one.  Nine are enough for the longest link of an expression:
the mark of a conditional counts a level, is passed over, has two expressions behind it that spend
three moves each beside what their own lexemes pay for, and ends a round.

The readers call each other, and neither the lexemes that are left nor the levels decrease with
every call.  The induction is on the lexemes (`Told.told`).  From states with as many lexemes as
there were, a reader is called only by the ones above it: operands by suffixed ones, those by
prefixed ones, those by expressions, and those by lists; the loops go on only behind a lexeme that
they have passed over.

For whole texts it follows that readings one after the other, whether they succeed or fail, start
with no level counted, never count more than the limit allows, and end (`readings_orderly`).
-/

import Mathlib
import RecordFilter.Proofs.Expr.Invariant
import RecordFilter.Proofs.Expr.Logged
import RecordFilter.Proofs.Expr.Progress

namespace RecordFilter
namespace Expr
namespace Parser

namespace Step

/-- The lexemes that a step leaves for another one: none if it fails. -/
def left : Step α n → Nat
  | ok _ t _ => t.size
  | error .. => 0

/-- A step that succeeds leaves the lexemes of its state. -/
@[simp]
theorem left_ok (a : α) (t : State) (le : t.size ≤ n) : (ok a t le).left = t.size := rfl

/-- A step that promises less leaves as many lexemes. -/
@[simp]
theorem left_weaken (x : Step α m) (le : m ≤ n) : (x.weaken le).left = x.left := by cases x <;> rfl

/-- Whatever is made of its result, a step leaves as many lexemes. -/
@[simp]
theorem left_map (x : Step α n) (f : α → β) : (x.map f).left = x.left := by cases x <;> rfl

/-- The depth that is put back leaves as many lexemes. -/
@[simp]
theorem left_restore (d : Nat) (x : Step α n) : (x.restore d).left = x.left := by cases x <;> rfl

end Step

/-- The logged step `x` from the state `s` is the step `y` of the reader.  Its log leads from one
state to the other, with no fewer levels counted in the end, and stays within a budget of moves that
has nine of them left for each lexeme that is. -/
structure Tells (limit budget : Nat) (s : State) (x : Logged α n) (y : Step α n) : Prop where
  step : x.step = y
  path : Path limit s x.log y.state
  depth_le : s.depth ≤ y.state.depth
  moves : x.log.length + 9 * y.left ≤ budget
  passes : passes x.log + y.left ≤ s.size

namespace Tells

variable {limit budget more : Nat} {s t : State} {l : Lexeme} {rest : List Lexeme}
variable {x : Logged α n} {y : Step α n}

/-- A step that is told within a budget is told within a greater one. -/
theorem mono (h : Tells limit budget s x y) (hle : budget ≤ more) : Tells limit more s x y :=
  ⟨h.step, h.path, h.depth_le, Nat.le_trans h.moves hle, h.passes⟩

/-- A success without a move is told within nine moves for each lexeme. -/
theorem ok (a : α) (le : s.size ≤ n) :
    Tells limit (9 * s.size) s (.ok a s le : Logged α n) (.ok a s le) :=
  ⟨rfl, .nil, Nat.le_refl _, by simp [Logged.ok], by simp [Logged.ok]⟩

/-- A failure without a move is told within any budget. -/
theorem error (e : SyntaxError) (s : State) :
    Tells limit budget s (.error e s : Logged α n) (.error e s) :=
  ⟨rfl, .nil, Nat.le_refl _, Nat.zero_le _, Nat.zero_le _⟩

/-- A step is told when it promises less about what is left. -/
theorem weaken (h : Tells limit budget s x y) (le le' : n ≤ m) :
    Tells limit budget s (x.weaken le) (y.weaken le') := by
  obtain ⟨hx, hp, hd, hm, hs⟩ := h
  refine ⟨by rw [Logged.weaken, hx], ?_, ?_, ?_, ?_⟩
  · rwa [Step.weaken_state]
  · rwa [Step.weaken_state]
  · rwa [Step.left_weaken]
  · rwa [Step.left_weaken]

/-- A step is told whatever is made of its result. -/
theorem map (h : Tells limit budget s x y) (f : α → β) :
    Tells limit budget s (x.map f) (y.map f) := by
  obtain ⟨hx, hp, hd, hm, hs⟩ := h
  refine ⟨by rw [Logged.map, hx], ?_, ?_, ?_, ?_⟩
  · rwa [Step.map_state]
  · rwa [Step.map_state]
  · rwa [Step.left_map]
  · rwa [Step.left_map]

/-- Two steps are told within both of their budgets, where the second one is paid from what the
first one leaves. -/
theorem andThen {f : (a : α) → (t : State) → t.size ≤ n → Logged β m}
    {g : (a : α) → (t : State) → t.size ≤ n → Step β m} {k : Nat}
    (h : Tells limit budget s x y)
    (hf : ∀ a t le, y.Yields a t → Tells limit (9 * t.size + k) t (f a t le) (g a t le))
    (hle : budget + k ≤ more) : Tells limit more s (x.andThen f) (y.andThen g) := by
  obtain ⟨step, log⟩ := x
  obtain ⟨rfl, hp, hd, hm, hs⟩ := h
  cases step with
  | error e t => exact ⟨rfl, hp, hd, Nat.le_trans hm (Nat.le_of_add_right_le hle), hs⟩
  | ok a t le =>
    obtain ⟨hx', hp', hd', hm', hs'⟩ := hf a t le ⟨le, rfl⟩
    refine ⟨hx', hp.append hp', Nat.le_trans hd hd', ?_, ?_⟩
    · change (log ++ (f a t le).log).length + 9 * (g a t le).left ≤ more
      change log.length + 9 * t.size ≤ budget at hm
      rw [List.length_append]
      omega
    · change Parser.passes (log ++ (f a t le).log) + (g a t le).left ≤ s.size
      change Parser.passes log + t.size ≤ s.size at hs
      rw [passes_append]
      omega

/-- It takes one more move to put the depth back. -/
theorem restore (h : Tells limit budget s x y) :
    Tells limit (budget + 1) s (x.restore s.depth) (y.restore s.depth) := by
  obtain ⟨rfl, hp, hd, hm, hs⟩ := h
  have hr : Moves limit x.step.state .restore (x.step.restore s.depth).state := by
    rw [Step.restore_state]
    exact .restore hd
  refine ⟨rfl, hp.append (.single hr), by rw [Step.restore_state_depth], ?_, ?_⟩
  · simp only [Logged.restore, List.length_append, List.length_singleton, Step.left_restore]
    omega
  · rw [Logged.restore, passes_append, Step.left_restore]
    exact hs

/-- It takes one more move to begin a round of a loop, which leaves fewer lexemes than its head. -/
theorem round {head : State} (h : Tells limit budget s x y) (hlt : s.size < head.size) :
    Tells limit (budget + 1) s (x.round head s) y := by
  obtain ⟨hx, hp, hd, hm, hs⟩ := h
  refine ⟨hx, .cons (.round hlt) hp, hd, ?_, hs⟩
  rw [Logged.round, List.length_cons]
  omega

/-! ### Steps that read no expression -/

/-- A move over a token takes one move and leaves nine for each other lexeme. -/
theorem advance (limit : Nat) (h : s.ahead = l :: rest) :
    Tells limit (9 * rest.length + 1) s (Logged.advance s l rest) (advance s l rest) := by
  have hd := advance_depth s l rest
  have hs := s.size_eq h
  unfold Logged.advance
  cases hx : Parser.advance s l rest with
  | ok a t le =>
    rw [hx] at hd
    refine ⟨rfl, .single (.pass h ⟨le, hx⟩), hd.ge, ?_, ?_⟩
    · rw [List.length_singleton, Step.left_ok]
      omega
    · change 1 + t.size ≤ s.size
      omega
  | error e t =>
    rw [hx] at hd
    exact ⟨rfl, .single (.fault h hx), hd.ge, Nat.le_add_left _ _, Nat.zero_le _⟩

/-- One more level, and what is read there. -/
theorem deeper {f : Unit → (t : State) → t.size ≤ s.size → Logged α n}
    {g : Unit → (t : State) → t.size ≤ s.size → Step α n} {k : Nat}
    (hf : ∀ t le, t.ahead = s.ahead → Tells limit k t (f () t le) (g () t le)) :
    Tells limit (k + 1) s ((Logged.descend limit s).andThen f) ((descend limit s).andThen g) := by
  unfold Logged.descend
  by_cases h : s.depth < limit
  · rw [descend_counts h]
    obtain ⟨hx, hp, hd, hm, hs⟩ := hf (s.withDepth (s.depth + 1)) (Nat.le_refl _) rfl
    refine ⟨hx, .cons (.descend h) hp, Nat.le_of_succ_le hd, ?_, hs⟩
    change ((f () _ _).log.length + 1) + 9 * (g () _ _).left ≤ k + 1
    omega
  · rw [descend_refuses h]
    exact error _ _

/-- The check for a symbol is told within the moves of its lexeme. -/
theorem expect (limit : Nat) (c : Symbol) (s : State) :
    Tells limit (9 * s.size) s (Logged.expect c s) (expect c s) := by
  unfold Logged.expect
  split
  · next h =>
    rw [expect_nil h]
    exact error _ _
  · next l rest h =>
    have hs := s.size_eq h
    split
    · next hc =>
      rw [expect_symbol h (isSymbol_iff.1 hc)]
      exact ((advance limit h).mono (by omega)).weaken _ _
    · next hc =>
      rw [expect_other h (mt isSymbol_iff.2 hc)]
      exact error _ _

/-- The reading of a property name is told within the moves of its lexeme. -/
theorem propertyName (limit : Nat) (s : State) :
    Tells limit (9 * s.size) s (Logged.propertyName s) (propertyName s) := by
  unfold Logged.propertyName
  split
  · next h =>
    rw [propertyName_nil h]
    exact error _ _
  · next l rest h =>
    have hs := s.size_eq h
    split
    · next n hn =>
      rw [propertyName_name h hn]
      exact (((advance limit h).mono (by omega)).map _).weaken _ _
    · next hn =>
      rw [propertyName_other h hn]
      exact error _ _

/-- The reading of `in` as a name is told within the moves of its lexeme. -/
theorem inAsName (limit : Nat) (h : s.ahead = l :: rest) :
    Tells limit (9 * s.size) s (Logged.inAsName s l rest) (inAsName s l rest) := by
  have hs := s.size_eq h
  refine (advance limit h).andThen (k := 0) (fun _ t le _ => ?_) (by omega)
  split
  · exact ok _ _
  · exact error _ _

end Tells

/-- The logged readers tell what the readers do, from states with `n` lexemes. -/
structure Told (limit n : Nat) : Prop where
  primary (s : State) (h : s.size = n) :
    Tells limit (9 * s.size) s (Logged.primary limit s) (primary limit s)
  list (close : Symbol) (s : State) (h : s.size = n) :
    Tells limit (9 * s.size + 4) s (Logged.list limit close s) (list limit close s)
  items (s : State) (h : s.size = n) :
    Tells limit (9 * s.size + 4) s (Logged.items limit s) (items limit s)
  moreItems (s : State) (h : s.size = n) :
    Tells limit (9 * s.size) s (Logged.moreItems limit s) (moreItems limit s)
  postfixed (s : State) (h : s.size = n) :
    Tells limit (9 * s.size + 1) s (Logged.postfixed limit s) (postfixed limit s)
  suffixes (e : Expr) (s : State) (h : s.size = n) :
    Tells limit (9 * s.size) s (Logged.suffixes limit e s) (suffixes limit e s)
  prefixed (s : State) (h : s.size = n) :
    Tells limit (9 * s.size + 1) s (Logged.prefixed limit s) (prefixed limit s)
  expression (power : Nat) (s : State) (h : s.size = n) :
    Tells limit (9 * s.size + 3) s (Logged.expression limit power s) (expression limit power s)
  chain (power : Nat) (left : Expr) (s : State) (h : s.size = n) :
    Tells limit (9 * s.size) s (Logged.chain limit power left s) (chain limit power left s)

namespace Told

variable {limit : Nat} {s : State}

/-! ### Reader by reader -/

/-- Primary expressions are told if all readers are behind their first lexeme. -/
theorem primary_step (ih : ∀ m < s.size, Told limit m) :
    Tells limit (9 * s.size) s (Logged.primary limit s) (Parser.primary limit s) := by
  rw [Logged.primary]
  split
  · next h =>
    rw [primary_nil h]
    exact .error _ _
  · next l rest h =>
    have hs := s.size_eq h
    dsimp only
    split
    · next e ha =>
      rw [primary_atom h ha]
      exact (((Tells.advance limit h).mono (by omega)).map _).weaken _ _
    · next _ ht =>
      rw [primary_in h ht]
      exact (Tells.inAsName limit h).weaken _ _
    · next _ ht =>
      rw [primary_group h ht]
      refine (Tells.advance limit h).andThen (k := 3) (fun _ s₁ le₁ _ => ?_) (by omega)
      refine ((ih _ (by omega)).expression 0 _ rfl).andThen (k := 0) (fun e s₂ le₂ _ => ?_) le_rfl
      exact ((Tells.expect limit .rightParen s₂).map _).weaken _ _
    · next _ ht =>
      rw [primary_list h ht]
      refine (Tells.advance limit h).andThen (k := 4) (fun _ s₁ le₁ _ => ?_) (by omega)
      exact (((ih _ (by omega)).list .rightBracket _ rfl).map _).weaken _ _
    · next ha hi hp hb =>
      rw [primary_other h ha hi hp hb]
      exact .error _ _

/-- Lists are told if the items at their front are. -/
theorem list_step (close : Symbol)
    (ih : Tells limit (9 * s.size + 4) s (Logged.items limit s) (Parser.items limit s)) :
    Tells limit (9 * s.size + 4) s (Logged.list limit close s) (Parser.list limit close s) := by
  rw [Logged.list]
  split
  · next hc =>
    rw [list_closed hc]
    exact (((Tells.expect limit close s).map _).mono (Nat.le_add_right _ _)).weaken _ _
  · next hc =>
    rw [list_open hc]
    refine ih.andThen (k := 0) (fun es s₁ le₁ _ => ?_) le_rfl
    exact ((Tells.expect limit close s₁).map _).weaken _ _

/-- Items are told if the expression at their front is. -/
theorem items_step (ih : ∀ m < s.size, Told limit m)
    (ihe : Tells limit (9 * s.size + 3) s (Logged.expression limit 0 s)
      (Parser.expression limit 0 s)) :
    Tells limit (9 * s.size + 4) s (Logged.items limit s) (Parser.items limit s) := by
  rw [Logged.items, Parser.items]
  refine ihe.andThen (k := 1) (fun e s₁ le₁ hy => ?_) le_rfl
  have hlt : s₁.size < s.size := (expression_shortens limit 0 s).of_yields hy
  exact ((((ih _ hlt).moreItems _ rfl).map _).weaken _ _).round hlt

/-- Further items are told if all readers are behind their comma. -/
theorem moreItems_step (ih : ∀ m < s.size, Told limit m) :
    Tells limit (9 * s.size) s (Logged.moreItems limit s) (Parser.moreItems limit s) := by
  rw [Logged.moreItems]
  split
  · next h =>
    rw [moreItems_nil h]
    exact .ok _ _
  · next l rest h =>
    have hs := s.size_eq h
    dsimp only
    split
    · next ht =>
      rw [moreItems_comma h (isSymbol_iff.1 ht)]
      refine (Tells.advance limit h).andThen (k := 4) (fun _ s₁ le₁ _ => ?_) (by omega)
      exact ((ih _ (by omega)).items _ rfl).weaken _ _
    · next ht =>
      rw [moreItems_other h (mt isSymbol_iff.2 ht)]
      exact .ok _ _

/-- One more level for the next lexeme. -/
theorem link {l : Lexeme} {rest : List Lexeme} {n k : Nat} (h : s.ahead = l :: rest)
    {f : (s₀ : State) → s₀.size ≤ s.size → Unit → (t : State) → t.size ≤ rest.length →
      Logged Expr n}
    {g : (s₀ : State) → s₀.size ≤ s.size → Unit → (t : State) → t.size ≤ rest.length →
      Step Expr n}
    (hf : ∀ s₀ le₀ a t le, Tells limit (9 * t.size + k) t (f s₀ le₀ a t le) (g s₀ le₀ a t le))
    (hk : k ≤ 7) :
    Tells limit (9 * s.size) s
      ((Logged.descend limit s).andThen fun _ s₀ le₀ =>
        (Logged.advance s₀ l rest).andThen (f s₀ le₀))
      ((descend limit s).andThen fun _ s₀ le₀ => (advance s₀ l rest).andThen (g s₀ le₀)) := by
  have hs := s.size_eq h
  refine (Tells.deeper (k := 9 * rest.length + 1 + k) fun s₀ le₀ ha => ?_).mono (by omega)
  exact (Tells.advance limit (ha.trans h)).andThen (fun a t le _ => hf s₀ le₀ a t le) le_rfl

/-- Suffixes are told if all readers are behind their first lexeme. -/
theorem suffixes_step (e : Expr) (ih : ∀ m < s.size, Told limit m) :
    Tells limit (9 * s.size) s (Logged.suffixes limit e s) (Parser.suffixes limit e s) := by
  rw [Logged.suffixes]
  split
  · next h =>
    rw [suffixes_nil h]
    exact .ok _ _
  · next l rest h =>
    have hs := s.size_eq h
    dsimp only
    split
    · next ht =>
      rw [suffixes_dot h ht]
      refine link h (k := 1) (fun _ _ _ s₁ le₁ => ?_) (by omega)
      refine (Tells.propertyName limit s₁).andThen (k := 1) (fun n s₂ le₂ _ => ?_) le_rfl
      exact (((ih _ (by omega)).suffixes _ _ rfl).weaken _ _).round (by omega)
    · next ht =>
      rw [suffixes_bracket h ht]
      refine link h (k := 4) (fun _ _ _ s₁ le₁ => ?_) (by omega)
      refine ((ih _ (by omega)).expression 0 _ rfl).andThen (k := 1) (fun p s₂ le₂ _ => ?_) le_rfl
      refine (Tells.expect limit .rightBracket s₂).andThen (k := 1) (fun _ s₃ le₃ _ => ?_) le_rfl
      exact (((ih _ (by omega)).suffixes _ _ rfl).weaken _ _).round (by omega)
    · next ht =>
      cases hc : e.calleeName? with
      | none =>
        rw [suffixes_nameless h ht hc]
        exact (Tells.deeper (k := 0) fun _ _ _ => .error _ _).mono (by omega)
      | some callee =>
        rw [suffixes_paren h ht hc]
        refine link h (k := 5) (fun _ _ _ s₁ le₁ => ?_) (by omega)
        refine ((ih _ (by omega)).list .rightParen _ rfl).andThen (k := 1)
          (fun es s₂ le₂ _ => ?_) le_rfl
        exact (((ih _ (by omega)).suffixes _ _ rfl).weaken _ _).round (by omega)
    · next hd hb hp =>
      rw [suffixes_other h hd hb hp]
      exact .ok _ _

/-- Operands are told if the primary expressions at their front are. -/
theorem postfixed_step (ih : ∀ m < s.size, Told limit m)
    (ihp : Tells limit (9 * s.size) s (Logged.primary limit s) (Parser.primary limit s)) :
    Tells limit (9 * s.size + 1) s (Logged.postfixed limit s) (Parser.postfixed limit s) := by
  rw [Logged.postfixed, Parser.postfixed]
  refine Tells.restore (ihp.andThen (k := 0) (fun e s₁ le₁ hy => ?_) le_rfl)
  have hlt : s₁.size < s.size := (primary_shortens limit s).of_yields hy
  exact ((ih _ hlt).suffixes e _ rfl).weaken _ _

/-- Prefixed expressions are told if the operands at their front are. -/
theorem prefixed_step (ih : ∀ m < s.size, Told limit m)
    (ihp : Tells limit (9 * s.size + 1) s (Logged.postfixed limit s) (Parser.postfixed limit s)) :
    Tells limit (9 * s.size + 1) s (Logged.prefixed limit s) (Parser.prefixed limit s) := by
  rw [Logged.prefixed]
  split
  · next h =>
    rw [prefixed_nil h]
    exact ihp
  · next l rest h =>
    have hs := s.size_eq h
    dsimp only
    split
    · next ho =>
      rw [prefixed_other h ho]
      exact ihp
    · next op ho =>
      rw [prefixed_operator h ho]
      refine (Tells.advance limit h).andThen (k := 3) (fun _ s₁ le₁ _ => ?_) (by omega)
      refine Tells.weaken (Tells.map (Tells.restore (Tells.deeper fun s₂ le₂ ha => ?_)) _) _ _
      have he : s₂.size = s₁.size := congrArg List.length ha
      have hx := (ih s₂.size (by omega)).prefixed s₂ rfl
      exact (hx.mono (by omega)).weaken _ _

/-- Expressions are told if the prefixed expressions at their front are. -/
theorem expression_step (power : Nat) (ih : ∀ m < s.size, Told limit m)
    (ihp : ∀ t : State, t.size = s.size →
      Tells limit (9 * t.size + 1) t (Logged.prefixed limit t) (Parser.prefixed limit t)) :
    Tells limit (9 * s.size + 3) s (Logged.expression limit power s)
      (Parser.expression limit power s) := by
  rw [Logged.expression, Parser.expression]
  refine Tells.restore (Tells.deeper fun s₁ le₁ ha => ?_)
  have he : s₁.size = s.size := congrArg List.length ha
  refine (ihp s₁ he).andThen (k := 0) (fun left s₂ le₂ hy => ?_) (by omega)
  have hlt : s₂.size < s₁.size := (prefixed_shortens limit s₁).of_yields hy
  exact ((ih _ (by omega)).chain power left _ rfl).weaken _ _

/-- Chains are told if all readers are behind their connective. -/
theorem chain_step (power : Nat) (left : Expr) (ih : ∀ m < s.size, Told limit m) :
    Tells limit (9 * s.size) s (Logged.chain limit power left s)
      (Parser.chain limit power left s) := by
  rw [Logged.chain]
  split
  · next h =>
    rw [chain_nil h]
    exact .ok _ _
  · next l rest h =>
    have hs := s.size_eq h
    dsimp only
    split
    · next hc =>
      rw [chain_other h hc]
      exact .ok _ _
    · next c hc =>
      split
      · next hp =>
        rw [chain_weaker h hc hp]
        exact .ok _ _
      · next hp =>
        cases hn : c.node? with
        | some node =>
          rw [chain_operator h hc (Nat.le_of_not_lt hp) hn]
          refine link h (k := 4) (fun _ _ _ s₁ le₁ => ?_) (by omega)
          refine ((ih _ (by omega)).expression _ _ rfl).andThen (k := 1)
            (fun right s₂ le₂ _ => ?_) le_rfl
          exact (((ih _ (by omega)).chain _ _ _ rfl).weaken _ _).round (by omega)
        | none =>
          rw [chain_conditional h hc (Nat.le_of_not_lt hp) hn]
          refine link h (k := 7) (fun _ _ _ s₁ le₁ => ?_) (by omega)
          refine ((ih _ (by omega)).expression 0 _ rfl).andThen (k := 4)
            (fun positive s₂ le₂ _ => ?_) le_rfl
          refine (Tells.expect limit .colon s₂).andThen (k := 4) (fun _ s₃ le₃ _ => ?_) le_rfl
          refine ((ih _ (by omega)).expression _ _ rfl).andThen (k := 1)
            (fun negative s₄ le₄ _ => ?_) le_rfl
          exact (((ih _ (by omega)).chain _ _ _ rfl).weaken _ _).round (by omega)

/-- **Every logged reader tells what the reader does.** -/
theorem told (limit n : Nat) : Told limit n := by
  induction n using Nat.strongRecOn with
  | ind n ih =>
    have below {s : State} (h : s.size = n) : ∀ m < s.size, Told limit m := h ▸ ih
    have primary (s : State) (h : s.size = n) := primary_step (below h)
    have postfixed (s : State) (h : s.size = n) := postfixed_step (below h) (primary s h)
    have prefixed (s : State) (h : s.size = n) := prefixed_step (below h) (postfixed s h)
    have expression (power : Nat) (s : State) (h : s.size = n) :=
      expression_step power (below h) fun t ht => prefixed t (ht.trans h)
    have items (s : State) (h : s.size = n) := items_step (below h) (expression 0 s h)
    exact {
      primary, postfixed, prefixed, expression, items
      list close s h := list_step close (items s h)
      moreItems s h := moreItems_step (below h)
      suffixes e s h := suffixes_step e (below h)
      chain power left s h := chain_step power left (below h) }

end Told

/-! ### Whole texts -/

/-- A reading of a whole text from the state `s`, move by move. -/
structure Orderly (limit : Nat) (s : State) : Prop where
  /-- The logged reading is the reading. -/
  told : (Logged.whole limit s).1 = whole limit s
  /-- Its log leads from the state to the one in which the reading ends. -/
  path : Path limit s (Logged.whole limit s).2 (whole limit s).2
  /-- No more levels are counted than the limit allows. -/
  depth_le : ∀ event ∈ (Logged.whole limit s).2, event.reached.depth ≤ limit
  /-- Every round of a loop passes over a lexeme. -/
  round_size_lt : ∀ event ∈ (Logged.whole limit s).2, ∀ head, event.move = .round head →
    event.reached.size < head.size
  /-- The reading ends after nine moves for each lexeme and three more, at most. -/
  length_le : (Logged.whole limit s).2.length ≤ 9 * s.size + 3
  /-- No more lexemes are passed over than there are. -/
  passes_le : passes (Logged.whole limit s).2 ≤ s.size

/-- **Every reading of a whole text is orderly**, from a state within the limit. -/
theorem whole_orderly {limit : Nat} {s : State} (hs : s.depth ≤ limit) : Orderly limit s := by
  obtain ⟨hx, hp, -, hm, hc⟩ := (Told.told limit s.size).expression 0 s rfl
  have hw : (whole limit s).2 = (expression limit 0 s).state := whole_state limit s
  have hl : (Logged.whole limit s).1 = whole limit s :=
    (congrArg Logged.finish hx).trans (Logged.finish_expression limit s)
  rw [← hw] at hp
  exact ⟨hl, hp, hp.depth_le hs, hp.round_size_lt, Nat.le_of_add_right_le hm,
    Nat.le_of_add_right_le hc⟩

/-- Between readings no level is counted. -/
theorem Reached.depth_eq_zero {limit : Nat} {text : String} {s : State}
    (h : Reached limit text s) : s.depth = 0 := by
  induction h with
  | start h => exact (State.ofText_eq_ok h).2.1
  | again _ ih => rw [whole_state, expression_depth, ih]

/-- **Readings count back and go forward.**  Whether they succeed or fail, a reader that goes one
level down, the readers of operands and the reader of expressions leave the count of levels as it
was.  If they succeed, they leave fewer lexemes.  So no level is counted between readings of a text
one after the other, and each of them stays within the limit, makes progress with every round of a
loop, and ends.  A reader asks for one lexeme before it reads, and for the next whenever it passes
over one: up to the end of the first reading it is given all lexemes and the end of the text, at
most. -/
theorem readings_orderly (limit : Nat) (text : String) :
    (∀ (α : Type) (m : Nat) (s : State) (f : Unit → (t : State) → t.size ≤ s.size → Step α m),
      (((descend limit s).andThen f).restore s.depth).state.depth = s.depth) ∧
    (∀ s, (postfixed limit s).state.depth = s.depth ∧ (prefixed limit s).state.depth = s.depth ∧
      ∀ power, (expression limit power s).state.depth = s.depth) ∧
    (∀ s e t, ((postfixed limit s).Yields e t → t.size < s.size) ∧
      ((prefixed limit s).Yields e t → t.size < s.size) ∧
      ∀ power, (expression limit power s).Yields e t → t.size < s.size) ∧
    (∀ s, Reached limit text s → s.depth = 0 ∧ Orderly limit s) ∧
    ∀ s, State.ofText text = .ok s →
      1 + passes (Logged.whole limit s).2 ≤ (Source.ofText text).lexemes.1.length + 1 := by
  refine ⟨fun _ _ s f => Step.restore_state_depth _ _, fun s => ?_, fun s e t => ?_,
    fun s hr => ?_, fun s hs => ?_⟩
  · exact ⟨postfixed_depth limit s, prefixed_depth limit s, fun p => expression_depth limit p s⟩
  · exact ⟨(postfixed_shortens limit s).of_yields, (prefixed_shortens limit s).of_yields,
      fun p => (expression_shortens limit p s).of_yields⟩
  · have hd := hr.depth_eq_zero
    exact ⟨hd, whole_orderly (by omega)⟩
  · obtain ⟨hl, hd, -⟩ := State.ofText_eq_ok hs
    have hp : passes (Logged.whole limit s).2 ≤ s.ahead.length :=
      (whole_orderly (by omega)).passes_le
    rw [hl]
    change 1 + passes (Logged.whole limit s).2 ≤ s.ahead.length + 1
    omega

/-- A limit of one level is passed at the second operator.  The level that has been counted is put
back, so the next reading has all of them. -/
theorem readings_orderly_negations :
    ∃ s, State.ofText "!!a" = .ok s ∧ (whole 1 s).1 = .error (.tooDeep 1 1) ∧
      (whole 1 s).2.depth = 0 ∧ Orderly 1 (whole 1 s).2 ∧
      1 + passes (Logged.whole 1 s).2 ≤ 4 := by
  refine ⟨⟨[⟨.symbol .bang, 0, 1⟩, ⟨.symbol .bang, 1, 2⟩, ⟨.name "a", 2, 3⟩], .finished 3, 0⟩,
    rfl, by cbv, ?_, ?_, ?_⟩
  · exact ((readings_orderly 1 "!!a").2.2.2.1 _ (.again (.start rfl))).1
  · exact ((readings_orderly 1 "!!a").2.2.2.1 _ (.again (.start rfl))).2
  · exact (readings_orderly 1 "!!a").2.2.2.2 _ rfl

/-- A text that is read as an expression is passed over as a whole. -/
example :
    passes (Logged.whole 2 ⟨[⟨.symbol .bang, 0, 1⟩, ⟨.name "a", 1, 2⟩], .finished 2, 0⟩).2 = 2 := by
  cbv

end Parser
end Expr
end RecordFilter
