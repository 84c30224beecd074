/-
# Readings under two limits

The limit is asked for at one place only, where a level is counted (`descend`).  So two readings
from one state under two limits do the same until the smaller limit is reached, and then the first
one fails at the lexeme that is current (`limits_descend`).  What the second one does from there on
concerns that lexeme and the later ones, since lexemes come in the order of the text
(`State.StandsFrom`); an error that it still runs into lies at that place or behind it.

So the two readings are coupled (`limits`), and for whole texts this says that a greater limit
changes nothing but errors about the limit, and moves none of them towards the front
(`parse_limit_le`).
-/

import Mathlib
import RecordFilter.Proofs.Expr.Abreast
import RecordFilter.Proofs.Expr.Scanning

namespace RecordFilter

/-- The position of the end, or of what is no token. -/
def Ending.position : Ending → Nat
  | finished p => p
  | broken e _ => e.position

/-! ### The order of the lexemes -/

/-- An error in what stands at the front of a text lies there or behind it. -/
theorem Scan.le_position_of_front {p n : Nat} {first : Char} {rest : List Char} {e : SyntaxError}
    (h : front p first rest = .fault e n) : p ≤ e.position := by
  unfold front at h
  split_ifs at h
  · unfold string at h
    split at h <;> cases h
    · exact Nat.le_refl p
    · simp only [SyntaxError.position]
      omega
  · rw [eq_invalidNumber_of_number h]
    exact Nat.le_refl p
  · cases h
  · unfold symbol at h
    split at h <;> cases h
    exact Nat.le_refl p

namespace Source

/-- Numbers in order stay in order when the first one gets less. -/
theorem pairwise_of_le {p q : Nat} {qs : List Nat} (hp : p ≤ q)
    (h : (q :: qs).Pairwise (· ≤ ·)) : (p :: qs).Pairwise (· ≤ ·) :=
  List.pairwise_cons.2 ⟨fun _ hr => Nat.le_trans hp (List.rel_of_pairwise_cons h hr), h.of_cons⟩

/-- What is skipped lies behind. -/
theorem position_le_skip (s : Source) (n : Nat) : s.position ≤ (s.skip n).position :=
  Nat.le_add_right _ _

/-- The lexemes that are taken off a text, and what comes after them, stand in the order of the
text. -/
theorem pairwise_take (limit : Nat) (s : Source) :
    (s.position :: ((take limit s).1.map (·.start) ++ [(take limit s).2.position])).Pairwise
      (· ≤ ·) := by
  induction limit generalizing s with
  | zero => exact List.pairwise_pair.2 (Nat.le_refl _)
  | succ limit ih =>
    have hspace : s.position ≤ s.skipSpace.position := s.position_le_skip _
    unfold take next
    dsimp only
    cases hr : s.skipSpace.rest with
    | nil => exact List.pairwise_pair.2 hspace
    | cons first rest =>
      dsimp only
      cases hf : Scan.front s.skipSpace.position first rest with
      | token t length =>
        have hlater := pairwise_of_le (s.skipSpace.position_le_skip length)
          (ih (s.skipSpace.skip length))
        exact List.pairwise_cons_cons_iff_of_trans.2 ⟨hspace, hlater⟩
      | fault e length =>
        exact List.pairwise_pair.2 (Nat.le_trans hspace (Scan.le_position_of_front hf))

end Source

namespace Expr
namespace Parser

namespace State

/-- The positions of the lexemes that are left and of what comes after them. -/
def positions (s : State) : List Nat := s.ahead.map (·.start) ++ [s.ending.position]

/-- What is left stands in order, from the position `p` on. -/
def StandsFrom (p : Nat) (s : State) : Prop := (p :: s.positions).Pairwise (· ≤ ·)

variable {p : Nat} {s : State} {l : Lexeme} {rest : List Lexeme}

/-- The current position is that of what is left, or of its end. -/
theorem position_mem_positions (s : State) : s.position ∈ s.positions := by
  obtain ⟨ahead, ending, depth⟩ := s
  cases ahead with
  | cons l rest => exact List.mem_cons_self
  | nil => cases ending <;> exact List.mem_cons_self

/-- The current position does not lie in front of what is left. -/
theorem StandsFrom.le_position (h : s.StandsFrom p) : p ≤ s.position :=
  (List.pairwise_cons.1 h).1 _ s.position_mem_positions

/-- The lexeme in front starts at the position or behind it. -/
theorem StandsFrom.le_start (h : s.StandsFrom p) (ha : s.ahead = l :: rest) : p ≤ l.start := by
  have hp := h.le_position
  obtain ⟨ahead, ending, depth⟩ := s
  cases ha
  exact hp

/-- What is left stands from the current position on. -/
theorem StandsFrom.fromPosition (h : s.StandsFrom p) : s.StandsFrom s.position := by
  have hs := (List.pairwise_cons.1 h).2
  refine List.pairwise_cons.2 ⟨?_, hs⟩
  have hhead : ∃ qs, s.positions = s.position :: qs := by
    obtain ⟨ahead, ending, depth⟩ := s
    cases ahead with
    | cons l rest => exact ⟨_, rfl⟩
    | nil => cases ending <;> exact ⟨_, rfl⟩
  obtain ⟨qs, hqs⟩ := hhead
  rw [hqs] at hs ⊢
  exact List.forall_mem_cons.2 ⟨Nat.le_refl _, (List.pairwise_cons.1 hs).1⟩

/-- What is left behind a lexeme stands in order too. -/
theorem StandsFrom.tail (h : s.StandsFrom p) (ha : s.ahead = l :: rest) :
    { s with ahead := rest }.StandsFrom p := by
  obtain ⟨ahead, ending, depth⟩ := s
  cases ha
  exact h.sublist ((List.sublist_cons_self _ _).cons_cons p)

end State

/-- Passing over a lexeme leads to what stands behind it. -/
theorem standsFrom_advance {s : State} {p : Nat} {l : Lexeme} {rest : List Lexeme}
    (h : { s with ahead := rest }.StandsFrom p) :
    (advance s l rest).Keeps (State.StandsFrom p) fun e _ => p ≤ e.position := by
  obtain ⟨ahead, ending, depth⟩ := s
  cases rest with
  | cons => exact h
  | nil =>
    cases ending with
    | finished => exact h
    | broken e after => exact h.le_position

/-- Passing over lexemes leaves lexemes in order, and no error lies before the first of them. -/
theorem standsFrom_invariant (limit p : Nat) :
    Invariant limit (State.StandsFrom p) fun e _ => p ≤ e.position where
  advance ha hs := standsFrom_advance (hs.tail ha)
  descend _ hs := hs
  restore _ ht := ht
  restoreError _ he := he
  tooDeep _ hs := hs.le_position
  unexpectedEnd _ hs := hs.le_position
  unexpectedToken ha hs _ := hs.le_start ha
  expected ha hs _ := hs.le_start ha
  invalidCallTarget ha hs _ := hs.le_start ha

/-! ### Readings under two limits -/

/-- A reading that has failed because the limit was reached at the position `p`. -/
def reachedAt (limit p : Nat) : Kept limit := .failed limit (· = .tooDeep limit p)

/-- A reading that leaves nothing towards the front from the position `p` on. -/
def staysFrom (limit p : Nat) : Kept limit where
  holds := State.StandsFrom p
  fails e _ := p ≤ e.position
  invariant := standsFrom_invariant limit p
  withDepth _ := id
  fails_withDepth _ := id

/-- Two readings do the same until the smaller limit is reached. -/
def limits (limit more : Nat) : Coupling limit more where
  pairs s u := u = s ∧ s.StandsFrom 0
  agree e e' := e' = e
  parting K K' := ∃ p, K = reachedAt limit p ∧ K' = staysFrom more p

variable {limit more : Nat} {s : State}

/-- A step that does not ask for the limit. -/
theorem limits_same {x : Step α n} (h : (staysFrom limit 0).By x) :
    (limits limit more).Beside x x := by
  cases x with
  | ok a t le => exact .ok ⟨rfl, h⟩
  | error e t => exact .error rfl

/-- A level is counted.  This is where two limits make a difference. -/
theorem limits_descend (hle : limit ≤ more) (hs : s.StandsFrom 0) :
    (limits limit more).Beside (descend limit s) (descend more s) := by
  unfold descend
  by_cases hlt : s.depth < limit
  · rw [if_pos hlt, if_pos (Nat.lt_of_lt_of_le hlt hle)]
    exact .ok ⟨rfl, hs⟩
  · have hk := (staysFrom more s.position).invariant.keeps_descend hs.fromPosition
    unfold descend at hk
    rw [if_neg hlt]
    exact .apart (K := reachedAt limit s.position) ⟨_, rfl, rfl⟩ rfl hk

/-- Readings under two limits make their moves side by side. -/
theorem limits_lawful (hle : limit ≤ more) : (limits limit more).Lawful where
  token h := by rw [h.1]
  advance := by
    rintro s _ l l' rest rest' ⟨rfl, hp⟩ hs hu
    cases hs.symm.trans hu
    exact limits_same ((standsFrom_invariant limit 0).advance hs hp)
  inAsName := by
    rintro s _ l l' rest rest' ⟨rfl, hp⟩ hs hu ht
    cases hs.symm.trans hu
    exact limits_same ((standsFrom_invariant limit 0).keeps_inAsName hs hp)
  descend := by
    rintro s _ ⟨rfl, hp⟩
    exact limits_descend hle hp
  restore := by
    rintro s _ t _ ⟨rfl, hs⟩ ⟨rfl, ht⟩
    exact ⟨rfl, ht⟩
  fails := by
    rintro s _ e ⟨rfl, hp⟩ _
    rfl

/-! ### Whole texts -/

/-- In front of a text the lexemes stand in order. -/
theorem State.standsFrom_ofText {text : String} {s : State} (h : State.ofText text = .ok s) :
    s.StandsFrom 0 := by
  have hp := Source.pairwise_take ((Source.ofText text).rest.length + 1) (Source.ofText text)
  change (0 :: ((Source.ofText text).lexemes.1.map (·.start) ++
    [(Source.ofText text).lexemes.2.position])).Pairwise (· ≤ ·) at hp
  rwa [(State.ofText_eq_ok h).1] at hp

/-- Two whole readings end alike, unless the smaller limit is reached; the other one stays behind
that place. -/
theorem whole_limit_le (hle : limit ≤ more) (hs : s.StandsFrom 0) :
    (whole more s).1 = (whole limit s).1 ∨ ∃ p, (whole limit s).1 = .error (.tooDeep limit p) ∧
      ∀ e, (whole more s).1 = .error e → p ≤ e.position := by
  rcases (limits_lawful hle).whole ⟨rfl, hs⟩ with ⟨e, hx, hy⟩ | ⟨e, e', hx, hy, he⟩ |
    ⟨_, _, ⟨p, rfl, rfl⟩, hx, hy⟩
  · exact .inl (hy.trans hx.symm)
  · obtain rfl : e' = e := he
    exact .inl (hy.trans hx.symm)
  · refine .inr ⟨p, ?_, fun e he => hy.of_error he⟩
    cases hw : whole limit s with
    | mk r t =>
      rw [hw] at hx
      cases r with
      | ok a => exact absurd hx id
      | error e => exact congrArg Except.error hx

end Parser

variable {limit more : Nat}

/-- Under a greater limit a text is read alike, unless the smaller limit is reached; an error under
the greater one lies at that place or behind it. -/
theorem parse_eq_or_tooDeep (text : String) (hle : limit ≤ more) :
    parse more text = parse limit text ∨ ∃ p, parse limit text = .error (.tooDeep limit p) ∧
      ∀ e, parse more text = .error e → p ≤ e.position := by
  unfold parse
  cases hs : Parser.State.ofText text with
  | error e => exact .inl rfl
  | ok s => exact Parser.whole_limit_le hle (Parser.State.standsFrom_ofText hs)

/-- What is read within a limit is read within each greater one. -/
theorem parse_mono {text : String} {e : Expr} (h : parse limit text = .ok e)
    (hle : limit ≤ more) : parse more text = .ok e := by
  rcases parse_eq_or_tooDeep text hle with heq | ⟨p, ht, -⟩
  · exact heq.trans h
  · cases h.symm.trans ht

/-- **The limit only says where reading stops.**  Under a greater limit a text that was read is read
as the same expression; an error that is not about the limit stays as it is; and where the limit was
reached at a position, there is no error now or one that lies there or behind it.  So a text is read
as one expression under all the limits that it is read under. -/
theorem parse_limit_le (text : String) (hle : limit ≤ more) :
    (∀ e, parse limit text = .ok e → parse more text = .ok e) ∧
      (∀ err, parse limit text = .error err → ¬ err.IsTooDeep → parse more text = .error err) ∧
      (∀ m p, parse limit text = .error (.tooDeep m p) →
        ∀ err, parse more text = .error err → p ≤ err.position) ∧
      ∀ m n e₁ e₂, parse m text = .ok e₁ → parse n text = .ok e₂ → e₁ = e₂ := by
  refine ⟨fun e h => parse_mono h hle, fun err h hd => ?_, fun m p h err he => ?_,
    fun m n e₁ e₂ h₁ h₂ => ?_⟩
  · rcases parse_eq_or_tooDeep text hle with heq | ⟨p, ht, -⟩
    · exact heq.trans h
    · cases h.symm.trans ht
      exact absurd trivial hd
  · rcases parse_eq_or_tooDeep text hle with heq | ⟨q, ht, hq⟩
    · cases he.symm.trans (heq.trans h)
      exact Nat.le_refl p
    · cases h.symm.trans ht
      exact hq err he
  · have hm := parse_mono h₁ (Nat.le_max_left m n)
    have hn := parse_mono h₂ (Nat.le_max_right m n)
    exact Except.ok.inj (hm.symm.trans hn)

/-- Without any level the limit is reached at the first lexeme; within five levels a negated name is
read, and so it is within the default. -/
theorem parse_limit_le_negation :
    parse 0 " !x" = .error (.tooDeep 0 1) ∧
      (∀ err, parse defaultLimit " !x" = .error err → 1 ≤ err.position) ∧
      parse defaultLimit " !x" = .ok (.unary .not (.name "x")) := by
  have hlexemes : (Source.ofText " !x").lexemes =
    ([⟨.symbol .bang, 1, 2⟩, ⟨.name "x", 2, 3⟩], .finished 3) := rfl
  have hdeep : parse 0 " !x" = .error (.tooDeep 0 1) := by
    rw [parse_of_lexemes hlexemes, Parser.whole, Parser.expression]
    rfl
  have hderives : Grammar.Derives .prefixed [.symbol .bang, .name "x"] (.unary .not (.name "x")) :=
    .unary (t := .symbol .bang) rfl ((Grammar.Derives.atom rfl).loosen (by decide))
  have hread : parse 5 " !x" = .ok (.unary .not (.name "x")) :=
    ((parse_iff_derives hlexemes (by decide)).1 _).2 (hderives.loosen (by decide))
  exact ⟨hdeep, (parse_limit_le " !x" (by decide)).2.2.1 0 1 hdeep,
    (parse_limit_le " !x" (by decide)).1 _ hread⟩

end Expr
end RecordFilter
