/-
# The logged reader

The result of a reading does not tell how it came about.  The logged reader reads as the reader
does, and writes down each move on the way: a `Logged` step is a step and the log of its moves.  The
moves of the steps that read no expression are logged where they are made (`Logged.advance`,
`Logged.descend`, `Logged.restore`), and the readers above them are the readers of
`RecordFilter.Expr.Parser` with these steps in place of theirs.

The three loops log their rounds.  A round of a list is over when its expression has been read; a
round of the suffixes, or of a chain, when the loop goes on to the next suffix or connective.  A
look at what stands in front that ends a loop is no round of it.
-/

import Mathlib
import RecordFilter.Proofs.Expr.Moves

namespace RecordFilter
namespace Expr
namespace Parser

namespace State

variable {s t u : State} {l : Lexeme} {rest : List Lexeme}

/-- Behind the first lexeme there is one fewer. -/
theorem length_le_pred (h : s.ahead = l :: rest) : rest.length ≤ s.size - 1 := by
  rw [s.size_eq h]
  exact Nat.le_refl _

/-- One lexeme fewer is no more. -/
theorem pred_le (s : State) : s.size - 1 ≤ s.size := Nat.sub_le _ _

/-- One lexeme fewer than in a smaller state is no more. -/
theorem pred_le_of_le (h : t.size ≤ s.size) : t.size - 1 ≤ s.size := Nat.le_trans t.pred_le h

/-- States that get no greater one after the other do so on the whole. -/
theorem size_le_trans (h : t.size ≤ s.size) (h' : u.size ≤ t.size) : u.size ≤ s.size :=
  Nat.le_trans h' h

end State

/-- A step of reading, with the log of its moves. -/
structure Logged (α : Type) (bound : Nat) where
  step : Step α bound
  log : List Event

namespace Logged

/-- What was read without a move. -/
def ok (a : α) (s : State) (le : s.size ≤ n) : Logged α n := ⟨.ok a s le, []⟩

/-- Why nothing was read, without a move. -/
def error (e : SyntaxError) (s : State) : Logged α n := ⟨.error e s, []⟩

/-- The same step from a state with more lexemes. -/
def weaken (h : m ≤ n) (x : Logged α m) : Logged α n := ⟨x.step.weaken h, x.log⟩

/-- What was read, changed by a function. -/
def map (f : α → β) (x : Logged α n) : Logged β n := ⟨x.step.map f, x.log⟩

/-- One step, and another behind it if the first succeeds: one log behind the other. -/
def andThen (x : Logged α m) (f : (a : α) → (s : State) → s.size ≤ m → Logged β n) : Logged β n :=
  match x.step with
  | .ok a s le => ⟨(f a s le).step, x.log ++ (f a s le).log⟩
  | .error e s => ⟨.error e s, x.log⟩

/-- Puts the count of levels back, whether the step succeeds or fails. -/
def restore (depth : Nat) (x : Logged α n) : Logged α n :=
  ⟨x.step.restore depth, x.log ++ [⟨.restore, (x.step.restore depth).state⟩]⟩

/-- Ends a round of a loop in the state `s`, in front of what is left to read. -/
def round (head s : State) (x : Logged α n) : Logged α n := ⟨x.step, ⟨.round head, s⟩ :: x.log⟩

/-! ### Steps that read no expression -/

/-- Passes over the current lexeme, or meets a fault behind it. -/
def advance (s : State) (current : Lexeme) (rest : List Lexeme) : Logged Unit rest.length :=
  match Parser.advance s current rest with
  | .ok a t le => ⟨.ok a t le, [⟨.pass, t⟩]⟩
  | .error e t => ⟨.error e t, [⟨.fault, t⟩]⟩

/-- Counts one more level; a step that is refused does not move. -/
def descend (limit : Nat) (s : State) : Logged Unit s.size :=
  match Parser.descend limit s with
  | .ok a t le => ⟨.ok a t le, [⟨.descend, t⟩]⟩
  | .error e t => .error e t

/-- Passes over a symbol that has to be there. -/
def expect (symbol : Symbol) (s : State) : Logged Unit (s.size - 1) :=
  match h : s.ahead with
  | [] => .error (.unexpectedEnd s.position) s
  | l :: rest =>
    if isSymbol symbol l.token then (advance s l rest).weaken (State.length_le_pred h)
    else .error (.expected (.symbol symbol) l.token l.start) s

/-- Reads the name after a dot. -/
def propertyName (s : State) : Logged String (s.size - 1) :=
  match h : s.ahead with
  | [] => .error (.unexpectedEnd s.position) s
  | l :: rest =>
    match propertyName? l.token with
    | some text => ((advance s l rest).map fun _ => text).weaken (State.length_le_pred h)
    | none => .error (.expected .propertyName l.token l.start) s

/-- Reads the word `in` where an operand starts. -/
def inAsName (s : State) (current : Lexeme) (rest : List Lexeme) : Logged Expr rest.length :=
  (advance s current rest).andThen fun _ s₁ le =>
    if s₁.token?.any (isSymbol .leftParen) then .ok (.name Word.inWord.text) s₁ le
    else .error (.unexpectedToken current.token current.start) s₁

/-! ### Readers -/

mutual

/-- Reads an operand without what follows it. -/
def primary (limit : Nat) (s : State) : Logged Expr s.size :=
  match h : s.ahead with
  | [] => .error (unexpected s) s
  | l :: rest =>
    have hs : s.size = rest.length + 1 := s.size_eq h
    match atom? l.token, l.token with
    | some e, _ => ((advance s l rest).map fun _ => e).weaken (by omega)
    | none, .word .inWord => (inAsName s l rest).weaken (by omega)
    | none, .symbol .leftParen =>
      (advance s l rest).andThen fun _ s₁ le₁ =>
        (expression limit 0 s₁).andThen fun inner s₂ le₂ =>
          ((expect .rightParen s₂).map fun _ => inner).weaken (by omega)
    | none, .symbol .leftBracket =>
      (advance s l rest).andThen fun _ s₁ le₁ =>
        ((list limit .rightBracket s₁).map .list).weaken (by omega)
    | none, _ => .error (unexpected s) s
termination_by 9 * s.size + 1

/-- Reads expressions with commas between them, up to the symbol that closes the list. -/
def list (limit : Nat) (close : Symbol) (s : State) : Logged (List Expr) s.size :=
  if s.token?.any (isSymbol close) then ((expect close s).map fun _ => []).weaken s.pred_le
  else
    (items limit s).andThen fun es s₁ le₁ =>
      ((expect close s₁).map fun _ => es).weaken (State.pred_le_of_le le₁)
termination_by 9 * s.size + 8

/-- Reads one expression, which ends a round, and more of them as long as commas follow. -/
def items (limit : Nat) (s : State) : Logged (List Expr) s.size :=
  (expression limit 0 s).andThen fun first s₁ le₁ =>
    (((moreItems limit s₁).map (first :: ·)).weaken le₁).round s s₁
termination_by 9 * s.size + 7

/-- Reads more expressions if a comma follows. -/
def moreItems (limit : Nat) (s : State) : Logged (List Expr) s.size :=
  match h : s.ahead with
  | [] => .ok [] s (Nat.le_refl _)
  | l :: rest =>
    have hs : s.size = rest.length + 1 := s.size_eq h
    if isSymbol .comma l.token then
      (advance s l rest).andThen fun _ s₁ le₁ => (items limit s₁).weaken (by omega)
    else .ok [] s (Nat.le_refl _)
termination_by 9 * s.size + 0

/-- Reads an operand with the members and calls that follow it. -/
def postfixed (limit : Nat) (s : State) : Logged Expr s.size :=
  ((primary limit s).andThen fun e s₁ le₁ => (suffixes limit e s₁).weaken le₁).restore s.depth
termination_by 9 * s.size + 2

/-- Reads members and calls of the expression `e`.  Each ends a round. -/
def suffixes (limit : Nat) (e : Expr) (s : State) : Logged Expr s.size :=
  match h : s.ahead with
  | [] => .ok e s (Nat.le_refl _)
  | l :: rest =>
    have hs : s.size = rest.length + 1 := s.size_eq h
    match l.token with
    | .symbol .dot =>
      (descend limit s).andThen fun _ s₀ _ =>
        (advance s₀ l rest).andThen fun _ s₁ le₁ =>
          (propertyName s₁).andThen fun n s₂ le₂ =>
            ((suffixes limit (.member e (.name n) false) s₂).weaken (by omega)).round s s₂
    | .symbol .leftBracket =>
      (descend limit s).andThen fun _ s₀ _ =>
        (advance s₀ l rest).andThen fun _ s₁ le₁ =>
          (expression limit 0 s₁).andThen fun property s₂ le₂ =>
            (expect .rightBracket s₂).andThen fun _ s₃ le₃ =>
              ((suffixes limit (.member e property true) s₃).weaken (by omega)).round s s₃
    | .symbol .leftParen =>
      (descend limit s).andThen fun _ s₀ _ =>
        match e.calleeName? with
        | none => .error (.invalidCallTarget l.start) s₀
        | some callee =>
          (advance s₀ l rest).andThen fun _ s₁ le₁ =>
            (list limit .rightParen s₁).andThen fun arguments s₂ le₂ =>
              ((suffixes limit (.call callee arguments) s₂).weaken (by omega)).round s s₂
    | _ => .ok e s (Nat.le_refl _)
termination_by 9 * s.size + 0

/-- Reads an operand with the operators in front of it. -/
def prefixed (limit : Nat) (s : State) : Logged Expr s.size :=
  match h : s.ahead with
  | [] => postfixed limit s
  | l :: rest =>
    have hs : s.size = rest.length + 1 := s.size_eq h
    match UnaryOp.ofToken? l.token with
    | none => postfixed limit s
    | some op =>
      (advance s l rest).andThen fun _ s₁ le₁ =>
        ((((descend limit s₁).andThen fun _ s₂ le₂ =>
          (prefixed limit s₂).weaken le₂).restore s₁.depth).map (.unary op)).weaken (by omega)
termination_by 9 * s.size + 3

/-- Reads an expression whose connectives have the given power at least, one level down. -/
def expression (limit power : Nat) (s : State) : Logged Expr s.size :=
  ((descend limit s).andThen fun _ s₁ le₁ =>
    (prefixed limit s₁).andThen fun left s₂ le₂ =>
      (chain limit power left s₂).weaken (State.size_le_trans le₁ le₂)).restore s.depth
termination_by 9 * s.size + 6

/-- Reads the connectives behind the operand `left`.  What each joins to it ends a round. -/
def chain (limit power : Nat) (left : Expr) (s : State) : Logged Expr s.size :=
  match h : s.ahead with
  | [] => .ok left s (Nat.le_refl _)
  | l :: rest =>
    have hs : s.size = rest.length + 1 := s.size_eq h
    match Connective.ofToken? l.token with
    | none => .ok left s (Nat.le_refl _)
    | some c =>
      if c.leftPower < power then .ok left s (Nat.le_refl _)
      else
        (descend limit s).andThen fun _ s₀ _ =>
          (advance s₀ l rest).andThen fun _ s₁ le₁ =>
            match c.node? with
            | some node =>
              (expression limit c.rightPower s₁).andThen fun right s₂ le₂ =>
                ((chain limit power (node left right) s₂).weaken (by omega)).round s s₂
            | none =>
              (expression limit 0 s₁).andThen fun positive s₂ le₂ =>
                (expect .colon s₂).andThen fun _ s₃ le₃ =>
                  (expression limit c.rightPower s₃).andThen fun negative s₄ le₄ =>
                    ((chain limit power (.conditional left positive negative) s₄).weaken
                      (by omega)).round s s₄
termination_by 9 * s.size + 0

end

/-- What becomes of an expression that has been read: nothing may be left behind it. -/
def finish : Step Expr n → Except SyntaxError Expr × State
  | .error e s => (.error e, s)
  | .ok e s _ =>
    match s.ahead with
    | [] => (.ok e, s)
    | l :: _ => (.error (.expected .endOfExpression l.token l.start), s)

/-- Reads an expression that the lexemes end with, with the log of its moves. -/
def whole (limit : Nat) (s : State) : (Except SyntaxError Expr × State) × List Event :=
  (finish (expression limit 0 s).step, (expression limit 0 s).log)

/-- A whole reading is that of its expression, with a check that nothing is left. -/
theorem finish_expression (limit : Nat) (s : State) :
    finish (Parser.expression limit 0 s) = Parser.whole limit s := by
  unfold Parser.whole
  cases Parser.expression limit 0 s <;> rfl

end Logged

end Parser
end Expr
end RecordFilter
