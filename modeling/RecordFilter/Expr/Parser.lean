/-
# Reading expressions

A text is an expression if its lexemes are one.  The reader goes through them once, from left to
right, and looks at one lexeme at a time (`State.ahead`).  Operators are joined by binding power
(`Connective.leftPower`, `rightPower`): an operator takes the expression before it as its left
operand if its left power is at least the least power asked for, and its right operand is read with
its right power.

The state counts the levels of the part that is being read (`State.depth`).  Each level that a part
adds is counted before the part is read, and the count is put back behind it, so no reading goes
deeper than the limit.

A step that succeeds leaves at most as many lexemes as there were, and `Step.ok` carries the proof;
the reader ends because every round of it takes a lexeme first.  A step that fails keeps the state
in which it failed.
-/

import RecordFilter.Expr.Basic
import RecordFilter.Expr.Lexeme

namespace RecordFilter

/-- What stands between two operands, or between a condition and its two branches. -/
inductive Connective where
  | logical (op : LogicalOp)
  | binary (op : BinaryOp)
  | conditional
deriving DecidableEq

namespace Connective

/-- The connective that a symbol writes. -/
def ofSymbol? : Symbol → Option Connective
  | .question => some .conditional
  | .pipePipe => some (.logical .or)
  | .ampAmp => some (.logical .and)
  | .pipe => some (.binary .bitOr)
  | .caret => some (.binary .bitXor)
  | .ampersand => some (.binary .bitAnd)
  | .equalEqual => some (.binary .equal)
  | .equalEqualEqual => some (.binary .strictEqual)
  | .bangEqual => some (.binary .notEqual)
  | .bangEqualEqual => some (.binary .strictNotEqual)
  | .less => some (.binary .less)
  | .lessEqual => some (.binary .lessOrEqual)
  | .greater => some (.binary .greater)
  | .greaterEqual => some (.binary .greaterOrEqual)
  | .equalTilde => some (.binary .regexMatch)
  | .equalStar => some (.binary .globMatch)
  | .lessLess => some (.binary .shiftLeft)
  | .greaterGreater => some (.binary .shiftRight)
  | .greaterGreaterGreater => some (.binary .unsignedShiftRight)
  | .plus => some (.binary .add)
  | .minus => some (.binary .subtract)
  | .star => some (.binary .multiply)
  | .slash => some (.binary .divide)
  | .percent => some (.binary .modulo)
  | .starStar => some (.binary .power)
  | .bang | .tilde | .dot | .colon | .leftParen | .rightParen | .leftBracket | .rightBracket
  | .comma => none

/-- The connective that a token writes. -/
def ofToken? : Token → Option Connective
  | .symbol s => ofSymbol? s
  | .word .inWord => some (.binary .isIn)
  | _ => none

/-- How strongly a connective holds the operand before it. -/
def leftPower : Connective → Nat
  | conditional => 2
  | logical .or => 4
  | logical .and => 6
  | binary op =>
    match op with
    | .bitOr => 8
    | .bitXor => 10
    | .bitAnd => 12
    | .equal | .strictEqual | .notEqual | .strictNotEqual => 14
    | .less | .lessOrEqual | .greater | .greaterOrEqual | .isIn | .regexMatch | .globMatch => 16
    | .shiftLeft | .shiftRight | .unsignedShiftRight => 18
    | .add | .subtract => 20
    | .multiply | .divide | .modulo => 22
    | .power => 24

/-- The least power of the connectives inside the operand after a connective.  It is above the left
power where a chain is read from the left, and equal to it where it is read from the right. -/
def rightPower : Connective → Nat
  | conditional => 2
  | binary .power => 24
  | c => c.leftPower + 1

/-- What an operator makes of its two operands.  The conditional has three. -/
def node? : Connective → Option (Expr → Expr → Expr)
  | logical op => some (.logical op)
  | binary op => some (.binary op)
  | conditional => none

end Connective

/-- The operator that a token writes in front of an operand. -/
def UnaryOp.ofToken? : Token → Option UnaryOp
  | .symbol .bang => some .not
  | .symbol .minus => some .negate
  | .symbol .tilde => some .bitNot
  | .symbol .plus => some .plus
  | _ => none

namespace Expr

namespace Parser

/-- The reader between two lexemes. -/
structure State where
  /-- The lexemes that are left, the current one first. -/
  ahead : List Lexeme
  /-- What comes after them. -/
  ending : Ending
  /-- The levels counted so far. -/
  depth : Nat

namespace State

/-- The number of lexemes that are left. -/
def size (s : State) : Nat := s.ahead.length

/-- The current token, unless the end is reached. -/
def token? (s : State) : Option Token := s.ahead.head?.map (·.token)

/-- The position of the current lexeme, or of the end. -/
def position (s : State) : Nat :=
  match s.ahead, s.ending with
  | l :: _, _ => l.start
  | [], .finished p => p
  | [], .broken e _ => e.position

/-- The state with another count of levels. -/
def withDepth (s : State) (depth : Nat) : State := { s with depth }

end State

/-- The result of a step of reading, from a state with `bound` lexemes. -/
inductive Step (α : Type) (bound : Nat) where
  /-- What was read, and the state behind it. -/
  | ok (value : α) (next : State) (le : next.size ≤ bound)
  /-- Why nothing was read, and the state in which that was found. -/
  | error (error : SyntaxError) (stopped : State)

namespace Step

/-- Puts the count of levels back. -/
def restore (depth : Nat) : Step α n → Step α n
  | ok a s h => ok a (s.withDepth depth) h
  | error e s => error e (s.withDepth depth)

/-- The same step from a state with more lexemes. -/
def weaken (h : m ≤ n) : Step α m → Step α n
  | ok a s le => ok a s (Nat.le_trans le h)
  | error e s => error e s

/-- What was read, changed by a function. -/
def map (f : α → β) : Step α n → Step β n
  | ok a s le => ok (f a) s le
  | error e s => error e s

/-- One step, and another behind it if the first succeeds. -/
def andThen (x : Step α m) (f : (a : α) → (s : State) → s.size ≤ m → Step β n) : Step β n :=
  match x with
  | ok a s le => f a s le
  | error e s => error e s

/-- What was read, or the error. -/
def result : Step α n → Except SyntaxError α
  | ok a _ _ => .ok a
  | error e _ => .error e

/-- The state behind the step. -/
def state : Step α n → State
  | ok _ s _ => s
  | error _ s => s

end Step

/-- Passes over the current lexeme `current`, in front of `rest`.  If what follows is not a token,
the current lexeme stays, and reading goes on behind the fault the next time. -/
def advance (s : State) (current : Lexeme) (rest : List Lexeme) : Step Unit rest.length :=
  match rest, s.ending with
  | [], .broken e after =>
    let (more, ending) := after.lexemes
    .error e { s with ahead := current :: more, ending }
  | rest, _ => .ok () { s with ahead := rest } (Nat.le_refl _)

/-- The error of a token that cannot stand here. -/
def unexpected (s : State) : SyntaxError :=
  match s.ahead with
  | [] => .unexpectedEnd s.position
  | l :: _ => .unexpectedToken l.token l.start

/-- Counts one more level, up to the limit. -/
def descend (limit : Nat) (s : State) : Step Unit s.size :=
  if s.depth < limit then .ok () (s.withDepth (s.depth + 1)) (Nat.le_refl _)
  else .error (.tooDeep limit s.position) s

/-- Whether a token is a certain symbol. -/
def isSymbol (symbol : Symbol) : Token → Bool
  | .symbol s => s == symbol
  | _ => false

/-- Passes over a symbol that has to be there. -/
def expect (symbol : Symbol) (s : State) : Step Unit (s.size - 1) :=
  match h : s.ahead with
  | [] => .error (.unexpectedEnd s.position) s
  | l :: rest =>
    have hs : s.size = rest.length + 1 := by simp only [State.size, h, List.length_cons]
    if isSymbol symbol l.token then (advance s l rest).weaken (by omega)
    else .error (.expected (.symbol symbol) l.token l.start) s

/-- The name that a token is after a dot.  Reserved words are names there. -/
def propertyName? : Token → Option String
  | .name n => some n
  | .word w => some w.text
  | _ => none

/-- Reads the name after a dot. -/
def propertyName (s : State) : Step String (s.size - 1) :=
  match h : s.ahead with
  | [] => .error (.unexpectedEnd s.position) s
  | l :: rest =>
    have hs : s.size = rest.length + 1 := by simp only [State.size, h, List.length_cons]
    match propertyName? l.token with
    | some text => ((advance s l rest).map fun _ => text).weaken (by omega)
    | none => .error (.expected .propertyName l.token l.start) s

/-- The expression that a token is by itself. -/
def atom? : Token → Option Expr
  | .string t => some (.literal (.string t))
  | .number x => some (.literal (.number x))
  | .name n => some (.name n)
  | .word .trueWord => some (.literal (.bool true))
  | .word .falseWord => some (.literal (.bool false))
  | .word .nullWord => some (.literal .null)
  | .word .thisWord => some .record
  | .word .inWord | .symbol _ => none

/-- Reads the word `in` where an operand starts: it is the name of a function there, so a
parenthesis has to follow. -/
def inAsName (s : State) (current : Lexeme) (rest : List Lexeme) : Step Expr rest.length :=
  (advance s current rest).andThen fun _ s₁ le =>
    if s₁.token?.any (isSymbol .leftParen) then .ok (.name Word.inWord.text) s₁ le
    else .error (.unexpectedToken current.token current.start) s₁

mutual

/-- Reads an operand without what follows it: a literal, a name, an expression in parentheses or a
list. -/
def primary (limit : Nat) (s : State) : Step Expr s.size :=
  match h : s.ahead with
  | [] => .error (unexpected s) s
  | l :: rest =>
    have hs : s.size = rest.length + 1 := by simp only [State.size, h, List.length_cons]
    match atom? l.token, l.token with
    | some e, _ => ((advance s l rest).map fun _ => e).weaken (by omega)
    | none, .word .inWord => (inAsName s l rest).weaken (by omega)
    | none, .symbol .leftParen =>
      (advance s l rest).andThen fun _ s₁ le₁ =>
        (expression limit 0 s₁).andThen fun inner s₂ le₂ =>
          ((expect .rightParen s₂).map fun _ => inner).weaken (by omega)
    | none, .symbol .leftBracket =>
      (advance s l rest).andThen fun _ s₁ le₁ =>
        ((list limit .rightBracket s₁).map .list).weaken (by omega)
    | none, _ => .error (unexpected s) s
termination_by 9 * s.size + 1

/-- Reads expressions with commas between them, up to the symbol that closes the list. -/
def list (limit : Nat) (close : Symbol) (s : State) : Step (List Expr) s.size :=
  if s.token?.any (isSymbol close) then ((expect close s).map fun _ => []).weaken (by omega)
  else
    (items limit s).andThen fun es s₁ le₁ =>
      ((expect close s₁).map fun _ => es).weaken (by omega)
termination_by 9 * s.size + 8

/-- Reads one expression, and more of them as long as commas follow. -/
def items (limit : Nat) (s : State) : Step (List Expr) s.size :=
  (expression limit 0 s).andThen fun first s₁ le₁ =>
    ((moreItems limit s₁).map (first :: ·)).weaken le₁
termination_by 9 * s.size + 7

/-- Reads more expressions if a comma follows. -/
def moreItems (limit : Nat) (s : State) : Step (List Expr) s.size :=
  match h : s.ahead with
  | [] => .ok [] s (Nat.le_refl _)
  | l :: rest =>
    have hs : s.size = rest.length + 1 := by simp only [State.size, h, List.length_cons]
    if isSymbol .comma l.token then
      (advance s l rest).andThen fun _ s₁ le₁ => (items limit s₁).weaken (by omega)
    else .ok [] s (Nat.le_refl _)
termination_by 9 * s.size + 0

/-- Reads an operand with the members and calls that follow it. -/
def postfixed (limit : Nat) (s : State) : Step Expr s.size :=
  ((primary limit s).andThen fun e s₁ le₁ => (suffixes limit e s₁).weaken le₁).restore s.depth
termination_by 9 * s.size + 2

/-- Reads members and calls of the expression `e`.  Each adds a level. -/
def suffixes (limit : Nat) (e : Expr) (s : State) : Step Expr s.size :=
  match h : s.ahead with
  | [] => .ok e s (Nat.le_refl _)
  | l :: rest =>
    have hs : s.size = rest.length + 1 := by simp only [State.size, h, List.length_cons]
    match l.token with
    | .symbol .dot =>
      (descend limit s).andThen fun _ s₀ _ =>
        (advance s₀ l rest).andThen fun _ s₁ le₁ =>
          (propertyName s₁).andThen fun n s₂ le₂ =>
            (suffixes limit (.member e (.name n) false) s₂).weaken (by omega)
    | .symbol .leftBracket =>
      (descend limit s).andThen fun _ s₀ _ =>
        (advance s₀ l rest).andThen fun _ s₁ le₁ =>
          (expression limit 0 s₁).andThen fun property s₂ le₂ =>
            (expect .rightBracket s₂).andThen fun _ s₃ le₃ =>
              (suffixes limit (.member e property true) s₃).weaken (by omega)
    | .symbol .leftParen =>
      (descend limit s).andThen fun _ s₀ _ =>
        match e.calleeName? with
        | none => .error (.invalidCallTarget l.start) s₀
        | some callee =>
          (advance s₀ l rest).andThen fun _ s₁ le₁ =>
            (list limit .rightParen s₁).andThen fun arguments s₂ le₂ =>
              (suffixes limit (.call callee arguments) s₂).weaken (by omega)
    | _ => .ok e s (Nat.le_refl _)
termination_by 9 * s.size + 0

/-- Reads an operand with the operators in front of it. -/
def prefixed (limit : Nat) (s : State) : Step Expr s.size :=
  match h : s.ahead with
  | [] => postfixed limit s
  | l :: rest =>
    have hs : s.size = rest.length + 1 := by simp only [State.size, h, List.length_cons]
    match UnaryOp.ofToken? l.token with
    | none => postfixed limit s
    | some op =>
      (advance s l rest).andThen fun _ s₁ le₁ =>
        ((((descend limit s₁).andThen fun _ s₂ le₂ =>
          (prefixed limit s₂).weaken le₂).restore s₁.depth).map (.unary op)).weaken (by omega)
termination_by 9 * s.size + 3

/-- Reads an expression whose connectives have the given power at least, one level down. -/
def expression (limit power : Nat) (s : State) : Step Expr s.size :=
  ((descend limit s).andThen fun _ s₁ le₁ =>
    (prefixed limit s₁).andThen fun left s₂ le₂ =>
      (chain limit power left s₂).weaken (by omega)).restore s.depth
termination_by 9 * s.size + 6

/-- Reads the connectives behind the operand `left`, with what they join to it.  Each adds a
level. -/
def chain (limit power : Nat) (left : Expr) (s : State) : Step Expr s.size :=
  match h : s.ahead with
  | [] => .ok left s (Nat.le_refl _)
  | l :: rest =>
    have hs : s.size = rest.length + 1 := by simp only [State.size, h, List.length_cons]
    match Connective.ofToken? l.token with
    | none => .ok left s (Nat.le_refl _)
    | some c =>
      if c.leftPower < power then .ok left s (Nat.le_refl _)
      else
        (descend limit s).andThen fun _ s₀ _ =>
          (advance s₀ l rest).andThen fun _ s₁ le₁ =>
            match c.node? with
            | some node =>
              (expression limit c.rightPower s₁).andThen fun right s₂ le₂ =>
                (chain limit power (node left right) s₂).weaken (by omega)
            | none =>
              (expression limit 0 s₁).andThen fun positive s₂ le₂ =>
                (expect .colon s₂).andThen fun _ s₃ le₃ =>
                  (expression limit c.rightPower s₃).andThen fun negative s₄ le₄ =>
                    (chain limit power (.conditional left positive negative) s₄).weaken (by omega)
termination_by 9 * s.size + 0

end

/-- Reads an expression that the lexemes end with, from a state between two readings. -/
def whole (limit : Nat) (s : State) : Except SyntaxError Expr × State :=
  match expression limit 0 s with
  | .error e s₁ => (.error e, s₁)
  | .ok e s₁ _ =>
    match s₁.ahead with
    | [] => (.ok e, s₁)
    | l :: _ => (.error (.expected .endOfExpression l.token l.start), s₁)

/-- The state in front of a text, unless the text starts with what is not a token. -/
def State.ofText (text : String) : Except SyntaxError State :=
  match (Source.ofText text).lexemes with
  | ([], .broken e _) => .error e
  | (ahead, ending) => .ok { ahead, ending, depth := 0 }

end Parser

/-- The number of levels that an expression may have unless another limit is set. -/
def defaultLimit : Nat := 256

/-- The expression that a text is, with at most `limit` levels. -/
def parse (limit : Nat) (text : String) : Except SyntaxError Expr :=
  match Parser.State.ofText text with
  | .error e => .error e
  | .ok s => (Parser.whole limit s).1

end Expr

end RecordFilter
