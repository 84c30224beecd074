/-
# Expressions as JSON

An expression is written as one of the variants of its tree, so that it can be stored and read back
without its text.  Each node costs one or two levels of nesting, and a tree whose text nests too
deeply is written but not read.
-/

import RecordFilter.Json.Value
import RecordFilter.Expr.Equality

namespace RecordFilter

namespace LogicalOp

/-- The name of an operator in a stored tree. -/
def treeName : LogicalOp → String
  | and => "And"
  | or => "Or"

end LogicalOp

namespace BinaryOp

/-- The name of an operator in a stored tree. -/
def treeName : BinaryOp → String
  | add => "Add"
  | subtract => "Subtract"
  | multiply => "Multiply"
  | divide => "Divide"
  | modulo => "Modulo"
  | power => "Power"
  | equal => "Equal"
  | strictEqual => "StrictEqual"
  | notEqual => "NotEqual"
  | strictNotEqual => "StrictNotEqual"
  | less => "LessThan"
  | lessOrEqual => "LessThanOrEqual"
  | greater => "GreaterThan"
  | greaterOrEqual => "GreaterThanOrEqual"
  | isIn => "In"
  | regexMatch => "RegexMatch"
  | globMatch => "GlobMatch"
  | bitAnd => "BitAnd"
  | bitOr => "BitOr"
  | bitXor => "BitXor"
  | shiftLeft => "ShiftLeft"
  | shiftRight => "ShiftRight"
  | unsignedShiftRight => "UnsignedShiftRight"

end BinaryOp

namespace UnaryOp

/-- The name of an operator in a stored tree. -/
def treeName : UnaryOp → String
  | not => "Not"
  | negate => "Negate"
  | bitNot => "BitNot"
  | plus => "Plus"

end UnaryOp

namespace Expr

/-! ### Writing -/

/-- A variant without content. -/
def plainJson (name : String) : List Char := Value.stringJson name

/-- A variant with content. -/
def variantJson (name : String) (content : List Char) : List Char :=
  '\x7b' :: (Value.stringJson name ++ ':' :: (content ++ ['\x7d']))

/-- The fields of a structure, with commas between them. -/
def fieldsJson : List (String × List Char) → List Char
  | [] => []
  | [(key, text)] => Value.stringJson key ++ ':' :: text
  | (key, text) :: rest => Value.stringJson key ++ ':' :: (text ++ ',' :: fieldsJson rest)

/-- A variant with named fields. -/
def structureJson (name : String) (fields : List (String × List Char)) : List Char :=
  variantJson name ('\x7b' :: (fieldsJson fields ++ ['\x7d']))

mutual

/-- The JSON of an expression. -/
def written : Expr → List Char
  | name n => variantJson "Identifier" (Value.stringJson n)
  | literal v => variantJson "Literal" (v.written Value.numberJson)
  | member object property computed =>
    structureJson "Member" [("object", object.written), ("property", property.written),
      ("computed", (Value.bool computed).written Value.numberJson)]
  | list items => variantJson "Array" ('[' :: (writtenItems items ++ [']']))
  | call callee arguments =>
    structureJson "Call" [("callee", Value.stringJson callee),
      ("args", '[' :: (writtenItems arguments ++ [']']))]
  | logical op left right =>
    structureJson "Logical" [("op", plainJson op.treeName), ("lhs", left.written),
      ("rhs", right.written)]
  | binary op left right =>
    structureJson "Binary" [("op", plainJson op.treeName), ("lhs", left.written),
      ("rhs", right.written)]
  | unary op operand =>
    structureJson "Unary" [("op", plainJson op.treeName), ("operand", operand.written)]
  | record => plainJson "This"
  | conditional condition positive negative =>
    structureJson "Conditional" [("condition", condition.written),
      ("then_branch", positive.written), ("else_branch", negative.written)]

/-- The JSON of several expressions, with commas between them. -/
def writtenItems : List Expr → List Char
  | [] => []
  | [e] => e.written
  | e :: rest => e.written ++ ',' :: writtenItems rest

end

/-- The JSON of an expression. -/
def toJson (e : Expr) : String := .ofList e.written

end Expr

namespace Json

/-! ### Reading -/

/-- A word out of several that have names. -/
def named (levels : Nat) (all : List α) (name : α → String) : Read α :=
  variant levels fun n => (all.find? fun a => name a = n).map .plain

/-- A structure of two fields. -/
def pair (levels : Nat) (nameA : String) (readA : Read α) (nameB : String) (readB : Read β) :
    Read (α × β) :=
  let all : List (Field (Option α × Option β)) := [
    .of nameA (·.1) (fun a s => (some a, s.2)) readA,
    .of nameB (·.2) (fun b s => (s.1, some b)) readB]
  complete (fields levels all true (none, none)) fun
    | (some a, some b) => some (a, b)
    | _ => none

/-- A structure of three fields. -/
def triple (levels : Nat) (nameA : String) (readA : Read α) (nameB : String) (readB : Read β)
    (nameC : String) (readC : Read γ) : Read (α × β × γ) :=
  let all : List (Field (Option α × Option β × Option γ)) := [
    .of nameA (·.1) (fun a s => (some a, s.2)) readA,
    .of nameB (·.2.1) (fun b s => (s.1, some b, s.2.2)) readB,
    .of nameC (·.2.2) (fun c s => (s.1, s.2.1, some c)) readC]
  complete (fields levels all true (none, none, none)) fun
    | (some a, some b, some c) => some (a, b, c)
    | _ => none

/-- Something read and then put into another form. -/
def mapRead (f : α → β) (read : Read α) : Read β := fun cs =>
  (read cs).map fun (a, cs) => (f a, cs)

/-- The form of an expression with a name.  `levels` are left inside it; `node` reads the
expressions in its fields, and `argument` those in a list in its fields. -/
def exprVariant? (levels : Nat) (node argument : Read Expr) (name : String) :
    Option (Variant Expr) :=
  let inside := levels - 1
  match name with
  | "Identifier" => some (.holding (mapRead .name string))
  | "Literal" => some (.holding (mapRead .literal (value levels)))
  | "Member" =>
    some (.holding (mapRead (fun (o, p, c) => .member o p c)
      (triple levels "object" node "property" node "computed" bool)))
  | "Array" => some (.holding (mapRead .list (array levels node)))
  | "Call" =>
    some (.holding (mapRead (fun (f, es) => .call f es)
      (pair levels "callee" string "args" (array inside argument))))
  | "Logical" =>
    some (.holding (mapRead (fun (op, l, r) => .logical op l r)
      (triple levels "op" (named inside LogicalOp.all LogicalOp.treeName) "lhs" node "rhs" node)))
  | "Binary" =>
    some (.holding (mapRead (fun (op, l, r) => .binary op l r)
      (triple levels "op" (named inside BinaryOp.all BinaryOp.treeName) "lhs" node "rhs" node)))
  | "Unary" =>
    some (.holding (mapRead (fun (op, e) => .unary op e)
      (pair levels "op" (named inside UnaryOp.all UnaryOp.treeName) "operand" node)))
  | "This" => some (.plain .record)
  | "Conditional" =>
    some (.holding (mapRead (fun (c, p, n) => .conditional c p n)
      (triple levels "condition" node "then_branch" node "else_branch" node)))
  | _ => none

/-- Reads nothing, as no level is left. -/
def tooDeep : Read α := fun _ => .error .malformed

/-- An expression whose text has at most `levels` levels of arrays and objects. -/
def expr : (levels : Nat) → Read Expr
  | 0 => variant 0 (exprVariant? 0 tooDeep tooDeep)
  | 1 => variant 1 (exprVariant? 0 tooDeep tooDeep)
  | 2 => variant 2 (exprVariant? 1 (expr 0) tooDeep)
  | levels + 3 => variant (levels + 3) (exprVariant? (levels + 2) (expr (levels + 1)) (expr levels))

end Json

namespace Expr

/-- The expression of a JSON text. -/
def ofJson (text : String) : Except Json.Defect Expr :=
  Json.whole (Json.expr Json.levelLimit) text

end Expr

end RecordFilter
