/-
# Equality of expressions

Two expressions are equal when they have the same tree and equal literals.  Literals compare as
values do, so an expression that holds a number that is not one equals itself.
-/

import RecordFilter.Expr.Basic
import RecordFilter.Value.Equality

namespace RecordFilter
namespace Expr

mutual

/-- Whether two expressions are equal. -/
def equal : Expr → Expr → Bool
  | name m, name n => m == n
  | literal v, literal w => v == w
  | member o p c, member o' p' c' => o.equal o' && p.equal p' && c == c'
  | list es, list fs => equalItems es fs
  | call f es, call g fs => f == g && equalItems es fs
  | logical op l r, logical op' l' r' => op == op' && l.equal l' && r.equal r'
  | binary op l r, binary op' l' r' => op == op' && l.equal l' && r.equal r'
  | unary op e, unary op' f => op == op' && e.equal f
  | record, record => true
  | conditional c p n, conditional c' p' n' => c.equal c' && p.equal p' && n.equal n'
  | _, _ => false

/-- Whether two lists hold equal expressions in one order. -/
def equalItems : List Expr → List Expr → Bool
  | [], [] => true
  | e :: es, f :: fs => e.equal f && equalItems es fs
  | _, _ => false

end

/-- Expressions are compared by `equal`. -/
instance : BEq Expr := ⟨equal⟩

end Expr
end RecordFilter
