import Gradual.Expr.Basic

/-!
# Types of resolved expressions

A name that was not declared counts as `Binding.unknown`.
-/

namespace Gradual

def Binding.ofTarget (target : Option Binding) : Binding :=
  target.getD .unknown

namespace Expr

def ty : ResolvedExpr → Ty
  | number _ => .number
  | character _ _ => .character
  | string _ _ => .string
  | boolean _ _ => .boolean
  | array [] _ => .array .any
  | array (first :: _) _ => .array first.ty
  | ref _ target _ => (Binding.ofTarget target).ty
  | index base _ _ => base.ty.item
  | binary op _ _ _ => op.family.result
  | unary op _ _ => op.result
  | assign target _ _ => target.ty

/-- A variable can be written to, and an element of an array that can. Characters of a string
cannot. -/
def isWritable : ResolvedExpr → Bool
  | ref _ target _ => !(Binding.ofTarget target).constant
  | index base _ _ => (base.ty.isArray || base.ty.isAny) && base.isWritable
  | _ => false

end Expr

end Gradual
