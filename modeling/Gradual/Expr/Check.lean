import Gradual.Expr.Typing

/-!
# Checking expressions

The parts of an expression are checked before the whole, from left to right, so every rule finds
the types that it asks for. An operand is blamed where it begins.
-/

namespace Gradual

structure Options where
  /-- Report an order comparison whose left operand has a type without an order. -/
  strictRelational : Bool := false
  deriving DecidableEq, Repr

namespace Expr

/-! ## Asking an operand -/

def require (e : ResolvedExpr) (r : Requirement) (operator : String) : CheckM Unit :=
  r.check operator e.ty e.start

def expect (e : ResolvedExpr) (site : Site) (expected : Ty) : CheckM Unit :=
  site.check expected e.ty e.start

def requireWritable (e : ResolvedExpr) : CheckM Unit :=
  if e.isWritable then pure () else report .notWritable e.start

/-! ## Rules for one node -/

/-- The elements of an array literal agree with the first of them. -/
def checkElements : List ResolvedExpr → CheckM Unit
  | [] => pure ()
  | first :: rest => do
      let t := first.ty
      rest.forM (·.expect .element t)

def checkIndex (base subscript : ResolvedExpr) : CheckM Unit := do
  base.require .sequence "[]"
  subscript.require .integer "[]"

/-- The left operand of an order comparison decides what the right one has to be. If it is a number
it is asked to be one all the same. -/
def checkRelational (options : Options) (operator : String) (left right : ResolvedExpr) :
    CheckM Unit :=
  match left.ty with
  | .character => right.require .character operator
  | .string => right.require .string operator
  | .number => do
      left.require .number operator
      right.require .number operator
  | .any => pure ()
  | t =>
      if options.strictRelational then report (.unordered operator t) left.start else pure ()

/-- Two types can be tested for equality when both are primitive and compatible, and whenever one of
them is not known. -/
def equatable (t u : Ty) : Bool :=
  t.isAny || u.isAny || (t.isPrimitive && u.isPrimitive && t.compatible u)

/-- The rule of a binary operator. Only a failed test for equality is blamed on the whole. -/
def checkBinary (options : Options) (op : BinaryOp) (left right : ResolvedExpr)
    (position : Position) : CheckM Unit :=
  match op.family with
  | .arithmetic => do
      left.require .number op.token
      right.require .number op.token
  | .shift => do
      left.require .integer op.token
      right.require .integer op.token
  | .logical => do
      left.require .boolean op.token
      right.require .boolean op.token
  | .relational => checkRelational options op.token left right
  | .equality =>
      if equatable left.ty right.ty then pure ()
      else report (.incomparable op.token left.ty right.ty) position

def requirementOf : UnaryOp → Requirement
  | .negate => .number
  | .not => .boolean
  | .length => .sequence

def checkAssign (target value : ResolvedExpr) : CheckM Unit := do
  target.requireWritable
  value.expect .assignment target.ty

/-! ## The walk -/

mutual

def check (options : Options) (env : Env) : SourceExpr → CheckM ResolvedExpr
  | number span => return number span
  | character value span => return character value span
  | string value span => return string value span
  | boolean value span => return boolean value span
  | array elements span => do
      let elements ← checkAll options env elements
      checkElements elements
      return array elements span
  | ref name _ span => do
      let target ← env.resolveVariable name span.start
      return ref name target span
  | index base subscript span => do
      let base ← check options env base
      let subscript ← check options env subscript
      checkIndex base subscript
      return index base subscript span
  | binary op left right span => do
      let left ← check options env left
      let right ← check options env right
      checkBinary options op left right span.start
      return binary op left right span
  | unary op operand span => do
      let operand ← check options env operand
      operand.require (requirementOf op) op.token
      return unary op operand span
  | assign target value span => do
      let target ← check options env target
      let value ← check options env value
      checkAssign target value
      return assign target value span

def checkAll (options : Options) (env : Env) : List SourceExpr → CheckM (List ResolvedExpr)
  | [] => return []
  | e :: rest => do
      let e ← check options env e
      let rest ← checkAll options env rest
      return e :: rest

end

end Expr

end Gradual
