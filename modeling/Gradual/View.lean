import Gradual.Stmt.Check

/-!
# Asking a tree

Whoever holds a tree may ask for types before it has been checked, when there are none. Such a
question is answered by an error that says which node was asked too early.
-/

namespace Gradual

structure EarlyRead where
  position : Position
  deriving DecidableEq, Repr

def EarlyRead.message (e : EarlyRead) : String :=
  "expression at offset " ++ toString e.position.offset ++ " in " ++ e.position.file
    ++ " read before analysis"

/-! ## Expressions -/

inductive ExprView where
  | fresh (e : SourceExpr)
  | resolved (e : ResolvedExpr)

namespace ExprView

def span : ExprView → Span
  | fresh e => e.span
  | resolved e => e.span

def ty : ExprView → Except EarlyRead Ty
  | fresh e => .error ⟨e.start⟩
  | resolved e => .ok e.ty

/-- Whether the expression can be written to. Before the check no variable can, and of an index
expression it hangs on the type of what is indexed. -/
def isWritable : ExprView → Except EarlyRead Bool
  | fresh (.index base _ _) => .error ⟨base.start⟩
  | fresh _ => .ok false
  | resolved e => .ok e.isWritable

def fits (v : ExprView) (expected : Ty) : Except EarlyRead Bool :=
  return (← v.ty).assignable expected

def require (v : ExprView) (r : Requirement) (operator : String) : Except EarlyRead (CheckM Unit) :=
  return r.check operator (← v.ty) v.span.start

def expect (v : ExprView) (site : Site) (expected : Ty) : Except EarlyRead (CheckM Unit) :=
  return site.check expected (← v.ty) v.span.start

end ExprView

/-! ## Declarations -/

inductive DeclarationView where
  | fresh (d : SourceDeclaration)
  | resolved (d : ResolvedDeclaration)

namespace DeclarationView

def ty : DeclarationView → Except EarlyRead Ty
  | fresh d => .error ⟨d.span.start⟩
  | resolved d => .ok d.ty

def binding : DeclarationView → Except EarlyRead Binding
  | fresh d => .error ⟨d.span.start⟩
  | resolved d => .ok d.binding

/-- This hangs on the name alone, so the answer is there at once. -/
def isConstant : DeclarationView → Bool
  | fresh d => d.isConstant
  | resolved d => d.isConstant

end DeclarationView

end Gradual
