import Gradual.Expr.Typing

/-!
# Statements

As in expressions, names carry what they were found to mean: `ρ` those of variables, `τ` the type
names of declarations.
-/

namespace Gradual

structure TypeRef (τ : Type) where
  name : String
  target : τ
  deriving DecidableEq, Repr

/-- The declaration of a variable. One of type and initial value may be left out. -/
structure Declaration (ρ τ : Type) where
  name : String
  type? : Option (TypeRef τ)
  init? : Option (Expr ρ)
  span : Span
  deriving Repr

inductive Stmt (ρ τ : Type) where
  | declaration (d : Declaration ρ τ)
  | expression (e : Expr ρ)
  | block (body : List (Stmt ρ τ)) (span : Span)
  deriving Repr

abbrev SourceDeclaration := Declaration Unit Unit

/-- A type name carries `none` when it stands for no type. -/
abbrev ResolvedDeclaration := Declaration (Option Binding) (Option Ty)

abbrev SourceStmt := Stmt Unit Unit

abbrev ResolvedStmt := Stmt (Option Binding) (Option Ty)

/-- An expression statement takes the span of its expression. -/
def Stmt.span {ρ τ : Type} : Stmt ρ τ → Span
  | declaration d => d.span
  | expression e => e.span
  | block _ span => span

/-! ## What a declaration introduces -/

def TypeRef.ty (r : TypeRef (Option Ty)) : Ty :=
  r.target.getD .any

namespace Declaration

/-- A name that begins with an underscore names a constant. -/
def isConstant {ρ τ : Type} (d : Declaration ρ τ) : Bool :=
  d.name.toList.head? == some '_'

/-- A written type wins over the type of the initial value. -/
def ty (d : ResolvedDeclaration) : Ty :=
  match d.type?, d.init? with
  | some r, _ => r.ty
  | none, some e => e.ty
  | none, none => .any

/-- What code behind the declaration sees. -/
def binding (d : ResolvedDeclaration) : Binding :=
  ⟨d.name, d.ty, d.isConstant⟩

end Declaration

end Gradual
