import Gradual.Expr.Check
import Gradual.Stmt.Basic

/-!
# Checking statements

Statements are checked in order. A declaration is in force from the statement behind it to the end
of its block, and not inside its own initial value.
-/

namespace Gradual

abbrev ScopeM := StateT Env CheckM

def inScope {α : Type} (action : ScopeM α) : ScopeM α := do
  modify Env.push
  let a ← action
  modify Env.pop
  return a

/-! ## Declarations -/

def TypeRef.check (env : Env) (position : Position) (r : TypeRef Unit) :
    CheckM (TypeRef (Option Ty)) :=
  return ⟨r.name, ← env.resolveType r.name position⟩

namespace Declaration

/-- A declaration says a type or a value, and if both then the value agrees with the type. -/
def checkAgreement (d : ResolvedDeclaration) : CheckM Unit :=
  match d.type?, d.init? with
  | none, none => report (.untyped d.name) d.span.start
  | some r, some e => e.expect .initialization r.ty
  | _, _ => pure ()

/-- Checks a declaration without putting it into force. -/
def check (options : Options) (env : Env) (d : SourceDeclaration) :
    CheckM ResolvedDeclaration := do
  let type? ← d.type?.mapM (·.check env d.span.start)
  let init? ← d.init?.mapM (·.check options env)
  let d := ⟨d.name, type?, init?, d.span⟩
  d.checkAgreement
  return d

/-- Puts a declaration into force. If the name is not new to the innermost scope, the earlier
declaration stays. -/
def enter (d : ResolvedDeclaration) : ScopeM Unit := do
  match (← get).declare d.binding d.span.start with
  | .ok env => set env
  | .error diagnostic => report diagnostic.cause diagnostic.position

end Declaration

/-! ## The walk -/

namespace Stmt

mutual

def check (options : Options) : SourceStmt → ScopeM ResolvedStmt
  | declaration d => do
      let d ← d.check options (← get)
      d.enter
      return declaration d
  | expression e => return expression (← e.check options (← get))
  | block body span => return block (← inScope (checkAll options body)) span

def checkAll (options : Options) : List SourceStmt → ScopeM (List ResolvedStmt)
  | [] => return []
  | s :: rest => do
      let s ← check options s
      let rest ← checkAll options rest
      return s :: rest

end

end Stmt

end Gradual
