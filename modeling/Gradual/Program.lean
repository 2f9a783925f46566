import Gradual.Stmt.Check

/-!
# Running the checker

A program declares into the scope that it is given. Blocks and the bodies of subroutines get a
scope of their own, and leave the environment as it was.
-/

namespace Gradual

structure Outcome (α : Type) where
  tree : α
  log : Log
  env : Env

/-- Runs a check behind what the log holds already. -/
def Outcome.ofRun {α : Type} (action : ScopeM α) (env : Env) (log : Log) : Outcome α :=
  let result := (action.run env).run log
  ⟨result.1.1, result.2, result.1.2⟩

def checkExpr (options : Options) (env : Env) (e : SourceExpr) : Outcome ResolvedExpr :=
  let result := (e.check options env).run #[]
  ⟨result.1, result.2, env⟩

def checkProgram (options : Options) (env : Env) (body : List SourceStmt) :
    Outcome (List ResolvedStmt) :=
  .ofRun (Stmt.checkAll options body) env #[]

def checkBlock (options : Options) (env : Env) (log : Log) (body : List SourceStmt) :
    Outcome (List ResolvedStmt) :=
  .ofRun (inScope (Stmt.checkAll options body)) env log

def checkStmt (options : Options) (env : Env) (log : Log) (s : SourceStmt) :
    Outcome ResolvedStmt :=
  .ofRun (s.check options) env log

/-! ## Subroutines -/

/-- No statement gives a value back, so neither the name nor the type bears on the body. -/
structure Subroutine where
  name : String
  returns? : Option Ty
  body : List SourceStmt

def Subroutine.check (options : Options) (env : Env) (s : Subroutine) :
    Outcome (List ResolvedStmt) :=
  checkBlock options env #[] s.body

end Gradual
