import Gradual.Draft.Basic
import Gradual.Program

/-!
# Filling in drafts

The walk of the checker over a tree with cells. What it wants to know of a part it reads from the
cell there, and a run that reads an empty cell breaks off.
-/

namespace Gradual

abbrev DraftM := StateT Log (Except EarlyRead)

/-- A check that needs no cell. -/
instance : MonadLift CheckM DraftM :=
  ⟨fun x log => .ok (x.run log)⟩

abbrev DraftScopeM := StateT Env DraftM

def DraftScopeM.inScope {α : Type} (action : DraftScopeM α) : DraftScopeM α := do
  modify Env.push
  let a ← action
  modify Env.pop
  return a

namespace Draft

/-! ## Asking an operand -/

def require (d : Draft) (r : Requirement) (operator : String) : DraftM Unit := do
  r.check operator (← d.ty) d.start

def expect (d : Draft) (site : Site) (expected : Ty) : DraftM Unit := do
  site.check expected (← d.ty) d.start

def requireWritable (d : Draft) : DraftM Unit := do
  if ← d.isWritable then pure () else report .notWritable d.start

/-! ## Rules for one node -/

/-- The elements agree with the first of them, whose type is given back. -/
def checkElements : List Draft → DraftM Ty
  | [] => return .any
  | first :: rest => do
      let t ← first.ty
      rest.forM (·.expect .element t)
      return t

def checkRelational (options : Options) (operator : String) (left right : Draft) : DraftM Unit := do
  match ← left.ty with
  | .character => right.require .character operator
  | .string => right.require .string operator
  | .number =>
      left.require .number operator
      right.require .number operator
  | .any => pure ()
  | t =>
      if options.strictRelational then report (.unordered operator t) left.start else pure ()

def checkBinary (options : Options) (op : BinaryOp) (left right : Draft) (position : Position) :
    DraftM Unit :=
  match op.family with
  | .arithmetic => do
      left.require .number op.token
      right.require .number op.token
  | .shift => do
      left.require .integer op.token
      right.require .integer op.token
  | .logical => do
      left.require .boolean op.token
      right.require .boolean op.token
  | .relational => checkRelational options op.token left right
  | .equality => do
      let t ← left.ty
      let u ← right.ty
      if Expr.equatable t u then pure () else report (.incomparable op.token t u) position

/-! ## The walk -/

mutual

/-- Fills in the cells of an expression, the parts first, and reports what is wrong with it. -/
def check (options : Options) (env : Env) : Draft → DraftM Draft
  | number span _ => return number span (some .number)
  | character value span _ => return character value span (some .character)
  | string value span _ => return string value span (some .string)
  | boolean value span _ => return boolean value span (some .boolean)
  | array elements span _ => do
      let elements ← checkAll options env elements
      let t ← checkElements elements
      return array elements span (some (.array t))
  | ref name _ span _ => do
      let binding := Binding.ofTarget (← env.resolveVariable name span.start)
      return ref name (some binding) span (some binding.ty)
  | index base subscript span _ => do
      let base ← check options env base
      let subscript ← check options env subscript
      base.require .sequence "[]"
      subscript.require .integer "[]"
      let t ← base.ty
      return index base subscript span (some t.item)
  | binary op left right span _ => do
      let left ← check options env left
      let right ← check options env right
      checkBinary options op left right span.start
      -- A trace of the walk shows the types of both operands.
      let _ ← left.ty
      let _ ← right.ty
      return binary op left right span (some op.family.result)
  | unary op operand span _ => do
      let operand ← check options env operand
      operand.require (Expr.requirementOf op) op.token
      return unary op operand span (some op.result)
  | assign target value span _ => do
      let target ← check options env target
      let value ← check options env value
      target.requireWritable
      let t ← target.ty
      value.expect .assignment t
      return assign target value span (some t)

def checkAll (options : Options) (env : Env) : List Draft → DraftM (List Draft)
  | [] => return []
  | d :: rest => do
      let d ← check options env d
      let rest ← checkAll options env rest
      return d :: rest

end

end Draft

namespace DeclarationDraft

def writtenType (env : Env) (position : Position) (text : String) : CheckM Ty :=
  return (← env.resolveType text position).getD .any

/-- Fills in a declaration without putting it into force: first the type that it writes, then the
initial value. -/
def check (options : Options) (env : Env) (d : DeclarationDraft) : DraftM DeclarationDraft := do
  let written? ← (d.typeName?.mapM (writtenType env d.span.start) : CheckM (Option Ty))
  match written?, d.init? with
  | none, none =>
      report (.untyped d.name) d.span.start
      return { d with cell := some .any }
  | some t, none => return { d with cell := some t }
  | none, some e =>
      let e ← e.check options env
      let t ← e.ty
      return { d with init? := some e, cell := some t }
  | some t, some e =>
      let e ← e.check options env
      e.expect .initialization t
      return { d with init? := some e, cell := some t }

def enter (d : DeclarationDraft) : DraftScopeM Unit := do
  let binding ← d.binding
  match (← get).declare binding d.span.start with
  | .ok env => set env
  | .error diagnostic => report diagnostic.cause diagnostic.position

end DeclarationDraft

namespace StmtDraft

mutual

def check (options : Options) : StmtDraft → DraftScopeM StmtDraft
  | declaration d => do
      let d ← d.check options (← get)
      d.enter
      return declaration d
  | expression e => do
      let e ← e.check options (← get)
      -- A trace of the walk shows the type of the expression.
      let _ ← e.ty
      return expression e
  | block body span => return block (← DraftScopeM.inScope (checkAll options body)) span

def checkAll (options : Options) : List StmtDraft → DraftScopeM (List StmtDraft)
  | [] => return []
  | s :: rest => do
      let s ← check options s
      let rest ← checkAll options rest
      return s :: rest

end

end StmtDraft

/-! ## Entry points -/

/-- Fills in a draft in an environment, behind what the log holds already. -/
def Outcome.ofDraft {α : Type} (action : DraftScopeM α) (env : Env) (log : Log) :
    Except EarlyRead (Outcome α) := do
  let ((tree, env), log) ← (action.run env).run log
  return ⟨tree, log, env⟩

def fillExpr (options : Options) (env : Env) (d : Draft) : Except EarlyRead (Outcome Draft) :=
  Outcome.ofDraft (liftM (d.check options env)) env #[]

def fillProgram (options : Options) (env : Env) (body : List StmtDraft) :
    Except EarlyRead (Outcome (List StmtDraft)) :=
  Outcome.ofDraft (StmtDraft.checkAll options body) env #[]

def fillBlock (options : Options) (env : Env) (log : Log) (body : List StmtDraft) :
    Except EarlyRead (Outcome (List StmtDraft)) :=
  Outcome.ofDraft (DraftScopeM.inScope (StmtDraft.checkAll options body)) env log

def fillStmt (options : Options) (env : Env) (log : Log) (s : StmtDraft) :
    Except EarlyRead (Outcome StmtDraft) :=
  Outcome.ofDraft (s.check options) env log

end Gradual
