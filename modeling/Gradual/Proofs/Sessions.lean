import Gradual.Proofs.Scopes

/-!
# Sessions

A check never looks back at what was reported (`CheckM.OnlyAppends`), so it
makes no difference where a program is cut. A session that is fed with the pieces
ends like one run over the whole.
-/

namespace Gradual

open CheckM

/-! ## Only adding to the log -/

/-- The check gives the same whatever the log holds, which stays in front. -/
def CheckM.OnlyAppends {α : Type} (x : CheckM α) : Prop :=
  ∀ log, x.run log = ((x.run #[]).1, log ++ (x.run #[]).2)

theorem CheckM.Writes.onlyAppends {α : Type} {x : CheckM α} {a : α} {ds : List Diagnostic}
    (h : x.Writes a ds) : x.OnlyAppends := by
  intro log
  have halone : x.run #[] = (a, ds.toArray) := by
    rw [h #[], Array.empty_append]
  rw [halone]
  exact h log

/-- The outcome of a run that found a log already written. -/
def Outcome.behind {α : Type} (log : Log) (o : Outcome α) : Outcome α :=
  { o with log := log ++ o.log }

/-- A run behind a log is the run on an empty log, put behind it. -/
theorem Outcome.ofRun_eq_behind {α : Type} {x : ScopeM α} {env env' : Env} {a : α}
    {ds : List Diagnostic} (h : ScopeM.Runs x env a env' ds) (log : Log) :
    ofRun x env log = (ofRun x env #[]).behind log := by
  have halone : ofRun x env #[] = ⟨a, ds.toArray, env'⟩ := by
    rw [ofRun_eq h, Array.empty_append]
  rw [halone]
  exact ofRun_eq h log

theorem checkStmt_eq_behind (options : Options) (env : Env) (log : Log) (s : SourceStmt) :
    checkStmt options env log s = (checkStmt options env #[] s).behind log :=
  Outcome.ofRun_eq_behind (Stmt.check_runs options env s) log

theorem checkBlock_eq_behind (options : Options) (env : Env) (log : Log)
    (body : List SourceStmt) :
    checkBlock options env log body = (checkBlock options env #[] body).behind log := by
  apply Outcome.ofRun_eq_behind
  exact (Stmt.checkAll_runs options env.push body).inScope

/-! ## Feeding a session -/

def Outcome.feed (options : Options) (o : Outcome (List ResolvedStmt))
    (piece : List SourceStmt) : Outcome (List ResolvedStmt) :=
  let next := checkProgram options o.env piece
  ⟨o.tree ++ next.tree, o.log ++ next.log, next.env⟩

/-- A session that nothing was fed to. -/
def Outcome.start (env : Env) : Outcome (List ResolvedStmt) :=
  ⟨[], #[], env⟩

theorem checkProgram_nil (options : Options) (env : Env) :
    checkProgram options env [] = Outcome.start env := rfl

/-- One piece more is checked as if it had stood at the end of the program. -/
theorem feed_checkProgram (options : Options) (env : Env) (ss piece : List SourceStmt) :
    (checkProgram options env ss).feed options piece = checkProgram options env (ss ++ piece) :=
  (checkProgram_append options env ss piece).symm

/-- So are all pieces that follow a program. -/
theorem foldl_feed_checkProgram (options : Options) (env : Env) (ss : List SourceStmt)
    (pieces : List (List SourceStmt)) :
    pieces.foldl (Outcome.feed options) (checkProgram options env ss) =
      checkProgram options env (ss ++ pieces.flatten) := by
  induction pieces generalizing ss with
  | nil => rw [List.foldl_nil, List.flatten_nil, List.append_nil]
  | cons piece pieces ih =>
      rw [List.foldl_cons, feed_checkProgram, ih, List.flatten_cons, List.append_assoc]

/-- **Programs can be checked in pieces, and the log only grows.** Any number of
pieces give their trees and their diagnostics one after the other, if each is
checked in the environment that the one before has left. And no check, from a
block down to a single operand, looks at the log: what it gives is what it gives
on an empty one, and its diagnostics come behind those that are there. -/
theorem checked_in_pieces (options : Options) (env : Env) :
    (∀ ss ts : List SourceStmt,
      let front := checkProgram options env ss
      let back := checkProgram options front.env ts
      let whole := checkProgram options env (ss ++ ts)
      whole.tree = front.tree ++ back.tree ∧ whole.log = front.log ++ back.log ∧
        whole.env = back.env) ∧
    (∀ pieces : List (List SourceStmt),
      pieces.foldl (Outcome.feed options) (.start env) =
        checkProgram options env pieces.flatten) ∧
    (∀ (log : Log) (body : List SourceStmt),
      checkBlock options env log body = (checkBlock options env #[] body).behind log) ∧
    (∀ (log : Log) (s : Subroutine),
      checkBlock options env log s.body = (s.check options env).behind log) ∧
    (∀ (log : Log) (s : SourceStmt),
      checkStmt options env log s = (checkStmt options env #[] s).behind log) ∧
    (∀ d : SourceDeclaration, (d.check options env).OnlyAppends) ∧
    (∀ e : SourceExpr, (e.check options env).OnlyAppends) ∧
    (∀ name position, (env.resolveVariable name position).OnlyAppends) ∧
    (∀ text position, (env.resolveType text position).OnlyAppends) ∧
    (∀ (e : ResolvedExpr) (r : Requirement) (operator : String),
      (e.require r operator).OnlyAppends) ∧
    ∀ (e : ResolvedExpr) (site : Site) (expected : Ty), (e.expect site expected).OnlyAppends := by
  refine ⟨?_, ?_, checkBlock_eq_behind options env, ?_, checkStmt_eq_behind options env,
    ?_, ?_, ?_, ?_, ?_, ?_⟩
  · intro ss ts front back whole
    have hwhole : whole = ⟨front.tree ++ back.tree, front.log ++ back.log, back.env⟩ :=
      checkProgram_append options env ss ts
    rw [hwhole]
    exact ⟨rfl, rfl, rfl⟩
  · intro pieces
    rw [← checkProgram_nil options env]
    exact foldl_feed_checkProgram options env [] pieces
  · intro log s
    rw [Subroutine.check]
    exact checkBlock_eq_behind options env log s.body
  · intro d
    exact (d.check_writes options env).onlyAppends
  · intro e
    exact (e.check_writes options env).onlyAppends
  · intro name position
    exact (Expr.resolveVariable_writes env name position).onlyAppends
  · intro text position
    exact (resolveType_writes env text position).onlyAppends
  · intro e r operator
    exact (e.require_writes r operator).onlyAppends
  · intro e site expected
    exact (e.expect_writes site expected).onlyAppends

/-- A line that is fed later finds the names of the lines before it, and its
diagnostics come last. -/
example :
    let byte (n : Nat) : Span := .within "line" n (n + 1)
    let session := [
      [.declaration ⟨"x", some ⟨"strin", ()⟩, none, byte 0⟩],
      [.expression (.unary .not (.number (byte 2)) (byte 1))],
      [.declaration ⟨"x", none, some (.number (byte 4)), byte 3⟩]
    ].foldl (Outcome.feed {}) (.start .empty)
    session.log.toList = [⟨.unknownType "strin", 0, "line"⟩,
      ⟨.operand .boolean "!" .number, 2, "line"⟩, ⟨.redeclared "x", 3, "line"⟩] := by
  decide +kernel

end Gradual
