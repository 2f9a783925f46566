import Gradual.Draft.Check
import Gradual.Proofs.Stmt.Resolution

/-!
# Types are read in time

A tree in memory is checked with cells that are empty at first, and a run that
reads an empty cell breaks off. This never happens. When a rule asks a part of its
node for its type, or whether it can be written to, the walk has been through that
part and has filled in all of its cells.

The proof follows the walk that keeps no cells, step by step (`DraftM.Follows`):
the run on the tree in memory does the same, and where the other one gives a
resolved tree it gives this tree with the type of every node in its cell. A rule
is only ever asked of such parts, where reading a cell is as good as computing
the type (`Draft.ty_finished`).
-/

namespace Gradual

/-! ## Following a walk without cells -/

/-- `x` reads no empty cell, writes what `y` writes, and gives what `f` makes of
the value of `y`. -/
def DraftM.Follows {α β : Type} (x : DraftM β) (y : CheckM α) (f : α → β) : Prop :=
  ∀ log, StateT.run x log = .ok (f (y.run log).1, (y.run log).2)

/-- The same for actions that may declare names. They leave the same environment. -/
def DraftScopeM.Follows {α β : Type} (x : DraftScopeM β) (y : ScopeM α) (f : α → β) : Prop :=
  ∀ env, DraftM.Follows (StateT.run x env) (y.run env) (Prod.map f id)

namespace DraftM

variable {α β γ δ : Type} {f : α → β}

theorem Follows.pure (f : α → β) (a : α) :
    Follows (pure (f a) : DraftM β) (pure a : CheckM α) f := by
  intro log
  rfl

/-- One step behind another, which is known to give a value with `P`. -/
theorem Follows.bindOf {P : α → Prop} {x : DraftM β} {y : CheckM α} {k : β → DraftM δ}
    {h : α → CheckM γ} {g : γ → δ} (hx : Follows x y f) (hy : ∀ log, P (y.run log).1)
    (hk : ∀ a, P a → Follows (k (f a)) (h a) g) : Follows (x >>= k) (y >>= h) g := by
  intro log
  rw [StateT.run_bind, hx log, CheckM.run_bind]
  exact hk _ (hy log) _

theorem Follows.bind {x : DraftM β} {y : CheckM α} {k : β → DraftM δ} {h : α → CheckM γ}
    {g : γ → δ} (hx : Follows x y f) (hk : ∀ a, Follows (k (f a)) (h a) g) :
    Follows (x >>= k) (y >>= h) g :=
  hx.bindOf (P := fun _ => True) (fun _ => trivial) fun a _ => hk a

theorem Follows.lift (y : CheckM α) : Follows (liftM y : DraftM α) y id := by
  intro log
  rfl

theorem Follows.map {x : DraftM β} {y : CheckM α} (h : Follows x y f) (g : β → γ) :
    Follows (x >>= fun b => Pure.pure (g b)) y (g ∘ f) := by
  intro log
  rw [StateT.run_bind, h log]
  rfl

/-- A cell that is filled in is read without further ado. -/
theorem read_bind {r : Except EarlyRead α} {a : α} (h : r = .ok a) (k : α → DraftM β) :
    ((liftM r : DraftM α) >>= k) = k a := by
  rw [h]
  rfl

end DraftM

namespace DraftScopeM

variable {α β γ δ : Type} {f : α → β}

theorem Follows.pure (f : α → β) (a : α) :
    Follows (pure (f a) : DraftScopeM β) (pure a : ScopeM α) f := by
  intro env log
  rfl

theorem Follows.bind {x : DraftScopeM β} {y : ScopeM α} {k : β → DraftScopeM δ}
    {h : α → ScopeM γ} {g : γ → δ} (hx : Follows x y f)
    (hk : ∀ a, Follows (k (f a)) (h a) g) : Follows (x >>= k) (y >>= h) g := by
  intro env
  rw [StateT.run_bind, StateT.run_bind]
  exact (hx env).bind fun p => hk p.1 p.2

/-- A check that declares nothing. -/
theorem Follows.lift {x : DraftM β} {y : CheckM α} (h : DraftM.Follows x y f) :
    Follows (liftM x : DraftScopeM β) (liftM y : ScopeM α) f := by
  intro env
  exact h.map fun b => (b, env)

theorem Follows.get : Follows (get : DraftScopeM Env) (get : ScopeM Env) id := by
  intro env log
  rfl

theorem Follows.set (env : Env) :
    Follows (set env : DraftScopeM PUnit) (set env : ScopeM PUnit) id := by
  intro env log
  rfl

theorem Follows.modify (change : Env → Env) :
    Follows (modify change : DraftScopeM PUnit) (modify change : ScopeM PUnit) id := by
  intro env log
  rfl

theorem Follows.inScope {x : DraftScopeM β} {y : ScopeM α} (h : Follows x y f) :
    Follows (inScope x) (Gradual.inScope y) f := by
  refine (Follows.modify Env.push).bind fun _ => ?_
  refine h.bind fun a => ?_
  exact (Follows.modify Env.pop).bind fun _ => Follows.pure f a

theorem read_bind {r : Except EarlyRead α} {a : α} (h : r = .ok a) (k : α → DraftScopeM β) :
    ((liftM r : DraftScopeM α) >>= k) = k a := by
  rw [h]
  rfl

end DraftScopeM

namespace Draft

open DraftM

/-! ## Reading what is filled in -/

theorem ty_finished (e : ResolvedExpr) : (finished e).ty = .ok e.ty := by
  rw [ty, cell_finished]

theorem isWritable_finished (e : ResolvedExpr) : (finished e).isWritable = .ok e.isWritable := by
  induction e using Expr.induct with
  | index base subscript span ih _ =>
      rw [finished, isWritable, ty_finished, Expr.isWritable]
      cases h : base.ty.isArray || base.ty.isAny
      · simp [bind, Except.bind, h, pure, Except.pure]
      · simp [bind, Except.bind, h, ih]
  | number | character | string | boolean | array | ref | binary | unary | assign => rfl

/-! ## Rules for one node -/

variable (options : Options)

/-- An operand that is filled in is asked what its expression is asked. -/
theorem require_finished (e : ResolvedExpr) (r : Requirement) (operator : String) :
    (finished e).require r operator = liftM (e.require r operator) := by
  rw [require, read_bind (ty_finished e), start_finished]
  rfl

theorem expect_finished (e : ResolvedExpr) (site : Site) (expected : Ty) :
    (finished e).expect site expected = liftM (e.expect site expected) := by
  rw [expect, read_bind (ty_finished e), start_finished]
  rfl

theorem requireWritable_finished (e : ResolvedExpr) :
    (finished e).requireWritable = liftM e.requireWritable := by
  rw [requireWritable, read_bind (isWritable_finished e), start_finished, Expr.requireWritable]
  cases e.isWritable <;> rfl

theorem require_follows (e : ResolvedExpr) (r : Requirement) (operator : String) :
    Follows ((finished e).require r operator) (e.require r operator) id := by
  rw [require_finished]
  exact Follows.lift _

theorem expect_follows (e : ResolvedExpr) (site : Site) (expected : Ty) :
    Follows ((finished e).expect site expected) (e.expect site expected) id := by
  rw [expect_finished]
  exact Follows.lift _

theorem forM_expect_follows (site : Site) (expected : Ty) (es : List ResolvedExpr) :
    Follows ((finishedAll es).forM (·.expect site expected)) (es.forM (·.expect site expected))
      id := by
  induction es with
  | nil => exact Follows.pure id ()
  | cons e rest ih => exact (expect_follows e site expected).bind fun _ => ih

theorem checkElements_follows (es : List ResolvedExpr) (span : Span) :
    Follows (checkElements (finishedAll es)) (Expr.checkElements es)
      (fun _ => (Expr.ty (.array es span)).item) := by
  cases es with
  | nil => exact Follows.pure (fun _ => Ty.any) ()
  | cons first rest =>
      rw [finishedAll, checkElements, read_bind (ty_finished first)]
      exact (forM_expect_follows .element first.ty rest).map fun _ => first.ty

theorem checkRelational_follows (operator : String) (left right : ResolvedExpr) :
    Follows (checkRelational options operator (finished left) (finished right))
      (Expr.checkRelational options operator left right) id := by
  rw [checkRelational, read_bind (ty_finished left), start_finished, Expr.checkRelational]
  cases left.ty with
  | character | string => exact require_follows right _ operator
  | number =>
      exact (require_follows left _ operator).bind fun _ => require_follows right _ operator
  | any => exact Follows.pure id ()
  | boolean | array =>
      cases options.strictRelational
      · exact Follows.pure id ()
      · exact Follows.lift _

theorem checkBinary_follows (op : BinaryOp) (left right : ResolvedExpr) (position : Position) :
    Follows (checkBinary options op (finished left) (finished right) position)
      (Expr.checkBinary options op left right position) id := by
  unfold checkBinary Expr.checkBinary
  cases op.family with
  | arithmetic | shift | logical =>
      exact (require_follows left _ op.token).bind fun _ => require_follows right _ op.token
  | relational => exact checkRelational_follows options op.token left right
  | equality =>
      simp only [read_bind (ty_finished left), read_bind (ty_finished right)]
      cases Expr.equatable left.ty right.ty
      · exact Follows.lift _
      · exact Follows.pure id ()

theorem checkAssign_follows (target value : ResolvedExpr) (span : Span) :
    Follows (do
        (finished target).requireWritable
        let t ← (finished target).ty
        (finished value).expect .assignment t
        return assign (finished target) (finished value) span (some t))
      (Expr.checkAssign target value >>= fun _ => pure (.assign target value span)) finished := by
  rw [Expr.checkAssign, bind_assoc, requireWritable_finished]
  refine (Follows.lift _).bind fun _ => ?_
  rw [read_bind (ty_finished target)]
  refine (expect_follows value .assignment target.ty).bind fun _ => ?_
  exact Follows.pure finished (.assign target value span)

/-! ## The walk -/

variable (env : Env)

mutual

/-- The walk over an expression that was just built finds every cell filled in that
it reads, and fills in all of them. -/
theorem check_follows : ∀ e : SourceExpr,
    Follows (check options env (fresh e)) (e.check options env) finished
  | .number span => Follows.pure finished (.number span)
  | .character value span => Follows.pure finished (.character value span)
  | .string value span => Follows.pure finished (.string value span)
  | .boolean value span => Follows.pure finished (.boolean value span)
  | .array elements span => by
      rw [fresh, check, Expr.check]
      refine (checkAll_follows elements).bind fun es => ?_
      refine (checkElements_follows es span).bind fun _ => ?_
      cases es with
      | nil => exact Follows.pure finished (.array [] span)
      | cons first rest => exact Follows.pure finished (.array (first :: rest) span)
  | .ref name _ span => by
      rw [fresh, check, Expr.check]
      refine (Follows.lift _).bind fun target => ?_
      exact Follows.pure finished (.ref name target span)
  | .index base subscript span => by
      rw [fresh, check, Expr.check]
      refine (check_follows base).bind fun base => ?_
      refine (check_follows subscript).bind fun subscript => ?_
      rw [Expr.checkIndex, bind_assoc]
      refine (require_follows base .sequence "[]").bind fun _ => ?_
      refine (require_follows subscript .integer "[]").bind fun _ => ?_
      rw [read_bind (ty_finished base)]
      exact Follows.pure finished (.index base subscript span)
  | .binary op left right span => by
      rw [fresh, check, Expr.check]
      refine (check_follows left).bind fun left => ?_
      refine (check_follows right).bind fun right => ?_
      refine (checkBinary_follows options op left right span.start).bind fun _ => ?_
      rw [read_bind (ty_finished left), read_bind (ty_finished right)]
      exact Follows.pure finished (.binary op left right span)
  | .unary op operand span => by
      rw [fresh, check, Expr.check]
      refine (check_follows operand).bind fun operand => ?_
      refine (require_follows operand (Expr.requirementOf op) op.token).bind fun _ => ?_
      exact Follows.pure finished (.unary op operand span)
  | .assign target value span => by
      rw [fresh, check, Expr.check]
      refine (check_follows target).bind fun target => ?_
      refine (check_follows value).bind fun value => ?_
      exact checkAssign_follows target value span

theorem checkAll_follows : ∀ es : List SourceExpr,
    Follows (checkAll options env (freshAll es)) (Expr.checkAll options env es) finishedAll
  | [] => Follows.pure finishedAll []
  | e :: rest => by
      rw [freshAll, checkAll, Expr.checkAll]
      refine (check_follows e).bind fun e => ?_
      refine (checkAll_follows rest).bind fun rest => ?_
      exact Follows.pure finishedAll (e :: rest)

end

end Draft

/-! ## Declarations -/

namespace DeclarationDraft

open DraftM

theorem ty_finished (d : ResolvedDeclaration) : (finished d).ty = .ok d.ty :=
  rfl

theorem binding_finished (d : ResolvedDeclaration) : (finished d).binding = .ok d.binding :=
  rfl

variable (options : Options) (env : Env)

theorem writtenType_follows (position : Position) (type? : Option (TypeRef Unit)) :
    Follows
      (liftM ((type?.map (·.name)).mapM (writtenType env position)) : DraftM (Option Ty))
      (type?.mapM (·.check env position)) (Option.map TypeRef.ty) := by
  intro log
  cases type? <;> rfl

/-- A type name that is looked up keeps its name. -/
theorem map_name_mapM_check (position : Position) (type? : Option (TypeRef Unit)) (log : Log) :
    ((type?.mapM (TypeRef.check env position)).run log).1.map (·.name) =
      type?.map (·.name) := by
  cases type? <;> rfl

/-- The same for the walk over a declaration that was just built. -/
theorem check_follows (d : SourceDeclaration) :
    Follows ((fresh d).check options env) (d.check options env) finished := by
  obtain ⟨name, type?, init?, span⟩ := d
  refine (writtenType_follows env span.start type?).bindOf
    (P := fun written? => written?.map (·.name) = type?.map (·.name))
    (map_name_mapM_check env span.start type?) fun written? hname => ?_
  simp only [fresh, ← hname]
  cases init? with
  | none =>
      simp only [Option.map_none, Option.mapM_none, pure_bind]
      cases written? with
      | none =>
          refine (Follows.lift (report (.untyped name) span.start)).bind fun _ => ?_
          exact Follows.pure finished ⟨name, none, none, span⟩
      | some r => exact Follows.pure finished ⟨name, some r, none, span⟩
  | some e =>
      have hvalue := Draft.check_follows options env e
      simp only [Option.map_some, Option.mapM_some, map_eq_pure_bind, bind_assoc, pure_bind]
      cases written? with
      | none =>
          refine hvalue.bind fun e => ?_
          rw [read_bind (Draft.ty_finished e)]
          exact Follows.pure finished ⟨name, none, some e, span⟩
      | some r =>
          refine hvalue.bind fun e => ?_
          refine (Draft.expect_follows e .initialization r.ty).bind fun _ => ?_
          exact Follows.pure finished ⟨name, some r, some e, span⟩

theorem enter_follows (d : ResolvedDeclaration) :
    DraftScopeM.Follows (finished d).enter d.enter id := by
  rw [enter, DraftScopeM.read_bind (binding_finished d)]
  refine DraftScopeM.Follows.get.bind fun env => ?_
  have hspan : (finished d).span = d.span := rfl
  simp only [hspan, id_eq]
  cases env.declare d.binding d.span.start with
  | ok env => exact DraftScopeM.Follows.set env
  | error diagnostic => exact DraftScopeM.Follows.lift (Follows.lift _)

end DeclarationDraft

/-! ## Statements -/

namespace StmtDraft

open DraftScopeM

variable (options : Options)

mutual

theorem check_follows : ∀ s : SourceStmt,
    Follows ((fresh s).check options) (s.check options) finished
  | .declaration d => by
      rw [fresh, check, Stmt.check]
      refine Follows.get.bind fun env => ?_
      refine (Follows.lift (DeclarationDraft.check_follows options env d)).bind fun d => ?_
      refine (DeclarationDraft.enter_follows d).bind fun _ => ?_
      exact Follows.pure finished (.declaration d)
  | .expression e => by
      rw [fresh, check, Stmt.check]
      refine Follows.get.bind fun env => ?_
      refine (Follows.lift (Draft.check_follows options env e)).bind fun e => ?_
      rw [DraftScopeM.read_bind (Draft.ty_finished e)]
      exact Follows.pure finished (.expression e)
  | .block body span => by
      rw [fresh, check, Stmt.check]
      refine (checkAll_follows body).inScope.bind fun body => ?_
      exact Follows.pure finished (.block body span)

/-- The walk over statements that were just built reads no cell too early either. -/
theorem checkAll_follows : ∀ ss : List SourceStmt,
    Follows (checkAll options (freshAll ss)) (Stmt.checkAll options ss) finishedAll
  | [] => Follows.pure finishedAll []
  | s :: rest => by
      rw [freshAll, checkAll, Stmt.checkAll]
      refine (check_follows s).bind fun s => ?_
      refine (checkAll_follows rest).bind fun rest => ?_
      exact Follows.pure finishedAll (s :: rest)

end

end StmtDraft

/-! ## What the walk leaves alone -/

namespace Draft

mutual

theorem clear_finished : ∀ e : ResolvedExpr, (finished e).clear = fresh e.erase
  | .number _ | .character _ _ | .string _ _ | .boolean _ _ | .ref _ _ _ => rfl
  | .array elements span => by
      rw [finished, clear, Expr.erase, fresh, clearAll_finishedAll elements]
  | .index base subscript span => by
      rw [finished, clear, Expr.erase, fresh, clear_finished base, clear_finished subscript]
  | .binary op left right span => by
      rw [finished, clear, Expr.erase, fresh, clear_finished left, clear_finished right]
  | .unary op operand span => by
      rw [finished, clear, Expr.erase, fresh, clear_finished operand]
  | .assign target value span => by
      rw [finished, clear, Expr.erase, fresh, clear_finished target, clear_finished value]

/-- Without its cells a tree that is filled in is the tree that was built. -/
theorem clearAll_finishedAll : ∀ es : List ResolvedExpr,
    clearAll (finishedAll es) = freshAll (Expr.eraseAll es)
  | [] => rfl
  | e :: rest => by
      rw [finishedAll, clearAll, Expr.eraseAll, freshAll, clear_finished e,
        clearAll_finishedAll rest]

end

mutual

theorem nodes_finished : ∀ e : ResolvedExpr, (finished e).nodes = e.nodes.map finished
  | .number _ | .character _ _ | .string _ _ | .boolean _ _ | .ref _ _ _ => rfl
  | .array elements span => by
      rw [finished, nodes, Expr.nodes, nodesAll_finishedAll elements, List.map_append]
      rfl
  | .index base subscript span => by
      rw [finished, nodes, Expr.nodes, nodes_finished base, nodes_finished subscript,
        List.map_append, List.map_append]
      rfl
  | .binary op left right span => by
      rw [finished, nodes, Expr.nodes, nodes_finished left, nodes_finished right,
        List.map_append, List.map_append]
      rfl
  | .unary op operand span => by
      rw [finished, nodes, Expr.nodes, nodes_finished operand, List.map_append]
      rfl
  | .assign target value span => by
      rw [finished, nodes, Expr.nodes, nodes_finished target, nodes_finished value,
        List.map_append, List.map_append]
      rfl

/-- Every node of a tree that is filled in is filled in. -/
theorem nodesAll_finishedAll : ∀ es : List ResolvedExpr,
    nodesAll (finishedAll es) = (Expr.nodesAll es).map finished
  | [] => rfl
  | e :: rest => by
      rw [finishedAll, nodesAll, Expr.nodesAll, nodes_finished e, nodesAll_finishedAll rest,
        List.map_append]

end

mutual

theorem nodes_clear : ∀ d : Draft, d.clear.nodes = d.nodes.map clear
  | number _ _ | character _ _ _ | string _ _ _ | boolean _ _ _ | ref _ _ _ _ => rfl
  | array elements span cell => by
      rw [clear, nodes, nodes, nodesAll_clearAll elements, List.map_append]
      rfl
  | index base subscript span cell => by
      rw [clear, nodes, nodes, nodes_clear base, nodes_clear subscript, List.map_append,
        List.map_append]
      rfl
  | binary op left right span cell => by
      rw [clear, nodes, nodes, nodes_clear left, nodes_clear right, List.map_append,
        List.map_append]
      rfl
  | unary op operand span cell => by
      rw [clear, nodes, nodes, nodes_clear operand, List.map_append]
      rfl
  | assign target value span cell => by
      rw [clear, nodes, nodes, nodes_clear target, nodes_clear value, List.map_append,
        List.map_append]
      rfl

theorem nodesAll_clearAll : ∀ ds : List Draft, nodesAll (clearAll ds) = (nodesAll ds).map clear
  | [] => rfl
  | d :: rest => by
      rw [clearAll, nodesAll, nodesAll, nodes_clear d, nodesAll_clearAll rest, List.map_append]

end

end Draft

namespace DeclarationDraft

theorem clear_finished (d : ResolvedDeclaration) : (finished d).clear = fresh d.erase := by
  obtain ⟨name, type?, init?, span⟩ := d
  cases type? <;> cases init? <;>
    simp [finished, clear, Declaration.erase, fresh, Draft.clear_finished]

end DeclarationDraft

namespace StmtDraft

mutual

theorem clear_finished : ∀ s : ResolvedStmt, (finished s).clear = fresh s.erase
  | .declaration d => by
      rw [finished, clear, Stmt.erase, fresh, DeclarationDraft.clear_finished d]
  | .expression e => by rw [finished, clear, Stmt.erase, fresh, Draft.clear_finished e]
  | .block body span => by
      rw [finished, clear, Stmt.erase, fresh, clearAll_finishedAll body]

theorem clearAll_finishedAll : ∀ ss : List ResolvedStmt,
    clearAll (finishedAll ss) = freshAll (Stmt.eraseAll ss)
  | [] => rfl
  | s :: rest => by
      rw [finishedAll, clearAll, Stmt.eraseAll, freshAll, clear_finished s,
        clearAll_finishedAll rest]

end

mutual

theorem nodes_finished : ∀ s : ResolvedStmt, (finished s).nodes = s.nodes.map Draft.finished
  | .declaration ⟨_, _, none, _⟩ => rfl
  | .declaration ⟨_, _, some e, _⟩ | .expression e => Draft.nodes_finished e
  | .block body _ => nodesAll_finishedAll body

theorem nodesAll_finishedAll : ∀ ss : List ResolvedStmt,
    nodesAll (finishedAll ss) = (Stmt.nodesAll ss).map Draft.finished
  | [] => rfl
  | s :: rest => by
      rw [finishedAll, nodesAll, Stmt.nodesAll, nodes_finished s, nodesAll_finishedAll rest,
        List.map_append]

end

mutual

theorem nodes_clear : ∀ s : StmtDraft, s.clear.nodes = s.nodes.map Draft.clear
  | declaration ⟨_, _, none, _, _⟩ => rfl
  | declaration ⟨_, _, some e, _, _⟩ | expression e => e.nodes_clear
  | block body _ => nodesAll_clearAll body

theorem nodesAll_clearAll : ∀ ss : List StmtDraft,
    nodesAll (clearAll ss) = (nodesAll ss).map Draft.clear
  | [] => rfl
  | s :: rest => by
      rw [clearAll, nodesAll, nodesAll, nodes_clear s, nodesAll_clearAll rest, List.map_append]

end

mutual

theorem declarations_finished : ∀ s : ResolvedStmt,
    (finished s).declarations = s.declarations.map DeclarationDraft.finished
  | .declaration _ | .expression _ => rfl
  | .block body _ => declarationsAll_finishedAll body

theorem declarationsAll_finishedAll : ∀ ss : List ResolvedStmt,
    declarationsAll (finishedAll ss) = (Stmt.declarationsAll ss).map DeclarationDraft.finished
  | [] => rfl
  | s :: rest => by
      rw [finishedAll, declarationsAll, Stmt.declarationsAll, declarations_finished s,
        declarationsAll_finishedAll rest, List.map_append]

end

mutual

theorem declarations_clear : ∀ s : StmtDraft,
    s.clear.declarations = s.declarations.map DeclarationDraft.clear
  | declaration _ | expression _ => rfl
  | block body _ => declarationsAll_clearAll body

theorem declarationsAll_clearAll : ∀ ss : List StmtDraft,
    declarationsAll (clearAll ss) = (declarationsAll ss).map DeclarationDraft.clear
  | [] => rfl
  | s :: rest => by
      rw [clearAll, declarationsAll, declarationsAll, declarations_clear s,
        declarationsAll_clearAll rest, List.map_append]

end

end StmtDraft

/-! ## Trees that are filled in -/

/-- Whatever is asked of the node is answered. -/
structure Draft.Readable (d : Draft) : Prop where
  ty : ∃ t, d.ty = .ok t
  isWritable : ∃ writable, d.isWritable = .ok writable
  require : ∀ r operator log, ∃ result, (d.require r operator).run log = .ok result
  expect : ∀ site expected log, ∃ result, (d.expect site expected).run log = .ok result

theorem Draft.readable_finished (e : ResolvedExpr) : (finished e).Readable where
  ty := ⟨_, ty_finished e⟩
  isWritable := ⟨_, isWritable_finished e⟩
  require r operator log := ⟨_, require_follows e r operator log⟩
  expect site expected log := ⟨_, expect_follows e site expected log⟩

/-- `after` is `before` but for the cells, node by node and declaration by
declaration, and whatever is asked of them, at any depth, is answered. -/
structure StmtDraft.FilledIn (before after : List StmtDraft) : Prop where
  clearAll : clearAll after = before
  nodesAll : (nodesAll after).map Draft.clear = nodesAll before
  declarationsAll : (declarationsAll after).map DeclarationDraft.clear = declarationsAll before
  readable : ∀ d ∈ StmtDraft.nodesAll after, d.Readable
  ty : ∀ d ∈ StmtDraft.declarationsAll after, ∃ t, d.ty = .ok t
  binding : ∀ d ∈ StmtDraft.declarationsAll after, ∃ b, d.binding = .ok b

theorem StmtDraft.filledIn_finishedAll {body : List SourceStmt} {tree : List ResolvedStmt}
    (h : Stmt.eraseAll tree = body) : FilledIn (freshAll body) (finishedAll tree) where
  clearAll := by rw [clearAll_finishedAll, h]
  nodesAll := by rw [← nodesAll_clearAll, clearAll_finishedAll, h]
  declarationsAll := by rw [← declarationsAll_clearAll, clearAll_finishedAll, h]
  readable := by
    intro d hd
    rw [nodesAll_finishedAll] at hd
    obtain ⟨e, -, rfl⟩ := List.mem_map.mp hd
    exact Draft.readable_finished e
  ty := by
    intro d hd
    rw [declarationsAll_finishedAll] at hd
    obtain ⟨d, -, rfl⟩ := List.mem_map.mp hd
    exact ⟨_, DeclarationDraft.ty_finished d⟩
  binding := by
    intro d hd
    rw [declarationsAll_finishedAll] at hd
    obtain ⟨d, -, rfl⟩ := List.mem_map.mp hd
    exact ⟨_, DeclarationDraft.binding_finished d⟩

/-! ## Runs -/

def Outcome.map {α β : Type} (f : α → β) (o : Outcome α) : Outcome β :=
  ⟨f o.tree, o.log, o.env⟩

theorem Outcome.ofDraft_eq {α β : Type} {x : DraftScopeM β} {y : ScopeM α} {f : α → β}
    (h : x.Follows y f) (env : Env) (log : Log) :
    ofDraft x env log = .ok ((ofRun y env log).map f) := by
  rw [ofDraft, h env log]
  rfl

section

variable (options : Options) (env : Env) (log : Log)

theorem fillExpr_fresh (e : SourceExpr) :
    fillExpr options env (.fresh e) = .ok ((checkExpr options env e).map .finished) :=
  Outcome.ofDraft_eq (DraftScopeM.Follows.lift (Draft.check_follows options env e)) env #[]

theorem fillStmt_fresh (s : SourceStmt) :
    fillStmt options env log (.fresh s) =
      .ok ((checkStmt options env log s).map .finished) :=
  Outcome.ofDraft_eq (StmtDraft.check_follows options s) env log

theorem fillBlock_freshAll (body : List SourceStmt) :
    fillBlock options env log (StmtDraft.freshAll body) =
      .ok ((checkBlock options env log body).map StmtDraft.finishedAll) :=
  Outcome.ofDraft_eq (StmtDraft.checkAll_follows options body).inScope env log

theorem fillProgram_freshAll (body : List SourceStmt) :
    fillProgram options env (StmtDraft.freshAll body) =
      .ok ((checkProgram options env body).map StmtDraft.finishedAll) :=
  Outcome.ofDraft_eq (StmtDraft.checkAll_follows options body) env #[]

end

/-! ## Reading before and after the check -/

/-- The draft that a holder of the tree has in hand. -/
def Draft.ofView : ExprView → Draft
  | .fresh e => fresh e
  | .resolved e => finished e

theorem Draft.ty_ofView : ∀ v : ExprView, (ofView v).ty = v.ty
  | .fresh e => by
      rw [ofView, ty, cell_fresh, start, span_fresh]
      rfl
  | .resolved e => ty_finished e

theorem Draft.isWritable_ofView : ∀ v : ExprView, (ofView v).isWritable = v.isWritable
  | .fresh (.index base _ _) => by
      rw [ofView, fresh, isWritable, ty, cell_fresh, start, span_fresh]
      rfl
  | .fresh (.number _) | .fresh (.character _ _) | .fresh (.string _ _)
  | .fresh (.boolean _ _) | .fresh (.array _ _) | .fresh (.ref _ _ _)
  | .fresh (.binary _ _ _ _) | .fresh (.unary _ _ _) | .fresh (.assign _ _ _) => rfl
  | .resolved e => isWritable_finished e

def DeclarationDraft.ofView : DeclarationView → DeclarationDraft
  | .fresh d => fresh d
  | .resolved d => finished d

theorem DeclarationDraft.ty_ofView : ∀ v : DeclarationView, (ofView v).ty = v.ty
  | .fresh _ | .resolved _ => rfl

theorem DeclarationDraft.binding_ofView : ∀ v : DeclarationView, (ofView v).binding = v.binding
  | .fresh _ | .resolved _ => rfl

/-- **Types are read in time.** A tree in memory begins with empty cells, and who
reads one of them gets the error of a question that comes too early. No check runs
into it: on an expression, a statement, a block, a program or the body of a
subroutine that was just built it gets to its end, in every environment and behind
every log, and reports and declares what the check without cells does. Behind it
the tree is the same but for the cells, which are all filled in: every node at
every depth and every declaration answers whatever it is asked. -/
theorem types_are_read_in_time (options : Options) (env : Env) :
    (∀ v, (Draft.ofView v).ty = v.ty ∧ (Draft.ofView v).isWritable = v.isWritable) ∧
    (∀ v, (DeclarationDraft.ofView v).ty = v.ty ∧
      (DeclarationDraft.ofView v).binding = v.binding) ∧
    (∀ e, let run := checkExpr options env e
      fillExpr options env (.fresh e) = .ok (run.map .finished) ∧
      StmtDraft.FilledIn [.expression (.fresh e)] [.expression (.finished run.tree)]) ∧
    (∀ log s, let run := checkStmt options env log s
      fillStmt options env log (.fresh s) = .ok (run.map .finished) ∧
      StmtDraft.FilledIn [.fresh s] [.finished run.tree]) ∧
    (∀ log body, let run := checkBlock options env log body
      fillBlock options env log (StmtDraft.freshAll body) = .ok (run.map StmtDraft.finishedAll) ∧
      StmtDraft.FilledIn (StmtDraft.freshAll body) (StmtDraft.finishedAll run.tree)) ∧
    (∀ s : Subroutine, let run := s.check options env
      fillBlock options env #[] (StmtDraft.freshAll s.body) = .ok (run.map StmtDraft.finishedAll) ∧
      StmtDraft.FilledIn (StmtDraft.freshAll s.body) (StmtDraft.finishedAll run.tree)) ∧
    ∀ body, let run := checkProgram options env body
      fillProgram options env (StmtDraft.freshAll body) = .ok (run.map StmtDraft.finishedAll) ∧
      StmtDraft.FilledIn (StmtDraft.freshAll body) (StmtDraft.finishedAll run.tree) := by
  refine ⟨?_, ?_, ?_, ?_, ?_, ?_, ?_⟩
  · exact fun v => ⟨Draft.ty_ofView v, Draft.isWritable_ofView v⟩
  · exact fun v => ⟨DeclarationDraft.ty_ofView v, DeclarationDraft.binding_ofView v⟩
  · intro e run
    have herase : Stmt.eraseAll ([.expression run.tree] : List ResolvedStmt) =
        [.expression e] := by
      rw [Stmt.eraseAll, Stmt.eraseAll, Stmt.erase, erase_tree_checkExpr options env e]
    exact ⟨fillExpr_fresh options env e, StmtDraft.filledIn_finishedAll herase⟩
  · intro log s run
    have herase : Stmt.eraseAll [run.tree] = [s] := by
      rw [Stmt.eraseAll, Stmt.eraseAll, erase_tree_checkStmt options env log s]
    exact ⟨fillStmt_fresh options env log s, StmtDraft.filledIn_finishedAll herase⟩
  · intro log body run
    exact ⟨fillBlock_freshAll options env log body,
      StmtDraft.filledIn_finishedAll (eraseAll_tree_checkBlock options env log body)⟩
  · intro s run
    exact ⟨fillBlock_freshAll options env #[] s.body,
      StmtDraft.filledIn_finishedAll (eraseAll_tree_checkBlock options env #[] s.body)⟩
  · intro body run
    exact ⟨fillProgram_freshAll options env body,
      StmtDraft.filledIn_finishedAll (eraseAll_tree_checkProgram options env body)⟩

end Gradual
