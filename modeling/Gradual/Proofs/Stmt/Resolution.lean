import Gradual.Program
import Gradual.Proofs.Expr.Resolution

/-!
# Checking statements: names first, rules afterwards

The split of `Gradual.Proofs.Expr.Resolution`, carried through statements.
What a statement leaves behind for the next one depends on its resolved form
alone (`Stmt.leave`), so the environments on the way are known before any rule
is checked, and `Stmt.violations` reads the rules off the resolved statements.
-/

namespace Gradual

open CheckM

/-! ## Environments on the way -/

namespace Env

/-- The environment behind a declaration. A name that the innermost scope
binds already keeps its meaning. -/
def enter (env : Env) (binding : Binding) : Env :=
  if (env.inner.binding? binding.name).isSome then env
  else { env with inner := env.inner.bind binding }

theorem outer_enter (env : Env) (binding : Binding) :
    (env.enter binding).outer = env.outer := by
  unfold enter
  split <;> rfl

theorem enter_of_new {env : Env} {binding : Binding}
    (h : env.inner.binding? binding.name = none) :
    env.enter binding = { env with inner := env.inner.bind binding } := by
  simp [enter, h]

theorem pop_of_outer_eq {env env' : Env} (h : env'.outer = env.scopes) : env'.pop = env := by
  rw [pop, h]
  rfl

end Env

/-! ## Looking names up -/

/-- The type name with its meaning. -/
def TypeRef.resolve (env : Env) (r : TypeRef Unit) : TypeRef (Option Ty) :=
  ⟨r.name, env.type? r.name⟩

theorem TypeRef.ty_resolve {env : Env} {text : String} {t : Ty}
    (h : env.type? text = some t) : (resolve env ⟨text, ()⟩).ty = t := by
  simp [resolve, ty, h]

/-- The declaration with its names looked up. -/
def Declaration.resolve (env : Env) (d : SourceDeclaration) : ResolvedDeclaration :=
  ⟨d.name, d.type?.map (·.resolve env), d.init?.map (·.resolve env), d.span⟩

namespace Stmt

/-- The environment that a statement leaves for the statement behind it. -/
def leave (env : Env) : ResolvedStmt → Env
  | declaration d => env.enter d.binding
  | expression _ => env
  | block _ _ => env

def leaveAll (env : Env) (ss : List ResolvedStmt) : Env :=
  ss.foldl leave env

@[simp] theorem leaveAll_cons (env : Env) (s : ResolvedStmt) (ss : List ResolvedStmt) :
    leaveAll env (s :: ss) = leaveAll (s.leave env) ss := rfl

theorem outer_leave (env : Env) (s : ResolvedStmt) : (s.leave env).outer = env.outer := by
  cases s with
  | declaration d => exact Env.outer_enter env d.binding
  | expression | block => rfl

/-- Statements change the innermost scope and no other. -/
theorem outer_leaveAll (env : Env) (ss : List ResolvedStmt) :
    (leaveAll env ss).outer = env.outer := by
  induction ss generalizing env with
  | nil => rfl
  | cons s ss ih => rw [leaveAll_cons, ih, outer_leave]

/-- Closing the scope of a block gives back the environment in front of it. -/
theorem pop_leaveAll_push (env : Env) (ss : List ResolvedStmt) :
    (leaveAll env.push ss).pop = env :=
  Env.pop_of_outer_eq (outer_leaveAll env.push ss)

mutual

/-- The statement with its names looked up. -/
def resolve (env : Env) : SourceStmt → ResolvedStmt
  | declaration d => declaration (d.resolve env)
  | expression e => expression (e.resolve env)
  | block body span => block (resolveAll env.push body) span

def resolveAll (env : Env) : List SourceStmt → List ResolvedStmt
  | [] => []
  | s :: rest => resolve env s :: resolveAll ((resolve env s).leave env) rest

end

end Stmt

/-! ## Nodes -/

/-- The declaration as it was before its names were looked up. -/
def Declaration.erase {ρ τ : Type} (d : Declaration ρ τ) : SourceDeclaration :=
  ⟨d.name, d.type?.map fun r => ⟨r.name, ()⟩, d.init?.map (·.erase), d.span⟩

theorem Declaration.erase_resolve (env : Env) (d : SourceDeclaration) :
    (d.resolve env).erase = d := by
  obtain ⟨name, type?, init?, span⟩ := d
  cases type? <;> cases init? <;> simp [resolve, erase, TypeRef.resolve]

namespace Stmt

variable {ρ τ : Type}

mutual

/-- The nodes of all expressions in a statement, in the order of the walk. -/
def nodes : Stmt ρ τ → List (Expr ρ)
  | declaration d => d.init?.elim [] Expr.nodes
  | expression e => e.nodes
  | block body _ => nodesAll body

def nodesAll : List (Stmt ρ τ) → List (Expr ρ)
  | [] => []
  | s :: rest => s.nodes ++ nodesAll rest

end

mutual

theorem map_erase_nodes_resolve (env : Env) : ∀ s : SourceStmt,
    (s.resolve env).nodes.map Expr.erase = s.nodes
  | declaration ⟨_, _, init?, _⟩ => by
      cases init? with
      | none => rfl
      | some e => exact e.map_erase_nodes_resolve env
  | expression e => e.map_erase_nodes_resolve env
  | block body _ => map_erase_nodesAll_resolveAll env.push body

/-- Looking names up keeps every node where it is. -/
theorem map_erase_nodesAll_resolveAll (env : Env) : ∀ ss : List SourceStmt,
    (nodesAll (resolveAll env ss)).map Expr.erase = nodesAll ss
  | [] => rfl
  | s :: rest => by
      rw [resolveAll, nodesAll, nodesAll, List.map_append, map_erase_nodes_resolve env s,
        map_erase_nodesAll_resolveAll _ rest]

end

mutual

/-- The declarations in a statement at any depth, in the order of the walk. -/
def declarations : Stmt ρ τ → List (Declaration ρ τ)
  | declaration d => [d]
  | expression _ => []
  | block body _ => declarationsAll body

def declarationsAll : List (Stmt ρ τ) → List (Declaration ρ τ)
  | [] => []
  | s :: rest => s.declarations ++ declarationsAll rest

end

mutual

/-- The statement as it was before its names were looked up. -/
def erase : Stmt ρ τ → SourceStmt
  | declaration d => declaration d.erase
  | expression e => expression e.erase
  | block body span => block (eraseAll body) span

def eraseAll : List (Stmt ρ τ) → List SourceStmt
  | [] => []
  | s :: rest => s.erase :: eraseAll rest

end

mutual

theorem erase_resolve (env : Env) : ∀ s : SourceStmt, (s.resolve env).erase = s
  | declaration d => by rw [resolve, erase, d.erase_resolve env]
  | expression e => by rw [resolve, erase, e.erase_resolve env]
  | block body span => by rw [resolve, erase, eraseAll_resolveAll env.push body]

/-- Looking names up takes nothing away from a program. -/
theorem eraseAll_resolveAll (env : Env) :
    ∀ ss : List SourceStmt, eraseAll (resolveAll env ss) = ss
  | [] => rfl
  | s :: rest => by rw [resolveAll, eraseAll, erase_resolve env s, eraseAll_resolveAll _ rest]

end

mutual

theorem declarations_erase : ∀ s : Stmt ρ τ,
    s.erase.declarations = s.declarations.map Declaration.erase
  | declaration _ | expression _ => rfl
  | block body _ => declarationsAll_eraseAll body

theorem declarationsAll_eraseAll : ∀ ss : List (Stmt ρ τ),
    declarationsAll (eraseAll ss) = (declarationsAll ss).map Declaration.erase
  | [] => rfl
  | s :: rest => by
      rw [eraseAll, declarationsAll, declarationsAll, List.map_append, declarations_erase s,
        declarationsAll_eraseAll rest]

end

theorem nodesAll_eq_flatMap (ss : List (Stmt ρ τ)) : nodesAll ss = ss.flatMap nodes := by
  induction ss with
  | nil => rfl
  | cons s rest ih => rw [nodesAll, ih, List.flatMap_cons]

mutual

theorem mem_nodes_trans {n m : Expr ρ} (hn : n ∈ m.nodes) : ∀ s : Stmt ρ τ,
    m ∈ s.nodes → n ∈ s.nodes
  | declaration ⟨_, _, none, _⟩, hm => nomatch hm
  | declaration ⟨_, _, some _, _⟩, hm | expression _, hm => Expr.mem_nodes_trans hn hm
  | block body _, hm => mem_nodesAll_trans hn body hm

/-- The nodes of a node in statements are among their nodes. -/
theorem mem_nodesAll_trans {n m : Expr ρ} (hn : n ∈ m.nodes) : ∀ ss : List (Stmt ρ τ),
    m ∈ nodesAll ss → n ∈ nodesAll ss
  | [], hm => nomatch hm
  | s :: rest, hm => by
      rw [nodesAll, List.mem_append] at hm ⊢
      exact hm.imp (mem_nodes_trans hn s) (mem_nodesAll_trans hn rest)

end

theorem declarationsAll_eq_flatMap (ss : List (Stmt ρ τ)) :
    declarationsAll ss = ss.flatMap declarations := by
  induction ss with
  | nil => rfl
  | cons s rest ih => rw [declarationsAll, ih, List.flatMap_cons]

end Stmt

/-! ## What is wrong with a statement -/

namespace Declaration

/-- What is wrong with the type name of a declaration. -/
def blameType (d : ResolvedDeclaration) : List Diagnostic :=
  d.type?.elim [] fun r => complain r.target.isSome (.unknownType r.name) d.span.start

/-- What is wrong with a declaration beyond its parts. -/
def blame (d : ResolvedDeclaration) : List Diagnostic :=
  match d.type?, d.init? with
  | none, none => [⟨.untyped d.name, d.span.start⟩]
  | some r, some e => e.misplaced .initialization r.ty
  | some _, none => []
  | none, some _ => []

/-- What is wrong with a declaration before it is put into force. -/
def violations (options : Options) (d : ResolvedDeclaration) : List Diagnostic :=
  d.blameType ++ (d.init?.elim [] (·.violations options) ++ d.blame)

/-! A declaration is right if it says a type or a value, if what it says is
right, and if the two agree. -/

variable {options : Options} {env : Env} {name : String} {r : TypeRef Unit} {e : SourceExpr}
  {span : Span}

theorem violations_untyped_ne_nil :
    (resolve env ⟨name, none, none, span⟩).violations options ≠ [] := by
  simp [violations, resolve, blame]

theorem violations_written_eq_nil :
    (resolve env ⟨name, some r, none, span⟩).violations options = [] ↔
      (env.type? r.name).isSome = true := by
  simp [violations, resolve, blameType, blame, TypeRef.resolve]

theorem violations_inferred_eq_nil :
    (resolve env ⟨name, none, some e, span⟩).violations options = [] ↔
      (e.resolve env).violations options = [] := by
  simp [violations, resolve, blameType, blame]

theorem violations_both_eq_nil :
    (resolve env ⟨name, some r, some e, span⟩).violations options = [] ↔
      (env.type? r.name).isSome = true ∧ (e.resolve env).violations options = [] ∧
        (e.resolve env).ty.assignable (r.resolve env).ty = true := by
  simp [violations, resolve, blameType, blame, TypeRef.resolve, Expr.misplaced]

theorem violations_init_eq_nil {type? : Option (TypeRef Unit)}
    (h : (resolve env ⟨name, type?, some e, span⟩).violations options = []) :
    (e.resolve env).violations options = [] := by
  cases type? with
  | none => exact violations_inferred_eq_nil.mp h
  | some r => exact (violations_both_eq_nil.mp h).2.1

/-- A declaration that nothing is wrong with has the type that its type name
stands for, or that of its value. -/
theorem ty_mem {K : Ty → Prop} {d : SourceDeclaration}
    (htype : ∀ {text : String} {t : Ty}, env.type? text = some t → K t)
    (hinit : ∀ e, d.init? = some e → (e.resolve env).violations options = [] →
      K (e.resolve env).ty)
    (h : (d.resolve env).violations options = []) : K (d.resolve env).ty := by
  have hwritten : ∀ r : TypeRef Unit, (env.type? r.name).isSome = true → K (r.resolve env).ty := by
    intro r hknown
    obtain ⟨t, ht⟩ := Option.isSome_iff_exists.mp hknown
    rw [TypeRef.ty_resolve ht]
    exact htype ht
  obtain ⟨name, type?, init?, span⟩ := d
  cases type? with
  | some r =>
      cases init? with
      | none => exact hwritten r (violations_written_eq_nil.mp h)
      | some e => exact hwritten r (violations_both_eq_nil.mp h).1
  | none =>
      cases init? with
      | none => exact absurd h violations_untyped_ne_nil
      | some e => exact hinit e rfl (violations_inferred_eq_nil.mp h)

end Declaration

namespace Stmt

mutual

/-- What is wrong with a statement, in the order of the walk. The environment
decides only whether a declared name is new to its scope. -/
def violations (options : Options) (env : Env) : ResolvedStmt → List Diagnostic
  | declaration d =>
      d.violations options ++
        complain (env.inner.binding? d.name).isNone (.redeclared d.name) d.span.start
  | expression e => e.violations options
  | block body _ => violationsAll options env.push body

def violationsAll (options : Options) (env : Env) : List ResolvedStmt → List Diagnostic
  | [] => []
  | s :: rest => violations options env s ++ violationsAll options (s.leave env) rest

end

theorem violations_declaration_eq_nil {options : Options} {env : Env} {d : ResolvedDeclaration} :
    (declaration d).violations options env = [] ↔
      d.violations options = [] ∧ env.inner.binding? d.name = none := by
  simp [violations]

end Stmt

/-! ## The walk -/

/-- Run in `env`, the action gives `a`, leaves `env'`, and puts `ds` at the end
of any log. -/
def ScopeM.Runs {α : Type} (x : ScopeM α) (env : Env) (a : α) (env' : Env)
    (ds : List Diagnostic) : Prop :=
  (x.run env).Writes (a, env') ds

namespace ScopeM

variable {α β : Type} {env env' env'' : Env} {a : α} {ds es : List Diagnostic}

theorem Runs.pure (env : Env) (a : α) : Runs (pure a) env a env [] :=
  Writes.pure (a, env)

theorem Runs.bind {x : ScopeM α} {f : α → ScopeM β} {b : β} (hx : Runs x env a env' ds)
    (hf : Runs (f a) env' b env'' es) : Runs (x >>= f) env b env'' (ds ++ es) := by
  rw [Runs, StateT.run_bind]
  exact Writes.bind hx hf

theorem Runs.map {x : ScopeM α} (hx : Runs x env a env' ds) (f : α → β) :
    Runs (x >>= fun a => Pure.pure (f a)) env (f a) env' ds := by
  have h := hx.bind (f := fun a => Pure.pure (f a)) (Runs.pure env' (f a))
  rwa [List.append_nil] at h

/-- A check that declares nothing. -/
theorem Runs.lift {x : CheckM α} (env : Env) (hx : x.Writes a ds) :
    Runs (liftM x) env a env ds :=
  hx.map fun a => (a, env)

/-- A step that reads the environment first. -/
theorem Runs.read {f : Env → ScopeM α} (h : Runs (f env) env a env' ds) :
    Runs (get >>= f) env a env' ds := by
  have hread : Runs get env env env [] := Writes.pure (env, env)
  exact hread.bind h

theorem Runs.write (env env' : Env) : Runs (set env') env () env' [] :=
  Writes.pure ((), env')

/-- A scope of its own around an action that leaves it as deep as it was. -/
theorem Runs.inScope {x : ScopeM α} (hx : Runs x env.push a env' ds) :
    Runs (inScope x) env a env'.pop ds := by
  have hopen : Runs (modify Env.push) env () env.push [] := Writes.pure ((), env.push)
  have hclose : Runs (modify Env.pop) env' () env'.pop [] := Writes.pure ((), env'.pop)
  have hbody := hx.bind (f := fun a => do modify Env.pop; return a) (hclose.map fun _ => a)
  have h := hopen.bind (f := fun _ => do let a ← x; modify Env.pop; return a) hbody
  rwa [List.append_nil, List.nil_append] at h

end ScopeM

open ScopeM

theorem resolveType_writes (env : Env) (text : String) (position : Position) :
    (env.resolveType text position).Writes (env.type? text)
      (complain (env.type? text).isSome (.unknownType text) position) := by
  unfold Env.resolveType
  cases env.type? text with
  | some t => exact Writes.pure _
  | none => exact (report_writes _ _).then (Writes.pure _)

namespace Declaration

theorem mapM_writes {α β : Type} {f : α → CheckM β} {g : α → β} {ds : α → List Diagnostic}
    (h : ∀ a, (f a).Writes (g a) (ds a)) (o : Option α) :
    (o.mapM f).Writes (o.map g) (o.elim [] ds) := by
  cases o with
  | none => exact Writes.pure none
  | some a => exact (h a).map some

theorem checkAgreement_writes (d : ResolvedDeclaration) :
    d.checkAgreement.Writes () d.blame := by
  unfold checkAgreement blame
  cases d.type? <;> cases d.init?
  · exact report_writes _ _
  · exact Writes.pure ()
  · exact Writes.pure ()
  · exact Expr.expect_writes _ _ _

theorem check_writes (options : Options) (env : Env) (d : SourceDeclaration) :
    (d.check options env).Writes (d.resolve env) ((d.resolve env).violations options) := by
  have htype : ∀ r : TypeRef Unit, (r.check env d.span.start).Writes (r.resolve env)
      (complain (r.resolve env).target.isSome (.unknownType r.name) d.span.start) :=
    fun r => (resolveType_writes env r.name d.span.start).map _
  have hinit := mapM_writes (Expr.check_writes options env) d.init?
  have hparts : (d.resolve env).violations options =
      d.type?.elim [] (fun r => complain (r.resolve env).target.isSome
        (.unknownType r.name) d.span.start) ++
      (d.init?.elim [] (fun e => (e.resolve env).violations options) ++
        (d.resolve env).blame) := by
    unfold violations blameType resolve
    cases d.type? <;> cases d.init? <;> rfl
  rw [hparts]
  refine (mapM_writes htype d.type?).bind (hinit.bind ?_)
  exact (checkAgreement_writes (d.resolve env)).map _

theorem enter_runs (env : Env) (d : ResolvedDeclaration) :
    Runs d.enter env () (env.enter d.binding)
      (complain (env.inner.binding? d.name).isNone (.redeclared d.name) d.span.start) := by
  refine Runs.read ?_
  unfold Env.declare Env.enter
  cases h : env.inner.binding? d.name with
  | none => simpa [h, binding] using Runs.write env { env with inner := env.inner.bind d.binding }
  | some earlier =>
      simpa [h, binding, complain] using Runs.lift env (report_writes (.redeclared d.name) _)

end Declaration

namespace Stmt

mutual

theorem check_runs (options : Options) (env : Env) : ∀ s : SourceStmt,
    Runs (s.check options) env (s.resolve env) ((s.resolve env).leave env)
      ((s.resolve env).violations options env)
  | declaration d => by
      rw [check, resolve, leave, violations]
      refine Runs.read ?_
      refine (Runs.lift env (d.check_writes options env)).bind ?_
      exact ((d.resolve env).enter_runs env).map _
  | expression e => by
      rw [check, resolve, leave, violations]
      refine Runs.read ?_
      exact (Runs.lift env (e.check_writes options env)).map _
  | block body span => by
      rw [check, resolve, leave, violations]
      have h := (checkAll_runs options env.push body).inScope
      rw [pop_leaveAll_push] at h
      exact h.map _

theorem checkAll_runs (options : Options) (env : Env) : ∀ ss : List SourceStmt,
    Runs (checkAll options ss) env (resolveAll env ss) (leaveAll env (resolveAll env ss))
      (violationsAll options env (resolveAll env ss))
  | [] => Runs.pure env []
  | s :: rest => by
      rw [checkAll, resolveAll, leaveAll_cons, violationsAll]
      refine (check_runs options env s).bind ?_
      exact (checkAll_runs options _ rest).map _

end

end Stmt

/-! ## Whole runs -/

theorem Outcome.ofRun_eq {α : Type} {x : ScopeM α} {env env' : Env} {a : α}
    {ds : List Diagnostic} (h : Runs x env a env' ds) (log : Log) :
    Outcome.ofRun x env log = ⟨a, log ++ ds.toArray, env'⟩ := by
  simp [Outcome.ofRun, h log]

theorem checkExpr_eq (options : Options) (env : Env) (e : SourceExpr) :
    checkExpr options env e =
      ⟨e.resolve env, ((e.resolve env).violations options).toArray, env⟩ := by
  simp [checkExpr, e.check_writes options env #[]]

theorem checkProgram_eq (options : Options) (env : Env) (body : List SourceStmt) :
    checkProgram options env body =
      ⟨Stmt.resolveAll env body,
        (Stmt.violationsAll options env (Stmt.resolveAll env body)).toArray,
        Stmt.leaveAll env (Stmt.resolveAll env body)⟩ := by
  rw [checkProgram, Outcome.ofRun_eq (Stmt.checkAll_runs options env body)]
  simp

theorem checkStmt_eq (options : Options) (env : Env) (log : Log) (s : SourceStmt) :
    checkStmt options env log s =
      ⟨s.resolve env, log ++ ((s.resolve env).violations options env).toArray,
        (s.resolve env).leave env⟩ := by
  rw [checkStmt, Outcome.ofRun_eq (Stmt.check_runs options env s)]

theorem checkBlock_eq (options : Options) (env : Env) (log : Log) (body : List SourceStmt) :
    checkBlock options env log body =
      ⟨Stmt.resolveAll env.push body,
        log ++ (Stmt.violationsAll options env.push (Stmt.resolveAll env.push body)).toArray,
        env⟩ := by
  have h := (Stmt.checkAll_runs options env.push body).inScope
  rw [Stmt.pop_leaveAll_push] at h
  rw [checkBlock, Outcome.ofRun_eq h]

/-! A run gives back what it was given: every node, every declaration and every
block, with names looked up. -/

theorem erase_tree_checkExpr (options : Options) (env : Env) (e : SourceExpr) :
    (checkExpr options env e).tree.erase = e := by
  rw [checkExpr_eq]
  exact e.erase_resolve env

theorem eraseAll_tree_checkProgram (options : Options) (env : Env) (body : List SourceStmt) :
    Stmt.eraseAll (checkProgram options env body).tree = body := by
  rw [checkProgram_eq]
  exact Stmt.eraseAll_resolveAll env body

theorem erase_tree_checkStmt (options : Options) (env : Env) (log : Log) (s : SourceStmt) :
    (checkStmt options env log s).tree.erase = s := by
  rw [checkStmt_eq]
  exact s.erase_resolve env

theorem eraseAll_tree_checkBlock (options : Options) (env : Env) (log : Log)
    (body : List SourceStmt) : Stmt.eraseAll (checkBlock options env log body).tree = body := by
  rw [checkBlock_eq]
  exact Stmt.eraseAll_resolveAll env.push body

end Gradual
