import Gradual.Proofs.Stmt.Points

/-!
# The walk over a program

The walk of the checker, as a list. At every point it takes some steps: it
looks at the type name of a declaration, at the nodes of an expression behind
their parts, at how the parts of a declaration agree, and last at whether the
declared name is free.

`Stmt.walk` lists the steps of a resolved program and the points at which they
are taken, and `Step.faults` is what is wrong with one step. The diagnostics of
a run are the faults of its steps one after the other
(`log_checkProgram`, `log_checkBlock`).
-/

namespace Gradual

variable {ρ τ : Type}

/-- One thing that the checker looks at. -/
inductive Step (ρ τ : Type) where
  /-- The type name of a declaration. -/
  | typeName (d : Declaration ρ τ)
  /-- An expression whose parts were looked at before. -/
  | node (e : Expr ρ)
  /-- A declaration whose parts were looked at before. -/
  | agreement (d : Declaration ρ τ)
  /-- The name of a declaration that is about to be in force. -/
  | entry (d : Declaration ρ τ)

namespace Stmt

/-- The steps at a statement. A block has none of its own. -/
def steps : Stmt ρ τ → List (Step ρ τ)
  | declaration d =>
      .typeName d :: (d.init?.elim [] (fun e => e.nodes.map .node) ++ [.agreement d, .entry d])
  | expression e => e.nodes.map .node
  | block _ _ => []

/-- All steps in a block, each with the point at which it is taken. -/
def walk (body : List (Stmt ρ τ)) : List (Point ρ τ × Step ρ τ) :=
  (points body).flatMap fun p => p.stmt.steps.map (p, ·)

theorem flatMap_walk {α : Type} (body : List (Stmt ρ τ)) (f : Point ρ τ × Step ρ τ → List α) :
    (walk body).flatMap f =
      (points body).flatMap fun p => p.stmt.steps.flatMap fun s => f (p, s) := by
  unfold walk
  rw [List.flatMap_assoc]
  simp only [List.flatMap_map]

end Stmt

namespace Step

/-- The expression that the step looks at. -/
def node? : Step ρ τ → Option (Expr ρ)
  | node e => some e
  | typeName _ | agreement _ | entry _ => none

/-- The step with its names looked up. -/
def resolve (env : Env) : Step Unit Unit → Step (Option Binding) (Option Ty)
  | typeName d => typeName (d.resolve env)
  | node e => node (e.resolve env)
  | agreement d => agreement (d.resolve env)
  | entry d => entry (d.resolve env)

/-- What is wrong with a step, if the names for which `taken` holds are bound
in the scope of its point. -/
def faults (options : Options) (taken : String → Bool) :
    Step (Option Binding) (Option Ty) → List Diagnostic
  | typeName d => d.blameType
  | node e => e.blame options
  | agreement d => d.blame
  | entry d => complain (!taken d.name) (.redeclared d.name) d.span.start

end Step

namespace Stmt

/-! ## Nodes on the walk -/

mutual

theorem nodes_pointsIn (around : List (List (Stmt ρ τ))) (before : List (Stmt ρ τ)) :
    ∀ s : Stmt ρ τ,
      (pointsIn around before s).flatMap (fun p => p.stmt.steps.filterMap Step.node?) = s.nodes
  | declaration ⟨_, _, none, _⟩ => rfl
  | declaration ⟨_, _, some e, _⟩ => by
      simp [pointsIn, steps, nodes, List.filterMap_cons, Step.node?, Function.comp_def]
  | expression e => by
      simp [pointsIn, steps, nodes, Step.node?, Function.comp_def]
  | block body _ => nodes_pointsInAll (before :: around) [] body

theorem nodes_pointsInAll (around : List (List (Stmt ρ τ))) (before : List (Stmt ρ τ)) :
    ∀ ss : List (Stmt ρ τ),
      (pointsInAll around before ss).flatMap (fun p => p.stmt.steps.filterMap Step.node?) =
        nodesAll ss
  | [] => rfl
  | s :: rest => by
      rw [pointsInAll, nodesAll, List.flatMap_append, nodes_pointsIn around before s,
        nodes_pointsInAll around (before ++ [s]) rest]

end

/-- The walk comes to every node of a block once, in their order. -/
theorem nodes_walk (body : List (Stmt ρ τ)) :
    (walk body).filterMap (fun q => q.2.node?) = nodesAll body := by
  unfold walk
  rw [List.filterMap_flatMap, ← nodes_pointsInAll [] [] body]
  refine List.flatMap_congr fun p _ => ?_
  rw [List.filterMap_map]
  rfl

theorem exists_mem_walk {body : List (Stmt ρ τ)} {n : Expr ρ} (h : n ∈ nodesAll body) :
    ∃ p, (p, Step.node n) ∈ walk body := by
  rw [← nodes_walk, List.mem_filterMap] at h
  obtain ⟨⟨p, s⟩, hmem, hn⟩ := h
  cases s with
  | typeName | agreement | entry => cases hn
  | node m =>
      obtain rfl := Option.some.inj hn
      exact ⟨p, hmem⟩

/-! ## Names on the walk -/

/-- Looking names up takes no step away and adds none. -/
theorem steps_resolve (env : Env) (s : SourceStmt) :
    (s.resolve env).steps = s.steps.map (Step.resolve env) := by
  have hnodes : ∀ e : SourceExpr, ((e.resolve env).nodes.map Step.node :
      List (Step (Option Binding) (Option Ty))) =
        (e.nodes.map Step.node).map (Step.resolve env) := by
    intro e
    rw [Expr.nodes_resolve, List.map_map, List.map_map]
    rfl
  cases s with
  | block => rfl
  | expression e => exact hnodes e
  | declaration d =>
      obtain ⟨name, type?, init?, span⟩ := d
      cases init? with
      | none => rfl
      | some e =>
          simp [resolve, Declaration.resolve, steps, hnodes e, Step.resolve]

/-- The walk over a resolved block is the walk over the block, with the names of
every step looked up at its point. -/
theorem walk_resolveAll (env : Env) (body : List SourceStmt) :
    walk (resolveAll env body) = (walk body).map fun q =>
      (q.1.resolve env, q.2.resolve ((q.1.resolve env).env env)) := by
  unfold walk
  rw [points_resolveAll, List.flatMap_map, List.map_flatMap]
  refine List.flatMap_congr fun p _ => ?_
  have hsteps : (p.resolve env).stmt.steps =
      p.stmt.steps.map (Step.resolve ((p.resolve env).env env)) := steps_resolve _ p.stmt
  rw [hsteps, List.map_map, List.map_map]
  rfl

section

variable {env : Env} {body : List SourceStmt} {p : Point (Option Binding) (Option Ty)}

/-- A step on the walk has its names looked up at its point. -/
theorem exists_of_mem_walk {s : Step (Option Binding) (Option Ty)}
    (h : (p, s) ∈ walk (resolveAll env body)) :
    ∃ t : Step Unit Unit, s = t.resolve (p.env env) := by
  rw [walk_resolveAll] at h
  obtain ⟨⟨q, t⟩, -, hq⟩ := List.mem_map.mp h
  obtain ⟨rfl, rfl⟩ := Prod.mk.inj hq
  exact ⟨t, rfl⟩

/-- A reference is bound to what its name means at the point where it stands. -/
theorem target_of_mem_walk {name : String} {target : Option Binding} {span : Span}
    (h : (p, Step.node (.ref name target span)) ∈ walk (resolveAll env body)) :
    target = (p.env env).binding? name := by
  obtain ⟨t, ht⟩ := exists_of_mem_walk h
  cases t with
  | typeName | agreement | entry => cases ht
  | node m => exact Expr.target_eq_of_resolve (Step.node.inj ht)

/-- A type name is bound to what it means in front of the program, since no
statement names a type. -/
theorem type?_of_mem_walk {d : ResolvedDeclaration} {r : TypeRef (Option Ty)}
    (h : (p, Step.typeName d) ∈ walk (resolveAll env body)) (hr : d.type? = some r) :
    r.target = env.type? r.name := by
  obtain ⟨t, ht⟩ := exists_of_mem_walk h
  cases t with
  | node | agreement | entry => cases ht
  | typeName c =>
      obtain rfl := Step.typeName.inj ht
      obtain ⟨s, -, rfl⟩ := Option.map_eq_some_iff.mp hr
      exact Point.type?_env env p s.name

end

/-! ## Faults on the walk -/

theorem violations_declaration_eq_steps (options : Options) (env : Env) :
    ∀ d : ResolvedDeclaration, (declaration d).violations options env =
      (declaration d).steps.flatMap
        (Step.faults options fun name => (env.inner.binding? name).isSome)
  | ⟨_, _, none, _⟩ => by
      simp [violations, Declaration.violations, steps, Step.faults]
  | ⟨_, _, some e, _⟩ => by
      simp [violations, Declaration.violations, steps, Step.faults, Expr.violations,
        List.flatMap_map]

theorem violations_expression_eq_steps (options : Options) (env : Env) (taken : String → Bool)
    (e : ResolvedExpr) : (expression e).violations options env =
      (expression e).steps.flatMap (Step.faults options taken) := by
  simp [violations, steps, Step.faults, Expr.violations, List.flatMap_map]

mutual

theorem violations_pointsIn (options : Options) (env : Env) (around : List (List ResolvedStmt))
    (before : List ResolvedStmt) : ∀ s : ResolvedStmt,
    s.violations options (leaveAll (opened env around) before) =
      (pointsIn around before s).flatMap fun p =>
        p.stmt.steps.flatMap (Step.faults options (p.isTaken env))
  | declaration d => by
      have htaken : (⟨before, around, declaration d⟩ : Point _ _).isTaken env =
          fun name => ((leaveAll (opened env around) before).inner.binding? name).isSome :=
        funext fun name => (Point.isSome_inner_env env ⟨before, around, declaration d⟩ name).symm
      rw [violations_declaration_eq_steps, pointsIn, List.flatMap_singleton, htaken]
  | expression e => by
      rw [pointsIn, List.flatMap_singleton]
      exact violations_expression_eq_steps options _ _ e
  | block body _ => violations_pointsInAll options env (before :: around) [] body

theorem violations_pointsInAll (options : Options) (env : Env)
    (around : List (List ResolvedStmt)) (before : List ResolvedStmt) : ∀ ss : List ResolvedStmt,
    violationsAll options (leaveAll (opened env around) before) ss =
      (pointsInAll around before ss).flatMap fun p =>
        p.stmt.steps.flatMap (Step.faults options (p.isTaken env))
  | [] => rfl
  | s :: rest => by
      have hrest := violations_pointsInAll options env around (before ++ [s]) rest
      rw [leaveAll_append] at hrest
      rw [violationsAll, pointsInAll, List.flatMap_append, ← hrest,
        violations_pointsIn options env around before s]
      rfl

end

/-- What is wrong with the statements of a block is what is wrong with the steps
of the walk over it. -/
theorem violationsAll_eq_walk (options : Options) (env : Env) (ss : List ResolvedStmt) :
    violationsAll options env ss =
      (walk ss).flatMap fun q => q.2.faults options (q.1.isTaken env) := by
  rw [flatMap_walk]
  exact violations_pointsInAll options env [] [] ss

/-- The faults that pass a filter, step by step. -/
theorem filter_violationsAll {keep : Diagnostic → Bool}
    {kept : (String → Bool) → Step (Option Binding) (Option Ty) → List Diagnostic}
    (options : Options)
    (h : ∀ taken s, (Step.faults options taken s).filter keep = kept taken s)
    (env : Env) (ss : List ResolvedStmt) :
    (violationsAll options env ss).filter keep =
      (walk ss).flatMap fun q => kept (q.1.isTaken env) q.2 := by
  rw [violationsAll_eq_walk, List.filter_flatMap]
  exact List.flatMap_congr fun q _ => h (q.1.isTaken env) q.2

end Stmt

/-! ## Whole runs -/

theorem log_checkProgram (options : Options) (env : Env) (body : List SourceStmt) :
    (checkProgram options env body).log.toList =
      (Stmt.walk (checkProgram options env body).tree).flatMap fun q =>
        q.2.faults options (q.1.isTaken env) := by
  rw [checkProgram_eq, ← Stmt.violationsAll_eq_walk]

theorem log_checkBlock (options : Options) (env : Env) (log : Log) (body : List SourceStmt) :
    (checkBlock options env log body).log.toList =
      log.toList ++ (Stmt.walk (checkBlock options env log body).tree).flatMap fun q =>
        q.2.faults options (q.1.isTaken env.push) := by
  rw [checkBlock_eq, ← Stmt.violationsAll_eq_walk, Array.toList_append]

end Gradual
