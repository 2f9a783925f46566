import Gradual.Proofs.Stmt.Resolution

/-!
# Sites

Blocks only arrange statements. What is left of a program without them is a
list of sites: each declaration and each expression statement, with the
environment that is in force in front of it.

`Stmt.sitesAll_accepted` is how an invariant of environments is used. If it
holds in front of a program that nothing is wrong with, and if accepted
declarations keep it, then it holds at every site.
-/

namespace Gradual

namespace Stmt

/-! ## Sites and what stands at them -/

mutual

/-- The statements in a statement that are no blocks, in the order of the walk,
each with the environment in front of it. -/
def sites (env : Env) : ResolvedStmt → List (Env × ResolvedStmt)
  | declaration d => [(env, declaration d)]
  | expression e => [(env, expression e)]
  | block body _ => sitesAll env.push body

def sitesAll (env : Env) : List ResolvedStmt → List (Env × ResolvedStmt)
  | [] => []
  | s :: rest => sites env s ++ sitesAll (s.leave env) rest

end

/-- The nodes in statements, each with the environment in force at it. -/
def scopedNodes (env : Env) (ss : List ResolvedStmt) : List (Env × ResolvedExpr) :=
  (sitesAll env ss).flatMap fun p => p.2.nodes.map (p.1, ·)

/-- The declarations in statements, each with the environment in front of it. -/
def scopedDeclarations (env : Env) (ss : List ResolvedStmt) : List (Env × ResolvedDeclaration) :=
  (sitesAll env ss).flatMap fun p => p.2.declarations.map (p.1, ·)

mutual

theorem nodes_sites (env : Env) : ∀ s : ResolvedStmt,
    (s.sites env).flatMap (fun p => p.2.nodes) = s.nodes
  | declaration _ | expression _ => by simp [sites]
  | block body _ => nodes_sitesAll env.push body

/-- Every node stands at a site. -/
theorem nodes_sitesAll (env : Env) : ∀ ss : List ResolvedStmt,
    (sitesAll env ss).flatMap (fun p => p.2.nodes) = nodesAll ss
  | [] => rfl
  | s :: rest => by
      rw [sitesAll, nodesAll, List.flatMap_append, nodes_sites env s,
        nodes_sitesAll (s.leave env) rest]

end

mutual

theorem declarations_sites (env : Env) : ∀ s : ResolvedStmt,
    (s.sites env).flatMap (fun p => p.2.declarations) = s.declarations
  | declaration _ | expression _ => by simp [sites]
  | block body _ => declarations_sitesAll env.push body

/-- Every declaration stands at a site. -/
theorem declarations_sitesAll (env : Env) : ∀ ss : List ResolvedStmt,
    (sitesAll env ss).flatMap (fun p => p.2.declarations) = declarationsAll ss
  | [] => rfl
  | s :: rest => by
      rw [sitesAll, declarationsAll, List.flatMap_append, declarations_sites env s,
        declarations_sitesAll (s.leave env) rest]

end

/-! ## Invariants along the walk -/

/-- What is known of a site when nothing is wrong with the program: a property
of its environment and one of its nodes. -/
inductive AcceptedSite (options : Options) (Good : Env → Prop) (Q : ResolvedExpr → Prop) :
    Env × ResolvedStmt → Prop where
  | expression {env : Env} {e : SourceExpr} :
      Good env → (∀ n ∈ (e.resolve env).nodes, Q n) →
        (e.resolve env).violations options = [] →
        AcceptedSite options Good Q (env, .expression (e.resolve env))
  | declaration {env : Env} {d : SourceDeclaration} :
      Good env → (∀ n ∈ (Stmt.declaration (d.resolve env)).nodes, Q n) →
        (d.resolve env).violations options = [] → env.inner.binding? d.name = none →
        AcceptedSite options Good Q (env, .declaration (d.resolve env))

section

variable {options : Options} {Good : Env → Prop} {Q : ResolvedExpr → Prop}

theorem AcceptedSite.node {p : Env × ResolvedStmt} (h : AcceptedSite options Good Q p)
    {n : ResolvedExpr} (hn : n ∈ p.2.nodes) :
    Good p.1 ∧ ∃ e : SourceExpr, n = e.resolve p.1 ∧ n.Passes options Q := by
  have hpart : ∀ {env : Env} {e : SourceExpr}, (e.resolve env).Passes options Q →
      n ∈ (e.resolve env).nodes → ∃ m : SourceExpr, n = m.resolve env ∧ n.Passes options Q := by
    intro env e he hn
    have hpasses := he.of_mem hn
    rw [Expr.nodes_resolve, List.mem_map] at hn
    obtain ⟨m, -, hm⟩ := hn
    exact ⟨m, hm.symm, hpasses⟩
  cases h with
  | expression henv hq he => exact ⟨henv, hpart ⟨hq, he⟩ hn⟩
  | @declaration env d henv hq hd =>
      obtain ⟨name, type?, init?, span⟩ := d
      cases init? with
      | none => cases hn
      | some e => exact ⟨henv, hpart ⟨hq, Declaration.violations_init_eq_nil hd⟩ hn⟩

theorem AcceptedSite.declared {p : Env × ResolvedStmt} (h : AcceptedSite options Good Q p)
    {d : ResolvedDeclaration} (hd : d ∈ p.2.declarations) :
    Good p.1 ∧ ∃ source : SourceDeclaration, d = source.resolve p.1 ∧
      (∀ n ∈ (Stmt.declaration d).nodes, Q n) ∧ d.violations options = [] := by
  cases h with
  | expression => cases hd
  | @declaration env source henv hq hviolations =>
      obtain rfl := List.mem_singleton.mp hd
      exact ⟨henv, source, rfl, hq, hviolations⟩

mutual

theorem sites_accepted (hpush : ∀ env, Good env → Good env.push)
    (hleave : ∀ p, AcceptedSite options Good Q p → Good (p.2.leave p.1))
    {env : Env} (henv : Good env) : ∀ s : SourceStmt,
    (∀ n ∈ (s.resolve env).nodes, Q n) → (s.resolve env).violations options env = [] →
    ∀ p ∈ (s.resolve env).sites env, AcceptedSite options Good Q p
  | .declaration d, hq, h => by
      obtain ⟨hd, hnew⟩ := violations_declaration_eq_nil.mp h
      intro p hp
      obtain rfl := List.mem_singleton.mp hp
      exact .declaration henv hq hd hnew
  | .expression e, hq, h => by
      intro p hp
      obtain rfl := List.mem_singleton.mp hp
      exact .expression henv hq h
  | .block body _, hq, h => sitesAll_accepted hpush hleave (hpush _ henv) body hq h

/-- An invariant that accepted statements keep holds at every site of a program
that nothing is wrong with. -/
theorem sitesAll_accepted (hpush : ∀ env, Good env → Good env.push)
    (hleave : ∀ p, AcceptedSite options Good Q p → Good (p.2.leave p.1))
    {env : Env} (henv : Good env) : ∀ ss : List SourceStmt,
    (∀ n ∈ nodesAll (resolveAll env ss), Q n) →
    violationsAll options env (resolveAll env ss) = [] →
    ∀ p ∈ sitesAll env (resolveAll env ss), AcceptedSite options Good Q p
  | [], _, _ => by
      intro p hp
      cases hp
  | s :: rest, hq, h => by
      obtain ⟨hqs, hqrest⟩ := List.forall_mem_append.mp hq
      obtain ⟨hs, hrest⟩ := List.append_eq_nil_iff.mp h
      have hsites := sites_accepted hpush hleave henv s hqs hs
      -- A block gives its scope back, so only a site can change the environment.
      have hnext : Good ((s.resolve env).leave env) := by
        cases s with
        | block => exact henv
        | declaration d => exact hleave _ (hsites _ (List.mem_singleton_self _))
        | expression e => exact hleave _ (hsites _ (List.mem_singleton_self _))
      intro p hp
      rcases List.mem_append.mp hp with hp | hp
      · exact hsites p hp
      · exact sitesAll_accepted hpush hleave hnext rest hqrest hrest p hp

end

end

end Stmt

end Gradual
