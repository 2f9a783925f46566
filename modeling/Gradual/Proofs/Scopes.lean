import Gradual.Proofs.Faults

/-!
# Scopes

What a reference means can be told from where it stands, and what a run leaves
behind from the declarations that stand directly in the program. The walk of the
checker keeps a stack of scopes; a `Point` knows only the statements in front of
it, block by block, and so neither a declaration with the point in its initial
value nor one in a block that is closed.
-/

namespace Gradual

/-! ## What references mean -/

/-- **Variables are lexically scoped, and declared before they are used.** The
tree of a block is the block with names looked up: a reference is bound to the
first declaration of its name in front of it, in the innermost block that has
one, and without such a declaration to what `env` says, as every type name is.
The references for which this is nothing are reported as undeclared, each of
them once, and the declarations behind another one of the same name in the same
block are reported as well. -/
theorem lexically_scoped (options : Options) (env : Env) (log : Log) (body : List SourceStmt) :
    Stmt.eraseAll (checkBlock options env log body).tree = body ∧
    (((Stmt.walk (checkBlock options env log body).tree).filterMap fun q => q.2.node?).map
        Expr.erase = Stmt.nodesAll body) ∧
    (∀ p name target span, (p, Step.node (.ref name target span)) ∈
        Stmt.walk (checkBlock options env log body).tree →
      target = ((p.inForce? name).map fun d =>
        (⟨name, d.ty, name.toList.head? == some '_'⟩ : Binding)).or (env.binding? name)) ∧
    (∀ p d r, (p, Step.typeName d) ∈ Stmt.walk (checkBlock options env log body).tree →
      d.type? = some r → r.target = env.type? r.name) ∧
    ∃ new, (checkBlock options env log body).log.toList = log.toList ++ new ∧
      new.filter Diagnostic.isUndeclared =
        (Stmt.walk (checkBlock options env log body).tree).flatMap (fun q => q.2.undeclared) ∧
      new.filter Diagnostic.isRedeclared =
        (Stmt.walk (checkBlock options env log body).tree).flatMap (fun q =>
          q.2.redeclared fun name => (Stmt.firstDeclaration? name q.1.before).isSome) := by
  refine ⟨eraseAll_tree_checkBlock options env log body, ?_⟩
  rw [checkBlock_eq]
  refine ⟨?_, ?_, ?_, _, Array.toList_append, ?_, ?_⟩
  · rw [Stmt.nodes_walk, Stmt.map_erase_nodesAll_resolveAll]
  · intro p name target span h
    have hbinding : (p.inForce? name).map Declaration.binding =
        (p.inForce? name).map fun d => ⟨name, d.ty, name.toList.head? == some '_'⟩ := by
      cases hd : p.inForce? name with
      | none => rfl
      | some d =>
          obtain rfl := Point.name_of_inForce? hd
          rfl
    rw [Stmt.target_of_mem_walk h, Point.binding?_env rfl, Env.binding?_push, hbinding]
  · intro p d r h hr
    rw [Stmt.type?_of_mem_walk h hr, Env.type?_push]
  · exact Stmt.filter_violationsAll options (fun _ => Step.filter_isUndeclared_faults) env.push _
  · have h := Stmt.filter_violationsAll options
      (fun _ => Step.filter_isRedeclared_faults) env.push (Stmt.resolveAll env.push body)
    simpa only [Point.isTaken_push] using h

def outerX : Env :=
  { inner := ({} : Scope).bind ⟨"x", .boolean, false⟩ }

def shadowingBlock : List SourceStmt :=
  let x : Option SourceExpr := some (.ref "x" () .nowhere)
  [.declaration ⟨"x", some ⟨"string", ()⟩, x, .nowhere⟩,
    .block [.declaration ⟨"y", some ⟨"number", ()⟩, none, .nowhere⟩] .nowhere,
    .declaration ⟨"x", some ⟨"boolean", ()⟩, none, .nowhere⟩,
    .block [.declaration ⟨"x", some ⟨"number", ()⟩, x, .nowhere⟩] .nowhere,
    .expression (.array [.ref "x" () .nowhere, .ref "y" () .nowhere] .nowhere)]

/-- The first reference means the variable outside, the next two mean the first
declaration in the block, and `y` means nothing where it stands. -/
example : (Stmt.nodesAll (checkBlock {} outerX #[] shadowingBlock).tree).map Expr.ty =
    [.boolean, .string, .string, .any, .array .string] := by
  decide +kernel

/-! ## What a run leaves behind -/

/-- Each body is checked in the environment that the one before has left. -/
def Subroutine.checkEach (options : Options) :
    Env → List Subroutine → List (Outcome (List ResolvedStmt)) × Env
  | env, [] => ([], env)
  | env, s :: rest =>
      let outcome := s.check options env
      let others := checkEach options outcome.env rest
      (outcome :: others.1, others.2)

theorem Subroutine.checkEach_eq (options : Options) (env : Env) (ss : List Subroutine) :
    checkEach options env ss = (ss.map (·.check options env), env) := by
  induction ss with
  | nil => rfl
  | cons s rest ih =>
      have henv : (s.check options env).env = env := by rw [check, checkBlock_eq]
      rw [checkEach, henv, ih]
      rfl

/-- **A run changes the scopes as far as it says, whatever it reports.** It gives
the statements back with names looked up. Behind a block and behind the body of a
subroutine the environment is what it was, so bodies are checked with the same
result in any order. Behind a program all but the variables of the innermost
scope is what it was: each free name that the program declares has its first
direct declaration, and the declarations of names that are taken already are
reported once each. -/
theorem scope_effects (options : Options) (env : Env) :
    (∀ log body, Stmt.eraseAll (checkBlock options env log body).tree = body ∧
      (checkBlock options env log body).env = env) ∧
    (∀ s : Subroutine, Stmt.eraseAll (s.check options env).tree = s.body ∧
      (s.check options env).env = env) ∧
    (∀ ss : List Subroutine, Subroutine.checkEach options env ss =
      (ss.map (·.check options env), env)) ∧
    ∀ body,
      Stmt.eraseAll (checkProgram options env body).tree = body ∧
      (checkProgram options env body).env.depth = env.depth ∧
      (checkProgram options env body).env.outer = env.outer ∧
      (checkProgram options env body).env.inner.aliases = env.inner.aliases ∧
      (∀ name, (checkProgram options env body).env.inner.binding? name =
        (env.inner.binding? name).or
          ((Stmt.firstDeclaration? name (checkProgram options env body).tree).map
            Declaration.binding)) ∧
      (checkProgram options env body).log.toList.filter Diagnostic.isRedeclared =
        (Stmt.walk (checkProgram options env body).tree).flatMap fun q =>
          q.2.redeclared (q.1.isTaken env) := by
  refine ⟨?_, ?_, Subroutine.checkEach_eq options env, ?_⟩
  · intro log body
    refine ⟨eraseAll_tree_checkBlock options env log body, ?_⟩
    rw [checkBlock_eq]
  · intro s
    refine ⟨eraseAll_tree_checkBlock options env #[] s.body, ?_⟩
    rw [Subroutine.check, checkBlock_eq]
  · intro body
    refine ⟨eraseAll_tree_checkProgram options env body, ?_⟩
    rw [checkProgram_eq]
    have houter := Stmt.outer_leaveAll env (Stmt.resolveAll env body)
    refine ⟨?_, houter, Stmt.aliases_leaveAll env _, Stmt.inner_leaveAll_binding? env _, ?_⟩
    · unfold Env.depth Env.scopes
      rw [List.length_cons, List.length_cons, houter]
    · exact Stmt.filter_violationsAll options (fun _ => Step.filter_isRedeclared_faults) env _

end Gradual
