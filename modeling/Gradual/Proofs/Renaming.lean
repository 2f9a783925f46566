import Gradual.Proofs.Expr.Renaming
import Gradual.Proofs.Stmt.Resolution

/-!
# Renaming

A program with new names for its variables is checked as it was, if the variables
around it get the new names as well. Two things are asked of the new names:
different ones stay different, since names are compared when they are looked up
and when they are declared, and a name begins with an underscore as before, since
this is how a declaration says that its variable is a constant
(`Declaration.isConstant_rename`).

What stands in for a variable that was not declared has a name, but is not found
under it. So it is left alone, and a variable that happens to have this name is
renamed like any other.
-/

namespace Gradual

variable {ρ τ : Type} [Renamable ρ] (r : Renaming)

/-! ## Declarations -/

namespace Declaration

/-- The declaration with all variables under their new names, its own included. -/
def rename (d : Declaration ρ τ) : Declaration ρ τ :=
  { d with name := r d.name, init? := d.init?.map (·.rename r) }

theorem resolve_rename (env : Env) (d : SourceDeclaration) :
    (d.rename r).resolve (env.rename r) = (d.resolve env).rename r := by
  obtain ⟨name, type?, init?, span⟩ := d
  have htype : type?.map (TypeRef.resolve (env.rename r)) = type?.map (TypeRef.resolve env) := by
    refine congrArg (type?.map ·) (funext fun t => ?_)
    rw [TypeRef.resolve, TypeRef.resolve, env.type?_rename]
  cases init? with
  | none => simp only [rename, resolve, htype, Option.map_none]
  | some e => simp only [rename, resolve, htype, Option.map_some, e.resolve_rename r env]

/-- The new name is that of a constant exactly if the old one was. -/
theorem isConstant_rename (d : Declaration ρ τ) :
    (d.rename r).isConstant = d.isConstant := by
  rw [Bool.eq_iff_iff, isConstant, isConstant, beq_iff_eq, beq_iff_eq]
  exact r.underscore d.name

theorem ty_rename (d : ResolvedDeclaration) : (d.rename r).ty = d.ty := by
  obtain ⟨name, type?, init?, span⟩ := d
  cases type? with
  | some => rfl
  | none =>
      cases init? with
      | none => rfl
      | some e => exact (e.interchangeable_rename r).ty

theorem binding_rename (d : ResolvedDeclaration) :
    (d.rename r).binding = d.binding.rename r := by
  rw [binding, ty_rename, isConstant_rename]
  rfl

theorem blameType_rename (d : ResolvedDeclaration) :
    (d.rename r).blameType = d.blameType.map (Diagnostic.rename r) := by
  obtain ⟨name, type?, init?, span⟩ := d
  cases type? with
  | none => rfl
  | some t => exact Expr.complain_rename r _ (.unknownType t.name) span.start

theorem blame_rename (d : ResolvedDeclaration) :
    (d.rename r).blame = d.blame.map (Diagnostic.rename r) := by
  obtain ⟨name, type?, init?, span⟩ := d
  cases type? with
  | none => cases init? <;> rfl
  | some t =>
      cases init? with
      | none => rfl
      | some e =>
          have hvalue := (e.interchangeable_rename r).misplaced .initialization t.ty
          have hcause := Expr.complain_rename r (e.ty.assignable t.ty)
            (.mismatch .initialization t.ty e.ty) e.start
          exact hvalue.trans hcause

theorem violations_rename (options : Options) (d : ResolvedDeclaration) :
    (d.rename r).violations options =
      (d.violations options).map (Diagnostic.rename r) := by
  have hinit : (d.rename r).init?.elim [] (·.violations options) =
      (d.init?.elim [] (·.violations options)).map (Diagnostic.rename r) := by
    obtain ⟨name, type?, init?, span⟩ := d
    cases init? with
    | none => rfl
    | some e => exact e.violations_rename r options
  rw [violations, violations, blameType_rename, hinit, blame_rename, List.map_append,
    List.map_append]

end Declaration

/-! ## Statements -/

namespace Stmt

mutual

/-- The statement with all variables under their new names. -/
def rename : Stmt ρ τ → Stmt ρ τ
  | declaration d => declaration (d.rename r)
  | expression e => expression (e.rename r)
  | block body span => block (renameAll body) span

def renameAll : List (Stmt ρ τ) → List (Stmt ρ τ)
  | [] => []
  | s :: rest => rename s :: renameAll rest

end

theorem leave_rename (env : Env) (s : ResolvedStmt) :
    (s.rename r).leave (env.rename r) = (s.leave env).rename r := by
  cases s with
  | expression | block => rfl
  | declaration d => rw [rename, leave, leave, d.binding_rename, Env.enter_rename]

theorem leaveAll_renameAll (env : Env) (ss : List ResolvedStmt) :
    leaveAll (env.rename r) (renameAll r ss) = (leaveAll env ss).rename r := by
  induction ss generalizing env with
  | nil => rfl
  | cons s rest ih => rw [renameAll, leaveAll_cons, leaveAll_cons, leave_rename, ih]

mutual

theorem resolve_rename (env : Env) : ∀ s : SourceStmt,
    (s.rename r).resolve (env.rename r) = (s.resolve env).rename r
  | declaration d => by rw [rename, resolve, resolve, rename, d.resolve_rename]
  | expression e => by rw [rename, resolve, resolve, rename, e.resolve_rename]
  | block body span => by
      rw [rename, resolve, resolve, rename, Env.push_rename, resolveAll_renameAll env.push body]

/-- Every name finds what it found, through all scopes that are opened on the way. -/
theorem resolveAll_renameAll (env : Env) : ∀ ss : List SourceStmt,
    resolveAll (env.rename r) (renameAll r ss) = renameAll r (resolveAll env ss)
  | [] => rfl
  | s :: rest => by
      rw [renameAll, resolveAll, resolve_rename env s, leave_rename,
        resolveAll_renameAll _ rest, resolveAll, renameAll]

end

/-- The new name is taken exactly if the old one was. -/
theorem redeclared_rename (env : Env) (d : ResolvedDeclaration) :
    complain ((env.rename r).inner.binding? (r d.name)).isNone (.redeclared (r d.name))
        d.span.start =
      (complain (env.inner.binding? d.name).isNone (.redeclared d.name) d.span.start).map
        (Diagnostic.rename r) := by
  have hfound : (env.rename r).inner.binding? (r d.name) =
      (env.inner.binding? d.name).map (Binding.rename r) := env.inner.binding?_rename r d.name
  rw [hfound, Option.isNone_map]
  exact Expr.complain_rename r _ (.redeclared d.name) d.span.start

mutual

theorem violations_rename (options : Options) (env : Env) : ∀ s : ResolvedStmt,
    (s.rename r).violations options (env.rename r) =
      (s.violations options env).map (Diagnostic.rename r)
  | declaration d => by
      rw [rename, violations, violations, d.violations_rename, List.map_append,
        ← redeclared_rename]
      rfl
  | expression e => e.violations_rename r options
  | block body _ => violationsAll_renameAll options env.push body

/-- What is wrong with a program stays wrong with it, under the new names. -/
theorem violationsAll_renameAll (options : Options) (env : Env) : ∀ ss : List ResolvedStmt,
    violationsAll options (env.rename r) (renameAll r ss) =
      (violationsAll options env ss).map (Diagnostic.rename r)
  | [] => rfl
  | s :: rest => by
      rw [renameAll, violationsAll, violationsAll, leave_rename, List.map_append,
        violations_rename options env s, violationsAll_renameAll options _ rest]

end

mutual

theorem nodes_rename : ∀ s : Stmt ρ τ, (s.rename r).nodes = s.nodes.map (Expr.rename r)
  | declaration ⟨_, _, none, _⟩ => rfl
  | declaration ⟨_, _, some e, _⟩ | expression e => e.nodes_rename r
  | block body _ => nodesAll_renameAll body

theorem nodesAll_renameAll : ∀ ss : List (Stmt ρ τ),
    nodesAll (renameAll r ss) = (nodesAll ss).map (Expr.rename r)
  | [] => rfl
  | s :: rest => by
      rw [renameAll, nodesAll, nodesAll, List.map_append, nodes_rename s,
        nodesAll_renameAll rest]

end

mutual

theorem declarations_rename : ∀ s : Stmt ρ τ,
    (s.rename r).declarations = s.declarations.map (Declaration.rename r)
  | declaration _ | expression _ => rfl
  | block body _ => declarationsAll_renameAll body

theorem declarationsAll_renameAll : ∀ ss : List (Stmt ρ τ),
    declarationsAll (renameAll r ss) = (declarationsAll ss).map (Declaration.rename r)
  | [] => rfl
  | s :: rest => by
      rw [renameAll, declarationsAll, declarationsAll, List.map_append,
        declarations_rename s, declarationsAll_renameAll rest]

end

end Stmt

/-! ## Runs -/

/-- **Names of variables can be exchanged for others.** Give new names to the
variables of a program and of the scopes around it. Then it is checked to the same
tree under the new names: its nodes have the types and the writability that they
had, its declarations introduce what they did, and so does the environment behind
it. The diagnostics are the same at the same places in the same order, and name
the variables by their new names. So does a block come out renamed, behind a log
that is renamed. -/
theorem variable_names_are_interchangeable (options : Options) (env : Env)
    (body : List SourceStmt) :
    (let run := checkProgram options env body
     let renamed := checkProgram options (env.rename r) (Stmt.renameAll r body)
     Stmt.eraseAll run.tree = body ∧
      renamed.tree = Stmt.renameAll r run.tree ∧
      List.Forall₂ (fun n m : ResolvedExpr => m = n.rename r ∧ m.ty = n.ty ∧
          m.isWritable = n.isWritable)
        (Stmt.nodesAll run.tree) (Stmt.nodesAll renamed.tree) ∧
      (Stmt.declarationsAll renamed.tree).map Declaration.binding =
        (Stmt.declarationsAll run.tree).map (·.binding.rename r) ∧
      renamed.env = run.env.rename r ∧
      renamed.log.toList = run.log.toList.map (Diagnostic.rename r)) ∧
    ∀ log : Log,
      let run := checkBlock options env log body
      Stmt.eraseAll run.tree = body ∧
      checkBlock options (env.rename r) (log.map (Diagnostic.rename r)) (Stmt.renameAll r body) =
        ⟨Stmt.renameAll r run.tree, run.log.map (Diagnostic.rename r), run.env.rename r⟩ := by
  constructor
  · intro run renamed
    refine ⟨eraseAll_tree_checkProgram options env body, ?_⟩
    have hrun : run = _ := checkProgram_eq options env body
    have hrenamed : renamed = _ :=
      checkProgram_eq options (env.rename r) (Stmt.renameAll r body)
    rw [Stmt.resolveAll_renameAll, Stmt.violationsAll_renameAll,
      Stmt.leaveAll_renameAll] at hrenamed
    rw [hrun, hrenamed]
    refine ⟨rfl, ?_, ?_, rfl, rfl⟩
    · rw [Stmt.nodesAll_renameAll, List.forall₂_map_right_iff]
      refine List.forall₂_same.mpr ?_
      intro n _
      have hsame := n.interchangeable_rename r
      exact ⟨rfl, hsame.ty, hsame.isWritable⟩
    · rw [Stmt.declarationsAll_renameAll, List.map_map]
      exact List.map_congr_left fun d _ => d.binding_rename r
  · intro log run
    refine ⟨eraseAll_tree_checkBlock options env log body, ?_⟩
    have hrun : run = _ := checkBlock_eq options env log body
    rw [hrun, checkBlock_eq, Env.push_rename, Stmt.resolveAll_renameAll,
      Stmt.violationsAll_renameAll, ← List.map_toArray, ← Array.map_append]

/-- Every name with a digit behind it. -/
def Renaming.numbered : Renaming where
  apply name := name ++ "2"
  injective := fun _ _ h => (String.append_left_inj _).mp h
  underscore := by
    intro name
    rw [String.toList_append, List.head?_append]
    cases name.toList <;> simp

/-- The variable around the program has the name of the stand-in for variables
that were not declared. -/
def standIn : Env :=
  ⟨({} : Scope).bind ⟨"<arbitrary>", .boolean, false⟩, []⟩

/-- A constant that is declared twice and written to, names that mean nothing, and
a declaration that says nothing. -/
def namedProgram : List SourceStmt :=
  let byte (n : Nat) : Span := .within "main" n (n + 1)
  [.declaration ⟨"_n", none, some (.ref "<arbitrary>" () (byte 1)), byte 0⟩,
    .block [.declaration ⟨"n", none, none, byte 3⟩,
      .expression (.assign (.ref "_n" () (byte 5)) (.ref "m" () (byte 6)) (byte 5))] (byte 2),
    .declaration ⟨"_n", some ⟨"n", ()⟩, none, byte 7⟩]

/-- Under the new names the constant is a constant, and the name of the stand-in
is a name like the others. -/
theorem variable_names_are_interchangeable_numbered :
    (checkProgram {} (standIn.rename .numbered) (Stmt.renameAll .numbered namedProgram)).log.toList =
      [⟨.untyped "n2", 3, "main"⟩, ⟨.undeclared "m2", 6, "main"⟩, ⟨.notWritable, 5, "main"⟩,
        ⟨.unknownType "n", 7, "main"⟩, ⟨.redeclared "_n2", 7, "main"⟩] ∧
    (checkProgram {} (standIn.rename .numbered)
        (Stmt.renameAll .numbered namedProgram)).env.binding? "_n2" =
      some ⟨"_n2", .boolean, true⟩ := by
  obtain ⟨⟨-, -, -, -, henv, hlog⟩, -⟩ :=
    variable_names_are_interchangeable .numbered {} standIn namedProgram
  rw [hlog, henv]
  decide +kernel

end Gradual
