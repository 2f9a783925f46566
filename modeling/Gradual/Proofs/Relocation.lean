import Gradual.Diagnostic.Render
import Gradual.Proofs.Expr.Relocation
import Mathlib.Data.List.Forall2

/-!
# Positions

Positions pass through the checker and decide nothing in it. A program whose
positions are all moved, in whatever way, is checked as it was, and its
diagnostics move along.

What is reported lies where an expression or a declaration of the program begins
(`Stmt.starts`), so for a text that reaches beyond all these places every
diagnostic can be drawn.
-/

namespace Gradual

variable {ρ τ : Type}

/-! ## Declarations -/

namespace Declaration

/-- The same declaration at another place. -/
def relocate (f : Position → Position) (d : Declaration ρ τ) : Declaration ρ τ :=
  { d with init? := d.init?.map (·.relocate f), span := d.span.relocate f }

variable (f : Position → Position)

theorem resolve_relocate (env : Env) (d : SourceDeclaration) :
    (d.relocate f).resolve env = (d.resolve env).relocate f := by
  obtain ⟨name, type?, init?, span⟩ := d
  cases init? with
  | none => rfl
  | some e =>
      have he := e.resolve_relocate f env
      simp only [relocate, resolve, Option.map_some, he]

/-- What code behind the declaration sees does not change. -/
theorem binding_relocate (d : ResolvedDeclaration) : (d.relocate f).binding = d.binding := by
  have hty : (d.relocate f).ty = d.ty := by
    obtain ⟨name, type?, init?, span⟩ := d
    cases type? with
    | some => rfl
    | none =>
        cases init? with
        | none => rfl
        | some e => exact e.ty_relocate f
  rw [binding, binding, hty]
  rfl

theorem blameType_relocate (d : ResolvedDeclaration) :
    (d.relocate f).blameType = d.blameType.map (Diagnostic.relocate f) := by
  obtain ⟨name, type?, init?, span⟩ := d
  cases type? with
  | none => rfl
  | some r => exact Expr.complain_relocate f _ _ span.start

theorem blame_relocate (d : ResolvedDeclaration) :
    (d.relocate f).blame = d.blame.map (Diagnostic.relocate f) := by
  obtain ⟨name, type?, init?, span⟩ := d
  cases type? with
  | none => cases init? <;> rfl
  | some r =>
      cases init? with
      | none => rfl
      | some e => exact e.misplaced_relocate f .initialization r.ty

theorem violations_relocate (options : Options) (d : ResolvedDeclaration) :
    (d.relocate f).violations options =
      (d.violations options).map (Diagnostic.relocate f) := by
  have hinit : (d.relocate f).init?.elim [] (·.violations options) =
      (d.init?.elim [] (·.violations options)).map (Diagnostic.relocate f) := by
    obtain ⟨name, type?, init?, span⟩ := d
    cases init? with
    | none => rfl
    | some e => exact e.violations_relocate f options
  rw [violations, violations, blameType_relocate, hinit, blame_relocate, List.map_append,
    List.map_append]

/-- What is wrong with a declaration is reported where it begins, or where a node
of its initial value does. -/
theorem position_of_mem_violations {options : Options} {d : ResolvedDeclaration}
    {x : Diagnostic} (h : x ∈ d.violations options) :
    (∃ n ∈ (Stmt.declaration d).nodes, x.position = n.start) ∨ x.position = d.span.start := by
  obtain ⟨name, type?, init?, span⟩ := d
  rw [violations, List.mem_append, List.mem_append] at h
  rcases h with htype | hinit | hblame
  · obtain ⟨text, -, rfl⟩ := Step.mem_blameType.mp htype
    exact Or.inr rfl
  · cases init? with
    | none => cases hinit
    | some e => exact Or.inl (Expr.exists_node_of_mem_violations hinit)
  · cases type? with
    | none =>
        cases init? with
        | none =>
            obtain rfl := List.mem_singleton.mp hblame
            exact Or.inr rfl
        | some => cases hblame
    | some r =>
        cases init? with
        | none => cases hblame
        | some e =>
            obtain ⟨-, rfl⟩ := Expr.mem_misplaced.mp hblame
            exact Or.inl ⟨e, e.self_mem_nodes, rfl⟩

end Declaration

/-! ## Statements -/

namespace Stmt

mutual

/-- The same statement at another place. -/
def relocate (f : Position → Position) : Stmt ρ τ → Stmt ρ τ
  | declaration d => declaration (d.relocate f)
  | expression e => expression (e.relocate f)
  | block body span => block (relocateAll f body) (span.relocate f)

def relocateAll (f : Position → Position) : List (Stmt ρ τ) → List (Stmt ρ τ)
  | [] => []
  | s :: rest => relocate f s :: relocateAll f rest

end

variable (f : Position → Position)

theorem leave_relocate (env : Env) (s : ResolvedStmt) :
    (s.relocate f).leave env = s.leave env := by
  cases s with
  | expression | block => rfl
  | declaration d => rw [relocate, leave, leave, d.binding_relocate]

theorem leaveAll_relocateAll (env : Env) (ss : List ResolvedStmt) :
    leaveAll env (relocateAll f ss) = leaveAll env ss := by
  induction ss generalizing env with
  | nil => rfl
  | cons s rest ih => rw [relocateAll, leaveAll_cons, leaveAll_cons, leave_relocate, ih]

mutual

theorem resolve_relocate (env : Env) : ∀ s : SourceStmt,
    (s.relocate f).resolve env = (s.resolve env).relocate f
  | declaration d => by rw [relocate, resolve, resolve, relocate, d.resolve_relocate]
  | expression e => by rw [relocate, resolve, resolve, relocate, e.resolve_relocate]
  | block body span => by
      rw [relocate, resolve, resolve, relocate, resolveAll_relocateAll env.push body]

/-- Names mean the same at any place. -/
theorem resolveAll_relocateAll (env : Env) : ∀ ss : List SourceStmt,
    resolveAll env (relocateAll f ss) = relocateAll f (resolveAll env ss)
  | [] => rfl
  | s :: rest => by
      rw [relocateAll, resolveAll, resolve_relocate env s, leave_relocate,
        resolveAll_relocateAll _ rest, resolveAll, relocateAll]

end

mutual

theorem violations_relocate (options : Options) (env : Env) : ∀ s : ResolvedStmt,
    (s.relocate f).violations options env =
      (s.violations options env).map (Diagnostic.relocate f)
  | declaration d => by
      have hentry := Expr.complain_relocate f (env.inner.binding? d.name).isNone
        (.redeclared d.name) d.span.start
      rw [relocate, violations, violations, d.violations_relocate, List.map_append, ← hentry]
      rfl
  | expression e => e.violations_relocate f options
  | block body _ => violationsAll_relocateAll options env.push body

/-- What is wrong with a program stays wrong with it, at the new places. -/
theorem violationsAll_relocateAll (options : Options) (env : Env) : ∀ ss : List ResolvedStmt,
    violationsAll options env (relocateAll f ss) =
      (violationsAll options env ss).map (Diagnostic.relocate f)
  | [] => rfl
  | s :: rest => by
      rw [relocateAll, violationsAll, violationsAll, leave_relocate, List.map_append,
        violations_relocate options env s, violationsAll_relocateAll options _ rest]

end

mutual

theorem nodes_relocate : ∀ s : Stmt ρ τ, (s.relocate f).nodes = s.nodes.map (Expr.relocate f)
  | declaration ⟨_, _, none, _⟩ => rfl
  | declaration ⟨_, _, some e, _⟩ | expression e => e.nodes_relocate f
  | block body _ => nodesAll_relocateAll body

theorem nodesAll_relocateAll : ∀ ss : List (Stmt ρ τ),
    nodesAll (relocateAll f ss) = (nodesAll ss).map (Expr.relocate f)
  | [] => rfl
  | s :: rest => by
      rw [relocateAll, nodesAll, nodesAll, List.map_append, nodes_relocate s,
        nodesAll_relocateAll rest]

end

mutual

theorem declarations_relocate : ∀ s : Stmt ρ τ,
    (s.relocate f).declarations = s.declarations.map (Declaration.relocate f)
  | declaration _ | expression _ => rfl
  | block body _ => declarationsAll_relocateAll body

theorem declarationsAll_relocateAll : ∀ ss : List (Stmt ρ τ),
    declarationsAll (relocateAll f ss) = (declarationsAll ss).map (Declaration.relocate f)
  | [] => rfl
  | s :: rest => by
      rw [relocateAll, declarationsAll, declarationsAll, List.map_append,
        declarations_relocate s, declarationsAll_relocateAll rest]

end

/-! ## Where it is reported -/

/-- The positions at which an expression or a declaration in the statement
begins. -/
def starts (s : Stmt ρ τ) : List Position :=
  s.nodes.map Expr.start ++ s.declarations.map (·.span.start)

def startsAll (ss : List (Stmt ρ τ)) : List Position :=
  (nodesAll ss).map Expr.start ++ (declarationsAll ss).map (·.span.start)

theorem mem_startsAll_cons {p : Position} {s : Stmt ρ τ} {rest : List (Stmt ρ τ)} :
    p ∈ startsAll (s :: rest) ↔ p ∈ s.starts ∨ p ∈ startsAll rest := by
  simp only [startsAll, starts, nodesAll, declarationsAll, List.map_append, List.mem_append]
  tauto

/-- Looking names up does not move anything. -/
theorem startsAll_resolveAll (env : Env) (ss : List SourceStmt) :
    startsAll (resolveAll env ss) = startsAll ss := by
  have hnodes : (nodesAll (resolveAll env ss)).map Expr.start =
      (nodesAll ss).map Expr.start := by
    rw [← map_erase_nodesAll_resolveAll env ss, List.map_map]
    exact List.map_congr_left fun n _ => n.start_erase.symm
  have hdeclarations : (declarationsAll (resolveAll env ss)).map (·.span.start) =
      (declarationsAll ss).map (·.span.start) := by
    have herase := declarationsAll_eraseAll (resolveAll env ss)
    rw [eraseAll_resolveAll] at herase
    rw [herase, List.map_map]
    rfl
  rw [startsAll, startsAll, hnodes, hdeclarations]

mutual

theorem position_mem_starts (options : Options) (env : Env) {x : Diagnostic} :
    ∀ s : ResolvedStmt, x ∈ s.violations options env → x.position ∈ s.starts
  | declaration d, h => by
      have hown : d.span.start ∈ (declaration d).starts :=
        List.mem_append_right _ (List.mem_singleton_self _)
      rcases List.mem_append.mp h with h | h
      · rcases Declaration.position_of_mem_violations h with ⟨n, hn, hposition⟩ | hposition
        · rw [hposition]
          exact List.mem_append_left _ (List.mem_map_of_mem hn)
        · rw [hposition]
          exact hown
      · obtain ⟨-, rfl⟩ := mem_complain.mp h
        exact hown
  | expression e, h => by
      obtain ⟨n, hn, hposition⟩ := Expr.exists_node_of_mem_violations h
      rw [hposition]
      exact List.mem_append_left _ (List.mem_map_of_mem hn)
  | block body _, h => position_mem_startsAll options env.push body h

/-- What is wrong with a program is reported where one of its expressions or
declarations begins. -/
theorem position_mem_startsAll (options : Options) (env : Env) {x : Diagnostic} :
    ∀ ss : List ResolvedStmt, x ∈ violationsAll options env ss → x.position ∈ startsAll ss
  | [], h => by cases h
  | s :: rest, h => by
      rw [mem_startsAll_cons]
      rcases List.mem_append.mp h with h | h
      · exact Or.inl (position_mem_starts options env s h)
      · exact Or.inr (position_mem_startsAll options (s.leave env) rest h)

end

end Stmt

/-! ## Drawing -/

/-- A diagnostic is drawn in any text that goes on behind its position. -/
theorem Diagnostic.exists_render_eq_ok {d : Diagnostic} {source : String}
    (h : d.position.offset < source.utf8ByteSize) (file : String) :
    ∃ drawing, d.render file source = .ok drawing := by
  obtain ⟨place, hplace⟩ := Text.exists_locate_eq_ok h
  refine ⟨d.cause.draw file place, ?_⟩
  rw [render, hplace]
  rfl

/-! ## Runs -/

/-- **Positions are reported and not looked at.** Move all positions of a
program by any function. Then it is checked to the same tree at the new places:
its nodes have the types, the writability and the meanings that they had, its
variables are the same, and so is the environment behind it. The diagnostics are
the same in the same order, at the new places. Each of them stands where an
expression or a declaration of the program begins. So if a text goes on behind
all these places, then all diagnostics can be drawn in it. -/
theorem positions_are_only_reported (options : Options) (env : Env) (body : List SourceStmt) :
    (∀ f : Position → Position,
      let run := checkProgram options env body
      let moved := checkProgram options env (Stmt.relocateAll f body)
      Stmt.eraseAll run.tree = body ∧
      moved.tree = Stmt.relocateAll f run.tree ∧
      List.Forall₂ (fun n m : ResolvedExpr => m = n.relocate f ∧ m.ty = n.ty ∧
          m.isWritable = n.isWritable)
        (Stmt.nodesAll run.tree) (Stmt.nodesAll moved.tree) ∧
      (Stmt.declarationsAll moved.tree).map Declaration.binding =
        (Stmt.declarationsAll run.tree).map Declaration.binding ∧
      moved.env = run.env ∧
      moved.log.toList = run.log.toList.map (Diagnostic.relocate f)) ∧
    (∀ d ∈ (checkProgram options env body).log.toList, d.position ∈ Stmt.startsAll body) ∧
    ∀ file source : String,
      (∀ p ∈ Stmt.startsAll body, p.offset < source.utf8ByteSize) →
        ∀ d ∈ (checkProgram options env body).log.toList,
          ∃ drawing, d.render file source = .ok drawing := by
  have hstarts : ∀ d ∈ (checkProgram options env body).log.toList,
      d.position ∈ Stmt.startsAll body := by
    intro d hd
    rw [checkProgram_eq] at hd
    rw [← Stmt.startsAll_resolveAll env body]
    exact Stmt.position_mem_startsAll options env _ hd
  refine ⟨?_, hstarts, ?_⟩
  · intro f run moved
    refine ⟨eraseAll_tree_checkProgram options env body, ?_⟩
    have hrun : run = _ := checkProgram_eq options env body
    have hmoved : moved = _ := checkProgram_eq options env (Stmt.relocateAll f body)
    rw [Stmt.resolveAll_relocateAll, Stmt.violationsAll_relocateAll,
      Stmt.leaveAll_relocateAll] at hmoved
    rw [hrun, hmoved]
    refine ⟨rfl, ?_, ?_, rfl, rfl⟩
    · rw [Stmt.nodesAll_relocateAll, List.forall₂_map_right_iff]
      refine List.forall₂_same.mpr ?_
      intro n _
      exact ⟨rfl, n.ty_relocate f, n.isWritable_relocate f⟩
    · rw [Stmt.declarationsAll_relocateAll, List.map_map]
      exact List.map_congr_left fun d _ => d.binding_relocate f
  · intro file source hsource d hd
    exact Diagnostic.exists_render_eq_ok (hsource _ (hstarts d hd)) file

/-- A text with a character of two bytes at its beginning. -/
def sumText : String :=
  "é = 1 + 'a';\nlet q;\n"

/-- The program that is written there. -/
def sumProgram : List SourceStmt :=
  let span (start stop : Nat) : Span := .within "main" start stop
  [.expression (.assign (.ref "é" () (span 0 2))
      (.binary .plus (.number (span 5 6)) (.character 'a' (span 9 12)) (span 5 12)) (span 0 12)),
    .declaration ⟨"q", none, none, span 14 19⟩]

/-- Three bytes further in another file the same is reported, and everything can
be drawn in the text. -/
theorem positions_are_only_reported_sum :
    let f (p : Position) : Position := ⟨p.offset + 3, "lib"⟩
    (checkProgram {} .empty (Stmt.relocateAll f sumProgram)).log.toList =
      [⟨.undeclared "é", 3, "lib"⟩, ⟨.operand .number "+" .character, 12, "lib"⟩,
        ⟨.untyped "q", 17, "lib"⟩] ∧
    (∀ p ∈ Stmt.startsAll sumProgram, p.offset < sumText.utf8ByteSize) ∧
    ∀ d ∈ (checkProgram {} .empty sumProgram).log.toList,
      ∃ drawing, d.render "main" sumText = .ok drawing := by
  intro f
  have hstarts : ∀ p ∈ Stmt.startsAll sumProgram, p.offset < sumText.utf8ByteSize := by
    decide +kernel
  obtain ⟨hmoved, -, hdrawn⟩ := positions_are_only_reported {} .empty sumProgram
  obtain ⟨-, -, -, -, -, hlog⟩ := hmoved f
  refine ⟨?_, hstarts, hdrawn "main" sumText hstarts⟩
  rw [hlog]
  decide +kernel

end Gradual
