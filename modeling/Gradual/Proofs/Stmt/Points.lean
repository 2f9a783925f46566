import Gradual.Proofs.Stmt.Resolution

/-!
# Program points

What surrounds a statement can be read off a program as it is written. A
`Point` is a statement that is no block, together with the statements in front
of it: those of its own block, and those of every block around it. No
environment occurs in it.

The checker gets to a point with an environment that it has built on the way.
`Point.env` builds the same environment from the point alone, and the look-ups
in it are answered by the point: `Point.binding?_env` finds a variable by
walking outwards through the blocks, and `Point.isSome_inner_env` says when a
name is taken.
-/

namespace Gradual

variable {ρ τ : Type}

/-! ## Declarations of a name -/

namespace Stmt

/-- The declaration of a name, if the statement is one. A block keeps what is
declared in it to itself. -/
def declares? (name : String) : Stmt ρ τ → Option (Declaration ρ τ)
  | declaration d => if d.name = name then some d else none
  | expression _ | block _ _ => none

/-- The first declaration of a name among the statements of one block. -/
def firstDeclaration? (name : String) (ss : List (Stmt ρ τ)) : Option (Declaration ρ τ) :=
  ss.findSome? (declares? name)

theorem firstDeclaration?_cons (name : String) (s : Stmt ρ τ) (ss : List (Stmt ρ τ)) :
    firstDeclaration? name (s :: ss) = (s.declares? name).or (firstDeclaration? name ss) := by
  unfold firstDeclaration?
  rw [List.findSome?_cons]
  cases s.declares? name <;> rfl

theorem declares?_eq_some_iff {name : String} {s : Stmt ρ τ} {d : Declaration ρ τ} :
    s.declares? name = some d ↔ s = declaration d ∧ d.name = name := by
  cases s with
  | expression | block => exact ⟨nofun, fun h => nomatch h.1⟩
  | declaration c =>
      constructor
      · intro h
        by_cases hname : c.name = name
        · rw [declares?, if_pos hname] at h
          obtain rfl := Option.some.inj h
          exact ⟨rfl, hname⟩
        · rw [declares?, if_neg hname] at h
          cases h
      · rintro ⟨hc, hname⟩
        obtain rfl := declaration.inj hc
        rw [declares?, if_pos hname]

/-- The first declaration of a name is one of the statements. -/
theorem mem_of_firstDeclaration? {name : String} {ss : List (Stmt ρ τ)}
    {d : Declaration ρ τ} (h : firstDeclaration? name ss = some d) : declaration d ∈ ss := by
  obtain ⟨s, hmem, hs⟩ := List.exists_of_findSome?_eq_some h
  obtain ⟨rfl, -⟩ := declares?_eq_some_iff.mp hs
  exact hmem

theorem name_of_firstDeclaration? {name : String} {ss : List (Stmt ρ τ)}
    {d : Declaration ρ τ} (h : firstDeclaration? name ss = some d) : d.name = name := by
  obtain ⟨s, -, hs⟩ := List.exists_of_findSome?_eq_some h
  exact (declares?_eq_some_iff.mp hs).2

end Stmt

/-! ## Points -/

/-- A statement that is no block, and where it stands. -/
structure Point (ρ τ : Type) where
  /-- What stands in front of it in its own block. -/
  before : List (Stmt ρ τ)
  /-- What stands in front of each block around it, from the inside outwards. -/
  around : List (List (Stmt ρ τ))
  stmt : Stmt ρ τ

namespace Point

/-- The declaration of a name that is in force at the point: from the inside
outwards, the first one in the first block that has one in front. -/
def inForce? (p : Point ρ τ) (name : String) : Option (Declaration ρ τ) :=
  (p.before :: p.around).findSome? (Stmt.firstDeclaration? name)

/-- The name is taken in the block of the point: a statement in front declares
it, or the block is the outermost one and its scope in `env` has it already. -/
def isTaken (env : Env) (p : Point ρ τ) (name : String) : Bool :=
  (Stmt.firstDeclaration? name p.before).isSome ||
    (p.around.isEmpty && (env.inner.binding? name).isSome)

/-- Nothing is bound in the scope of a new block, so a name is taken in it only
by a declaration in front. -/
theorem isTaken_push (env : Env) (p : Point ρ τ) :
    p.isTaken env.push = fun name => (Stmt.firstDeclaration? name p.before).isSome := by
  funext name
  have hempty : (env.push.inner.binding? name).isSome = false := rfl
  rw [isTaken, hempty, Bool.and_false, Bool.or_false]

theorem name_of_inForce? {p : Point ρ τ} {name : String} {d : Declaration ρ τ}
    (h : p.inForce? name = some d) : d.name = name := by
  obtain ⟨ss, -, hd⟩ := List.exists_of_findSome?_eq_some h
  exact Stmt.name_of_firstDeclaration? hd

/-- What the next block outwards adds to the search. -/
theorem inForce?_cons (before outer : List (Stmt ρ τ)) (around : List (List (Stmt ρ τ)))
    (s : Stmt ρ τ) (name : String) :
    (⟨before, outer :: around, s⟩ : Point ρ τ).inForce? name =
      (Stmt.firstDeclaration? name before).or
        ((⟨outer, around, s⟩ : Point ρ τ).inForce? name) := by
  unfold inForce?
  rw [List.findSome?_cons]
  cases Stmt.firstDeclaration? name before <;> rfl

end Point

namespace Stmt

mutual

/-- The points in a statement that stands behind `before` in a block that
stands behind `around`. -/
def pointsIn (around : List (List (Stmt ρ τ))) (before : List (Stmt ρ τ)) :
    Stmt ρ τ → List (Point ρ τ)
  | declaration d => [⟨before, around, declaration d⟩]
  | expression e => [⟨before, around, expression e⟩]
  | block body _ => pointsInAll (before :: around) [] body

def pointsInAll (around : List (List (Stmt ρ τ))) (before : List (Stmt ρ τ)) :
    List (Stmt ρ τ) → List (Point ρ τ)
  | [] => []
  | s :: rest => pointsIn around before s ++ pointsInAll around (before ++ [s]) rest

end

/-- The points of a block, in the order in which the checker gets to them. -/
def points (body : List (Stmt ρ τ)) : List (Point ρ τ) :=
  pointsInAll [] [] body

/-! ## The environment at a point -/

/-- The environment in which the innermost block begins, if `around` stands in
front of the blocks and the outermost one begins in `env`. -/
def opened (env : Env) : List (List ResolvedStmt) → Env
  | [] => env
  | before :: around => (leaveAll (opened env around) before).push

theorem leaveAll_append (env : Env) (ss ts : List ResolvedStmt) :
    leaveAll env (ss ++ ts) = leaveAll (leaveAll env ss) ts :=
  List.foldl_append ..

end Stmt

/-- The environment at a point of a block that begins in `env`. -/
def Point.env (env : Env) (p : Point (Option Binding) (Option Ty)) : Env :=
  Stmt.leaveAll (Stmt.opened env p.around) p.before

/-! ### Looking names up at a point -/

namespace Env

theorem binding?_eq_or (env : Env) (name : String) :
    env.binding? name =
      (env.inner.binding? name).or (env.outer.findSome? (·.binding? name)) := by
  unfold binding? scopes
  rw [List.findSome?_cons]
  cases env.inner.binding? name <;> rfl

/-- A declaration is in force if the name was free. -/
theorem inner_enter_binding? (env : Env) (b : Binding) (name : String) :
    (env.enter b).inner.binding? name =
      (env.inner.binding? name).or (if b.name = name then some b else none) := by
  by_cases hname : b.name = name
  · subst hname
    rw [if_pos rfl]
    cases h : env.inner.binding? b.name with
    | none => simp [enter_of_new h, Scope.binding?_bind]
    | some earlier => simp [enter, h]
  · rw [if_neg hname, Option.or_none]
    unfold enter
    split
    · rfl
    · rw [Scope.binding?_bind, if_neg (Ne.symm hname)]

theorem binding?_enter (env : Env) (b : Binding) (name : String) :
    (env.enter b).binding? name =
      (env.inner.binding? name).or
        ((if b.name = name then some b else none).or (env.binding? name)) := by
  rw [binding?_eq_or, binding?_eq_or env, inner_enter_binding?, outer_enter, Option.or_assoc]
  cases env.inner.binding? name with
  | none => rw [Option.none_or, Option.none_or, Option.none_or]
  | some => rfl

theorem binding?_enter_of_ne {env : Env} {b : Binding} {name : String} (h : b.name ≠ name) :
    (env.enter b).binding? name = env.binding? name := by
  rw [binding?_eq_or, binding?_eq_or env, inner_enter_binding?, outer_enter, if_neg h,
    Option.or_none]

theorem aliases_enter (env : Env) (b : Binding) :
    (env.enter b).inner.aliases = env.inner.aliases := by
  unfold enter
  split <;> rfl

theorem type?_enter (env : Env) (b : Binding) (text : String) :
    (env.enter b).type? text = env.type? text := by
  unfold enter
  split <;> rfl

end Env

namespace Stmt

theorem inner_leave_binding? (env : Env) (s : ResolvedStmt) (name : String) :
    (s.leave env).inner.binding? name =
      (env.inner.binding? name).or ((s.declares? name).map Declaration.binding) := by
  cases s with
  | expression | block => simp [leave, declares?]
  | declaration d =>
      rw [leave, Env.inner_enter_binding?, declares?]
      by_cases hname : d.name = name
      · rw [if_pos hname, if_pos (show d.binding.name = name from hname), Option.map_some]
      · rw [if_neg hname, if_neg (show d.binding.name ≠ name from hname), Option.map_none]

/-- What the innermost scope has behind some statements is what it had, and
otherwise what the first declaration of the name says. -/
theorem inner_leaveAll_binding? (env : Env) (ss : List ResolvedStmt) (name : String) :
    (leaveAll env ss).inner.binding? name =
      (env.inner.binding? name).or ((firstDeclaration? name ss).map Declaration.binding) := by
  induction ss generalizing env with
  | nil => exact (Option.or_none ..).symm
  | cons s ss ih =>
      rw [leaveAll_cons, ih, inner_leave_binding?, firstDeclaration?_cons, Option.map_or,
        Option.or_assoc]

/-- In a new scope the declarations in front come first, and then what the name
meant around the block. -/
theorem binding?_leaveAll {env : Env} {name : String} (h : env.inner.binding? name = none)
    (ss : List ResolvedStmt) :
    (leaveAll env ss).binding? name =
      ((firstDeclaration? name ss).map Declaration.binding).or (env.binding? name) := by
  rw [Env.binding?_eq_or, inner_leaveAll_binding?, outer_leaveAll, h, Option.none_or,
    Env.binding?_eq_or env, h, Option.none_or]

/-- Statements name no types. -/
theorem aliases_leaveAll (env : Env) (ss : List ResolvedStmt) :
    (leaveAll env ss).inner.aliases = env.inner.aliases := by
  induction ss generalizing env with
  | nil => rfl
  | cons s ss ih =>
      rw [leaveAll_cons, ih]
      cases s with
      | expression | block => rfl
      | declaration d => exact Env.aliases_enter env d.binding

theorem type?_leaveAll (env : Env) (ss : List ResolvedStmt) (text : String) :
    (leaveAll env ss).type? text = env.type? text := by
  induction ss generalizing env with
  | nil => rfl
  | cons s ss ih =>
      rw [leaveAll_cons, ih]
      cases s with
      | expression | block => rfl
      | declaration d => exact Env.type?_enter env d.binding text

end Stmt

namespace Point

/-- **Look-up goes outwards through the blocks.** If the scope of the outermost
block is new, a variable means at a point what the declaration in force says,
and otherwise what it means around the block. -/
theorem binding?_env {env : Env} (hempty : env.inner = {})
    (p : Point (Option Binding) (Option Ty)) (name : String) :
    (p.env env).binding? name =
      ((p.inForce? name).map Declaration.binding).or (env.binding? name) := by
  obtain ⟨before, around, s⟩ := p
  induction around generalizing before with
  | nil =>
      have hnone : env.inner.binding? name = none := by
        rw [hempty]
        rfl
      have hown : (⟨before, [], s⟩ : Point (Option Binding) (Option Ty)).inForce? name =
          Stmt.firstDeclaration? name before := List.findSome?_singleton ..
      rw [hown]
      exact Stmt.binding?_leaveAll hnone before
  | cons outer around ih =>
      -- The block begins with an empty scope, so what it does not declare means
      -- what it means where the block stands.
      have hblock : (Stmt.leaveAll (Stmt.opened env (outer :: around)) before).binding? name =
          ((Stmt.firstDeclaration? name before).map Declaration.binding).or
            ((Stmt.opened env (outer :: around)).binding? name) :=
        Stmt.binding?_leaveAll rfl before
      rw [inForce?_cons, Option.map_or, Option.or_assoc, ← ih outer]
      exact hblock

/-- A name is taken in the innermost scope at a point exactly if it is taken in
the block of the point. -/
theorem isSome_inner_env (env : Env) (p : Point (Option Binding) (Option Ty)) (name : String) :
    ((p.env env).inner.binding? name).isSome = p.isTaken env name := by
  unfold Point.env isTaken
  rw [Stmt.inner_leaveAll_binding?, Option.isSome_or, Option.isSome_map, Bool.or_comm]
  cases p.around with
  | nil => rfl
  | cons => rfl

theorem type?_env (env : Env) (p : Point (Option Binding) (Option Ty)) (text : String) :
    (p.env env).type? text = env.type? text := by
  obtain ⟨before, around, s⟩ := p
  induction around generalizing before with
  | nil => exact Stmt.type?_leaveAll env before text
  | cons outer around ih =>
      have hblock := Stmt.type?_leaveAll (Stmt.opened env (outer :: around)) before text
      exact hblock.trans (ih outer)

end Point

/-! ## Resolved points -/

namespace Stmt

theorem resolveAll_append (env : Env) (ss ts : List SourceStmt) :
    resolveAll env (ss ++ ts) =
      resolveAll env ss ++ resolveAll (leaveAll env (resolveAll env ss)) ts := by
  induction ss generalizing env with
  | nil => rfl
  | cons s ss ih =>
      rw [List.cons_append, resolveAll, resolveAll, ih]
      rfl

theorem violationsAll_append (options : Options) (env : Env) (ss ts : List ResolvedStmt) :
    violationsAll options env (ss ++ ts) =
      violationsAll options env ss ++ violationsAll options (leaveAll env ss) ts := by
  induction ss generalizing env with
  | nil => rfl
  | cons s ss ih =>
      rw [List.cons_append, violationsAll, violationsAll, ih, leaveAll_cons, List.append_assoc]

/-- The statements in front of the blocks around a point, with their names
looked up. -/
def resolveAround (env : Env) : List (List SourceStmt) → List (List ResolvedStmt)
  | [] => []
  | before :: around =>
      resolveAll (opened env (resolveAround env around)) before :: resolveAround env around

/-- The statements in front of a point in its own block, with their names
looked up. -/
def resolveBefore (env : Env) (around : List (List SourceStmt)) (before : List SourceStmt) :
    List ResolvedStmt :=
  resolveAll (opened env (resolveAround env around)) before

/-- The environment behind them. -/
def reached (env : Env) (around : List (List SourceStmt)) (before : List SourceStmt) : Env :=
  leaveAll (opened env (resolveAround env around)) (resolveBefore env around before)

theorem resolveBefore_snoc (env : Env) (around : List (List SourceStmt))
    (before : List SourceStmt) (s : SourceStmt) :
    resolveBefore env around (before ++ [s]) =
      resolveBefore env around before ++ [s.resolve (reached env around before)] :=
  resolveAll_append (opened env (resolveAround env around)) before [s]

theorem reached_snoc (env : Env) (around : List (List SourceStmt)) (before : List SourceStmt)
    (s : SourceStmt) :
    reached env around (before ++ [s]) =
      (s.resolve (reached env around before)).leave (reached env around before) := by
  unfold reached
  rw [resolveBefore_snoc, leaveAll_append]
  rfl

end Stmt

/-- The point with its names looked up, as they are in a block that begins in
`env`. -/
def Point.resolve (env : Env) (p : Point Unit Unit) : Point (Option Binding) (Option Ty) :=
  ⟨Stmt.resolveBefore env p.around p.before, Stmt.resolveAround env p.around,
    p.stmt.resolve (Stmt.reached env p.around p.before)⟩

/-! A name is declared in front of a point whatever the other names mean. -/

namespace Stmt

theorem isSome_firstDeclaration?_resolveAll (env : Env) (name : String) (ss : List SourceStmt) :
    (firstDeclaration? name (resolveAll env ss)).isSome =
      (firstDeclaration? name ss).isSome := by
  induction ss generalizing env with
  | nil => rfl
  | cons s ss ih =>
      have hfirst : ((s.resolve env).declares? name).isSome = (s.declares? name).isSome := by
        cases s with
        | expression | block => rfl
        | declaration d => simp [resolve, declares?, Declaration.resolve, apply_ite]
      rw [resolveAll, firstDeclaration?_cons, firstDeclaration?_cons, Option.isSome_or,
        Option.isSome_or, hfirst, ih]

/-- Blocks around blocks are searched for a name just as before. -/
theorem isSome_firstDeclaration?_resolveAround (env : Env) (name : String)
    (around : List (List SourceStmt)) :
    ((resolveAround env around).findSome? (firstDeclaration? name)).isSome =
      (around.findSome? (firstDeclaration? name)).isSome := by
  rw [List.isSome_findSome?, List.isSome_findSome?]
  induction around with
  | nil => rfl
  | cons before around ih =>
      rw [resolveAround, List.any_cons, List.any_cons, ih, isSome_firstDeclaration?_resolveAll]

end Stmt

theorem Point.isSome_inForce?_resolve (env : Env) (p : Point Unit Unit) (name : String) :
    ((p.resolve env).inForce? name).isSome = (p.inForce? name).isSome :=
  Stmt.isSome_firstDeclaration?_resolveAround env name (p.before :: p.around)

namespace Stmt

mutual

theorem pointsIn_resolve (env : Env) (around : List (List SourceStmt))
    (before : List SourceStmt) : ∀ s : SourceStmt,
    pointsIn (resolveAround env around) (resolveBefore env around before)
        (s.resolve (reached env around before)) =
      (pointsIn around before s).map (Point.resolve env)
  | declaration _ | expression _ => rfl
  | block body _ => pointsInAll_resolveAll env (before :: around) [] body

theorem pointsInAll_resolveAll (env : Env) (around : List (List SourceStmt))
    (before : List SourceStmt) : ∀ ss : List SourceStmt,
    pointsInAll (resolveAround env around) (resolveBefore env around before)
        (resolveAll (reached env around before) ss) =
      (pointsInAll around before ss).map (Point.resolve env)
  | [] => rfl
  | s :: rest => by
      have hrest := pointsInAll_resolveAll env around (before ++ [s]) rest
      rw [resolveBefore_snoc, reached_snoc] at hrest
      rw [resolveAll, pointsInAll, pointsInAll, List.map_append,
        pointsIn_resolve env around before s, hrest]

end

/-- The points of a resolved block are the points of the block, resolved. -/
theorem points_resolveAll (env : Env) (ss : List SourceStmt) :
    points (resolveAll env ss) = (points ss).map (Point.resolve env) :=
  pointsInAll_resolveAll env [] [] ss

end Stmt

/-! ## Runs in a row -/

/-- A program goes on where the one in front of it has stopped. -/
theorem checkProgram_append (options : Options) (env : Env) (ss ts : List SourceStmt) :
    checkProgram options env (ss ++ ts) =
      let front := checkProgram options env ss
      let back := checkProgram options front.env ts
      ⟨front.tree ++ back.tree, front.log ++ back.log, back.env⟩ := by
  simp only [checkProgram_eq, Stmt.resolveAll_append, Stmt.violationsAll_append,
    Stmt.leaveAll_append, List.append_toArray]

theorem checkProgram_cons (options : Options) (env : Env) (s : SourceStmt)
    (rest : List SourceStmt) :
    checkProgram options env (s :: rest) =
      let first := checkStmt options env #[] s
      let back := checkProgram options first.env rest
      ⟨first.tree :: back.tree, first.log ++ back.log, back.env⟩ := by
  simp only [checkProgram_eq, checkStmt_eq, Stmt.resolveAll, Stmt.violationsAll,
    Stmt.leaveAll_cons, List.append_toArray, List.nil_append]

end Gradual
