import Gradual.Proofs.Stmt.Walk

/-!
# Environments that agree on some names

A statement asks its environment for the names that stand in it, and for
nothing else. So environments that agree on these names cannot be told apart by
the statement, however many scopes they have and whatever else is in them
(`checkStmt_congr`), nor by a program (`checkProgram_congr`).

Three kinds of names are kept apart in a `Vocabulary`: of a variable that is
referred to the checker wants the meaning, of one that is declared it wants to
know whether the innermost scope has it already, and of a type name which type
it is. What is declared in a block inside is asked of the scope of that block,
which is new, so the environment around it has no say (`Env.AgreeOn.push`).
-/

namespace Gradual

variable {ρ τ : Type}

/-! ## Names -/

/-- Some of the names that there are. -/
structure Vocabulary where
  /-- Variables, as names to declare in the innermost scope. -/
  declared : String → Prop
  /-- Variables, as names to refer to. -/
  used : String → Prop
  types : String → Prop

namespace Vocabulary

def all : Vocabulary :=
  ⟨fun _ => True, fun _ => True, fun _ => True⟩

/-- All names but that of one variable. -/
def allBut (x : String) : Vocabulary :=
  ⟨(· ≠ x), (· ≠ x), fun _ => True⟩

/-- The same names in a block, where any of them may be declared. -/
def inside (v : Vocabulary) : Vocabulary :=
  { v with declared := fun _ => True }

end Vocabulary

/-- The statement has only these names in it. -/
structure Stmt.Within (v : Vocabulary) (s : Stmt ρ τ) : Prop where
  declared : ∀ d, s = declaration d → v.declared d.name
  used : ∀ name target span, Expr.ref name target span ∈ s.nodes → v.used name
  types : ∀ d ∈ s.declarations, ∀ r, d.type? = some r → v.types r.name

theorem Stmt.within_all (s : Stmt ρ τ) : s.Within .all :=
  ⟨fun _ _ => trivial, fun _ _ _ _ => trivial, fun _ _ _ _ => trivial⟩

theorem Stmt.Within.body {v : Vocabulary} {body : List (Stmt ρ τ)} {span : Span}
    (h : (block body span).Within v) : ∀ s ∈ body, s.Within v.inside := by
  intro s hs
  refine ⟨fun _ _ => trivial, ?_, ?_⟩
  · intro name target nodeSpan hmem
    refine h.used name target nodeSpan ?_
    rw [nodes, nodesAll_eq_flatMap]
    exact List.mem_flatMap.mpr ⟨s, hs, hmem⟩
  · intro d hd
    refine h.types d ?_
    rw [declarations, declarationsAll_eq_flatMap]
    exact List.mem_flatMap.mpr ⟨s, hs, hd⟩

/-! ## Environments -/

namespace Env

/-- The environments answer alike when they are asked for these names. -/
structure AgreeOn (v : Vocabulary) (env env' : Env) : Prop where
  inner : ∀ name, v.declared name → env.inner.binding? name = env'.inner.binding? name
  binding? : ∀ name, v.used name → env.binding? name = env'.binding? name
  type? : ∀ text, v.types text → env.type? text = env'.type? text

variable {v : Vocabulary} {env env' : Env}

theorem AgreeOn.refl (v : Vocabulary) (env : Env) : AgreeOn v env env :=
  ⟨fun _ _ => rfl, fun _ _ => rfl, fun _ _ => rfl⟩

/-- In a new scope no name is taken. -/
theorem AgreeOn.push (h : AgreeOn v env env') : AgreeOn v.inside env.push env'.push :=
  ⟨fun _ _ => rfl, h.binding?, h.type?⟩

theorem AgreeOn.enter (h : AgreeOn v env env') {b : Binding} (hb : v.declared b.name) :
    AgreeOn v (env.enter b) (env'.enter b) where
  inner := by
    intro name hname
    rw [inner_enter_binding?, inner_enter_binding?, h.inner name hname]
  binding? := by
    intro name hname
    by_cases hsame : b.name = name
    · subst hsame
      rw [binding?_enter, binding?_enter, h.inner b.name hb, h.binding? b.name hname]
    · rw [binding?_enter_of_ne hsame, binding?_enter_of_ne hsame, h.binding? name hname]
  type? := by
    intro text htext
    rw [type?_enter, type?_enter, h.type? text htext]

/-- A declaration changes what its own name means and nothing else. -/
theorem agreeOn_enter (env : Env) (b : Binding) :
    AgreeOn (.allBut b.name) env (env.enter b) where
  inner := by
    intro name hname
    have hother : b.name ≠ name := Ne.symm hname
    rw [inner_enter_binding?, if_neg hother, Option.or_none]
  binding? := by
    intro name hname
    have hother : b.name ≠ name := Ne.symm hname
    rw [binding?_enter_of_ne hother]
  type? := by
    intro text _
    rw [type?_enter]

end Env

/-! ## Looking names up -/

/-- References are all that an expression has to look up. -/
theorem Expr.resolve_congr {env env' : Env} (e : SourceExpr)
    (h : ∀ name span, ref name () span ∈ e.nodes → env.binding? name = env'.binding? name) :
    e.resolve env = e.resolve env' := by
  induction e using induct with
  | number | character | string | boolean => rfl
  | ref name _ span => rw [resolve, resolve, h name span (self_mem_nodes _)]
  | array elements span ih =>
      have helements : elements.map (resolve env) = elements.map (resolve env') := by
        refine List.map_congr_left ?_
        intro e he
        refine ih e he ?_
        intro name span hmem
        refine h name span ?_
        rw [nodes, nodesAll_eq_flatMap]
        exact List.mem_append_left _ (List.mem_flatMap.mpr ⟨e, he, hmem⟩)
      rw [resolve, resolve, resolveAll_eq_map, resolveAll_eq_map, helements]
  | index left right span ih₁ ih₂ | binary op left right span ih₁ ih₂
  | assign left right span ih₁ ih₂ =>
      have hleft : left.resolve env = left.resolve env' := by
        refine ih₁ ?_
        intro name span hmem
        exact h name span (List.mem_append_left _ (List.mem_append_left _ hmem))
      have hright : right.resolve env = right.resolve env' := by
        refine ih₂ ?_
        intro name span hmem
        exact h name span (List.mem_append_left _ (List.mem_append_right _ hmem))
      rw [resolve, resolve, hleft, hright]
  | unary op operand span ih =>
      have hoperand : operand.resolve env = operand.resolve env' := by
        refine ih ?_
        intro name span hmem
        exact h name span (List.mem_append_left _ hmem)
      rw [resolve, resolve, hoperand]

theorem Declaration.resolve_congr {env env' : Env} (d : SourceDeclaration)
    (htypes : ∀ r, d.type? = some r → env.type? r.name = env'.type? r.name)
    (hinit : ∀ e, d.init? = some e → e.resolve env = e.resolve env') :
    d.resolve env = d.resolve env' := by
  have htype : d.type?.map (TypeRef.resolve env) = d.type?.map (TypeRef.resolve env') := by
    refine Option.map_congr ?_
    intro r hr
    rw [TypeRef.resolve, TypeRef.resolve, htypes r hr]
  have hvalue : d.init?.map (Expr.resolve env) = d.init?.map (Expr.resolve env') :=
    Option.map_congr hinit
  rw [resolve, resolve, htype, hvalue]

namespace Stmt

variable {v : Vocabulary} {env env' : Env}

/-- Environments that agree do so behind the statement as well. -/
theorem agreeOn_leave (h : env.AgreeOn v env') {s : SourceStmt} (hs : s.Within v) :
    ((s.resolve env).leave env).AgreeOn v ((s.resolve env).leave env') := by
  cases s with
  | expression | block => exact h
  | declaration d => exact h.enter (hs.declared d rfl)

mutual

theorem resolve_congr {v : Vocabulary} {env env' : Env} (h : env.AgreeOn v env') :
    ∀ s : SourceStmt, s.Within v → s.resolve env = s.resolve env'
  | declaration d, hs => by
      have hinit : ∀ e, d.init? = some e → e.resolve env = e.resolve env' := by
        intro e he
        have hnodes : (declaration d).nodes = e.nodes := by rw [nodes, he, Option.elim_some]
        refine e.resolve_congr ?_
        intro name span hmem
        exact h.binding? name (hs.used name () span (hnodes ▸ hmem))
      have htypes : ∀ r, d.type? = some r → env.type? r.name = env'.type? r.name := by
        intro r hr
        exact h.type? r.name (hs.types d (List.mem_singleton_self d) r hr)
      rw [resolve, resolve, d.resolve_congr htypes hinit]
  | expression e, hs => by
      have hvalue : e.resolve env = e.resolve env' := by
        refine e.resolve_congr ?_
        intro name span hmem
        exact h.binding? name (hs.used name () span hmem)
      rw [resolve, resolve, hvalue]
  | block body span, hs => by
      rw [resolve, resolve, resolveAll_congr h.push body hs.body]

/-- The names of a statement mean the same in environments that agree on them. -/
theorem resolveAll_congr {v : Vocabulary} {env env' : Env} (h : env.AgreeOn v env') :
    ∀ ss : List SourceStmt, (∀ s ∈ ss, s.Within v) → resolveAll env ss = resolveAll env' ss
  | [], _ => rfl
  | s :: rest, hss => by
      obtain ⟨hs, hrest⟩ := List.forall_mem_cons.mp hss
      have hrest' := resolveAll_congr (agreeOn_leave h hs) rest hrest
      rw [resolveAll, resolveAll, hrest', resolve_congr h s hs]

end

theorem agreeOn_leaveAll (h : env.AgreeOn v env') {ss : List SourceStmt}
    (hss : ∀ s ∈ ss, s.Within v) :
    (leaveAll env (resolveAll env ss)).AgreeOn v (leaveAll env' (resolveAll env ss)) := by
  induction ss generalizing env env' with
  | nil => exact h
  | cons s rest ih =>
      obtain ⟨hs, hrest⟩ := List.forall_mem_cons.mp hss
      exact ih (agreeOn_leave h hs) hrest

/-! ## What is wrong -/

/-- What is wrong with the statements of a block is up to the block. -/
theorem violationsAll_push (options : Options) (env env' : Env) (ss : List ResolvedStmt) :
    violationsAll options env.push ss = violationsAll options env'.push ss := by
  rw [violationsAll_eq_walk, violationsAll_eq_walk]
  simp only [Point.isTaken_push]

theorem violations_congr (options : Options) (h : env.AgreeOn v env') {s : SourceStmt}
    (hs : s.Within v) :
    (s.resolve env).violations options env = (s.resolve env).violations options env' := by
  cases s with
  | expression => rfl
  | block => exact violationsAll_push options env env' _
  | declaration d =>
      have hname := h.inner (d.resolve env).name (hs.declared d rfl)
      rw [resolve, violations, violations, hname]

theorem violationsAll_congr (options : Options) (h : env.AgreeOn v env') {ss : List SourceStmt}
    (hss : ∀ s ∈ ss, s.Within v) :
    violationsAll options env (resolveAll env ss) =
      violationsAll options env' (resolveAll env ss) := by
  induction ss generalizing env env' with
  | nil => rfl
  | cons s rest ih =>
      obtain ⟨hs, hrest⟩ := List.forall_mem_cons.mp hss
      have hbehind := ih (agreeOn_leave h hs) hrest
      rw [resolveAll, violationsAll, violationsAll, violations_congr options h hs, hbehind]

end Stmt

/-! ## Runs -/

section

variable {v : Vocabulary} {env env' : Env} (options : Options)

theorem checkStmt_congr (log : Log) (h : env.AgreeOn v env') {s : SourceStmt}
    (hs : s.Within v) :
    (checkStmt options env log s).tree = (checkStmt options env' log s).tree ∧
    (checkStmt options env log s).log = (checkStmt options env' log s).log ∧
    (checkStmt options env log s).env.AgreeOn v (checkStmt options env' log s).env := by
  rw [checkStmt_eq, checkStmt_eq, ← Stmt.resolve_congr h s hs,
    ← Stmt.violations_congr options h hs]
  exact ⟨rfl, rfl, Stmt.agreeOn_leave h hs⟩

theorem checkProgram_congr (h : env.AgreeOn v env') {body : List SourceStmt}
    (hbody : ∀ s ∈ body, s.Within v) :
    (checkProgram options env body).tree = (checkProgram options env' body).tree ∧
    (checkProgram options env body).log = (checkProgram options env' body).log ∧
    (checkProgram options env body).env.AgreeOn v (checkProgram options env' body).env := by
  rw [checkProgram_eq, checkProgram_eq, ← Stmt.resolveAll_congr h body hbody,
    ← Stmt.violationsAll_congr options h hbody]
  exact ⟨rfl, rfl, Stmt.agreeOn_leaveAll h hbody⟩

end

end Gradual
