import Gradual.Proofs.Expr.Interchange
import Gradual.Proofs.Precision
import Gradual.Proofs.Stmt.Walk

/-!
# Undeclared variables

A variable that is not declared is reported where it stands, and that is all it
costs. Whatever its value would flow through, nothing is reported that would not
be reported if there were such a variable of unknown type.

The proof compares the run with one in an environment that has the variable
(`Env.assume`). At every point the two environments differ in that variable
alone, and only if no declaration of it is in force there (`Env.Fills`,
`Point.fills`). So the nodes get the same types, and the rules find the same
faults in them, one for each `missing` name aside (`Step.faults_resolve`).
-/

namespace Gradual

variable {ρ τ : Type}

/-- The environment with one variable more in its innermost scope. -/
def Env.assume (env : Env) (x : String) (t : Ty) : Env :=
  { env with inner := env.inner.bind ⟨x, t, false⟩ }

/-! ## Occurrences -/

/-- What is said of an expression that is the name `x`, if `x` is not declared.
Nothing is said of an expression that only has the name in it. -/
def Expr.missing (x : String) : Expr ρ → List Diagnostic
  | ref name _ span => if name = x then [⟨.undeclared x, span.start⟩] else []
  | number _ | character _ _ | string _ _ | boolean _ _ | array _ _ | index _ _ _
  | binary _ _ _ _ | unary _ _ _ | assign _ _ _ => []

def Step.missing (x : String) : Step ρ τ → List Diagnostic
  | node e => e.missing x
  | typeName _ | agreement _ | entry _ => []

/-- What is said of a step for the name `x`, if `x` means nothing around the
block. No more is said where a declaration in the block is in force. -/
def Point.missing (x : String) (p : Point ρ τ) (s : Step ρ τ) : List Diagnostic :=
  if (p.inForce? x).isSome then [] else s.missing x

/-- Where a name is missing does not depend on what the names mean. -/
theorem Expr.missing_resolve (env : Env) (x : String) (e : SourceExpr) :
    (e.resolve env).missing x = e.missing x := by
  cases e <;> rfl

theorem Step.missing_resolve (env : Env) (x : String) (s : Step Unit Unit) :
    (s.resolve env).missing x = s.missing x := by
  cases s with
  | node e => exact e.missing_resolve env x
  | typeName | agreement | entry => rfl

theorem Point.missing_resolve (env env' : Env) (x : String) (p : Point Unit Unit)
    (s : Step Unit Unit) : (p.resolve env).missing x (s.resolve env') = p.missing x s := by
  rw [missing, missing, isSome_inForce?_resolve, Step.missing_resolve]

/-- What can miss no name is blamed for just the same. -/
theorem eq_missing_append {inForce : Bool} {missing ds es : List Diagnostic}
    (hmissing : missing = []) (h : ds = es) : ds = (if inForce then [] else missing) ++ es := by
  rw [hmissing, ite_self, List.nil_append]
  exact h

/-! ## Environments -/

namespace Env

/-- `env'` has an unknown variable `x` if `env` has none of that name. All other
names mean the same in both. -/
structure Fills (x : String) (env env' : Env) : Prop where
  binding? : ∀ name, env'.binding? name =
    (env.binding? name).or (if name = x then some ⟨x, .any, false⟩ else none)
  type? : ∀ text, env'.type? text = env.type? text

/-- The difference is in the scopes around the innermost one. -/
structure FillsOutside (x : String) (env env' : Env) : Prop extends Fills x env env' where
  inner : env.inner = env'.inner

variable {x : String} {env env' : Env}

theorem binding?_assume (env : Env) (x : String) (t : Ty) (name : String) :
    (env.assume x t).binding? name =
      if name = x then some ⟨x, t, false⟩ else env.binding? name := by
  rw [binding?_eq_or, binding?_eq_or env, assume, Scope.binding?_bind]
  by_cases hname : name = x
  · rw [if_pos hname, if_pos hname, Option.some_or]
  · rw [if_neg hname, if_neg hname]

theorem fills_assume (h : env.binding? x = none) : Fills x env (env.assume x .any) where
  binding? := by
    intro name
    rw [binding?_assume]
    by_cases hname : name = x
    · rw [if_pos hname, if_pos hname, hname, h, Option.none_or]
    · rw [if_neg hname, if_neg hname, Option.or_none]
  type? := fun _ => rfl

theorem Fills.push (h : Fills x env env') : FillsOutside x env.push env'.push :=
  ⟨⟨h.binding?, h.type?⟩, rfl⟩

theorem FillsOutside.enter (h : FillsOutside x env env') (b : Binding) :
    FillsOutside x (env.enter b) (env'.enter b) where
  binding? := by
    intro name
    rw [binding?_enter, binding?_enter, h.inner, h.binding?, Option.or_assoc, Option.or_assoc]
  type? := by
    intro text
    rw [type?_enter, type?_enter, h.type?]
  -- Whether the name is new is decided by the innermost scope, which is the same.
  inner := by
    unfold Env.enter
    rw [h.inner]
    split
    · exact h.inner
    · rfl

end Env

/-! ## Expressions -/

namespace Expr

/-- The same expression, with names looked up in two ways that no rule can tell
apart. -/
structure Alike (e₁ e₂ : ResolvedExpr) : Prop where
  erase : e₁.erase = e₂.erase
  ty : e₁.ty = e₂.ty
  isWritable : e₁.isWritable = e₂.isWritable

theorem Alike.interchangeable {e₁ e₂ : ResolvedExpr} (h : Alike e₁ e₂) :
    Interchangeable e₁ e₂ := by
  refine ⟨h.ty, h.isWritable, ?_⟩
  rw [← start_erase, h.erase, start_erase]

section

variable {x : String} {env env' : Env}

/-- A reference to nothing counts as an unknown variable. -/
theorem ofTarget_binding? (h : env.Fills x env') (name : String) :
    (Binding.ofTarget (env.binding? name)).ty = (Binding.ofTarget (env'.binding? name)).ty ∧
    (Binding.ofTarget (env.binding? name)).constant =
      (Binding.ofTarget (env'.binding? name)).constant := by
  rw [h.binding?]
  cases env.binding? name with
  | some => exact ⟨rfl, rfl⟩
  | none =>
      rw [Option.none_or]
      split <;> exact ⟨rfl, rfl⟩

theorem ty_resolve_fills (h : env.Fills x env') : ∀ e : SourceExpr,
    (e.resolve env).ty = (e.resolve env').ty
  | number _ | character _ _ | string _ _ | boolean _ _ | array [] _ | binary _ _ _ _
  | unary _ _ _ => rfl
  | array (first :: _) _ => congrArg Ty.array (ty_resolve_fills h first)
  | ref name _ _ => (ofTarget_binding? h name).1
  | index base _ _ => congrArg Ty.item (ty_resolve_fills h base)
  | assign target _ _ => ty_resolve_fills h target

theorem isWritable_resolve_fills (h : env.Fills x env') : ∀ e : SourceExpr,
    (e.resolve env).isWritable = (e.resolve env').isWritable
  | number _ | character _ _ | string _ _ | boolean _ _ | array _ _ | binary _ _ _ _
  | unary _ _ _ | assign _ _ _ => rfl
  | ref name _ _ => congrArg (!·) (ofTarget_binding? h name).2
  | index base _ _ => by
      rw [resolve, resolve, isWritable, isWritable, ty_resolve_fills h base,
        isWritable_resolve_fills h base]

theorem resolve_alike (h : env.Fills x env') (e : SourceExpr) :
    Alike (e.resolve env) (e.resolve env') where
  erase := by rw [erase_resolve, erase_resolve]
  ty := ty_resolve_fills h e
  isWritable := isWritable_resolve_fills h e

/-- A name is reported if it means nothing, and it does not mean nothing if it
is there. -/
theorem blame_ref_fills (options : Options) (h : env.Fills x env') (name : String)
    (span : Span) :
    blame options (ref name (env.binding? name) span) =
      (if (env.binding? x).isSome then [] else (ref name () span).missing x) ++
        blame options (ref name (env'.binding? name) span) := by
  rw [blame, blame, missing, h.binding?]
  by_cases hname : name = x
  · subst hname
    rw [if_pos rfl, if_pos rfl]
    cases env.binding? name <;> rfl
  · rw [if_neg hname, if_neg hname, ite_self, Option.or_none, List.nil_append]

theorem resolve_interchangeable (h : env.Fills x env') (e : SourceExpr) :
    Interchangeable (e.resolve env) (e.resolve env') :=
  (resolve_alike h e).interchangeable

/-- The rules find the same in one node but for a missing name. -/
theorem blame_fills (options : Options) (h : env.Fills x env') (e : SourceExpr) :
    blame options (e.resolve env) =
      (if (env.binding? x).isSome then [] else e.missing x) ++
        blame options (e.resolve env') := by
  have hpart := resolve_interchangeable h
  -- No node but a reference can miss a name, and the rule of every other node
  -- sees its parts only as far as they are interchangeable.
  cases e with
  | number | character | string | boolean => exact eq_missing_append rfl rfl
  | ref name _ span => exact blame_ref_fills options h name span
  | array elements span =>
      have hparts : List.Forall₂ Interchangeable (resolveAll env elements)
          (resolveAll env' elements) := by
        rw [resolveAll_eq_map, resolveAll_eq_map, List.forall₂_map_left_iff,
          List.forall₂_map_right_iff]
        exact List.forall₂_same.mpr fun e _ => hpart e
      exact eq_missing_append rfl ((SameNode.array span hparts).blame options)
  | index base subscript span =>
      have hnode := SameNode.index span (hpart base) (hpart subscript)
      exact eq_missing_append rfl (hnode.blame options)
  | binary op left right span =>
      have hnode := SameNode.binary op span (hpart left) (hpart right)
      exact eq_missing_append rfl (hnode.blame options)
  | unary op operand span =>
      have hnode := SameNode.unary op span (hpart operand)
      exact eq_missing_append rfl (hnode.blame options)
  | assign target value span =>
      have hnode := SameNode.assign span (hpart target) (hpart value)
      exact eq_missing_append rfl (hnode.blame options)

end

end Expr

/-! ## Declarations -/

namespace Declaration

variable {x : String} {env env' : Env}

theorem typeRef_resolve_fills (h : env.Fills x env') :
    TypeRef.resolve env = TypeRef.resolve env' := by
  funext r
  rw [TypeRef.resolve, TypeRef.resolve, h.type?]

theorem binding_fills (h : env.Fills x env') (d : SourceDeclaration) :
    (d.resolve env).binding = (d.resolve env').binding := by
  have hty : (d.resolve env).ty = (d.resolve env').ty := by
    obtain ⟨name, type?, init?, span⟩ := d
    rw [resolve, resolve, typeRef_resolve_fills h]
    cases type? with
    | some => rfl
    | none =>
        cases init? with
        | none => rfl
        | some e => exact Expr.ty_resolve_fills h e
  rw [binding, binding, hty]
  rfl

theorem blameType_fills (h : env.Fills x env') (d : SourceDeclaration) :
    (d.resolve env).blameType = (d.resolve env').blameType := by
  rw [resolve, resolve, typeRef_resolve_fills h]
  rfl

theorem blame_fills (h : env.Fills x env') (d : SourceDeclaration) :
    (d.resolve env).blame = (d.resolve env').blame := by
  obtain ⟨name, type?, init?, span⟩ := d
  rw [resolve, resolve, typeRef_resolve_fills h]
  cases type? with
  | none => cases init? <;> rfl
  | some r =>
      cases init? with
      | none => rfl
      | some e => exact (Expr.resolve_interchangeable h e).misplaced .initialization _

end Declaration

/-- One step is blamed for the same but for a missing name. -/
theorem Step.faults_fills {x : String} {env env' : Env} (options : Options)
    (taken : String → Bool) (h : env.Fills x env') (s : Step Unit Unit) :
    (s.resolve env).faults options taken =
      (if (env.binding? x).isSome then [] else s.missing x) ++
        (s.resolve env').faults options taken := by
  cases s with
  | node e => exact e.blame_fills options h
  | typeName d => exact eq_missing_append rfl (d.blameType_fills h)
  | agreement d => exact eq_missing_append rfl (d.blame_fills h)
  | entry d => exact eq_missing_append rfl rfl

/-! ## Points -/

section

variable {x : String} {env env' : Env}

namespace Stmt

theorem leave_fills (h : env.FillsOutside x env') (s : SourceStmt) :
    ((s.resolve env).leave env).FillsOutside x ((s.resolve env').leave env') := by
  cases s with
  | expression | block => exact h
  | declaration d =>
      -- Even if the initial value misses the name, its type is the same.
      have hbinding : (d.resolve env).binding = (d.resolve env').binding :=
        d.binding_fills h.toFills
      rw [resolve, resolve, leave, leave, hbinding]
      exact h.enter _

theorem leaveAll_fills (h : env.FillsOutside x env') (ss : List SourceStmt) :
    (leaveAll env (resolveAll env ss)).FillsOutside x (leaveAll env' (resolveAll env' ss)) := by
  induction ss generalizing env env' with
  | nil => exact h
  | cons s ss ih => exact ih (leave_fills h s)

theorem opened_fills (h : env.FillsOutside x env') (around : List (List SourceStmt)) :
    (opened env (resolveAround env around)).FillsOutside x
      (opened env' (resolveAround env' around)) := by
  induction around with
  | nil => exact h
  | cons before around ih => exact (leaveAll_fills ih before).toFills.push

end Stmt

/-- At every point of a block the two environments differ in `x` alone. -/
theorem Point.fills (h : env.FillsOutside x env') (p : Point Unit Unit) :
    ((p.resolve env).env env).FillsOutside x ((p.resolve env').env env') :=
  Stmt.leaveAll_fills (Stmt.opened_fills h p.around) p.before

theorem Point.isTaken_resolve_push (env env' : Env) (p : Point Unit Unit) :
    (p.resolve env.push).isTaken env.push = (p.resolve env'.push).isTaken env'.push := by
  rw [isTaken_push, isTaken_push]
  funext name
  exact (Stmt.isSome_firstDeclaration?_resolveAll _ name p.before).trans
    (Stmt.isSome_firstDeclaration?_resolveAll _ name p.before).symm

end

/-! ## Runs -/

/-- A variable of unknown type is less precise than any other of its name. -/
theorem Env.assume_lessPrecise (env : Env) (x : String) (t : Ty) :
    (env.assume x .any).LessPrecise (env.assume x t) := by
  have hrefl : ∀ s : Scope, s.LessPrecise s := by
    intro s
    constructor
    · intro name
      cases s.binding? name with
      | none => exact .none
      | some b => exact .some (.refl b)
    · intro word
      cases s.alias? word with
      | none => exact .none
      | some u => exact .some (.refl u)
  exact .cons ((hrefl env.inner).bind rfl ⟨.any t, rfl⟩)
    (List.forall₂_same.mpr fun s _ => hrefl s)

theorem Fewer.eq_nil {ds : List Diagnostic} (h : Fewer ds []) : ds = [] :=
  List.map_eq_nil_iff.mp (List.sublist_nil.mp h)

theorem flatMap_append_of_eq_nil {α β : Type} {l : List α} (f : α → List β) {g : α → List β}
    (h : l.flatMap g = []) : (l.flatMap fun a => f a ++ g a) = l.flatMap f := by
  refine List.flatMap_congr fun a ha => ?_
  rw [List.flatMap_eq_nil_iff.mp h a ha, List.append_nil]

section

variable {x : String} {env : Env} (options : Options)

namespace Expr

theorem nodes_alike (hx : env.binding? x = none) (e : SourceExpr) :
    List.Forall₂ Alike (e.resolve env).nodes (e.resolve (env.assume x .any)).nodes := by
  rw [nodes_resolve, nodes_resolve, List.forall₂_map_left_iff, List.forall₂_map_right_iff]
  exact List.forall₂_same.mpr fun n _ => resolve_alike (Env.fills_assume hx) n

/-- What is wrong with an expression is what is wrong if the variable is there,
and in front of each node that the name is missing. -/
theorem violations_assume (hx : env.binding? x = none) (e : SourceExpr) :
    (e.resolve env).violations options =
      (e.resolve (env.assume x .any)).nodes.flatMap fun n => n.missing x ++ n.blame options := by
  unfold violations
  rw [nodes_resolve, nodes_resolve, List.flatMap_map, List.flatMap_map]
  refine List.flatMap_congr fun n _ => ?_
  have hblame := n.blame_fills options (Env.fills_assume hx)
  rwa [hx, ← missing_resolve (env.assume x .any)] at hblame

/-- If nothing is wrong with some type of the variable, then only its name is
missing. -/
theorem violations_of_assume_eq_nil (hx : env.binding? x = none) {t : Ty} {e : SourceExpr}
    (h : (e.resolve (env.assume x t)).violations options = []) :
    (e.resolve env).violations options = e.nodes.flatMap (missing x) := by
  -- With a variable of unknown type there is no more wrong than with the type.
  have hfewer := violations_fewer options (env.assume_lessPrecise x t) e
  rw [h] at hfewer
  have hnames : (e.resolve (env.assume x .any)).nodes.flatMap (missing x) =
      e.nodes.flatMap (missing x) := by
    rw [nodes_resolve, List.flatMap_map]
    exact List.flatMap_congr fun n _ => n.missing_resolve _ x
  have hquiet : (e.resolve (env.assume x .any)).nodes.flatMap (blame options) = [] :=
    hfewer.eq_nil
  rw [violations_assume options hx, flatMap_append_of_eq_nil _ hquiet, hnames]

end Expr

/-- One step in a block is blamed for the same but for the missing name. -/
theorem Point.faults_assume (hx : env.binding? x = none) (p : Point Unit Unit)
    (s : Step Unit Unit) :
    (s.resolve ((p.resolve env.push).env env.push)).faults options
        ((p.resolve env.push).isTaken env.push) =
      p.missing x s ++ (s.resolve ((p.resolve (env.assume x .any).push).env
        (env.assume x .any).push)).faults options
          ((p.resolve (env.assume x .any).push).isTaken (env.assume x .any).push) := by
  have hfills := Point.fills (Env.fills_assume hx).push p
  -- The name means something at the point exactly if the block declares it in front.
  have hknown : (((p.resolve env.push).env env.push).binding? x).isSome =
      (p.inForce? x).isSome := by
    rw [binding?_env rfl, Env.binding?_push, hx, Option.or_none, Option.isSome_map,
      isSome_inForce?_resolve]
  rw [s.faults_fills options _ hfills.toFills, hknown,
    isTaken_resolve_push env (env.assume x .any)]
  rfl

namespace Stmt

theorem nodesAll_alike (hx : env.binding? x = none) (body : List SourceStmt) :
    List.Forall₂ Expr.Alike (nodesAll (resolveAll env.push body))
      (nodesAll (resolveAll (env.assume x .any).push body)) := by
  rw [← nodes_walk, ← nodes_walk, walk_resolveAll, walk_resolveAll, List.filterMap_map,
    List.filterMap_map]
  refine List.rel_filterMap ?_ (List.forall₂_same.mpr fun _ _ => rfl)
  rintro ⟨p, s⟩ _ rfl
  have hfills := Point.fills (Env.fills_assume hx).push p
  cases s with
  | node e => exact .some (Expr.resolve_alike hfills.toFills e)
  | typeName | agreement | entry => exact .none

/-- What is wrong with a block is what is wrong if the variable is there, and in
front of each step that the name is missing. -/
theorem violationsAll_assume (hx : env.binding? x = none) (body : List SourceStmt) :
    violationsAll options env.push (resolveAll env.push body) =
      (walk (resolveAll (env.assume x .any).push body)).flatMap fun q =>
        q.1.missing x q.2 ++ q.2.faults options (q.1.isTaken (env.assume x .any).push) := by
  rw [violationsAll_eq_walk, walk_resolveAll, walk_resolveAll, List.flatMap_map,
    List.flatMap_map]
  refine List.flatMap_congr fun q _ => ?_
  rw [Point.missing_resolve]
  exact q.1.faults_assume options hx q.2

theorem violationsAll_of_assume_eq_nil (hx : env.binding? x = none) {t : Ty}
    {body : List SourceStmt}
    (h : violationsAll options (env.assume x t).push
      (resolveAll (env.assume x t).push body) = []) :
    violationsAll options env.push (resolveAll env.push body) =
      (walk body).flatMap fun q => q.1.missing x q.2 := by
  have hfewer := violationsAll_fewer options (env.assume_lessPrecise x t).push body
  rw [h] at hfewer
  have hquiet := hfewer.eq_nil
  rw [violationsAll_eq_walk] at hquiet
  rw [violationsAll_assume options hx, flatMap_append_of_eq_nil _ hquiet, walk_resolveAll,
    List.flatMap_map]
  exact List.flatMap_congr fun q _ => Point.missing_resolve _ _ x q.1 q.2

end Stmt

end

/-- **An undeclared variable costs one diagnostic for each occurrence.** If `x`
means nothing in `env`, then checking an expression or a block there gives it
back with every node of the type and the writability that it has if `x` is a
variable of unknown type. The same is reported at each step of the walk, and in front of it that `x`
is not declared if the step comes to an occurrence for which no declaration in
the block is in force. If there is any type of `x` with which nothing would be
reported, then these occurrences are all that is. -/
theorem undeclared_costs_one (options : Options) {env : Env} {x : String}
    (hx : env.binding? x = none) :
    (∀ e : SourceExpr,
      (checkExpr options env e).tree.erase = e ∧
      List.Forall₂ Expr.Alike (checkExpr options env e).tree.nodes
        (checkExpr options (env.assume x .any) e).tree.nodes ∧
      (checkExpr options (env.assume x .any) e).log.toList =
        (checkExpr options (env.assume x .any) e).tree.nodes.flatMap (Expr.blame options) ∧
      (checkExpr options env e).log.toList =
        (checkExpr options (env.assume x .any) e).tree.nodes.flatMap (fun n =>
          n.missing x ++ n.blame options) ∧
      ∀ t, (checkExpr options (env.assume x t) e).log = #[] →
        (checkExpr options env e).log.toList = e.nodes.flatMap (Expr.missing x)) ∧
    ∀ (log : Log) (body : List SourceStmt),
      Stmt.eraseAll (checkBlock options env log body).tree = body ∧
      List.Forall₂ Expr.Alike (Stmt.nodesAll (checkBlock options env log body).tree)
        (Stmt.nodesAll (checkBlock options (env.assume x .any) log body).tree) ∧
      (checkBlock options (env.assume x .any) log body).log.toList = log.toList ++
        (Stmt.walk (checkBlock options (env.assume x .any) log body).tree).flatMap (fun q =>
          q.2.faults options (q.1.isTaken (env.assume x .any).push)) ∧
      (checkBlock options env log body).log.toList = log.toList ++
        (Stmt.walk (checkBlock options (env.assume x .any) log body).tree).flatMap (fun q =>
          q.1.missing x q.2 ++ q.2.faults options (q.1.isTaken (env.assume x .any).push)) ∧
      ∀ t, (checkBlock options (env.assume x t) log body).log = log →
        (checkBlock options env log body).log.toList = log.toList ++
          (Stmt.walk body).flatMap fun q => q.1.missing x q.2 := by
  constructor
  · intro e
    refine ⟨erase_tree_checkExpr options env e, ?_⟩
    simp only [checkExpr_eq]
    refine ⟨Expr.nodes_alike hx e, rfl, Expr.violations_assume options hx e, ?_⟩
    intro t hlog
    have hquiet : (e.resolve (env.assume x t)).violations options = [] := by
      simpa using hlog
    exact Expr.violations_of_assume_eq_nil options hx hquiet
  · intro log body
    refine ⟨eraseAll_tree_checkBlock options env log body, ?_,
      log_checkBlock options _ log body, ?_, ?_⟩
    · simpa only [checkBlock_eq] using Stmt.nodesAll_alike hx body
    · simp only [checkBlock_eq, Array.toList_append]
      rw [Stmt.violationsAll_assume options hx]
    · intro t hlog
      have hquiet : Stmt.violationsAll options (env.assume x t).push
          (Stmt.resolveAll (env.assume x t).push body) = [] := by
        simpa [checkBlock_eq] using hlog
      simp only [checkBlock_eq, Array.toList_append]
      rw [Stmt.violationsAll_of_assume_eq_nil options hx hquiet]

/-- An unknown `x` is indexed, flows into a variable and is written to. In the
block inside, the name is declared. -/
def unknownRows : List SourceStmt :=
  let byte (n : Nat) : Span := .within "main" n (n + 1)
  let x (n : Nat) : SourceExpr := .ref "x" () (byte n)
  let item (n : Nat) : SourceExpr := .index (x n) (.number (byte n)) (byte n)
  [.declaration ⟨"sum", none, some (.binary .plus (item 1) (.number (byte 2)) (byte 1)), byte 0⟩,
    .block [.declaration ⟨"x", none, some (item 3), byte 3⟩,
      .expression (.assign (.ref "sum" () (byte 4)) (x 5) (byte 4))] (byte 3),
    .expression (.assign (item 6) (.unary .negate (.ref "sum" () (byte 7)) (byte 7)) (byte 6))]

/-- Nothing is wrong with rows of numbers, so three occurrences are reported
and nothing else. -/
theorem undeclared_costs_one_rows :
    Env.empty.binding? "x" = none ∧
    (checkBlock {} (Env.empty.assume "x" (.array .number)) #[] unknownRows).log = #[] ∧
    (checkBlock {} .empty #[] unknownRows).log.toList =
      [⟨.undeclared "x", 1, "main"⟩, ⟨.undeclared "x", 3, "main"⟩,
        ⟨.undeclared "x", 6, "main"⟩] := by
  have hx : Env.empty.binding? "x" = none := rfl
  have hquiet : (checkBlock {} (Env.empty.assume "x" (.array .number)) #[] unknownRows).log =
      #[] := by
    decide +kernel
  obtain ⟨-, hblock⟩ := undeclared_costs_one {} hx
  obtain ⟨-, -, -, -, hconsequence⟩ := hblock #[] unknownRows
  refine ⟨hx, hquiet, ?_⟩
  rw [hconsequence _ hquiet]
  decide +kernel

end Gradual
