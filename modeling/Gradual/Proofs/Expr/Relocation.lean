import Gradual.Proofs.Faults

/-!
# Relocated expressions

An expression that is read from another place is the same one with other
positions in it. No rule asks a position for anything, so such an expression has
the same types and its names mean the same (`Expr.relocate_resolve`); a position
is only ever handed on to a diagnostic, and what is wrong with the expression is
reported at the new places (`Expr.violations_relocate`).

The positions that are handed on are those at which a part of the expression
begins (`Expr.exists_node_of_mem_violations`).
-/

namespace Gradual

variable {ρ : Type}

/-- The span with its ends moved. -/
def Span.relocate (f : Position → Position) (s : Span) : Span :=
  ⟨f s.start, f s.stop⟩

/-- The same diagnostic at another place. -/
def Diagnostic.relocate (f : Position → Position) (d : Diagnostic) : Diagnostic :=
  { d with position := f d.position }

namespace Expr

mutual

/-- The same expression at another place. -/
def relocate (f : Position → Position) : Expr ρ → Expr ρ
  | number span => number (span.relocate f)
  | character value span => character value (span.relocate f)
  | string value span => string value (span.relocate f)
  | boolean value span => boolean value (span.relocate f)
  | array elements span => array (relocateAll f elements) (span.relocate f)
  | ref name target span => ref name target (span.relocate f)
  | index base subscript span =>
      index (relocate f base) (relocate f subscript) (span.relocate f)
  | binary op left right span =>
      binary op (relocate f left) (relocate f right) (span.relocate f)
  | unary op operand span => unary op (relocate f operand) (span.relocate f)
  | assign target value span =>
      assign (relocate f target) (relocate f value) (span.relocate f)

def relocateAll (f : Position → Position) : List (Expr ρ) → List (Expr ρ)
  | [] => []
  | e :: rest => relocate f e :: relocateAll f rest

end

variable (f : Position → Position)

theorem relocateAll_eq_map (es : List (Expr ρ)) : relocateAll f es = es.map (relocate f) := by
  induction es with
  | nil => rfl
  | cons e rest ih => rw [relocateAll, ih, List.map_cons]

@[simp] theorem start_relocate (e : Expr ρ) : (e.relocate f).start = f e.start := by
  cases e <;> rfl

/-! ## Types and names -/

theorem ty_relocate : ∀ e : ResolvedExpr, (e.relocate f).ty = e.ty
  | number _ | character _ _ | string _ _ | boolean _ _ | array [] _ | ref _ _ _
  | binary _ _ _ _ | unary _ _ _ => rfl
  | array (first :: _) _ => congrArg Ty.array (ty_relocate first)
  | index base _ _ => congrArg Ty.item (ty_relocate base)
  | assign target _ _ => ty_relocate target

theorem isWritable_relocate : ∀ e : ResolvedExpr, (e.relocate f).isWritable = e.isWritable
  | number _ | character _ _ | string _ _ | boolean _ _ | array _ _ | ref _ _ _
  | binary _ _ _ _ | unary _ _ _ | assign _ _ _ => rfl
  | index base _ _ => by
      rw [relocate, isWritable, isWritable, ty_relocate, isWritable_relocate base]

mutual

theorem resolve_relocate (env : Env) : ∀ e : SourceExpr,
    (e.relocate f).resolve env = (e.resolve env).relocate f
  | number _ | character _ _ | string _ _ | boolean _ _ | ref _ _ _ => rfl
  | array elements span => by
      rw [relocate, resolve, resolve, relocate, resolveAll_relocateAll env elements]
  | index base subscript span => by
      rw [relocate, resolve, resolve, relocate, resolve_relocate env base,
        resolve_relocate env subscript]
  | binary op left right span => by
      rw [relocate, resolve, resolve, relocate, resolve_relocate env left,
        resolve_relocate env right]
  | unary op operand span => by
      rw [relocate, resolve, resolve, relocate, resolve_relocate env operand]
  | assign target value span => by
      rw [relocate, resolve, resolve, relocate, resolve_relocate env target,
        resolve_relocate env value]

/-- Names mean the same at any place. -/
theorem resolveAll_relocateAll (env : Env) : ∀ es : List SourceExpr,
    resolveAll env (relocateAll f es) = relocateAll f (resolveAll env es)
  | [] => rfl
  | e :: rest => by
      rw [relocateAll, resolveAll, resolveAll, relocateAll, resolve_relocate env e,
        resolveAll_relocateAll env rest]

end

theorem nodes_relocate (e : Expr ρ) : (e.relocate f).nodes = e.nodes.map (relocate f) := by
  refine nodes_map (fun e => ?_) e
  cases e with
  | array elements span => exact relocateAll_eq_map f elements
  | _ => rfl

/-! ## What is wrong -/

theorem complain_relocate (ok : Bool) (cause : Cause) (position : Position) :
    complain ok cause (f position) =
      (complain ok cause position).map (Diagnostic.relocate f) := by
  cases ok <;> rfl

theorem unmet_relocate (r : Requirement) (operator : String) (e : ResolvedExpr) :
    unmet r operator (e.relocate f) = (unmet r operator e).map (Diagnostic.relocate f) := by
  rw [unmet, unmet, ty_relocate, start_relocate, complain_relocate]

theorem misplaced_relocate (site : Site) (expected : Ty) (e : ResolvedExpr) :
    misplaced site expected (e.relocate f) =
      (misplaced site expected e).map (Diagnostic.relocate f) := by
  rw [misplaced, misplaced, ty_relocate, start_relocate, complain_relocate]

theorem blameRelational_relocate (options : Options) (operator : String)
    (left right : ResolvedExpr) :
    blameRelational options operator (left.relocate f) (right.relocate f) =
      (blameRelational options operator left right).map (Diagnostic.relocate f) := by
  unfold blameRelational
  rw [ty_relocate, start_relocate]
  cases left.ty with
  | number | character | string => exact unmet_relocate f _ operator right
  | any => rfl
  | boolean | array => exact complain_relocate f _ _ left.start

theorem blameBinary_relocate (options : Options) (op : BinaryOp) (left right : ResolvedExpr)
    (position : Position) :
    blameBinary options op (left.relocate f) (right.relocate f) (f position) =
      (blameBinary options op left right position).map (Diagnostic.relocate f) := by
  unfold blameBinary
  cases op.family with
  | arithmetic | shift | logical =>
      simp only [unmet_relocate, List.map_append]
  | relational => exact blameRelational_relocate f options op.token left right
  | equality =>
      simp only [ty_relocate]
      exact complain_relocate f _ _ position

/-- A node is blamed for the same, at its place and at those of its parts. -/
theorem blame_relocate (options : Options) (e : ResolvedExpr) :
    blame options (e.relocate f) = (blame options e).map (Diagnostic.relocate f) := by
  cases e with
  | number | character | string | boolean => rfl
  | array elements span =>
      cases elements with
      | nil => rfl
      | cons first rest =>
          rw [relocate, relocateAll, blame, blame, ty_relocate, relocateAll_eq_map,
            List.flatMap_map, List.map_flatMap]
          exact List.flatMap_congr fun e _ => misplaced_relocate f .element first.ty e
  | ref name target span => exact complain_relocate f _ _ span.start
  | index base subscript span =>
      rw [relocate, blame, blame, unmet_relocate, unmet_relocate, List.map_append]
  | binary op left right span => exact blameBinary_relocate f options op left right span.start
  | unary op operand span => exact unmet_relocate f (requirementOf op) op.token operand
  | assign target value span =>
      rw [relocate, blame, blame, isWritable_relocate, start_relocate, ty_relocate,
        misplaced_relocate, complain_relocate, List.map_append]

theorem violations_relocate (options : Options) (e : ResolvedExpr) :
    (e.relocate f).violations options =
      (e.violations options).map (Diagnostic.relocate f) := by
  unfold violations
  rw [nodes_relocate, List.flatMap_map, List.map_flatMap]
  exact List.flatMap_congr fun n _ => blame_relocate f options n

/-! ## Where it is reported -/

variable {options : Options} {e : ResolvedExpr} {d : Diagnostic}

/-- A fault of a node lies where the node begins, or where one of its parts does. -/
theorem Fault.position_eq (h : e.Fault options d) :
    d.position = e.start ∨ ∃ p ∈ e.parts, d.position = p.start := by
  cases h with
  | undeclared | incomparable => exact Or.inl rfl
  | element span he => exact Or.inr ⟨_, List.mem_cons_of_mem _ he, rfl⟩
  | base | unordered | notWritable => exact Or.inr ⟨_, List.mem_cons_self .., rfl⟩
  | subscript | ordered | assigned =>
      exact Or.inr ⟨_, List.mem_cons_of_mem _ (List.mem_singleton_self _), rfl⟩
  | arithmetic span _ he | shift span _ he | logical span _ he => exact Or.inr ⟨_, he, rfl⟩
  | negate | not | length => exact Or.inr ⟨_, List.mem_singleton_self _, rfl⟩

/-- What is wrong with an expression is reported where one of its nodes begins. -/
theorem exists_node_of_mem_violations (h : d ∈ e.violations options) :
    ∃ n ∈ e.nodes, d.position = n.start := by
  obtain ⟨n, hn, hd⟩ := List.mem_flatMap.mp h
  rcases (mem_blame_iff.mp hd).position_eq with hposition | ⟨p, hp, hposition⟩
  · exact ⟨n, hn, hposition⟩
  · exact ⟨p, mem_nodes_trans (mem_nodes_of_mem_parts hp) hn, hposition⟩

end Expr

end Gradual
