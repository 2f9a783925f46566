import Gradual.Expr.Check
import Mathlib.Data.List.Basic

/-!
# Checking an expression: names first, rules afterwards

The walk over an expression interleaves two things that do not need each
other. What a name means depends on the environment alone, and what is wrong
with a node can be read off the node once its names are resolved.

- `Expr.resolve` looks the names up and reports nothing.
- `Expr.blame` lists what is wrong with one resolved node, and
  `Expr.violations` puts these lists together in the order of the walk.
- `Expr.check_writes` is the bridge: the walk gives the resolved expression
  and writes its violations at the end of the log, whatever the log holds.

Everything else about expressions is proved about these three functions, by
induction on the tree and without a log.
-/

namespace Gradual

/-! ## What a check writes -/

namespace CheckM

variable {α β : Type}

/-- `x` gives `a` and puts `ds` at the end of any log. -/
def Writes (x : CheckM α) (a : α) (ds : List Diagnostic) : Prop :=
  ∀ log, x.run log = (a, log ++ ds.toArray)

theorem Writes.pure (a : α) : (pure a : CheckM α).Writes a [] := by
  intro log
  simp

theorem Writes.bind {x : CheckM α} {a : α} {ds : List Diagnostic}
    {f : α → CheckM β} {b : β} {es : List Diagnostic} (hx : x.Writes a ds)
    (hf : (f a).Writes b es) : (x >>= f).Writes b (ds ++ es) := by
  intro log
  rw [run_bind, hx log, hf]
  simp [Array.append_assoc]

/-- A rule that is checked in front of another step. -/
theorem Writes.then {x : CheckM Unit} {ds : List Diagnostic} {y : CheckM β} {b : β}
    {es : List Diagnostic} (hx : x.Writes () ds) (hy : y.Writes b es) :
    (x >>= fun _ => y).Writes b (ds ++ es) :=
  hx.bind hy

/-- A last step, whose result is handed on. -/
theorem Writes.map {x : CheckM α} {a : α} {ds : List Diagnostic} (hx : x.Writes a ds)
    (f : α → β) : (x >>= fun a => Pure.pure (f a)).Writes (f a) ds := by
  have h := hx.bind (f := fun a => Pure.pure (f a)) (Writes.pure (f a))
  rwa [List.append_nil] at h

end CheckM

open CheckM

theorem report_writes (cause : Cause) (position : Position) :
    (report cause position).Writes () [⟨cause, position⟩] := by
  intro log
  simp

/-- The diagnostic of a condition that fails, and nothing if it holds. -/
def complain (ok : Bool) (cause : Cause) (position : Position) : List Diagnostic :=
  if ok then [] else [⟨cause, position⟩]

@[simp] theorem complain_true (cause : Cause) (position : Position) :
    complain true cause position = [] := rfl

@[simp] theorem complain_eq_nil {ok : Bool} {cause : Cause} {position : Position} :
    complain ok cause position = [] ↔ ok = true := by
  cases ok <;> simp [complain]

theorem complain_writes (ok : Bool) (cause : Cause) (position : Position) :
    (if ok then pure () else report cause position : CheckM Unit).Writes ()
      (complain ok cause position) := by
  cases ok
  · exact report_writes cause position
  · exact Writes.pure ()

namespace Expr

variable {ρ : Type}

/-! ## Nodes -/

mutual

/-- The nodes of an expression in the order of the walk: the parts in front of
the whole, from left to right. -/
def nodes : Expr ρ → List (Expr ρ)
  | number span => [number span]
  | character value span => [character value span]
  | string value span => [string value span]
  | boolean value span => [boolean value span]
  | array elements span => nodesAll elements ++ [array elements span]
  | ref name target span => [ref name target span]
  | index base subscript span =>
      base.nodes ++ subscript.nodes ++ [index base subscript span]
  | binary op left right span => left.nodes ++ right.nodes ++ [binary op left right span]
  | unary op operand span => operand.nodes ++ [unary op operand span]
  | assign target value span => target.nodes ++ value.nodes ++ [assign target value span]

/-- The nodes of expressions that stand side by side. -/
def nodesAll : List (Expr ρ) → List (Expr ρ)
  | [] => []
  | e :: rest => e.nodes ++ nodesAll rest

end

theorem nodesAll_eq_flatMap (es : List (Expr ρ)) : nodesAll es = es.flatMap nodes := by
  induction es with
  | nil => rfl
  | cons e rest ih => rw [nodesAll, ih, List.flatMap_cons]

/-- The expressions that a node is made of. -/
def parts : Expr ρ → List (Expr ρ)
  | array elements _ => elements
  | index left right _ | binary _ left right _ | assign left right _ => [left, right]
  | unary _ operand _ => [operand]
  | number _ | character _ _ | string _ _ | boolean _ _ | ref _ _ _ => []

theorem nodes_eq_parts (e : Expr ρ) : e.nodes = e.parts.flatMap nodes ++ [e] := by
  cases e <;> simp [nodes, parts, nodesAll_eq_flatMap]

/-- Induction over the parts of a node, for what treats all nodes alike. -/
theorem parts_induct {motive : Expr ρ → Prop}
    (node : ∀ e, (∀ p ∈ e.parts, motive p) → motive e) (e : Expr ρ) : motive e := by
  induction e with
  | number | character | string | boolean | ref => exact node _ nofun
  | array elements span ih => exact node _ ih
  | index left right span ih₁ ih₂ | binary op left right span ih₁ ih₂
  | assign left right span ih₁ ih₂ =>
      refine node _ fun p hp => ?_
      rcases List.mem_pair.mp hp with rfl | rfl
      · exact ih₁
      · exact ih₂
  | unary op operand span ih =>
      refine node _ fun p hp => ?_
      obtain rfl := List.mem_singleton.mp hp
      exact ih

/-- A map over expressions that goes through the parts goes through the nodes. -/
theorem nodes_map {σ : Type} {φ : Expr ρ → Expr σ} (h : ∀ e, (φ e).parts = e.parts.map φ)
    (e : Expr ρ) : (φ e).nodes = e.nodes.map φ := by
  induction e using parts_induct with
  | node e ih =>
      rw [nodes_eq_parts, nodes_eq_parts e, h, List.flatMap_map, List.map_append,
        List.map_flatMap, List.flatMap_congr ih]
      rfl

/-- An expression is its own last node. -/
theorem self_mem_nodes (e : Expr ρ) : e ∈ e.nodes := by
  cases e <;> simp [nodes]

theorem mem_nodes_of_mem_parts {e p : Expr ρ} (h : p ∈ e.parts) : p ∈ e.nodes := by
  rw [nodes_eq_parts]
  exact List.mem_append_left _ (List.mem_flatMap.mpr ⟨p, h, self_mem_nodes p⟩)

/-- A node of a node is a node. -/
theorem mem_nodes_trans {n m e : Expr ρ} (hn : n ∈ m.nodes) (hm : m ∈ e.nodes) :
    n ∈ e.nodes := by
  induction e using parts_induct with
  | node e ih =>
      rw [nodes_eq_parts, List.mem_append, List.mem_flatMap] at hm
      rcases hm with ⟨p, hp, hm⟩ | hm
      · rw [nodes_eq_parts]
        exact List.mem_append_left _ (List.mem_flatMap.mpr ⟨p, hp, ih p hp hm⟩)
      · obtain rfl := List.mem_singleton.mp hm
        exact hn

/-! ## Looking names up -/

mutual

/-- The expression with every reference bound to what its name means. -/
def resolve (env : Env) : SourceExpr → ResolvedExpr
  | number span => number span
  | character value span => character value span
  | string value span => string value span
  | boolean value span => boolean value span
  | array elements span => array (resolveAll env elements) span
  | ref name _ span => ref name (env.binding? name) span
  | index base subscript span => index (resolve env base) (resolve env subscript) span
  | binary op left right span => binary op (resolve env left) (resolve env right) span
  | unary op operand span => unary op (resolve env operand) span
  | assign target value span => assign (resolve env target) (resolve env value) span

def resolveAll (env : Env) : List SourceExpr → List ResolvedExpr
  | [] => []
  | e :: rest => resolve env e :: resolveAll env rest

end

theorem resolveAll_eq_map (env : Env) (es : List SourceExpr) :
    resolveAll env es = es.map (resolve env) := by
  induction es with
  | nil => rfl
  | cons e rest ih => rw [resolveAll, ih, List.map_cons]

/-- A reference carries what its name means. -/
theorem target_eq_of_resolve {env : Env} {e : SourceExpr} {name : String}
    {target : Option Binding} {span : Span} (h : ref name target span = e.resolve env) :
    target = env.binding? name := by
  cases e with
  | ref =>
      obtain ⟨rfl, htarget, -⟩ := Expr.ref.inj h
      exact htarget
  | number | character | string | boolean | array | index | binary | unary | assign => cases h

@[simp] theorem span_resolve (env : Env) (e : SourceExpr) :
    (e.resolve env).span = e.span := by
  cases e <;> rfl

@[simp] theorem start_resolve (env : Env) (e : SourceExpr) :
    (e.resolve env).start = e.start := by
  simp [start]

mutual

/-- The expression as it was before its names were looked up. -/
def erase : Expr ρ → SourceExpr
  | number span => number span
  | character value span => character value span
  | string value span => string value span
  | boolean value span => boolean value span
  | array elements span => array (eraseAll elements) span
  | ref name _ span => ref name () span
  | index base subscript span => index base.erase subscript.erase span
  | binary op left right span => binary op left.erase right.erase span
  | unary op operand span => unary op operand.erase span
  | assign target value span => assign target.erase value.erase span

def eraseAll : List (Expr ρ) → List SourceExpr
  | [] => []
  | e :: rest => e.erase :: eraseAll rest

end

theorem start_erase (e : Expr ρ) : e.erase.start = e.start := by
  cases e <;> rfl

mutual

/-- Looking names up changes nothing but the references. -/
@[simp] theorem erase_resolve (env : Env) : ∀ e : SourceExpr, (e.resolve env).erase = e
  | number _ | character _ _ | string _ _ | boolean _ _ | ref _ _ _ => rfl
  | array elements span => by
      rw [resolve, erase, eraseAll_resolveAll env elements]
  | index base subscript span => by
      rw [resolve, erase, erase_resolve env base, erase_resolve env subscript]
  | binary op left right span => by
      rw [resolve, erase, erase_resolve env left, erase_resolve env right]
  | unary op operand span => by
      rw [resolve, erase, erase_resolve env operand]
  | assign target value span => by
      rw [resolve, erase, erase_resolve env target, erase_resolve env value]

theorem eraseAll_resolveAll (env : Env) :
    ∀ es : List SourceExpr, eraseAll (resolveAll env es) = es
  | [] => rfl
  | e :: rest => by
      rw [resolveAll, eraseAll, erase_resolve env e, eraseAll_resolveAll env rest]

end

/-- The nodes of the resolved expression are the resolved nodes. -/
theorem nodes_resolve (env : Env) (e : SourceExpr) :
    (e.resolve env).nodes = e.nodes.map (resolve env) := by
  refine nodes_map (fun e => ?_) e
  cases e with
  | array elements span => exact resolveAll_eq_map env elements
  | _ => rfl

theorem target_eq_of_mem_nodes {env : Env} {e : SourceExpr} {name : String}
    {target : Option Binding} {span : Span} (h : ref name target span ∈ (e.resolve env).nodes) :
    target = env.binding? name := by
  rw [nodes_resolve, List.mem_map] at h
  obtain ⟨m, -, hm⟩ := h
  exact target_eq_of_resolve hm.symm

theorem map_erase_nodes_resolve (env : Env) (e : SourceExpr) :
    (e.resolve env).nodes.map erase = e.nodes := by
  rw [nodes_resolve, List.map_map]
  simp [Function.comp_def]

/-! ## What is wrong with a node -/

/-- An operand that is not what the operator asks for. -/
def unmet (r : Requirement) (operator : String) (e : ResolvedExpr) : List Diagnostic :=
  complain (r.admits e.ty) (.operand r operator e.ty) e.start

theorem unmet_number_eq_nil {e : ResolvedExpr} (h : e.ty = .number) (operator : String) :
    unmet .number operator e = [] := by
  rw [unmet, h]
  rfl

/-- A value that does not agree with the type expected where it stands. -/
def misplaced (site : Site) (expected : Ty) (e : ResolvedExpr) : List Diagnostic :=
  complain (e.ty.assignable expected) (.mismatch site expected e.ty) e.start

/-- What is wrong with the operands of an order comparison. -/
def blameRelational (options : Options) (operator : String) (left right : ResolvedExpr) :
    List Diagnostic :=
  match left.ty with
  | .number => unmet .number operator right
  | .character => unmet .character operator right
  | .string => unmet .string operator right
  | .any => []
  | .boolean | .array _ =>
      complain (!options.strictRelational) (.unordered operator left.ty) left.start

/-- What is wrong with the operands of a binary operator. -/
def blameBinary (options : Options) (op : BinaryOp) (left right : ResolvedExpr)
    (position : Position) : List Diagnostic :=
  match op.family with
  | .arithmetic => unmet .number op.token left ++ unmet .number op.token right
  | .shift => unmet .integer op.token left ++ unmet .integer op.token right
  | .logical => unmet .boolean op.token left ++ unmet .boolean op.token right
  | .relational => blameRelational options op.token left right
  | .equality =>
      complain (equatable left.ty right.ty) (.incomparable op.token left.ty right.ty) position

/-- What is wrong with a node, its parts left aside. -/
def blame (options : Options) : ResolvedExpr → List Diagnostic
  | number _ | character _ _ | string _ _ | boolean _ _ => []
  | array [] _ => []
  | array (first :: rest) _ => rest.flatMap (misplaced .element first.ty)
  | ref name target span => complain target.isSome (.undeclared name) span.start
  | index base subscript _ => unmet .sequence "[]" base ++ unmet .integer "[]" subscript
  | binary op left right span => blameBinary options op left right span.start
  | unary op operand _ => unmet (requirementOf op) op.token operand
  | assign target value _ =>
      complain target.isWritable .notWritable target.start ++
        misplaced .assignment target.ty value

/-- What is wrong with an expression, in the order of the walk. -/
def violations (options : Options) (e : ResolvedExpr) : List Diagnostic :=
  e.nodes.flatMap (blame options)

/-- Nothing is wrong with the nodes of an expression that nothing is wrong
with. -/
theorem violations_eq_nil_of_mem {options : Options} {e n : ResolvedExpr} (hn : n ∈ e.nodes)
    (h : e.violations options = []) : n.violations options = [] := by
  unfold violations at h ⊢
  rw [List.flatMap_eq_nil_iff] at h ⊢
  intro m hm
  exact h m (mem_nodes_trans hm hn)

/-- Nothing is wrong with the expression, and `Q` is true of its nodes. -/
def Passes (options : Options) (Q : ResolvedExpr → Prop) (e : ResolvedExpr) : Prop :=
  (∀ n ∈ e.nodes, Q n) ∧ e.violations options = []

section

variable {options : Options} {Q : ResolvedExpr → Prop} {e n : ResolvedExpr}

theorem Passes.of_mem (h : e.Passes options Q) (hn : n ∈ e.nodes) : n.Passes options Q :=
  ⟨fun m hm => h.1 m (mem_nodes_trans hm hn), violations_eq_nil_of_mem hn h.2⟩

theorem Passes.self (h : e.Passes options Q) : Q e :=
  h.1 e (self_mem_nodes e)

end

/-! ### Violations part by part -/

theorem violations_ref (options : Options) (name : String) (target : Option Binding)
    (span : Span) :
    violations options (ref name target span) =
      complain target.isSome (.undeclared name) span.start := by
  simp [violations, nodes, blame]

/-- A reference that nothing is wrong with has a binding. -/
theorem exists_binding {options : Options} {env : Env} {name : String} {span : Span}
    (h : violations options (resolve env (ref name () span)) = []) :
    ∃ binding, env.binding? name = some binding := by
  rw [resolve, violations_ref, complain_eq_nil] at h
  exact Option.isSome_iff_exists.mp h

theorem violations_array (options : Options) (es : List ResolvedExpr) (span : Span) :
    violations options (array es span) =
      es.flatMap (violations options) ++ blame options (array es span) := by
  have hparts : es.flatMap (violations options) =
      (es.flatMap nodes).flatMap (blame options) := by
    rw [List.flatMap_assoc]
    rfl
  simp [violations, nodes, nodesAll_eq_flatMap, hparts]

theorem violations_index (options : Options) (base subscript : ResolvedExpr) (span : Span) :
    violations options (index base subscript span) =
      violations options base ++ (violations options subscript ++
        blame options (index base subscript span)) := by
  simp [violations, nodes]

theorem violations_binary (options : Options) (op : BinaryOp) (left right : ResolvedExpr)
    (span : Span) :
    violations options (binary op left right span) =
      violations options left ++ (violations options right ++
        blame options (binary op left right span)) := by
  simp [violations, nodes]

theorem violations_unary (options : Options) (op : UnaryOp) (operand : ResolvedExpr)
    (span : Span) :
    violations options (unary op operand span) =
      violations options operand ++ blame options (unary op operand span) := by
  simp [violations, nodes]

theorem violations_assign (options : Options) (target value : ResolvedExpr) (span : Span) :
    violations options (assign target value span) =
      violations options target ++ (violations options value ++
        blame options (assign target value span)) := by
  simp [violations, nodes]

/-! ## The walk -/

theorem require_writes (e : ResolvedExpr) (r : Requirement) (operator : String) :
    (e.require r operator).Writes () (unmet r operator e) :=
  complain_writes _ _ _

theorem expect_writes (e : ResolvedExpr) (site : Site) (expected : Ty) :
    (e.expect site expected).Writes () (misplaced site expected e) :=
  complain_writes _ _ _

theorem requireWritable_writes (e : ResolvedExpr) :
    e.requireWritable.Writes () (complain e.isWritable .notWritable e.start) :=
  complain_writes _ _ _

theorem resolveVariable_writes (env : Env) (name : String) (position : Position) :
    (env.resolveVariable name position).Writes (env.binding? name)
      (complain (env.binding? name).isSome (.undeclared name) position) := by
  unfold Env.resolveVariable
  cases env.binding? name with
  | some binding => exact Writes.pure _
  | none => exact (report_writes _ _).then (Writes.pure _)

theorem forM_expect_writes (site : Site) (expected : Ty) (es : List ResolvedExpr) :
    (es.forM (·.expect site expected)).Writes () (es.flatMap (misplaced site expected)) := by
  induction es with
  | nil => exact Writes.pure ()
  | cons e rest ih => exact (expect_writes e site expected).then ih

theorem checkElements_writes (options : Options) (es : List ResolvedExpr) (span : Span) :
    (checkElements es).Writes () (blame options (array es span)) := by
  cases es with
  | nil => exact Writes.pure ()
  | cons first rest => exact forM_expect_writes .element first.ty rest

theorem checkRelational_writes (options : Options) (operator : String)
    (left right : ResolvedExpr) :
    (checkRelational options operator left right).Writes ()
      (blameRelational options operator left right) := by
  unfold checkRelational blameRelational
  cases hty : left.ty with
  | number =>
      -- The question to the left operand is answered already.
      have hboth := (require_writes left .number operator).then
        (require_writes right .number operator)
      rwa [unmet_number_eq_nil hty] at hboth
  | character | string => exact require_writes right _ operator
  | any => exact Writes.pure ()
  | boolean | array =>
      cases options.strictRelational
      · exact Writes.pure ()
      · exact report_writes _ _

theorem checkBinary_writes (options : Options) (op : BinaryOp) (left right : ResolvedExpr)
    (position : Position) :
    (checkBinary options op left right position).Writes ()
      (blameBinary options op left right position) := by
  unfold checkBinary blameBinary
  cases op.family with
  | arithmetic | shift | logical =>
      exact (require_writes left _ op.token).then (require_writes right _ op.token)
  | relational => exact checkRelational_writes options op.token left right
  | equality => exact complain_writes _ _ _

theorem checkAssign_writes (target value : ResolvedExpr) :
    (checkAssign target value).Writes ()
      (complain target.isWritable .notWritable target.start ++
        misplaced .assignment target.ty value) :=
  (requireWritable_writes target).then (expect_writes value .assignment target.ty)

mutual

/-- The walk gives the resolved expression, and writes its violations. -/
theorem check_writes (options : Options) (env : Env) : ∀ e : SourceExpr,
    (e.check options env).Writes (e.resolve env) ((e.resolve env).violations options)
  | number _ | character _ _ | string _ _ | boolean _ _ => Writes.pure _
  | array elements span => by
      rw [check, resolve, violations_array]
      refine (checkAll_writes options env elements).bind ?_
      exact (checkElements_writes options (resolveAll env elements) span).map _
  | ref name _ span => by
      have h := resolveVariable_writes env name span.start
      rw [check, resolve, violations_ref]
      exact h.map _
  | index base subscript span => by
      rw [check, resolve, violations_index]
      refine (check_writes options env base).bind ?_
      refine (check_writes options env subscript).bind ?_
      have hbase := require_writes (base.resolve env) .sequence "[]"
      have hsubscript := require_writes (subscript.resolve env) .integer "[]"
      exact (hbase.then hsubscript).map _
  | binary op left right span => by
      rw [check, resolve, violations_binary]
      refine (check_writes options env left).bind ?_
      refine (check_writes options env right).bind ?_
      exact (checkBinary_writes options op _ _ span.start).map _
  | unary op operand span => by
      rw [check, resolve, violations_unary]
      refine (check_writes options env operand).bind ?_
      exact (require_writes (operand.resolve env) (requirementOf op) op.token).map _
  | assign target value span => by
      rw [check, resolve, violations_assign]
      refine (check_writes options env target).bind ?_
      refine (check_writes options env value).bind ?_
      exact (checkAssign_writes (target.resolve env) (value.resolve env)).map _

theorem checkAll_writes (options : Options) (env : Env) : ∀ es : List SourceExpr,
    (checkAll options env es).Writes (resolveAll env es)
      ((resolveAll env es).flatMap (violations options))
  | [] => Writes.pure []
  | e :: rest => by
      rw [checkAll, resolveAll, List.flatMap_cons]
      refine (check_writes options env e).bind ?_
      exact (checkAll_writes options env rest).map _

end

end Expr

end Gradual
