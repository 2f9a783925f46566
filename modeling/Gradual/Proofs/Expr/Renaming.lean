import Gradual.Proofs.Expr.Interchange
import Gradual.Proofs.Faults
import Gradual.Proofs.History
import Mathlib.Logic.Function.Basic

/-!
# Renamed expressions

The checker compares names of variables with each other, and that is all it does
with them inside an expression. If all variables get new names, in the expression
and in the scopes around it, then a reference finds the variable that it found
before, under its new name (`Env.binding?_rename`, `Expr.resolve_rename`).

The node around a reference does not see the name at all
(`Expr.interchangeable_rename`), so it is blamed for the same as before. Only a
reference that finds nothing is blamed for its name (`Expr.blame_rename`).
-/

namespace Gradual

/-! ## Renamings -/

/-- New names for variables. Different names stay different, and a constant stays
a constant: an underscore in front is neither given nor taken away. -/
structure Renaming where
  apply : String → String
  injective : Function.Injective apply
  underscore : ∀ name,
    (apply name).toList.head? = some '_' ↔ name.toList.head? = some '_'

instance : CoeFun Renaming fun _ => String → String :=
  ⟨Renaming.apply⟩

/-- What a reference can carry and go by a new name with. -/
class Renamable (ρ : Type) where
  rename : Renaming → ρ → ρ

/-- The variable under its new name, with the type and the flag that it has. -/
def Binding.rename (r : Renaming) (b : Binding) : Binding :=
  { b with name := r b.name }

instance : Renamable Unit :=
  ⟨fun _ target => target⟩

instance : Renamable (Option Binding) :=
  ⟨fun r => Option.map (Binding.rename r)⟩

/-- The causes that name a variable name it by its new name. Type names are not
names of variables. -/
def Cause.rename (r : Renaming) : Cause → Cause
  | untyped name => untyped (r name)
  | undeclared name => undeclared (r name)
  | redeclared name => redeclared (r name)
  | operand required operator found => operand required operator found
  | unordered operator found => unordered operator found
  | incomparable operator left right => incomparable operator left right
  | mismatch site expected received => mismatch site expected received
  | notWritable => notWritable
  | unknownType name => unknownType name

/-- The same diagnostic at the same place. -/
def Diagnostic.rename (r : Renaming) (d : Diagnostic) : Diagnostic :=
  { d with cause := d.cause.rename r }

variable (r : Renaming)

/-! ## Environments -/

/-- The scope with its variables under new names, and its type names as they are. -/
def Scope.rename (s : Scope) : Scope :=
  { s with bindings := s.bindings.map (Binding.rename r) }

/-- The environment with the variables of every scope under new names. -/
def Env.rename (env : Env) : Env :=
  ⟨env.inner.rename r, env.outer.map (Scope.rename r)⟩

theorem Scope.binding?_rename (s : Scope) (name : String) :
    (s.rename r).binding? (r name) = (s.binding? name).map (Binding.rename r) := by
  have hname : ((fun b : Binding => b.name == r name) ∘ Binding.rename r) =
      fun b => b.name == name := by
    funext b
    exact Bool.eq_iff_iff.mpr (by simp [Binding.rename, r.injective.eq_iff])
  unfold binding? rename
  rw [List.find?_map, hname]

namespace Env

theorem scopes_rename (env : Env) : (env.rename r).scopes = env.scopes.map (Scope.rename r) :=
  rfl

theorem push_rename (env : Env) : (env.rename r).push = env.push.rename r :=
  rfl

/-- A new name means what the old one meant. -/
theorem binding?_rename (env : Env) (name : String) :
    (env.rename r).binding? (r name) = (env.binding? name).map (Binding.rename r) := by
  rw [binding?, binding?, scopes_rename, List.findSome?_map, List.map_findSome?]
  exact congrArg (env.scopes.findSome? ·) (funext fun s => s.binding?_rename r name)

/-- Type names mean what they meant. -/
theorem type?_rename (env : Env) (text : String) :
    (env.rename r).type? text = env.type? text := by
  refine History.type?_congr ?_ text
  rw [scopes_rename, List.map_map]
  rfl

/-- A name is taken exactly if the old one was, so a declaration is accepted
exactly if it was. -/
theorem enter_rename (env : Env) (b : Binding) :
    (env.rename r).enter (b.rename r) = (env.enter b).rename r := by
  have htaken : ((env.rename r).inner.binding? (b.rename r).name).isSome =
      (env.inner.binding? b.name).isSome :=
    (congrArg Option.isSome (env.inner.binding?_rename r b.name)).trans Option.isSome_map
  unfold enter
  rw [htaken]
  split <;> rfl

end Env

namespace Expr

/-! ## Expressions -/

variable {ρ : Type} [Renamable ρ]

mutual

/-- The expression with all variables under their new names. -/
def rename : Expr ρ → Expr ρ
  | number span => number span
  | character value span => character value span
  | string value span => string value span
  | boolean value span => boolean value span
  | array elements span => array (renameAll elements) span
  | ref name target span => ref (r name) (Renamable.rename r target) span
  | index base subscript span => index (rename base) (rename subscript) span
  | binary op left right span => binary op (rename left) (rename right) span
  | unary op operand span => unary op (rename operand) span
  | assign target value span => assign (rename target) (rename value) span

def renameAll : List (Expr ρ) → List (Expr ρ)
  | [] => []
  | e :: rest => rename e :: renameAll rest

end

theorem renameAll_eq_map (es : List (Expr ρ)) : renameAll r es = es.map (rename r) := by
  induction es with
  | nil => rfl
  | cons e rest ih => rw [renameAll, ih, List.map_cons]

theorem nodes_rename (e : Expr ρ) : (e.rename r).nodes = e.nodes.map (rename r) := by
  refine nodes_map (fun e => ?_) e
  cases e with
  | array elements span => exact renameAll_eq_map r elements
  | _ => rfl

mutual

theorem resolve_rename (env : Env) : ∀ e : SourceExpr,
    (e.rename r).resolve (env.rename r) = (e.resolve env).rename r
  | number _ | character _ _ | string _ _ | boolean _ _ => rfl
  | array elements span => by
      rw [rename, resolve, resolve, rename, resolveAll_renameAll env elements]
  | ref name _ span => by
      rw [rename, resolve, resolve, rename, Env.binding?_rename]
      rfl
  | index base subscript span => by
      rw [rename, resolve, resolve, rename, resolve_rename env base,
        resolve_rename env subscript]
  | binary op left right span => by
      rw [rename, resolve, resolve, rename, resolve_rename env left, resolve_rename env right]
  | unary op operand span => by
      rw [rename, resolve, resolve, rename, resolve_rename env operand]
  | assign target value span => by
      rw [rename, resolve, resolve, rename, resolve_rename env target, resolve_rename env value]

/-- References find what they found. -/
theorem resolveAll_renameAll (env : Env) : ∀ es : List SourceExpr,
    resolveAll (env.rename r) (renameAll r es) = renameAll r (resolveAll env es)
  | [] => rfl
  | e :: rest => by
      rw [renameAll, resolveAll, resolveAll, renameAll, resolve_rename env e,
        resolveAll_renameAll env rest]

end

/-! ## What is wrong -/

theorem complain_rename (ok : Bool) (cause : Cause) (position : Position) :
    complain ok (cause.rename r) position =
      (complain ok cause position).map (Diagnostic.rename r) := by
  cases ok <;> rfl

/-- The node around an expression does not see which names are in it. -/
theorem interchangeable_rename (e : ResolvedExpr) : Interchangeable (e.rename r) e := by
  induction e using induct with
  | number | character | string | boolean => exact .refl _
  | ref name target span => cases target <;> exact ⟨rfl, rfl, rfl⟩
  | array elements span ih =>
      have hparts : List.Forall₂ Interchangeable (renameAll r elements) elements := by
        rw [renameAll_eq_map, List.forall₂_map_left_iff]
        exact List.forall₂_same.mpr ih
      exact (SameNode.array span hparts).interchangeable
  | index base subscript span ih₁ ih₂ => exact (SameNode.index span ih₁ ih₂).interchangeable
  | binary op left right span ih₁ ih₂ => exact (SameNode.binary op span ih₁ ih₂).interchangeable
  | unary op operand span ih => exact (SameNode.unary op span ih).interchangeable
  | assign target value span ih₁ ih₂ => exact (SameNode.assign span ih₁ ih₂).interchangeable

/-- A node that is no reference is the same over its renamed parts. -/
theorem sameNode_rename {e : ResolvedExpr} (h : ¬ ∃ name target span, e = ref name target span) :
    SameNode (e.rename r) e := by
  cases e with
  | number | character | string | boolean => exact .refl _
  | ref name target span => exact absurd ⟨name, target, span, rfl⟩ h
  | array elements span =>
      refine .array span ?_
      rw [renameAll_eq_map, List.forall₂_map_left_iff]
      exact List.forall₂_same.mpr fun e _ => e.interchangeable_rename r
  | index base subscript span =>
      exact .index span (base.interchangeable_rename r) (subscript.interchangeable_rename r)
  | binary op left right span =>
      exact .binary op span (left.interchangeable_rename r) (right.interchangeable_rename r)
  | unary op operand span => exact .unary op span (operand.interchangeable_rename r)
  | assign target value span =>
      exact .assign span (target.interchangeable_rename r) (value.interchangeable_rename r)

/-- No node but a reference is blamed for a name. -/
theorem Fault.rename_eq {options : Options} {e : ResolvedExpr} {d : Diagnostic}
    (h : e.Fault options d) (href : ¬ ∃ name target span, e = ref name target span) :
    d.rename r = d := by
  cases h with
  | undeclared name span => exact absurd ⟨name, none, span, rfl⟩ href
  | element | base | subscript | arithmetic | shift | logical | ordered | unordered
  | incomparable | negate | not | length | notWritable | assigned => rfl

theorem blame_rename (options : Options) (e : ResolvedExpr) :
    blame options (e.rename r) = (blame options e).map (Diagnostic.rename r) := by
  by_cases href : ∃ name target span, e = ref name target span
  · obtain ⟨name, target, span, rfl⟩ := href
    have hfound : (Renamable.rename r target).isSome = target.isSome := Option.isSome_map
    rw [rename, blame, blame, hfound]
    exact complain_rename r _ (.undeclared name) span.start
  · have hsame : ∀ d ∈ blame options e, d.rename r = d := fun d hd =>
      Fault.rename_eq r (mem_blame_iff.mp hd) href
    rw [(sameNode_rename r href).blame, List.map_congr_left hsame, List.map_id']

theorem violations_rename (options : Options) (e : ResolvedExpr) :
    (e.rename r).violations options =
      (e.violations options).map (Diagnostic.rename r) := by
  unfold violations
  rw [nodes_rename, List.flatMap_map, List.map_flatMap]
  exact List.flatMap_congr fun n _ => blame_rename r options n

end Expr

end Gradual
