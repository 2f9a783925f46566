import Gradual.Diagnostic.Wording
import Gradual.Proofs.Stmt.Resolution
import Mathlib.Data.List.Forall2

/-!
# The gradual guarantee

A type is less precise than another when some of its parts are wildcards and
the rest is the same. Forgetting a part of what an environment says about its
names never makes the checker complain more: what it reports is a part of what
it reported before, in the same order, and no type in the program gets more
precise.

The proof compares two runs over one program. Every operation on types is
monotone (`Ty.LessPrecise`), hence so are the look-ups and the typing of nodes
(`Expr.resolve_lessPrecise`), and every rule complains less about less precise
operands (`Expr.blame_fewer`). Statements carry this along the growing
environments.
-/

namespace Gradual

/-! ## Types -/

namespace Ty

/-- `LessPrecise t u`: the type `t` is `u` with some parts forgotten. -/
inductive LessPrecise : Ty → Ty → Prop where
  | any (t : Ty) : LessPrecise .any t
  | refl (t : Ty) : LessPrecise t t
  | array {t u : Ty} : LessPrecise t u → LessPrecise (.array t) (.array u)

variable {t u t' u' : Ty}

theorem LessPrecise.item (h : LessPrecise t u) : LessPrecise t.item u.item := by
  cases h with
  | any => exact .any _
  | refl => exact .refl _
  | array h => exact h

theorem LessPrecise.nest (n : Nat) (h : LessPrecise t u) :
    LessPrecise (Ty.nest n t) (Ty.nest n u) := by
  induction n with
  | zero => exact h
  | succ n ih => exact .array ih

/-- What a requirement admits it admits less precisely, too. -/
theorem LessPrecise.admits (h : LessPrecise t u) (r : Requirement)
    (hu : r.admits u = true) : r.admits t = true := by
  cases h with
  | any => rfl
  | refl => exact hu
  | array => cases r <;> exact hu

theorem LessPrecise.indexable (h : LessPrecise t u)
    (hu : (u.isArray || u.isAny) = true) : (t.isArray || t.isAny) = true := by
  cases h with
  | any | array => rfl
  | refl => exact hu

/-- Agreement is monotone in both types at once. -/
theorem LessPrecise.assignable (ht : LessPrecise t t') (hu : LessPrecise u u')
    (h : t'.assignable u' = true) : t.assignable u = true := by
  induction ht generalizing u u' with
  | any => exact any_assignable u
  -- Here only the expected type loses something, at a depth that is not known.
  | refl t =>
      induction hu generalizing t with
      | any => exact assignable_any t
      | refl => exact h
      | array _ ih =>
          cases t with
          | any => rfl
          | array t => exact ih t h
          | number | character | string | boolean => cases h
  | array ht ih =>
      cases hu with
      | any => exact assignable_any _
      | array hu => exact ih hu h
      | refl =>
          rename_i u
          cases u with
          | any => rfl
          | array u => exact ih (.refl u) h
          | number | character | string | boolean => cases h

end Ty

theorem Ty.LessPrecise.equatable {t u t' u' : Ty} (ht : LessPrecise t t')
    (hu : LessPrecise u u') (h : Expr.equatable t' u' = true) :
    Expr.equatable t u = true := by
  cases ht with
  | any => rfl
  | refl =>
      cases hu with
      | any => simp [Expr.equatable, isAny]
      | refl => exact h
      | array => cases t <;> first | rfl | exact h
  | array =>
      cases hu with
      | any => rfl
      | refl => cases u <;> first | rfl | exact h
      | array => exact h

/-! ## Environments -/

/-- The same variable with a less precise type. -/
structure Binding.LessPrecise (b₁ b₂ : Binding) : Prop where
  ty : b₁.ty.LessPrecise b₂.ty
  constant : b₁.constant = b₂.constant

/-- The same names with less precise types. -/
structure Scope.LessPrecise (s₁ s₂ : Scope) : Prop where
  binding : ∀ name, Option.Rel Binding.LessPrecise (s₁.binding? name) (s₂.binding? name)
  word : ∀ word, Option.Rel Ty.LessPrecise (s₁.alias? word) (s₂.alias? word)

/-- Scope by scope the same names with less precise types. -/
def Env.LessPrecise (env₁ env₂ : Env) : Prop :=
  List.Forall₂ Scope.LessPrecise env₁.scopes env₂.scopes

theorem Binding.LessPrecise.refl (b : Binding) : LessPrecise b b :=
  ⟨.refl b.ty, rfl⟩

theorem Scope.LessPrecise.empty : LessPrecise {} {} :=
  ⟨fun _ => .none, fun _ => .none⟩

theorem Scope.LessPrecise.bind {s₁ s₂ : Scope} (h : LessPrecise s₁ s₂) {b₁ b₂ : Binding}
    (hname : b₁.name = b₂.name) (hb : b₁.LessPrecise b₂) :
    LessPrecise (s₁.bind b₁) (s₂.bind b₂) := by
  refine ⟨fun name => ?_, h.word⟩
  rw [Scope.binding?_bind, Scope.binding?_bind, ← hname]
  split
  · exact .some hb
  · exact h.binding name

theorem Scope.LessPrecise.setAlias {s₁ s₂ : Scope} (h : LessPrecise s₁ s₂) (word : String)
    {t₁ t₂ : Ty} (ht : t₁.LessPrecise t₂) :
    LessPrecise (s₁.setAlias word t₁) (s₂.setAlias word t₂) := by
  refine ⟨h.binding, fun w => ?_⟩
  rw [Scope.alias?_setAlias, Scope.alias?_setAlias]
  split
  · exact .some ht
  · exact h.word w

theorem isSome_eq_of_rel {α β : Type} {R : α → β → Prop} {a : Option α} {b : Option β}
    (h : Option.Rel R a b) : a.isSome = b.isSome := by
  cases h <;> rfl

theorem rel_orElse {α β : Type} {R : α → β → Prop} {a c : Option α} {b d : Option β}
    (h : Option.Rel R a b) (h' : Option.Rel R c d) : Option.Rel R (a <|> c) (b <|> d) := by
  cases h with
  | none => exact h'
  | some hab => exact .some hab

theorem rel_map {α β γ δ : Type} {R : α → β → Prop} {S : γ → δ → Prop} {f : α → γ}
    {g : β → δ} {a : Option α} {b : Option β} (h : Option.Rel R a b)
    (hfg : ∀ x y, R x y → S (f x) (g y)) : Option.Rel S (a.map f) (b.map g) := by
  cases h with
  | none => exact .none
  | some hab => exact .some (hfg _ _ hab)

/-- Look-ups that agree in every scope agree in the whole stack. -/
theorem findSome?_rel {α β γ δ : Type} {R : γ → δ → Prop} {f : α → Option γ}
    {g : β → Option δ} {l₁ : List α} {l₂ : List β}
    (h : List.Forall₂ (fun a b => Option.Rel R (f a) (g b)) l₁ l₂) :
    Option.Rel R (l₁.findSome? f) (l₂.findSome? g) := by
  induction h with
  | nil => exact .none
  | @cons a b l₁ l₂ hab _ ih =>
      rw [List.findSome?_cons, List.findSome?_cons]
      cases hf : f a with
      | none =>
          cases hg : g b with
          | none => exact ih
          | some d => rw [hf, hg] at hab; cases hab
      | some c =>
          cases hg : g b with
          | none => rw [hf, hg] at hab; cases hab
          | some d => rw [hf, hg] at hab; exact hab

namespace Env.LessPrecise

variable {env₁ env₂ : Env}

theorem binding? (h : LessPrecise env₁ env₂) (name : String) :
    Option.Rel Binding.LessPrecise (env₁.binding? name) (env₂.binding? name) :=
  findSome?_rel (h.imp fun _ _ hs => hs.binding name)

theorem word? (h : LessPrecise env₁ env₂) (word : String) :
    Option.Rel Ty.LessPrecise (env₁.word? word) (env₂.word? word) := by
  have hscopes : Option.Rel Ty.LessPrecise (env₁.scopes.findSome? (·.alias? word))
      (env₂.scopes.findSome? (·.alias? word)) :=
    findSome?_rel (h.imp fun _ _ hs => hs.word word)
  have hbuiltin : Option.Rel Ty.LessPrecise (Ty.builtin? word) (Ty.builtin? word) := by
    cases Ty.builtin? word with
    | none => exact .none
    | some t => exact .some (.refl t)
  exact rel_orElse hscopes hbuiltin

theorem type? (h : LessPrecise env₁ env₂) (text : String) :
    Option.Rel Ty.LessPrecise (env₁.type? text) (env₂.type? text) :=
  rel_map (h.word? (TypeName.parse text).element) fun _ _ ht => ht.nest _

theorem push (h : LessPrecise env₁ env₂) : LessPrecise env₁.push env₂.push :=
  .cons .empty h

/-- Declaring one name on both sides keeps the environments apart by no more. -/
theorem enter (h : LessPrecise env₁ env₂) {b₁ b₂ : Binding} (hname : b₁.name = b₂.name)
    (hb : b₁.LessPrecise b₂) : LessPrecise (env₁.enter b₁) (env₂.enter b₂) := by
  obtain ⟨hinner, houter⟩ := List.forall₂_cons.mp h
  have hnew := isSome_eq_of_rel (hinner.binding b₁.name)
  unfold Env.enter
  rw [← hname, ← hnew]
  split
  · exact h
  · exact .cons (hinner.bind hname hb) houter

end Env.LessPrecise

/-! ## Expressions -/

namespace Expr

/-- What one run finds of a node says no more than what the other finds, and
the node can be written to at least as freely. -/
structure LessPrecise (e₁ e₂ : ResolvedExpr) : Prop where
  ty : e₁.ty.LessPrecise e₂.ty
  start : e₁.start = e₂.start
  isWritable : e₂.isWritable = true → e₁.isWritable = true

theorem ofTarget_lessPrecise {o₁ o₂ : Option Binding}
    (h : Option.Rel Binding.LessPrecise o₁ o₂) :
    (Binding.ofTarget o₁).LessPrecise (Binding.ofTarget o₂) := by
  cases h with
  | none => exact .refl .unknown
  | some hb => exact hb

variable {env₁ env₂ : Env}

theorem ty_resolve_lessPrecise (h : env₁.LessPrecise env₂) : ∀ e : SourceExpr,
    (e.resolve env₁).ty.LessPrecise (e.resolve env₂).ty
  | number _ | character _ _ | string _ _ | boolean _ _ | array [] _ | binary _ _ _ _
  | unary _ _ _ => .refl _
  | array (first :: _) _ => .array (ty_resolve_lessPrecise h first)
  | ref name _ _ => (ofTarget_lessPrecise (h.binding? name)).ty
  | index base _ _ => (ty_resolve_lessPrecise h base).item
  | assign target _ _ => ty_resolve_lessPrecise h target

theorem isWritable_resolve_mono (h : env₁.LessPrecise env₂) : ∀ e : SourceExpr,
    (e.resolve env₂).isWritable = true → (e.resolve env₁).isWritable = true
  | number _ | character _ _ | string _ _ | boolean _ _ | array _ _ | binary _ _ _ _
  | unary _ _ _ | assign _ _ _ => id
  | ref name _ _ => by
      intro hw
      have hconstant := (ofTarget_lessPrecise (h.binding? name)).constant
      simp only [resolve, isWritable] at hw ⊢
      rw [hconstant]
      exact hw
  | index base _ _ => by
      intro hw
      simp only [resolve, isWritable, Bool.and_eq_true] at hw ⊢
      exact ⟨(ty_resolve_lessPrecise h base).indexable hw.1,
        isWritable_resolve_mono h base hw.2⟩

theorem resolve_lessPrecise (h : env₁.LessPrecise env₂) (e : SourceExpr) :
    LessPrecise (e.resolve env₁) (e.resolve env₂) where
  ty := ty_resolve_lessPrecise h e
  start := by rw [start_resolve, start_resolve]
  isWritable := isWritable_resolve_mono h e

end Expr

/-! ## Rules -/

/-- What identifies a diagnostic to a program: its key and its position. -/
def Diagnostic.label (d : Diagnostic) : String × Position :=
  (d.cause.key, d.position)

/-- The labels of `ds` are among those of `es`, in the same order. -/
def Fewer (ds es : List Diagnostic) : Prop :=
  (ds.map Diagnostic.label).Sublist (es.map Diagnostic.label)

theorem Fewer.refl (ds : List Diagnostic) : Fewer ds ds :=
  List.Sublist.refl _

theorem Fewer.nil (ds : List Diagnostic) : Fewer [] ds :=
  List.nil_sublist _

theorem Fewer.append {ds₁ ds₂ es₁ es₂ : List Diagnostic} (h₁ : Fewer ds₁ es₁)
    (h₂ : Fewer ds₂ es₂) : Fewer (ds₁ ++ ds₂) (es₁ ++ es₂) := by
  unfold Fewer
  rw [List.map_append, List.map_append]
  exact List.Sublist.append h₁ h₂

theorem Fewer.flatMap {α : Type} {f g : α → List Diagnostic} :
    ∀ {l : List α}, (∀ a ∈ l, Fewer (f a) (g a)) → Fewer (l.flatMap f) (l.flatMap g)
  | [], _ => Fewer.nil _
  | a :: l, h => by
      rw [List.flatMap_cons, List.flatMap_cons]
      obtain ⟨ha, hl⟩ := List.forall_mem_cons.mp h
      exact ha.append (Fewer.flatMap hl)

theorem complain_fewer {ok₁ ok₂ : Bool} {c₁ c₂ : Cause} {p₁ p₂ : Position}
    (hok : ok₂ = true → ok₁ = true) (hkey : c₁.key = c₂.key) (hp : p₁ = p₂) :
    Fewer (complain ok₁ c₁ p₁) (complain ok₂ c₂ p₂) := by
  cases ok₁ with
  | true => exact Fewer.nil _
  | false =>
      cases ok₂ with
      | true => cases hok rfl
      | false => simp [Fewer, complain, Diagnostic.label, hkey, hp]

namespace Expr

variable {l₁ l₂ r₁ r₂ : ResolvedExpr}

theorem unmet_fewer (h : LessPrecise l₁ l₂) (r : Requirement) (operator : String) :
    Fewer (unmet r operator l₁) (unmet r operator l₂) :=
  complain_fewer (h.ty.admits r) rfl h.start

theorem misplaced_fewer (h : LessPrecise l₁ l₂) (site : Site) {t₁ t₂ : Ty}
    (ht : t₁.LessPrecise t₂) : Fewer (misplaced site t₁ l₁) (misplaced site t₂ l₂) :=
  complain_fewer (h.ty.assignable ht) rfl h.start

/-- The left operand decides. If less is known of it then nothing is asked of
the right one, and an array stays an array. -/
theorem blameRelational_fewer (options : Options) (operator : String)
    (hl : LessPrecise l₁ l₂) (hr : LessPrecise r₁ r₂) :
    Fewer (blameRelational options operator l₁ r₁)
      (blameRelational options operator l₂ r₂) := by
  have hty := hl.ty
  unfold blameRelational
  generalize l₁.ty = t₁ at hty ⊢
  generalize l₂.ty = t₂ at hty ⊢
  cases hty with
  | any => exact Fewer.nil _
  | array => exact complain_fewer id rfl hl.start
  | refl =>
      cases t₁ with
      | number | character | string => exact unmet_fewer hr _ operator
      | any => exact Fewer.nil _
      | boolean | array => exact complain_fewer id rfl hl.start

theorem blameBinary_fewer (options : Options) (op : BinaryOp) (position : Position)
    (hl : LessPrecise l₁ l₂) (hr : LessPrecise r₁ r₂) :
    Fewer (blameBinary options op l₁ r₁ position) (blameBinary options op l₂ r₂ position) := by
  unfold blameBinary
  cases op.family with
  | arithmetic | shift | logical =>
      exact (unmet_fewer hl _ op.token).append (unmet_fewer hr _ op.token)
  | relational => exact blameRelational_fewer options op.token hl hr
  | equality => exact complain_fewer (hl.ty.equatable hr.ty) rfl rfl

variable {env₁ env₂ : Env}

/-- One node is blamed for no more if less is known of its names. -/
theorem blame_fewer (options : Options) (h : env₁.LessPrecise env₂) (e : SourceExpr) :
    Fewer (blame options (e.resolve env₁)) (blame options (e.resolve env₂)) := by
  cases e with
  | number | character | string | boolean => exact Fewer.nil _
  | ref name _ span =>
      have hknown := isSome_eq_of_rel (h.binding? name)
      refine complain_fewer ?_ rfl rfl
      rw [hknown]
      exact id
  | array elements span =>
      cases elements with
      | nil => exact Fewer.nil _
      | cons first rest =>
          simp only [resolve, resolveAll, resolveAll_eq_map, blame, List.flatMap_map]
          refine Fewer.flatMap fun e _ => ?_
          exact misplaced_fewer (resolve_lessPrecise h e) .element
            (ty_resolve_lessPrecise h first)
  | index base subscript span =>
      have hbase := unmet_fewer (resolve_lessPrecise h base) .sequence "[]"
      have hsubscript := unmet_fewer (resolve_lessPrecise h subscript) .integer "[]"
      exact hbase.append hsubscript
  | binary op left right span =>
      exact blameBinary_fewer options op span.start (resolve_lessPrecise h left)
        (resolve_lessPrecise h right)
  | unary op operand span =>
      exact unmet_fewer (resolve_lessPrecise h operand) (requirementOf op) op.token
  | assign target value span =>
      have htarget := resolve_lessPrecise h target
      have hvalue := resolve_lessPrecise h value
      exact (complain_fewer htarget.isWritable rfl htarget.start).append
        (misplaced_fewer hvalue .assignment htarget.ty)

theorem violations_fewer (options : Options) (h : env₁.LessPrecise env₂) (e : SourceExpr) :
    Fewer ((e.resolve env₁).violations options) ((e.resolve env₂).violations options) := by
  simp only [violations, nodes_resolve, List.flatMap_map]
  exact Fewer.flatMap fun n _ => blame_fewer options h n

/-- Node by node, the types that one run finds are less precise. -/
theorem nodes_lessPrecise (h : env₁.LessPrecise env₂) (e : SourceExpr) :
    List.Forall₂ (fun n₁ n₂ => n₁.erase = n₂.erase ∧ n₁.ty.LessPrecise n₂.ty)
      (e.resolve env₁).nodes (e.resolve env₂).nodes := by
  rw [nodes_resolve, nodes_resolve, List.forall₂_map_left_iff, List.forall₂_map_right_iff]
  refine List.forall₂_same.mpr fun n _ => ⟨?_, ty_resolve_lessPrecise h n⟩
  rw [erase_resolve, erase_resolve]

end Expr

/-! ## Statements -/

namespace Declaration

variable {env₁ env₂ : Env}

theorem ty_typeRef_lessPrecise (h : env₁.LessPrecise env₂) (r : TypeRef Unit) :
    (r.resolve env₁).ty.LessPrecise (r.resolve env₂).ty := by
  have hmeaning := h.type? r.name
  unfold TypeRef.resolve TypeRef.ty
  generalize env₁.type? r.name = o₁ at hmeaning ⊢
  generalize env₂.type? r.name = o₂ at hmeaning ⊢
  cases hmeaning with
  | none => exact .refl .any
  | some ht => exact ht

theorem ty_resolve_lessPrecise (h : env₁.LessPrecise env₂) (d : SourceDeclaration) :
    (d.resolve env₁).ty.LessPrecise (d.resolve env₂).ty := by
  obtain ⟨name, type?, init?, span⟩ := d
  cases type? with
  | some r => exact ty_typeRef_lessPrecise h r
  | none =>
      cases init? with
      | some e => exact Expr.ty_resolve_lessPrecise h e
      | none => exact .refl .any

theorem violations_fewer (options : Options) (h : env₁.LessPrecise env₂)
    (d : SourceDeclaration) :
    Fewer ((d.resolve env₁).violations options) ((d.resolve env₂).violations options) := by
  obtain ⟨name, type?, init?, span⟩ := d
  have htype : Fewer (blameType (resolve env₁ ⟨name, type?, init?, span⟩))
      (blameType (resolve env₂ ⟨name, type?, init?, span⟩)) := by
    cases type? with
    | none => exact Fewer.nil _
    | some r =>
        have hknown := isSome_eq_of_rel (h.type? r.name)
        refine complain_fewer ?_ rfl rfl
        simp only [TypeRef.resolve, hknown]
        exact id
  refine htype.append ?_
  cases init? with
  | none => cases type? <;> exact Fewer.refl _
  | some e =>
      refine (Expr.violations_fewer options h e).append ?_
      cases type? with
      | none => exact Fewer.nil _
      | some r =>
          exact Expr.misplaced_fewer (Expr.resolve_lessPrecise h e) .initialization
            (ty_typeRef_lessPrecise h r)

end Declaration

namespace Stmt

theorem leave_lessPrecise {env₁ env₂ : Env} (h : env₁.LessPrecise env₂) (s : SourceStmt) :
    ((s.resolve env₁).leave env₁).LessPrecise ((s.resolve env₂).leave env₂) := by
  cases s with
  | expression | block => exact h
  | declaration d => exact h.enter rfl ⟨Declaration.ty_resolve_lessPrecise h d, rfl⟩

mutual

theorem violations_fewer (options : Options) {env₁ env₂ : Env}
    (h : env₁.LessPrecise env₂) : ∀ s : SourceStmt,
    Fewer ((s.resolve env₁).violations options env₁) ((s.resolve env₂).violations options env₂)
  | declaration d => by
      refine (d.violations_fewer options h).append ?_
      obtain ⟨hinner, -⟩ := List.forall₂_cons.mp h
      have hnew := isSome_eq_of_rel (hinner.binding d.name)
      have hfree : (env₁.inner.binding? d.name).isNone = (env₂.inner.binding? d.name).isNone := by
        rw [← Option.not_isSome, ← Option.not_isSome, hnew]
      exact complain_fewer (fun hnone => hfree.trans hnone) rfl rfl
  | expression e => e.violations_fewer options h
  | block body _ => violationsAll_fewer options h.push body

theorem violationsAll_fewer (options : Options) {env₁ env₂ : Env}
    (h : env₁.LessPrecise env₂) : ∀ ss : List SourceStmt,
    Fewer (violationsAll options env₁ (resolveAll env₁ ss))
      (violationsAll options env₂ (resolveAll env₂ ss))
  | [] => Fewer.nil _
  | s :: rest =>
      (violations_fewer options h s).append
        (violationsAll_fewer options (leave_lessPrecise h s) rest)

end

mutual

theorem nodes_lessPrecise {env₁ env₂ : Env} (h : env₁.LessPrecise env₂) :
    ∀ s : SourceStmt,
    List.Forall₂ (fun n₁ n₂ => n₁.erase = n₂.erase ∧ n₁.ty.LessPrecise n₂.ty)
      (s.resolve env₁).nodes (s.resolve env₂).nodes
  | declaration ⟨_, _, none, _⟩ => .nil
  | declaration ⟨_, _, some e, _⟩ => e.nodes_lessPrecise h
  | expression e => e.nodes_lessPrecise h
  | block body _ => nodesAll_lessPrecise h.push body

theorem nodesAll_lessPrecise {env₁ env₂ : Env} (h : env₁.LessPrecise env₂) :
    ∀ ss : List SourceStmt,
    List.Forall₂ (fun n₁ n₂ => n₁.erase = n₂.erase ∧ n₁.ty.LessPrecise n₂.ty)
      (nodesAll (resolveAll env₁ ss)) (nodesAll (resolveAll env₂ ss))
  | [] => .nil
  | s :: rest =>
      List.rel_append (nodes_lessPrecise h s)
        (nodesAll_lessPrecise (leave_lessPrecise h s) rest)

end

mutual

theorem declarations_lessPrecise {env₁ env₂ : Env} (h : env₁.LessPrecise env₂) :
    ∀ s : SourceStmt,
    List.Forall₂ (fun d₁ d₂ => d₁.erase = d₂.erase ∧ d₁.ty.LessPrecise d₂.ty)
      (s.resolve env₁).declarations (s.resolve env₂).declarations
  | declaration d => by
      refine .cons ⟨?_, Declaration.ty_resolve_lessPrecise h d⟩ .nil
      rw [Declaration.erase_resolve, Declaration.erase_resolve]
  | expression _ => .nil
  | block body _ => declarationsAll_lessPrecise h.push body

theorem declarationsAll_lessPrecise {env₁ env₂ : Env} (h : env₁.LessPrecise env₂) :
    ∀ ss : List SourceStmt,
    List.Forall₂ (fun d₁ d₂ => d₁.erase = d₂.erase ∧ d₁.ty.LessPrecise d₂.ty)
      (declarationsAll (resolveAll env₁ ss)) (declarationsAll (resolveAll env₂ ss))
  | [] => .nil
  | s :: rest =>
      List.rel_append (declarations_lessPrecise h s)
        (declarationsAll_lessPrecise (leave_lessPrecise h s) rest)

end

end Stmt

/-! ## The guarantee -/

/-- What one run over a program finds is less precise than what another finds,
and it reports no more. -/
structure Outcome.LessPrecise (o₁ o₂ : Outcome (List ResolvedStmt)) : Prop where
  nodes : List.Forall₂ (fun n₁ n₂ => n₁.erase = n₂.erase ∧ n₁.ty.LessPrecise n₂.ty)
    (Stmt.nodesAll o₁.tree) (Stmt.nodesAll o₂.tree)
  declarations : List.Forall₂ (fun d₁ d₂ => d₁.erase = d₂.erase ∧ d₁.ty.LessPrecise d₂.ty)
    (Stmt.declarationsAll o₁.tree) (Stmt.declarationsAll o₂.tree)
  log : Fewer o₁.log.toList o₂.log.toList

/-- **The gradual guarantee.** Less type information in the environment never
makes the type of a node or a declaration of the program more precise, and never
adds a diagnostic. -/
theorem gradual_guarantee (options : Options) {env₁ env₂ : Env}
    (h : env₁.LessPrecise env₂) (log : Log) (body : List SourceStmt) :
    (Stmt.eraseAll (checkProgram options env₁ body).tree = body ∧
      (checkProgram options env₁ body).LessPrecise (checkProgram options env₂ body)) ∧
    Stmt.eraseAll (checkBlock options env₁ log body).tree = body ∧
      (checkBlock options env₁ log body).LessPrecise (checkBlock options env₂ log body) := by
  refine ⟨⟨eraseAll_tree_checkProgram options env₁ body, ?_⟩,
    eraseAll_tree_checkBlock options env₁ log body, ?_⟩
  · rw [checkProgram_eq, checkProgram_eq]
    refine ⟨Stmt.nodesAll_lessPrecise h body, Stmt.declarationsAll_lessPrecise h body, ?_⟩
    simpa using Stmt.violationsAll_fewer options h body
  · rw [checkBlock_eq, checkBlock_eq]
    refine ⟨Stmt.nodesAll_lessPrecise h.push body,
      Stmt.declarationsAll_lessPrecise h.push body, ?_⟩
    simpa using (Fewer.refl log.toList).append (Stmt.violationsAll_fewer options h.push body)

/-- A variable `x` and a type name `row` that stand for arrays of a type. -/
def rowsOf (t : Ty) : Env :=
  { inner := (({} : Scope).bind ⟨"x", .array t, false⟩).setAlias "row" (.array t) }

/-- A program that is right about booleans, wrong about numbers, and never
right about `y`. -/
def rowProgram : List SourceStmt :=
  [.declaration ⟨"a", some ⟨"row", ()⟩, some (.array [.boolean true .nowhere] .nowhere), .nowhere⟩,
    .block [.expression (.binary .and (.index (.ref "x" () .nowhere) (.number .nowhere) .nowhere)
      (.ref "y" () .nowhere) .nowhere)] .nowhere]

/-- Three diagnostics become one when it is forgotten what the rows hold. -/
theorem gradual_guarantee_rows :
    (rowsOf .any).LessPrecise (rowsOf .number) ∧
    (checkProgram {} (rowsOf .any) rowProgram).LessPrecise
      (checkProgram {} (rowsOf .number) rowProgram) ∧
    (checkProgram {} (rowsOf .any) rowProgram).log.size = 1 ∧
    (checkProgram {} (rowsOf .number) rowProgram).log.size = 3 := by
  have hrow : (Ty.array .any).LessPrecise (.array .number) := .array (.any _)
  have hbound : (({} : Scope).bind ⟨"x", .array .any, false⟩).LessPrecise
      (({} : Scope).bind ⟨"x", .array .number, false⟩) :=
    Scope.LessPrecise.empty.bind rfl ⟨hrow, rfl⟩
  have hrows : (rowsOf .any).LessPrecise (rowsOf .number) :=
    .cons (hbound.setAlias "row" hrow) .nil
  exact ⟨hrows, (gradual_guarantee {} hrows #[] rowProgram).1.2, by decide +kernel,
    by decide +kernel⟩

end Gradual
