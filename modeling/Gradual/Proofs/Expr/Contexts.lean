import Gradual.Proofs.Expr.Interchange
import Gradual.Proofs.Stmt.Resolution

/-!
# Expressions in context

The nodes of the whole are those in front of the hole, those of the expression in
it, and those behind (`Context.nodes_fill`). Those behind are the parts to the
right of the hole and the nodes around it, and these see the expression only as
far as it is interchangeable (`Context.behind_sameNode`).
-/

namespace Gradual

open Gradual.Expr

/-! ## Contexts -/

/-- A node with one part left out. -/
inductive Frame where
  | element (before after : List SourceExpr) (span : Span)
  | base (subscript : SourceExpr) (span : Span)
  | subscript (base : SourceExpr) (span : Span)
  | left (op : BinaryOp) (right : SourceExpr) (span : Span)
  | right (op : BinaryOp) (left : SourceExpr) (span : Span)
  | operand (op : UnaryOp) (span : Span)
  | target (value : SourceExpr) (span : Span)
  | value (target : SourceExpr) (span : Span)

namespace Frame

def fill (e : SourceExpr) : Frame → SourceExpr
  | .element before after span => .array (before ++ e :: after) span
  | .base other span => .index e other span
  | .subscript other span => .index other e span
  | .left op other span => .binary op e other span
  | .right op other span => .binary op other e span
  | .operand op span => .unary op e span
  | .target other span => .assign e other span
  | .value other span => .assign other e span

def before : Frame → List SourceExpr
  | .element before _ _ => before
  | .subscript other _ | .right _ other _ | .value other _ => [other]
  | .base _ _ | .left _ _ _ | .operand _ _ | .target _ _ => []

def after : Frame → List SourceExpr
  | .element _ after _ => after
  | .base other _ | .left _ other _ | .target other _ => [other]
  | .subscript _ _ | .right _ _ _ | .operand _ _ | .value _ _ => []

theorem nodes_fill (f : Frame) (e : SourceExpr) :
    (f.fill e).nodes =
      f.before.flatMap nodes ++ e.nodes ++ f.after.flatMap nodes ++ [f.fill e] := by
  cases f <;> simp [fill, before, after, nodes, nodesAll_eq_flatMap]

end Frame

/-- Frames around each other, the innermost one in front. -/
abbrev Context := List Frame

namespace Context

/-- The expression in the hole of the context. -/
def fill : Context → SourceExpr → SourceExpr
  | [], e => e
  | f :: C, e => fill C (f.fill e)

def before : Context → List SourceExpr
  | [] => []
  | f :: C => before C ++ f.before.flatMap nodes

/-- The nodes behind the hole: for each frame the parts behind its hole and the
node itself, around the expression. -/
def behind : Context → SourceExpr → List SourceExpr
  | [], _ => []
  | f :: C, e => f.after.flatMap nodes ++ f.fill e :: behind C (f.fill e)

theorem nodes_fill (C : Context) (e : SourceExpr) :
    (fill C e).nodes = before C ++ e.nodes ++ behind C e := by
  induction C generalizing e with
  | nil => exact (List.append_nil _).symm
  | cons f C ih => simp [fill, before, behind, ih, Frame.nodes_fill]

end Context

/-! ## Interchangeable expressions in a context -/

section

variable {env : Env} {e₁ e₂ : SourceExpr}

theorem Frame.fill_sameNode (h : Interchangeable (e₁.resolve env) (e₂.resolve env)) (f : Frame) :
    SameNode ((f.fill e₁).resolve env) ((f.fill e₂).resolve env) := by
  cases f with
  | element before after span =>
      refine .array span ?_
      rw [resolveAll_eq_map, resolveAll_eq_map, List.map_append, List.map_append]
      refine List.rel_append (List.forall₂_same.mpr fun e _ => .refl e) ?_
      exact .cons h (List.forall₂_same.mpr fun e _ => .refl e)
  | base subscript span => exact .index span h (.refl _)
  | subscript base span => exact .index span (.refl _) h
  | left op right span => exact .binary op span h (.refl _)
  | right op left span => exact .binary op span (.refl _) h
  | operand op span => exact .unary op span h
  | target value span => exact .assign span h (.refl _)
  | value target span => exact .assign span (.refl _) h

/-- A frame hides the difference from the next one, and so on outwards. -/
theorem Context.behind_sameNode (h : Interchangeable (e₁.resolve env) (e₂.resolve env))
    (C : Context) :
    List.Forall₂ (fun n₁ n₂ => SameNode (n₁.resolve env) (n₂.resolve env))
      (behind C e₁) (behind C e₂) := by
  induction C generalizing e₁ e₂ with
  | nil => exact .nil
  | cons f C ih =>
      have hnode := f.fill_sameNode h
      have hparts : List.Forall₂ (fun n₁ n₂ => SameNode (n₁.resolve env) (n₂.resolve env))
          (f.after.flatMap nodes) (f.after.flatMap nodes) :=
        List.forall₂_same.mpr fun n _ => .refl (n.resolve env)
      exact List.rel_append hparts (.cons hnode (ih hnode.interchangeable))

end

theorem Context.violations_fill (options : Options) (env : Env) (C : Context) (e : SourceExpr) :
    ((fill C e).resolve env).violations options =
      (before C).flatMap (fun n => (n.resolve env).blame options) ++
        (e.resolve env).violations options ++
        (behind C e).flatMap fun n => (n.resolve env).blame options := by
  unfold violations
  rw [nodes_resolve, nodes_resolve, nodes_fill]
  simp only [List.map_append, List.flatMap_append, List.flatMap_map]

/-- **An expression counts only by its type, its writability and its beginning.**
If two expressions that are checked alone have these in common, then in any
context the nodes around them have the same types and writability, and what is
reported around them is the same. -/
theorem expression_compositional (options : Options) (env : Env) (C : Context)
    {e₁ e₂ : SourceExpr}
    (hty : (checkExpr options env e₁).tree.ty = (checkExpr options env e₂).tree.ty)
    (hwritable : (checkExpr options env e₁).tree.isWritable =
      (checkExpr options env e₂).tree.isWritable)
    (hstart : e₁.start = e₂.start) :
    (∃ before behind₁ behind₂,
      (before.map erase = C.before ∧ behind₁.map erase = C.behind e₁ ∧
        behind₂.map erase = C.behind e₂) ∧
      (checkExpr options env (C.fill e₁)).tree.nodes =
        before ++ (checkExpr options env e₁).tree.nodes ++ behind₁ ∧
      (checkExpr options env (C.fill e₂)).tree.nodes =
        before ++ (checkExpr options env e₂).tree.nodes ++ behind₂ ∧
      List.Forall₂ Interchangeable behind₁ behind₂) ∧
    ∃ A B,
      (checkExpr options env (C.fill e₁)).log.toList =
        A ++ (checkExpr options env e₁).log.toList ++ B ∧
      (checkExpr options env (C.fill e₂)).log.toList =
        A ++ (checkExpr options env e₂).log.toList ++ B := by
  simp only [checkExpr_eq] at hty hwritable ⊢
  have hhole : Interchangeable (e₁.resolve env) (e₂.resolve env) := by
    refine ⟨hty, hwritable, ?_⟩
    rw [start_resolve, start_resolve, hstart]
  have hbehind := C.behind_sameNode hhole
  constructor
  · have herase : ∀ es : List SourceExpr, (es.map (resolve env)).map erase = es := by
      intro es
      rw [List.map_map]
      simp [Function.comp_def]
    have hnodes : ∀ e : SourceExpr, ((C.fill e).resolve env).nodes =
        C.before.map (resolve env) ++ (e.resolve env).nodes ++
          (C.behind e).map (resolve env) := by
      intro e
      rw [nodes_resolve, nodes_resolve, Context.nodes_fill, List.map_append, List.map_append]
    refine ⟨_, _, _, ⟨herase C.before, herase (C.behind e₁), herase (C.behind e₂)⟩, hnodes e₁,
      hnodes e₂, ?_⟩
    rw [List.forall₂_map_left_iff, List.forall₂_map_right_iff]
    exact hbehind.imp fun _ _ hn => hn.interchangeable
  · have hblame : (C.behind e₁).flatMap (fun n => (n.resolve env).blame options) =
        (C.behind e₂).flatMap fun n => (n.resolve env).blame options :=
      flatMap_eq_of_forall₂ (hbehind.imp fun _ _ hn => hn.blame options)
    refine ⟨_, _, C.violations_fill options env e₁, ?_⟩
    rw [hblame]
    exact C.violations_fill options env e₂

/-- The hole is indexed and assigned to, and that is added to something that is
wrong by itself: `-true + (□[0] = "s")`. -/
def assignedItem : Context :=
  let byte (n : Nat) : Span := .within "main" n (n + 1)
  [.base (.number (byte 5)) (byte 4), .target (.string "s" (byte 6)) (byte 4),
    .right .plus (.unary .negate (.boolean true (byte 2)) (byte 1)) (byte 1)]

/-- An element of a row that is not declared may stand for a number that is not
declared. Around them the same is reported. -/
theorem expression_compositional_undeclared :
    let byte (n : Nat) : Span := .within "main" n (n + 1)
    let x : SourceExpr := .ref "x" () (byte 4)
    let item : SourceExpr := .index (.ref "y" () (byte 4)) (.boolean true (byte 5)) (byte 4)
    ((checkExpr {} .empty x).tree.ty = (checkExpr {} .empty item).tree.ty ∧
      (checkExpr {} .empty x).tree.isWritable = (checkExpr {} .empty item).tree.isWritable ∧
      x.start = item.start) ∧
    ∃ A B,
      (checkExpr {} .empty (assignedItem.fill x)).log.toList =
        A ++ (checkExpr {} .empty x).log.toList ++ B ∧
      (checkExpr {} .empty (assignedItem.fill item)).log.toList =
        A ++ (checkExpr {} .empty item).log.toList ++ B := by
  intro byte x item
  have hty : (checkExpr {} .empty x).tree.ty = (checkExpr {} .empty item).tree.ty := by
    decide +kernel
  have hwritable : (checkExpr {} .empty x).tree.isWritable =
      (checkExpr {} .empty item).tree.isWritable := by
    decide +kernel
  have hstart : x.start = item.start := rfl
  exact ⟨⟨hty, hwritable, hstart⟩,
    (expression_compositional {} .empty assignedItem hty hwritable hstart).2⟩

end Gradual
