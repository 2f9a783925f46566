import Gradual.Proofs.Expr.Resolution
import Mathlib.Data.List.Forall2

/-!
# Interchangeable parts

The rule of a node does not look far into its parts. It sees of each part the
type, whether it can be written to, and where it begins. Parts for which this is
the same are `Interchangeable`, and nodes over such parts are `SameNode`: they
are blamed for the same, and are interchangeable themselves in the node around
them.
-/

namespace Gradual

/-- Lists whose members give the same member by member give the same. -/
theorem flatMap_eq_of_forall₂ {α β γ : Type} {f : α → List γ} {g : β → List γ} {l₁ : List α}
    {l₂ : List β} (h : List.Forall₂ (fun a b => f a = g b) l₁ l₂) :
    l₁.flatMap f = l₂.flatMap g := by
  induction h with
  | nil => rfl
  | cons hab _ ih => rw [List.flatMap_cons, List.flatMap_cons, hab, ih]

namespace Expr

/-! ## Parts -/

/-- The node around them can see no difference between the expressions. -/
structure Interchangeable (e₁ e₂ : ResolvedExpr) : Prop where
  ty : e₁.ty = e₂.ty
  isWritable : e₁.isWritable = e₂.isWritable
  start : e₁.start = e₂.start

theorem Interchangeable.refl (e : ResolvedExpr) : Interchangeable e e :=
  ⟨rfl, rfl, rfl⟩

section

variable {l₁ l₂ r₁ r₂ : ResolvedExpr}

theorem Interchangeable.unmet (h : Interchangeable l₁ l₂) (r : Requirement)
    (operator : String) : unmet r operator l₁ = unmet r operator l₂ := by
  rw [Expr.unmet, Expr.unmet, h.ty, h.start]

theorem Interchangeable.misplaced (h : Interchangeable l₁ l₂) (site : Site) (expected : Ty) :
    misplaced site expected l₁ = misplaced site expected l₂ := by
  rw [Expr.misplaced, Expr.misplaced, h.ty, h.start]

theorem Interchangeable.blameRelational (options : Options) (operator : String)
    (hl : Interchangeable l₁ l₂) (hr : Interchangeable r₁ r₂) :
    blameRelational options operator l₁ r₁ = blameRelational options operator l₂ r₂ := by
  unfold Expr.blameRelational
  rw [hl.ty, hl.start]
  cases l₂.ty with
  | number | character | string => exact hr.unmet _ operator
  | any | boolean | array => rfl

theorem Interchangeable.blameBinary (options : Options) (op : BinaryOp) (position : Position)
    (hl : Interchangeable l₁ l₂) (hr : Interchangeable r₁ r₂) :
    blameBinary options op l₁ r₁ position = blameBinary options op l₂ r₂ position := by
  unfold Expr.blameBinary
  cases op.family with
  | arithmetic | shift | logical => simp only [hl.unmet, hr.unmet]
  | relational => exact hl.blameRelational options op.token hr
  | equality => rw [hl.ty, hr.ty]

end

/-! ## Nodes -/

/-- The same node over interchangeable parts. -/
inductive SameNode : ResolvedExpr → ResolvedExpr → Prop where
  | refl (e : ResolvedExpr) : SameNode e e
  | array {es₁ es₂ : List ResolvedExpr} (span : Span) : List.Forall₂ Interchangeable es₁ es₂ →
      SameNode (.array es₁ span) (.array es₂ span)
  | index {b₁ b₂ s₁ s₂ : ResolvedExpr} (span : Span) : Interchangeable b₁ b₂ →
      Interchangeable s₁ s₂ → SameNode (.index b₁ s₁ span) (.index b₂ s₂ span)
  | binary {l₁ l₂ r₁ r₂ : ResolvedExpr} (op : BinaryOp) (span : Span) : Interchangeable l₁ l₂ →
      Interchangeable r₁ r₂ → SameNode (.binary op l₁ r₁ span) (.binary op l₂ r₂ span)
  | unary {e₁ e₂ : ResolvedExpr} (op : UnaryOp) (span : Span) : Interchangeable e₁ e₂ →
      SameNode (.unary op e₁ span) (.unary op e₂ span)
  | assign {t₁ t₂ v₁ v₂ : ResolvedExpr} (span : Span) : Interchangeable t₁ t₂ →
      Interchangeable v₁ v₂ → SameNode (.assign t₁ v₁ span) (.assign t₂ v₂ span)

variable {e₁ e₂ : ResolvedExpr}

/-- A node shows of its parts no more than it sees. -/
theorem SameNode.interchangeable (h : SameNode e₁ e₂) : Interchangeable e₁ e₂ := by
  cases h with
  | refl => exact .refl _
  | binary | unary => exact ⟨rfl, rfl, rfl⟩
  | array span hes =>
      cases hes with
      | nil => exact .refl _
      | cons hfirst _ => exact ⟨congrArg Ty.array hfirst.ty, rfl, rfl⟩
  | index span hbase _ =>
      refine ⟨congrArg Ty.item hbase.ty, ?_, rfl⟩
      rw [isWritable, isWritable, hbase.ty, hbase.isWritable]
  | assign span htarget _ => exact ⟨htarget.ty, rfl, rfl⟩

/-- **Rules see parts only as far as they are interchangeable.** -/
theorem SameNode.blame (h : SameNode e₁ e₂) (options : Options) :
    blame options e₁ = blame options e₂ := by
  cases h with
  | refl => rfl
  | array span hes =>
      cases hes with
      | nil => rfl
      | cons hfirst hrest =>
          rw [Expr.blame, Expr.blame, hfirst.ty]
          exact flatMap_eq_of_forall₂ (hrest.imp fun _ _ he => he.misplaced .element _)
  | index span hbase hsubscript =>
      rw [Expr.blame, Expr.blame, hbase.unmet, hsubscript.unmet]
  | binary op span hleft hright => exact hleft.blameBinary options op span.start hright
  | unary op span he => exact he.unmet (requirementOf op) op.token
  | assign span htarget hvalue =>
      rw [Expr.blame, Expr.blame, htarget.isWritable, htarget.start, htarget.ty,
        hvalue.misplaced]

end Expr

end Gradual
