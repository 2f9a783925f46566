import Gradual.Env
import Gradual.Operator

/-!
# Expressions

One tree serves before and after checking. The parameter says what a reference to a variable
carries: nothing in the tree of a parser, and what the name was found to mean in a checked tree.
Types and writability follow from that.
-/

namespace Gradual

/-- A number literal does not say which number, since no rule asks. -/
inductive Expr (ρ : Type) where
  | number (span : Span)
  | character (value : Char) (span : Span)
  | string (value : String) (span : Span)
  | boolean (value : Bool) (span : Span)
  | array (elements : List (Expr ρ)) (span : Span)
  | ref (name : String) (target : ρ) (span : Span)
  | index (base subscript : Expr ρ) (span : Span)
  | binary (op : BinaryOp) (left right : Expr ρ) (span : Span)
  | unary (op : UnaryOp) (operand : Expr ρ) (span : Span)
  | assign (target value : Expr ρ) (span : Span)
  deriving Repr

abbrev SourceExpr := Expr Unit

/-- A reference carries `none` when the name was not declared. -/
abbrev ResolvedExpr := Expr (Option Binding)

namespace Expr

variable {ρ : Type}

def span : Expr ρ → Span
  | number span | character _ span | string _ span | boolean _ span | array _ span | ref _ _ span
  | index _ _ span | binary _ _ _ span | unary _ _ span | assign _ _ span => span

def start (e : Expr ρ) : Position :=
  e.span.start

/-! ## Induction -/

/-- Induction on expressions, with the hypothesis for every element of an array literal. -/
@[elab_as_elim, induction_eliminator]
theorem induct {motive : Expr ρ → Prop}
    (number : ∀ span, motive (.number span))
    (character : ∀ value span, motive (.character value span))
    (string : ∀ value span, motive (.string value span))
    (boolean : ∀ value span, motive (.boolean value span))
    (array : ∀ elements span, (∀ e ∈ elements, motive e) → motive (.array elements span))
    (ref : ∀ name target span, motive (.ref name target span))
    (index : ∀ base subscript span, motive base → motive subscript →
      motive (.index base subscript span))
    (binary : ∀ op left right span, motive left → motive right →
      motive (.binary op left right span))
    (unary : ∀ op operand span, motive operand → motive (.unary op operand span))
    (assign : ∀ target value span, motive target → motive value →
      motive (.assign target value span)) (e : Expr ρ) : motive e :=
  Expr.rec (motive_1 := motive) (motive_2 := fun es => ∀ e ∈ es, motive e)
    number character string boolean array ref index binary unary assign
    (fun _ h => nomatch h)
    (fun _ _ head tail e h => by
      rcases List.mem_cons.mp h with rfl | h
      · exact head
      · exact tail e h)
    e

end Expr

end Gradual
