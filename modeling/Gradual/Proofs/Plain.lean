import Gradual.Proofs.Typing
import Gradual.Proofs.Wildcard

/-!
# Plain static typing

A type system with no wildcard in it. Its types are `PlainTy`, agreement is
equality, and there is no rule for the literal `[]`, whose elements have no
type here. Declarations, blocks and scopes are those of every type system.

The gradual rules extend it and nothing more (`hasType_toTy_iff`): where the
environment has plain types and the expression has no empty literal, the two
judgements give the same types. So the checker is a checker for the plain
system there (`checks_iff_plain`).
-/

namespace Gradual

/-! ## Plain types -/

/-- A type with no wildcard in it. -/
inductive PlainTy where
  | number
  | character
  | string
  | boolean
  | array (element : PlainTy)
  deriving DecidableEq, Repr

namespace PlainTy

def toTy : PlainTy → Ty
  | number => .number
  | character => .character
  | string => .string
  | boolean => .boolean
  | array t => .array t.toTy

def isPrimitive : PlainTy → Bool
  | number | character | string | boolean => true
  | array _ => false

theorem isPrimitive_toTy (t : PlainTy) : t.toTy.isPrimitive = t.isPrimitive := by
  cases t <;> rfl

theorem isPlain_toTy (t : PlainTy) : t.toTy.isPlain = true := by
  induction t with
  | array t ih => exact ih
  | number | character | string | boolean => rfl

/-- Plain types agree only if they are equal. -/
theorem consistent_toTy {t u : PlainTy} : t.toTy.Consistent u.toTy ↔ t = u := by
  constructor
  · intro h
    induction t generalizing u with
    | array t ih =>
        cases u with
        | array u =>
            -- Two rules of `Consistent` give this, so it is computed instead.
            have hparts : (Ty.array t.toTy).assignable (.array u.toTy) = true :=
              Ty.assignable_iff_consistent.mpr h
            rw [Ty.array_assignable_array] at hparts
            rw [ih (Ty.assignable_iff_consistent.mp hparts)]
        | number | character | string | boolean => cases h
    | number | character | string | boolean =>
        cases u with
        | number | character | string | boolean | array => first | rfl | cases h
  · rintro rfl
    exact .refl _

theorem toTy_injective {t u : PlainTy} (h : t.toTy = u.toTy) : t = u := by
  apply consistent_toTy.mp
  rw [h]
  exact .refl _

@[simp] theorem toTy_inj {t u : PlainTy} : t.toTy = u.toTy ↔ t = u :=
  ⟨toTy_injective, congrArg toTy⟩

theorem toTy_ne_any (t : PlainTy) : t.toTy ≠ .any := by
  cases t <;> exact nofun

theorem mayBe_toTy {t u : PlainTy} : t.toTy.MayBe u.toTy ↔ t = u := by
  simp [Ty.MayBe, toTy_ne_any]

/-- A property of the plain types that are read as `t` holds of one at most. -/
theorem exists_sole {t : Ty} {P : PlainTy → Prop} (ht : ∃ p : PlainTy, t = p.toTy)
    (hP : ∀ p : PlainTy, P p ↔ t = p.toTy) :
    ∃ p : PlainTy, t = p.toTy ∧ ∀ u, P u ↔ u = p := by
  obtain ⟨p, rfl⟩ := ht
  refine ⟨p, rfl, ?_⟩
  intro u
  rw [hP, toTy_inj]
  exact eq_comm

end PlainTy

theorem Ty.exists_plainTy {t : Ty} (h : t.isPlain = true) : ∃ p : PlainTy, t = p.toTy := by
  induction t with
  | number => exact ⟨.number, rfl⟩
  | character => exact ⟨.character, rfl⟩
  | string => exact ⟨.string, rfl⟩
  | boolean => exact ⟨.boolean, rfl⟩
  | any => cases h
  | array t ih =>
      obtain ⟨p, rfl⟩ := ih h
      exact ⟨.array p, rfl⟩

namespace Plain

/-! ## Rules for operators -/

/-- `Operates strict f t u v`: an operator of the family `f` takes operands of
the types `t` and `u` and gives a `v`. -/
inductive Operates (strict : Bool) : Family → PlainTy → PlainTy → PlainTy → Prop where
  | arithmetic : Operates strict .arithmetic .number .number .number
  | shift : Operates strict .shift .number .number .number
  | logical : Operates strict .logical .boolean .boolean .boolean
  | ordered {t : PlainTy} :
      t ∈ [.character, .string, .number] → Operates strict .relational t t .boolean
  | unordered {t : PlainTy} (u : PlainTy) :
      strict = false → (t = .boolean ∨ ∃ s, t = .array s) →
        Operates strict .relational t u .boolean
  | equality {t : PlainTy} : t.isPrimitive = true → Operates strict .equality t t .boolean

/-- `OperatesOn op t v`: the operator takes an operand of the type `t` and
gives a `v`. -/
inductive OperatesOn : UnaryOp → PlainTy → PlainTy → Prop where
  | negate : OperatesOn .negate .number .number
  | not : OperatesOn .not .boolean .boolean
  | lengthArray (t : PlainTy) : OperatesOn .length (.array t) .number
  | lengthString : OperatesOn .length .string .number

/-- `Indexes t u`: what is indexed is a `t`, and what is found there is a `u`. -/
inductive Indexes : PlainTy → PlainTy → Prop where
  | array (t : PlainTy) : Indexes (.array t) t
  | string : Indexes .string .character

/-! ## The judgement -/

mutual

/-- The expression has the type. -/
inductive HasType (strict : Bool) (env : Env) : SourceExpr → PlainTy → Prop where
  | number (span : Span) : HasType strict env (.number span) .number
  | character (value : Char) (span : Span) :
      HasType strict env (.character value span) .character
  | string (value : String) (span : Span) : HasType strict env (.string value span) .string
  | boolean (value : Bool) (span : Span) : HasType strict env (.boolean value span) .boolean
  | array {first : SourceExpr} {rest : List SourceExpr} {t : PlainTy} (span : Span) :
      HasType strict env first t → HaveType strict env rest t →
        HasType strict env (.array (first :: rest) span) (.array t)
  | ref {name : String} {binding : Binding} {t : PlainTy} (span : Span) :
      env.binding? name = some binding → binding.ty = t.toTy →
        HasType strict env (.ref name () span) t
  | index {base subscript : SourceExpr} {t v : PlainTy} (span : Span) :
      HasType strict env base t → HasType strict env subscript .number → Indexes t v →
        HasType strict env (.index base subscript span) v
  | binary {op : BinaryOp} {f : Family} {left right : SourceExpr} {t u v : PlainTy}
      (span : Span) :
      HasType strict env left t → HasType strict env right u → op ∈ f.operators →
        Operates strict f t u v → HasType strict env (.binary op left right span) v
  | unary {op : UnaryOp} {operand : SourceExpr} {t v : PlainTy} (span : Span) :
      HasType strict env operand t → OperatesOn op t v →
        HasType strict env (.unary op operand span) v
  | assign {target value : SourceExpr} {t : PlainTy} (span : Span) :
      Writable strict env target → HasType strict env target t → HasType strict env value t →
        HasType strict env (.assign target value span) t

/-- All the expressions have the type. -/
inductive HaveType (strict : Bool) (env : Env) : List SourceExpr → PlainTy → Prop where
  | nil (t : PlainTy) : HaveType strict env [] t
  | cons {e : SourceExpr} {rest : List SourceExpr} {t : PlainTy} :
      HasType strict env e t → HaveType strict env rest t → HaveType strict env (e :: rest) t

/-- The expression can be written to: a variable that is no constant, or an
element of an array that can be written to. -/
inductive Writable (strict : Bool) (env : Env) : SourceExpr → Prop where
  | ref {name : String} {binding : Binding} (span : Span) :
      env.binding? name = some binding → binding.constant = false →
        Writable strict env (.ref name () span)
  | index {base subscript : SourceExpr} {t : PlainTy} (span : Span) :
      HasType strict env base (.array t) → Writable strict env base →
        Writable strict env (.index base subscript span)

end

/-! ## Every leniency collapses -/

open PlainTy (toTy_injective toTy_ne_any mayBe_toTy consistent_toTy)

section

variable {strict : Bool}

theorem ordered_toTy {t : PlainTy} :
    t.toTy ∈ [Ty.character, .string, .number] ↔ t ∈ [PlainTy.character, .string, .number] := by
  cases t <;> simp [PlainTy.toTy]

theorem unordered_toTy {t : PlainTy} :
    (t.toTy = .boolean ∨ ∃ s, t.toTy = .array s) ↔ (t = .boolean ∨ ∃ s, t = .array s) := by
  cases t <;> simp [PlainTy.toTy]

theorem Operates.toGradual {f : Family} {t u v : PlainTy} (h : Operates strict f t u v) :
    Gradual.Operates strict f t.toTy u.toTy v.toTy := by
  cases h with
  | arithmetic => exact .arithmetic (.inl rfl) (.inl rfl)
  | shift => exact .shift (.inl rfl) (.inl rfl)
  | logical => exact .logical (.inl rfl) (.inl rfl)
  | ordered ht => exact .ordered (ordered_toTy.mpr ht) (.inl rfl)
  | unordered u hstrict ht => exact .unordered u.toTy hstrict (unordered_toTy.mpr ht)
  | equality hp => exact .equalPrimitive ((PlainTy.isPrimitive_toTy t).trans hp)

theorem operates_of_gradual {f : Family} {t u : PlainTy} {v : Ty}
    (h : Gradual.Operates strict f t.toTy u.toTy v) :
    ∃ w : PlainTy, v = w.toTy ∧ Operates strict f t u w := by
  generalize ht : t.toTy = t', hu : u.toTy = u' at h
  -- The three rules for unknown operands ask for a type that is not plain.
  cases h with
  | arithmetic hl hr =>
      subst ht hu
      obtain rfl := (mayBe_toTy (u := .number)).mp hl
      obtain rfl := (mayBe_toTy (u := .number)).mp hr
      exact ⟨.number, rfl, .arithmetic⟩
  | shift hl hr =>
      subst ht hu
      obtain rfl := (mayBe_toTy (u := .number)).mp hl
      obtain rfl := (mayBe_toTy (u := .number)).mp hr
      exact ⟨.number, rfl, .shift⟩
  | logical hl hr =>
      subst ht hu
      obtain rfl := (mayBe_toTy (u := .boolean)).mp hl
      obtain rfl := (mayBe_toTy (u := .boolean)).mp hr
      exact ⟨.boolean, rfl, .logical⟩
  | ordered hmem hsame =>
      subst ht hu
      obtain rfl := mayBe_toTy.mp hsame
      exact ⟨.boolean, rfl, .ordered (ordered_toTy.mp hmem)⟩
  | orderUnknown => exact absurd ht (toTy_ne_any t)
  | unordered _ hstrict hleft =>
      subst ht
      exact ⟨.boolean, rfl, .unordered u hstrict (unordered_toTy.mp hleft)⟩
  | equalPrimitive hp =>
      subst ht
      obtain rfl := toTy_injective hu
      exact ⟨.boolean, rfl, .equality ((PlainTy.isPrimitive_toTy u).symm.trans hp)⟩
  | equalUnknownLeft => exact absurd ht (toTy_ne_any t)
  | equalUnknownRight => exact absurd hu (toTy_ne_any u)

theorem OperatesOn.toGradual {op : UnaryOp} {t v : PlainTy} (h : OperatesOn op t v) :
    Gradual.OperatesOn op t.toTy v.toTy := by
  cases h with
  | negate => exact .negate (.inl rfl)
  | not => exact .not (.inl rfl)
  | lengthArray t => exact .lengthArray t.toTy
  | lengthString => exact .lengthString

theorem operatesOn_of_gradual {op : UnaryOp} {t : PlainTy} {v : Ty}
    (h : Gradual.OperatesOn op t.toTy v) : ∃ w : PlainTy, v = w.toTy ∧ OperatesOn op t w := by
  generalize ht : t.toTy = t' at h
  cases h with
  | negate hmay =>
      subst ht
      obtain rfl := (mayBe_toTy (u := .number)).mp hmay
      exact ⟨.number, rfl, .negate⟩
  | not hmay =>
      subst ht
      obtain rfl := (mayBe_toTy (u := .boolean)).mp hmay
      exact ⟨.boolean, rfl, .not⟩
  | lengthArray =>
      cases t with
      | array t => exact ⟨.number, rfl, .lengthArray t⟩
      | number | character | string | boolean => cases ht
  | lengthString =>
      obtain rfl := toTy_injective (u := .string) ht
      exact ⟨.number, rfl, .lengthString⟩
  | lengthUnknown => exact absurd ht (toTy_ne_any t)

theorem Indexes.toGradual {t v : PlainTy} (h : Indexes t v) :
    Gradual.Indexes t.toTy v.toTy := by
  cases h with
  | array t => exact .array v.toTy
  | string => exact .string

theorem indexes_of_gradual {t : PlainTy} {v : Ty} (h : Gradual.Indexes t.toTy v) :
    ∃ w : PlainTy, v = w.toTy ∧ Indexes t w := by
  generalize ht : t.toTy = t' at h
  cases h with
  | array =>
      cases t with
      | array t =>
          obtain rfl := Ty.array.inj ht
          exact ⟨t, rfl, .array t⟩
      | number | character | string | boolean => cases ht
  | string =>
      obtain rfl := toTy_injective (u := .string) ht
      exact ⟨.character, rfl, .string⟩
  | unknown => exact absurd ht (toTy_ne_any t)

end

/-! ## The two judgements -/

section

variable {strict : Bool} {env : Env}

mutual

/-- A plain type is a gradual type. -/
theorem HasType.toGradual : ∀ {e : SourceExpr} {t : PlainTy},
    HasType strict env e t → Gradual.HasType strict env e t.toTy
  | _, _, .number span => .number span
  | _, _, .character value span => .character value span
  | _, _, .string value span => .string value span
  | _, _, .boolean value span => .boolean value span
  | _, _, .array span hfirst hrest => .array span hfirst.toGradual hrest.toGradual
  | _, _, .ref span hbinding hty => by
      rw [← hty]
      exact .ref span hbinding
  | _, _, .index span hbase hsubscript hrule =>
      .index span hbase.toGradual hsubscript.toGradual (.inl rfl) hrule.toGradual
  | _, _, .binary span hleft hright hop hrule =>
      .binary span hleft.toGradual hright.toGradual hop hrule.toGradual
  | _, _, .unary span hoperand hrule => .unary span hoperand.toGradual hrule.toGradual
  | _, _, .assign span hwritable htarget hvalue =>
      .assign span hwritable.toGradual htarget.toGradual hvalue.toGradual (.refl _)

theorem HaveType.toGradual : ∀ {es : List SourceExpr} {t : PlainTy},
    HaveType strict env es t → HaveTypes strict env es t.toTy
  | _, _, .nil t => .nil t.toTy
  | _, _, .cons hfirst hrest => .cons hfirst.toGradual (.refl _) hrest.toGradual

theorem Writable.toGradual : ∀ {e : SourceExpr},
    Writable strict env e → Gradual.Writable strict env e
  | _, .ref span hbinding hconstant => .ref span hbinding hconstant
  | _, .index span hbase hwritable => .indexArray span hbase.toGradual hwritable.toGradual

end

mutual

/-- In a plain environment an expression without empty literals has plain types
only. -/
theorem hasType_of_gradual (henv : env.Plain) : ∀ {e : SourceExpr} {t : Ty},
    Gradual.HasType strict env e t → (∀ n ∈ e.nodes, n.isEmptyArray = false) →
      ∃ p : PlainTy, t = p.toTy ∧ HasType strict env e p
  | _, _, .number span, _ => ⟨.number, rfl, .number span⟩
  | _, _, .character value span, _ => ⟨.character, rfl, .character value span⟩
  | _, _, .string value span, _ => ⟨.string, rfl, .string value span⟩
  | _, _, .boolean value span, _ => ⟨.boolean, rfl, .boolean value span⟩
  | _, _, .emptyArray span, h => by
      -- The one rule that makes a wildcard out of nothing.
      cases h (.array [] span) (Expr.self_mem_nodes _)
  | _, _, .array span hfirst hrest, h => by
      simp only [Expr.nodes, Expr.nodesAll, List.forall_mem_append] at h
      obtain ⟨⟨hnodes, hothers⟩, -⟩ := h
      obtain ⟨p, rfl, hp⟩ := hasType_of_gradual henv hfirst hnodes
      exact ⟨.array p, rfl, .array span hp (haveType_of_gradual henv hrest hothers)⟩
  | _, _, .ref span hbinding, _ => by
      obtain ⟨p, hp⟩ := Ty.exists_plainTy (henv.binding? hbinding)
      exact ⟨p, hp, .ref span hbinding hp⟩
  | _, _, .index span hbase hsubscript hnumber hitem, h => by
      simp only [Expr.nodes, List.forall_mem_append] at h
      obtain ⟨⟨hbnodes, hsnodes⟩, -⟩ := h
      obtain ⟨p, rfl, hp⟩ := hasType_of_gradual henv hbase hbnodes
      obtain ⟨q, rfl, hq⟩ := hasType_of_gradual henv hsubscript hsnodes
      obtain rfl := (mayBe_toTy (u := .number)).mp hnumber
      obtain ⟨v, rfl, hv⟩ := indexes_of_gradual hitem
      exact ⟨v, rfl, .index span hp hq hv⟩
  | _, _, .binary span hleft hright hop hrule, h => by
      simp only [Expr.nodes, List.forall_mem_append] at h
      obtain ⟨⟨hlnodes, hrnodes⟩, -⟩ := h
      obtain ⟨p, rfl, hp⟩ := hasType_of_gradual henv hleft hlnodes
      obtain ⟨q, rfl, hq⟩ := hasType_of_gradual henv hright hrnodes
      obtain ⟨v, rfl, hv⟩ := operates_of_gradual hrule
      exact ⟨v, rfl, .binary span hp hq hop hv⟩
  | _, _, .unary span hoperand hrule, h => by
      simp only [Expr.nodes, List.forall_mem_append] at h
      obtain ⟨p, rfl, hp⟩ := hasType_of_gradual henv hoperand h.1
      obtain ⟨v, rfl, hv⟩ := operatesOn_of_gradual hrule
      exact ⟨v, rfl, .unary span hp hv⟩
  | _, _, .assign span hwritable htarget hvalue hagrees, h => by
      simp only [Expr.nodes, List.forall_mem_append] at h
      obtain ⟨⟨htnodes, hvnodes⟩, -⟩ := h
      obtain ⟨p, rfl, hp⟩ := hasType_of_gradual henv htarget htnodes
      obtain ⟨q, rfl, hq⟩ := hasType_of_gradual henv hvalue hvnodes
      obtain rfl := consistent_toTy.mp hagrees
      exact ⟨q, rfl, .assign span (writable_of_gradual henv hwritable htnodes) hp hq⟩

theorem haveType_of_gradual (henv : env.Plain) : ∀ {es : List SourceExpr} {p : PlainTy},
    HaveTypes strict env es p.toTy → (∀ n ∈ Expr.nodesAll es, n.isEmptyArray = false) →
      HaveType strict env es p
  | _, p, .nil _, _ => .nil p
  | _, _, .cons hfirst hagrees hrest, h => by
      obtain ⟨hnodes, hothers⟩ := List.forall_mem_append.mp h
      obtain ⟨q, rfl, hq⟩ := hasType_of_gradual henv hfirst hnodes
      obtain rfl := consistent_toTy.mp hagrees
      exact .cons hq (haveType_of_gradual henv hrest hothers)

theorem writable_of_gradual (henv : env.Plain) : ∀ {e : SourceExpr},
    Gradual.Writable strict env e → (∀ n ∈ e.nodes, n.isEmptyArray = false) →
      Writable strict env e
  | _, .ref span hbinding hconstant, _ => .ref span hbinding hconstant
  | _, .indexArray span hbase hwritable, h => by
      simp only [Expr.nodes, List.forall_mem_append] at h
      obtain ⟨⟨hnodes, -⟩, -⟩ := h
      obtain ⟨p, hp, htype⟩ := hasType_of_gradual henv hbase hnodes
      cases p with
      | array p => exact .index span htype (writable_of_gradual henv hwritable hnodes)
      | number | character | string | boolean => cases hp
  | _, .indexUnknown span hbase _, h => by
      simp only [Expr.nodes, List.forall_mem_append] at h
      obtain ⟨⟨hnodes, -⟩, -⟩ := h
      obtain ⟨p, hp, -⟩ := hasType_of_gradual henv hbase hnodes
      exact absurd hp.symm (toTy_ne_any p)

end

/-- **The gradual rules extend the plain ones conservatively.** -/
theorem hasType_toTy_iff (henv : env.Plain) {e : SourceExpr}
    (he : ∀ n ∈ e.nodes, n.isEmptyArray = false) {t : PlainTy} :
    Gradual.HasType strict env e t.toTy ↔ HasType strict env e t := by
  constructor
  · intro h
    obtain ⟨u, hu, htype⟩ := hasType_of_gradual henv h he
    rwa [toTy_injective hu]
  · exact HasType.toGradual

end

end Plain

/-! ## Programs -/

/-- The plain rules as a type system, with equality for agreement. -/
def plain (strict : Bool) : TypeSystem where
  Carrier := PlainTy
  toTy := PlainTy.toTy
  HasType := Plain.HasType strict
  Agrees := Eq

/-- In a plain environment, and away from empty literals, the checker follows
the plain rules. -/
theorem plain_follows (options : Options) :
    (plain options.strictRelational).Follows options Env.Plain
      (fun n => n.isEmptyArray = false) where
  hasType_iff := by
    intro env e t henv hnodes
    have he := (Expr.forall_isEmptyArray env e).mp hnodes
    exact (Plain.hasType_toTy_iff henv he).symm.trans hasType_iff
  ty_covered := by
    intro env e henv hnodes h
    have he := (Expr.forall_isEmptyArray env e).mp hnodes
    obtain ⟨t, hty, -⟩ := Plain.hasType_of_gradual henv (hasType_of_accepted e h) he
    exact ⟨t, hty⟩
  type?_covered := fun henv h => Ty.exists_plainTy (henv.type? keeps_isPlain h)
  agrees_iff := PlainTy.consistent_toTy.symm.trans Ty.assignable_iff_consistent.symm
  good_push := fun _ henv => henv.push
  good_bind := fun henv _ t _ => henv.bind t.isPlain_toTy

/-- **Without wildcards the checker is a plain type checker.** In an environment
of plain types, and for a program with no empty literal, it reports nothing
exactly if the plain rules accept the program. Its tree is the program with names
looked up, and in an accepted program each node and each declared variable of it
has the one type that the plain rules give it, and no type has a wildcard in
it. -/
theorem checks_iff_plain (options : Options) {env : Env} (henv : env.Plain)
    {body : List SourceStmt} (hbody : ∀ n ∈ Stmt.nodesAll body, n.isEmptyArray = false) :
    (∀ env', (checkProgram options env body).log = #[] ∧
        (checkProgram options env body).env = env' ↔
      (plain options.strictRelational).AcceptsAll env body env') ∧
    Stmt.eraseAll (checkProgram options env body).tree = body ∧
    ((checkProgram options env body).log = #[] →
      (∀ p ∈ Stmt.scopedNodes env (checkProgram options env body).tree,
        ∃ t : PlainTy, p.2.ty = t.toTy ∧
          ∀ u, Plain.HasType options.strictRelational p.1 p.2.erase u ↔ u = t) ∧
      (∀ p ∈ Stmt.scopedDeclarations env (checkProgram options env body).tree,
        ∃ t : PlainTy, p.2.ty = t.toTy ∧
          ∀ u, (plain options.strictRelational).Declares p.1 p.2.erase u ↔ u = t) ∧
      ∀ t ∈ Stmt.typesAll (checkProgram options env body).tree, t.isPlain = true) := by
  have F := plain_follows options
  have hfine := (Stmt.forall_isEmptyArray env body).mpr hbody
  refine ⟨?_, eraseAll_tree_checkProgram options env body, ?_⟩
  · intro env'
    rw [checkProgram_eq, F.acceptsAll_iff henv body hfine]
    simp
  · intro h
    rw [checkProgram_eq] at h ⊢
    have hnone : Stmt.violationsAll options env (Stmt.resolveAll env body) = [] := by
      simpa using h
    refine ⟨?_, ?_, Stmt.isPlain_of_mem_typesAll henv hnone hbody⟩
    · intro p hp
      obtain ⟨hcovered, htyped⟩ := F.scopedNodes_typed henv body hfine hnone p hp
      exact PlainTy.exists_sole hcovered htyped
    · intro p hp
      obtain ⟨hcovered, htyped⟩ := F.scopedDeclarations_typed henv body hfine hnone p hp
      exact PlainTy.exists_sole hcovered htyped

/-- A variable of numbers, and a word for their type. -/
def numbersEnv : Env :=
  let env := Env.empty.declareType "row" (.array .number)
  { env with inner := env.inner.bind ⟨"xs", .array .number, false⟩ }

/-- Arrays of arrays by the word for their rows, an element that is written to
from inside a block, and an order comparison of arrays. -/
def numbersProgram : List SourceStmt :=
  [.declaration ⟨"ys", some ⟨"[]row", ()⟩,
      some (.array [.ref "xs" () .nowhere] .nowhere), .nowhere⟩,
    .block [.declaration ⟨"_s", none, some (.string "a" .nowhere), .nowhere⟩,
      .expression (.assign
        (.index (.index (.ref "ys" () .nowhere) (.number .nowhere) .nowhere)
          (.unary .length (.ref "_s" () .nowhere) .nowhere) .nowhere)
        (.binary .shiftLeft (.index (.ref "xs" () .nowhere) (.number .nowhere) .nowhere)
          (.number .nowhere) .nowhere) .nowhere)] .nowhere,
    .expression (.binary .less (.ref "xs" () .nowhere) (.ref "ys" () .nowhere) .nowhere)]

/-- The program is accepted, and the plain rules say so. -/
theorem checks_iff_plain_numbers :
    numbersEnv.Plain ∧
    (∀ n ∈ Stmt.nodesAll numbersProgram, n.isEmptyArray = false) ∧
    (checkProgram {} numbersEnv numbersProgram).log = #[] ∧
    (plain false).AcceptsAll numbersEnv numbersProgram
      (checkProgram {} numbersEnv numbersProgram).env := by
  have hword : (Env.empty.declareType "row" (.array .number)).Plain :=
    Env.holds_empty.declareType "row" rfl
  have henv : numbersEnv.Plain := hword.bind rfl
  have hbody : ∀ n ∈ Stmt.nodesAll numbersProgram, n.isEmptyArray = false := by decide +kernel
  have hlog : (checkProgram {} numbersEnv numbersProgram).log = #[] := by decide +kernel
  exact ⟨henv, hbody, hlog, ((checks_iff_plain {} henv hbody).1 _).mp ⟨hlog, rfl⟩⟩

end Gradual
