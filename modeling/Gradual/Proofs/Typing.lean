import Gradual.Proofs.TypeSystem

/-!
# The typing rules

The rules of the language written down as a judgement, with no mention of
diagnostics and no order of evaluation. `HasType strict env e t` says that the
expression `e` has the type `t` where `env` gives the meaning of names, and
`strict` whether an order comparison needs an order.

`hasType_iff` is the agreement of the checker with the rules: an expression
has a type exactly if nothing is wrong with it, and then it has the type that
is read off its resolved form.
-/

namespace Gradual

/-! ## Relations between types -/

namespace Ty

/-- Two types that could be one type, for all that is known of them: the least
reflexive relation that has the wildcard related to every type and looks into
arrays. -/
inductive Consistent : Ty → Ty → Prop where
  | refl (t : Ty) : Consistent t t
  | anyLeft (t : Ty) : Consistent .any t
  | anyRight (t : Ty) : Consistent t .any
  | array {t u : Ty} : Consistent t u → Consistent (.array t) (.array u)

theorem assignable_refl (t : Ty) : t.assignable t = true := by
  induction t with
  | array t ih => exact ih
  | number | character | string | boolean | any => rfl

theorem assignable_iff_consistent {t u : Ty} : t.assignable u = true ↔ Consistent t u := by
  constructor
  · intro h
    induction t generalizing u with
    | any => exact .anyLeft u
    | array t ih =>
        cases u with
        | any => exact .anyRight _
        | array u => exact .array (ih h)
        | number | character | string | boolean => cases h
    | number | character | string | boolean =>
        cases u with
        | any => exact .anyRight _
        | number | character | string | boolean | array => first | exact .refl _ | cases h
  · intro h
    induction h with
    | refl t => exact assignable_refl t
    | anyLeft t => exact any_assignable t
    | anyRight t => exact assignable_any t
    | array _ ih => exact ih

/-- The type is the expected one, or it is not known. -/
def MayBe (t expected : Ty) : Prop :=
  t = expected ∨ t = .any

end Ty

/-! ## Rules for operators -/

/-- The operators that share a rule. -/
def Family.operators : Family → List BinaryOp
  | arithmetic => [.plus, .minus, .times, .divide]
  | shift => [.shiftLeft, .shiftRight]
  | relational => [.less, .lessEqual, .greater, .greaterEqual]
  | equality => [.equal, .notEqual]
  | logical => [.and, .or]

theorem mem_operators {op : BinaryOp} {f : Family} : op ∈ f.operators ↔ op.family = f := by
  cases op <;> cases f <;> decide

/-- `Operates strict f t u v`: an operator of the family `f` takes operands of
the types `t` and `u` and gives a `v`. -/
inductive Operates (strict : Bool) : Family → Ty → Ty → Ty → Prop where
  | arithmetic {t u : Ty} :
      t.MayBe .number → u.MayBe .number → Operates strict .arithmetic t u .number
  | shift {t u : Ty} :
      t.MayBe .number → u.MayBe .number → Operates strict .shift t u .number
  | logical {t u : Ty} :
      t.MayBe .boolean → u.MayBe .boolean → Operates strict .logical t u .boolean
  /-- The types with an order are compared with themselves. -/
  | ordered {t u : Ty} :
      t ∈ [.character, .string, .number] → u.MayBe t → Operates strict .relational t u .boolean
  | orderUnknown (u : Ty) : Operates strict .relational .any u .boolean
  /-- A left operand without an order is compared with anything, unless the
  comparison is strict. -/
  | unordered {t : Ty} (u : Ty) :
      strict = false → (t = .boolean ∨ ∃ s, t = .array s) →
        Operates strict .relational t u .boolean
  | equalPrimitive {t : Ty} : t.isPrimitive = true → Operates strict .equality t t .boolean
  | equalUnknownLeft (u : Ty) : Operates strict .equality .any u .boolean
  | equalUnknownRight (t : Ty) : Operates strict .equality t .any .boolean

theorem Operates.result {strict : Bool} {f : Family} {t u v : Ty}
    (h : Operates strict f t u v) : f.result = v := by
  cases h <;> rfl

/-- `OperatesOn op t v`: the operator takes an operand of the type `t` and
gives a `v`. -/
inductive OperatesOn : UnaryOp → Ty → Ty → Prop where
  | negate {t : Ty} : t.MayBe .number → OperatesOn .negate t .number
  | not {t : Ty} : t.MayBe .boolean → OperatesOn .not t .boolean
  | lengthArray (t : Ty) : OperatesOn .length (.array t) .number
  | lengthString : OperatesOn .length .string .number
  | lengthUnknown : OperatesOn .length .any .number

/-- `Indexes t u`: what is indexed is a `t`, and what is found there is a `u`. -/
inductive Indexes : Ty → Ty → Prop where
  | array (t : Ty) : Indexes (.array t) t
  | string : Indexes .string .character
  | unknown : Indexes .any .any

/-! ## The judgement -/

mutual

/-- The expression has the type. -/
inductive HasType (strict : Bool) (env : Env) : SourceExpr → Ty → Prop where
  | number (span : Span) : HasType strict env (.number span) .number
  | character (value : Char) (span : Span) :
      HasType strict env (.character value span) .character
  | string (value : String) (span : Span) : HasType strict env (.string value span) .string
  | boolean (value : Bool) (span : Span) : HasType strict env (.boolean value span) .boolean
  | emptyArray (span : Span) : HasType strict env (.array [] span) (.array .any)
  | array {first : SourceExpr} {rest : List SourceExpr} {t : Ty} (span : Span) :
      HasType strict env first t → HaveTypes strict env rest t →
        HasType strict env (.array (first :: rest) span) (.array t)
  | ref {name : String} {binding : Binding} (span : Span) :
      env.binding? name = some binding →
        HasType strict env (.ref name () span) binding.ty
  | index {base subscript : SourceExpr} {t u v : Ty} (span : Span) :
      HasType strict env base t → HasType strict env subscript u → u.MayBe .number →
        Indexes t v → HasType strict env (.index base subscript span) v
  | binary {op : BinaryOp} {f : Family} {left right : SourceExpr} {t u v : Ty} (span : Span) :
      HasType strict env left t → HasType strict env right u → op ∈ f.operators →
        Operates strict f t u v → HasType strict env (.binary op left right span) v
  | unary {op : UnaryOp} {operand : SourceExpr} {t v : Ty} (span : Span) :
      HasType strict env operand t → OperatesOn op t v →
        HasType strict env (.unary op operand span) v
  | assign {target value : SourceExpr} {t u : Ty} (span : Span) :
      Writable strict env target → HasType strict env target t →
        HasType strict env value u → u.Consistent t →
        HasType strict env (.assign target value span) t

/-- All the expressions have types that are consistent with the given one. -/
inductive HaveTypes (strict : Bool) (env : Env) : List SourceExpr → Ty → Prop where
  | nil (t : Ty) : HaveTypes strict env [] t
  | cons {e : SourceExpr} {rest : List SourceExpr} {t u : Ty} :
      HasType strict env e u → u.Consistent t → HaveTypes strict env rest t →
        HaveTypes strict env (e :: rest) t

/-- The expression can be written to: a variable that is no constant, or an
element of something that can be written to and is not known not to be an
array. -/
inductive Writable (strict : Bool) (env : Env) : SourceExpr → Prop where
  | ref {name : String} {binding : Binding} (span : Span) :
      env.binding? name = some binding → binding.constant = false →
        Writable strict env (.ref name () span)
  | indexArray {base subscript : SourceExpr} {t : Ty} (span : Span) :
      HasType strict env base (.array t) → Writable strict env base →
        Writable strict env (.index base subscript span)
  | indexUnknown {base subscript : SourceExpr} (span : Span) :
      HasType strict env base .any → Writable strict env base →
        Writable strict env (.index base subscript span)

end

/-! ## Rules and blame -/

/-- The one type that meets a requirement, if there is just one. -/
def Requirement.sole? : Requirement → Option Ty
  | number | integer => some .number
  | boolean => some .boolean
  | character => some .character
  | string => some .string
  | array | sequence => none

theorem admits_iff_mayBe {r : Requirement} {expected : Ty} (h : r.sole? = some expected)
    (t : Ty) : r.admits t = true ↔ t.MayBe expected := by
  cases r <;> cases h <;> cases t <;>
    simp [Requirement.admits, Requirement.holds, Ty.MayBe, Ty.isAny, Ty.isArithmetic,
      Ty.isInteger]

namespace Expr

theorem unmet_eq_nil {r : Requirement} {expected : Ty} (h : r.sole? = some expected)
    (operator : String) (e : ResolvedExpr) :
    unmet r operator e = [] ↔ e.ty.MayBe expected := by
  rw [unmet, complain_eq_nil, admits_iff_mayBe h]

theorem unmet_append_eq_nil {r : Requirement} {expected : Ty} (h : r.sole? = some expected)
    (operator : String) (left right : ResolvedExpr) :
    unmet r operator left ++ unmet r operator right = [] ↔
      left.ty.MayBe expected ∧ right.ty.MayBe expected := by
  rw [List.append_eq_nil_iff, unmet_eq_nil h, unmet_eq_nil h]

theorem misplaced_eq_nil (site : Site) (expected : Ty) (e : ResolvedExpr) :
    misplaced site expected e = [] ↔ e.ty.Consistent expected := by
  rw [misplaced, complain_eq_nil, Ty.assignable_iff_consistent]

theorem indexes_iff {base : ResolvedExpr} {v : Ty} :
    Indexes base.ty v ↔ unmet .sequence "[]" base = [] ∧ base.ty.item = v := by
  rw [unmet, complain_eq_nil]
  constructor
  · intro h
    generalize base.ty = t at h ⊢
    cases h <;> exact ⟨rfl, rfl⟩
  · rintro ⟨hadmits, rfl⟩
    generalize base.ty = t at hadmits ⊢
    cases t with
    | array t => exact .array t
    | string => exact .string
    | any => exact .unknown
    | number | character | boolean => cases hadmits

theorem operatesOn_iff {op : UnaryOp} {operand : ResolvedExpr} {v : Ty} :
    OperatesOn op operand.ty v ↔
      unmet (requirementOf op) op.token operand = [] ∧ op.result = v := by
  rw [unmet, complain_eq_nil]
  constructor
  · intro h
    generalize operand.ty = t at h ⊢
    cases h with
    | negate ht => exact ⟨(admits_iff_mayBe rfl t).mpr ht, rfl⟩
    | not ht => exact ⟨(admits_iff_mayBe rfl t).mpr ht, rfl⟩
    | lengthArray | lengthString | lengthUnknown => exact ⟨rfl, rfl⟩
  · rintro ⟨hadmits, rfl⟩
    generalize operand.ty = t at hadmits ⊢
    cases op with
    | negate => exact .negate ((admits_iff_mayBe rfl t).mp hadmits)
    | not => exact .not ((admits_iff_mayBe rfl t).mp hadmits)
    | length =>
        cases t with
        | array t => exact .lengthArray t
        | string => exact .lengthString
        | any => exact .lengthUnknown
        | number | character | boolean => cases hadmits

theorem equatable_iff {t u : Ty} :
    equatable t u = true ↔ t = .any ∨ u = .any ∨ t = u ∧ t.isPrimitive = true := by
  cases t <;> cases u <;>
    simp [equatable, Ty.isAny, Ty.isPrimitive, Ty.compatible, Ty.assignable]

theorem blameRelational_eq_nil (options : Options) (operator : String)
    (left right : ResolvedExpr) :
    blameRelational options operator left right = [] ↔
      Operates options.strictRelational .relational left.ty right.ty .boolean := by
  unfold blameRelational
  generalize left.ty = t
  constructor
  · intro h
    cases t with
    | number => exact .ordered (by simp) ((unmet_eq_nil rfl operator right).mp h)
    | character => exact .ordered (by simp) ((unmet_eq_nil rfl operator right).mp h)
    | string => exact .ordered (by simp) ((unmet_eq_nil rfl operator right).mp h)
    | any => exact .orderUnknown right.ty
    | boolean => exact .unordered right.ty (by simpa using h) (.inl rfl)
    | array t => exact .unordered right.ty (by simpa using h) (.inr ⟨t, rfl⟩)
  · generalize hu : right.ty = u
    intro h
    cases h with
    | ordered ht hu' =>
        simp only [List.mem_cons, List.not_mem_nil, or_false] at ht
        rw [← hu] at hu'
        rcases ht with rfl | rfl | rfl
        · exact (unmet_eq_nil rfl operator right).mpr hu'
        · exact (unmet_eq_nil rfl operator right).mpr hu'
        · exact (unmet_eq_nil rfl operator right).mpr hu'
    | orderUnknown => rfl
    | unordered u hstrict ht =>
        rcases ht with rfl | ⟨s, rfl⟩
        · simp [hstrict]
        · simp [hstrict]

theorem operates_iff {options : Options} {op : BinaryOp} {left right : ResolvedExpr}
    {position : Position} {v : Ty} :
    Operates options.strictRelational op.family left.ty right.ty v ↔
      blameBinary options op left right position = [] ∧ op.family.result = v := by
  unfold blameBinary
  generalize op.family = f
  constructor
  · intro h
    refine ⟨?_, Operates.result h⟩
    obtain rfl := Operates.result h
    cases f with
    | arithmetic =>
        cases h with
        | arithmetic hl hr => exact (unmet_append_eq_nil rfl op.token left right).mpr ⟨hl, hr⟩
    | shift =>
        cases h with
        | shift hl hr => exact (unmet_append_eq_nil rfl op.token left right).mpr ⟨hl, hr⟩
    | logical =>
        cases h with
        | logical hl hr => exact (unmet_append_eq_nil rfl op.token left right).mpr ⟨hl, hr⟩
    | relational => exact (blameRelational_eq_nil options op.token left right).mpr h
    | equality =>
        rw [complain_eq_nil, equatable_iff]
        generalize left.ty = t at h ⊢
        generalize right.ty = u at h ⊢
        cases h with
        | equalPrimitive hp => exact .inr (.inr ⟨rfl, hp⟩)
        | equalUnknownLeft => exact .inl rfl
        | equalUnknownRight => exact .inr (.inl rfl)
  · rintro ⟨h, rfl⟩
    cases f with
    | arithmetic =>
        obtain ⟨hl, hr⟩ := (unmet_append_eq_nil rfl op.token left right).mp h
        exact .arithmetic hl hr
    | shift =>
        obtain ⟨hl, hr⟩ := (unmet_append_eq_nil rfl op.token left right).mp h
        exact .shift hl hr
    | logical =>
        obtain ⟨hl, hr⟩ := (unmet_append_eq_nil rfl op.token left right).mp h
        exact .logical hl hr
    | relational => exact (blameRelational_eq_nil options op.token left right).mp h
    | equality =>
        rw [complain_eq_nil, equatable_iff] at h
        rcases h with ht | hu | ⟨htu, hp⟩
        · rw [ht]
          exact .equalUnknownLeft _
        · rw [hu]
          exact .equalUnknownRight _
        · rw [← htu]
          exact .equalPrimitive hp

end Expr

/-! ## Agreement -/

section

variable {options : Options} {env : Env}

mutual

/-- Nothing is wrong with an expression that has a type. -/
theorem HasType.accepted : ∀ {e : SourceExpr} {t : Ty},
    HasType options.strictRelational env e t →
      (e.resolve env).violations options = [] ∧ (e.resolve env).ty = t
  | _, _, .number _ | _, _, .character _ _ | _, _, .string _ _ | _, _, .boolean _ _
  | _, _, .emptyArray _ => ⟨rfl, rfl⟩
  | _, _, .array _ hfirst hrest => by
      obtain ⟨hviolations, hty⟩ := hfirst.accepted
      have helements := hrest.accepted
      simp only [Expr.resolve, Expr.resolveAll, Expr.violations_array, Expr.blame, Expr.ty,
        Expr.resolveAll_eq_map, List.flatMap_cons, List.append_eq_nil_iff,
        List.flatMap_eq_nil_iff, List.forall_mem_map, Expr.misplaced_eq_nil, hty]
      refine ⟨⟨⟨hviolations, ?_⟩, ?_⟩, trivial⟩
      · intro e he
        exact (helements e he).1
      · intro e he
        exact (helements e he).2
  | _, _, .ref _ hbinding => by
      simp [Expr.resolve, Expr.violations_ref, Expr.ty, hbinding, Binding.ofTarget]
  | _, _, .index _ hbase hsubscript hnumber hitem => by
      obtain ⟨hb, rfl⟩ := hbase.accepted
      obtain ⟨hs, rfl⟩ := hsubscript.accepted
      obtain ⟨hsequence, hty⟩ := Expr.indexes_iff.mp hitem
      refine ⟨?_, hty⟩
      have hinteger : Expr.unmet .integer "[]" _ = [] := (Expr.unmet_eq_nil rfl "[]" _).mpr hnumber
      rw [Expr.resolve, Expr.violations_index, Expr.blame, hb, hs, hsequence]
      exact hinteger
  | _, _, .binary _ hleft hright hop hrule => by
      obtain ⟨hl, rfl⟩ := hleft.accepted
      obtain ⟨hr, rfl⟩ := hright.accepted
      obtain rfl := mem_operators.mp hop
      obtain ⟨hblame, hty⟩ := Expr.operates_iff.mp hrule
      refine ⟨?_, hty⟩
      rw [Expr.resolve, Expr.violations_binary, Expr.blame, hl, hr]
      exact hblame
  | _, _, .unary _ hoperand hrule => by
      obtain ⟨ho, rfl⟩ := hoperand.accepted
      obtain ⟨hblame, hty⟩ := Expr.operatesOn_iff.mp hrule
      refine ⟨?_, hty⟩
      rw [Expr.resolve, Expr.violations_unary, Expr.blame, ho]
      exact hblame
  | _, _, .assign _ hwritable htarget hvalue hagrees => by
      have hw := hwritable.accepted
      obtain ⟨ht, rfl⟩ := htarget.accepted
      obtain ⟨hv, rfl⟩ := hvalue.accepted
      refine ⟨?_, rfl⟩
      have hplaced := (Expr.misplaced_eq_nil .assignment _ _).mpr hagrees
      rw [Expr.resolve, Expr.violations_assign, Expr.blame, ht, hv, hw]
      exact hplaced

theorem HaveTypes.accepted : ∀ {es : List SourceExpr} {t : Ty},
    HaveTypes options.strictRelational env es t → ∀ e ∈ es,
      (e.resolve env).violations options = [] ∧ (e.resolve env).ty.Consistent t
  | _, _, .nil _ => by
      intro e he
      cases he
  | _, _, .cons hfirst hagrees hrest => by
      obtain ⟨hviolations, rfl⟩ := hfirst.accepted
      have helements := hrest.accepted
      intro e he
      rcases List.mem_cons.mp he with rfl | he
      · exact ⟨hviolations, hagrees⟩
      · exact helements e he

theorem Writable.accepted : ∀ {e : SourceExpr},
    Writable options.strictRelational env e → (e.resolve env).isWritable = true
  | _, .ref _ hbinding hconstant => by
      simp [Expr.resolve, Expr.isWritable, Binding.ofTarget, hbinding, hconstant]
  | _, .indexArray _ hbase hwritable => by
      have hw := hwritable.accepted
      simp [Expr.resolve, Expr.isWritable, hbase.accepted.2, hw, Ty.isArray]
  | _, .indexUnknown _ hbase hwritable => by
      have hw := hwritable.accepted
      simp [Expr.resolve, Expr.isWritable, hbase.accepted.2, hw, Ty.isAny]

end

mutual

/-- An expression that nothing is wrong with has the type read off it. -/
theorem hasType_of_accepted : ∀ e : SourceExpr, (e.resolve env).violations options = [] →
    HasType options.strictRelational env e (e.resolve env).ty
  | .number span, _ => .number span
  | .character value span, _ => .character value span
  | .string value span, _ => .string value span
  | .boolean value span, _ => .boolean value span
  | .array [] span, _ => .emptyArray span
  | .array (first :: rest) span, h => by
      simp only [Expr.resolve, Expr.resolveAll, Expr.violations_array, Expr.blame,
        Expr.resolveAll_eq_map, List.flatMap_cons, List.append_eq_nil_iff,
        List.flatMap_eq_nil_iff, List.forall_mem_map, Expr.misplaced_eq_nil] at h
      obtain ⟨⟨hfirst, hrest⟩, hagree⟩ := h
      exact .array span (hasType_of_accepted first hfirst)
        (haveTypes_of_accepted rest _ hrest hagree)
  | .ref name _ span, h => by
      obtain ⟨binding, hbinding⟩ := Expr.exists_binding h
      simp only [Expr.resolve, Expr.ty, Binding.ofTarget, hbinding, Option.getD_some]
      exact .ref span hbinding
  | .index base subscript span, h => by
      simp only [Expr.resolve, Expr.violations_index, Expr.blame, List.append_eq_nil_iff] at h
      obtain ⟨hbase, hsubscript, hsequence, hinteger⟩ := h
      exact .index span (hasType_of_accepted base hbase)
        (hasType_of_accepted subscript hsubscript) ((Expr.unmet_eq_nil rfl "[]" _).mp hinteger)
        (Expr.indexes_iff.mpr ⟨hsequence, rfl⟩)
  | .binary op left right span, h => by
      simp only [Expr.resolve, Expr.violations_binary, Expr.blame, List.append_eq_nil_iff] at h
      obtain ⟨hleft, hright, hrule⟩ := h
      exact .binary span (hasType_of_accepted left hleft) (hasType_of_accepted right hright)
        (mem_operators.mpr rfl) (Expr.operates_iff.mpr ⟨hrule, rfl⟩)
  | .unary op operand span, h => by
      simp only [Expr.resolve, Expr.violations_unary, Expr.blame, List.append_eq_nil_iff] at h
      obtain ⟨hoperand, hrule⟩ := h
      exact .unary span (hasType_of_accepted operand hoperand)
        (Expr.operatesOn_iff.mpr ⟨hrule, rfl⟩)
  | .assign target value span, h => by
      simp only [Expr.resolve, Expr.violations_assign, Expr.blame, List.append_eq_nil_iff,
        complain_eq_nil, Expr.misplaced_eq_nil] at h
      obtain ⟨htarget, hvalue, hwritable, hagrees⟩ := h
      exact .assign span (writable_of_accepted target htarget hwritable)
        (hasType_of_accepted target htarget) (hasType_of_accepted value hvalue) hagrees

theorem haveTypes_of_accepted : ∀ (es : List SourceExpr) (t : Ty),
    (∀ e ∈ es, (e.resolve env).violations options = []) →
    (∀ e ∈ es, (e.resolve env).ty.Consistent t) → HaveTypes options.strictRelational env es t
  | [], t, _, _ => .nil t
  | e :: rest, t, hviolations, hagree => by
      obtain ⟨he, hrest⟩ := List.forall_mem_cons.mp hviolations
      obtain ⟨hte, htrest⟩ := List.forall_mem_cons.mp hagree
      exact .cons (hasType_of_accepted e he) hte (haveTypes_of_accepted rest t hrest htrest)

theorem writable_of_accepted : ∀ e : SourceExpr, (e.resolve env).violations options = [] →
    (e.resolve env).isWritable = true → Writable options.strictRelational env e
  | .number _, _, hw | .character _ _, _, hw | .string _ _, _, hw | .boolean _ _, _, hw
  | .array _ _, _, hw | .binary _ _ _ _, _, hw | .unary _ _ _, _, hw
  | .assign _ _ _, _, hw => by
      cases hw
  | .ref name _ span, h, hw => by
      obtain ⟨binding, hbinding⟩ := Expr.exists_binding h
      simp only [Expr.resolve, Expr.isWritable, Binding.ofTarget, hbinding, Option.getD_some,
        Bool.not_eq_true'] at hw
      exact .ref span hbinding hw
  | .index base subscript span, h, hw => by
      simp only [Expr.resolve, Expr.violations_index, List.append_eq_nil_iff] at h
      simp only [Expr.resolve, Expr.isWritable, Bool.and_eq_true] at hw
      obtain ⟨hindexable, hbase⟩ := hw
      have hty := hasType_of_accepted base h.1
      have hwritable := writable_of_accepted base h.1 hbase
      generalize (base.resolve env).ty = t at hty hindexable
      cases t with
      | array t => exact .indexArray span hty hwritable
      | any => exact .indexUnknown span hty hwritable
      | number | character | string | boolean => cases hindexable

end

/-- An expression has a type exactly if nothing is wrong with it, and then it
has the one that is read off it. -/
theorem hasType_iff {e : SourceExpr} {t : Ty} :
    HasType options.strictRelational env e t ↔
      (e.resolve env).violations options = [] ∧ (e.resolve env).ty = t := by
  constructor
  · exact HasType.accepted
  · rintro ⟨h, rfl⟩
    exact hasType_of_accepted e h

end

/-! ## Programs -/

/-- The rules as a type system, with consistency for agreement. -/
def gradual (strict : Bool) : TypeSystem where
  Carrier := Ty
  toTy := id
  HasType := HasType strict
  Agrees := Ty.Consistent

theorem gradual_follows (options : Options) :
    (gradual options.strictRelational).Follows options (fun _ => True) (fun _ => True) where
  hasType_iff := fun _ _ => hasType_iff
  ty_covered := fun _ _ _ => ⟨_, rfl⟩
  type?_covered := fun _ _ => ⟨_, rfl⟩
  agrees_iff := Ty.assignable_iff_consistent.symm
  good_push := fun _ _ => trivial
  good_bind := fun _ _ _ _ => trivial

/-- **The checker accepts exactly the well-typed programs.** It reports nothing
about an expression exactly if the expression has a type, and nothing about a
program exactly if the rules accept it. Its tree is the program with names looked
up, and in an accepted program every node and every declaration of it has its
type in the environment that it stands in. -/
theorem checks_iff_typed (options : Options) (env : Env) :
    (∀ (e : SourceExpr) (t : Ty),
      (checkExpr options env e).log = #[] ∧ (checkExpr options env e).tree.ty = t ↔
        HasType options.strictRelational env e t) ∧
    (∀ (body : List SourceStmt) (env' : Env),
      (checkProgram options env body).log = #[] ∧ (checkProgram options env body).env = env' ↔
        (gradual options.strictRelational).AcceptsAll env body env') ∧
    (∀ (log : Log) (body : List SourceStmt),
      (checkBlock options env log body).log = log ↔
        ∃ env', (gradual options.strictRelational).AcceptsAll env.push body env') ∧
    (∀ body : List SourceStmt,
      Stmt.eraseAll (checkProgram options env body).tree = body ∧
      ((checkProgram options env body).log = #[] →
        (∀ p ∈ Stmt.scopedNodes env (checkProgram options env body).tree,
          HasType options.strictRelational p.1 p.2.erase p.2.ty) ∧
        (∀ p ∈ Stmt.scopedDeclarations env (checkProgram options env body).tree,
          (gradual options.strictRelational).Declares p.1 p.2.erase p.2.ty))) := by
  have F := gradual_follows options
  have hfine : ∀ ss : List ResolvedStmt, ∀ n ∈ Stmt.nodesAll ss, True := fun _ _ _ => trivial
  refine ⟨?_, ?_, ?_, ?_⟩
  · intro e t
    rw [checkExpr_eq, hasType_iff]
    simp
  · intro body env'
    rw [checkProgram_eq, F.acceptsAll_iff trivial body (hfine _)]
    simp
  · intro log body
    simp [checkBlock_eq, F.acceptsAll_iff trivial body (hfine _)]
  · intro body
    refine ⟨eraseAll_tree_checkProgram options env body, fun h => ?_⟩
    rw [checkProgram_eq] at h ⊢
    have hnone : Stmt.violationsAll options env (Stmt.resolveAll env body) = [] := by
      simpa using h
    constructor
    · intro p hp
      obtain ⟨-, htyped⟩ := F.scopedNodes_typed trivial body (hfine _) hnone p hp
      exact (htyped p.2.ty).mpr rfl
    · intro p hp
      obtain ⟨-, htyped⟩ := F.scopedDeclarations_typed trivial body (hfine _) hnone p hp
      exact (htyped p.2.ty).mpr rfl

/-- Shadowing, a constant that is read, an empty literal, and an element of it
that is compared with a boolean. -/
def shadowingProgram : List SourceStmt :=
  [.declaration ⟨"_x", none, some (.array [] .nowhere), .nowhere⟩,
    .declaration ⟨"y", some ⟨"[]boolean", ()⟩, some (.ref "_x" () .nowhere), .nowhere⟩,
    .block [.declaration ⟨"_x", none, some (.string "s" .nowhere), .nowhere⟩,
      .expression (.assign (.index (.ref "y" () .nowhere) (.unary .length (.ref "_x" () .nowhere)
        .nowhere) .nowhere) (.boolean true .nowhere) .nowhere)] .nowhere,
    .expression (.binary .equal (.index (.ref "_x" () .nowhere) (.number .nowhere) .nowhere)
      (.boolean true .nowhere) .nowhere)]

/-- The program is accepted, and each of its fourteen nodes has its type. -/
theorem checks_iff_typed_shadowing :
    (checkProgram {} .empty shadowingProgram).log = #[] ∧
    (Stmt.scopedNodes .empty (checkProgram {} .empty shadowingProgram).tree).length = 14 ∧
    (∀ p ∈ Stmt.scopedNodes .empty (checkProgram {} .empty shadowingProgram).tree,
      HasType false p.1 p.2.erase p.2.ty) := by
  have hlog : (checkProgram {} .empty shadowingProgram).log = #[] := by decide +kernel
  obtain ⟨-, -, -, hnodes⟩ := checks_iff_typed {} .empty
  exact ⟨hlog, by decide +kernel, ((hnodes shadowingProgram).2 hlog).1⟩

end Gradual
