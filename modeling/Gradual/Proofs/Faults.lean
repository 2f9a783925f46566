import Gradual.Proofs.Stmt.Walk
import Gradual.Proofs.Typing

/-!
# Faults

What can be wrong with a program, said in terms of its resolved form: of the
types and the writability of its nodes, of what its names were found to mean,
and of the declarations in front. `Step.Fault` has one constructor for each
thing that can be wrong with a step, and gives the diagnostic in full: what is
blamed, for what, and where.

`Step.mem_faults_iff` says that `Step.faults` lists just these diagnostics. So
the log of a run is the faults of its steps, in the order of the walk, and all
of them can be checked after the whole program has its types.
-/

namespace Gradual

/-! ## What can be wrong -/

/-- A diagnostic that the node deserves. -/
inductive Expr.Fault (options : Options) : ResolvedExpr → Diagnostic → Prop where
  /-- A name that means nothing. -/
  | undeclared (name : String) (span : Span) :
      Fault options (.ref name none span) ⟨.undeclared name, span.start⟩
  /-- Elements are expected to agree with the first of them. -/
  | element {first e : ResolvedExpr} {rest : List ResolvedExpr} (span : Span) :
      e ∈ rest → ¬ e.ty.Consistent first.ty →
        Fault options (.array (first :: rest) span) ⟨.mismatch .element first.ty e.ty, e.start⟩
  | base {base : ResolvedExpr} (subscript : ResolvedExpr) (span : Span) :
      (¬ ∃ t, Indexes base.ty t) →
        Fault options (.index base subscript span) ⟨.operand .sequence "[]" base.ty, base.start⟩
  | subscript (base : ResolvedExpr) {subscript : ResolvedExpr} (span : Span) :
      ¬ subscript.ty.MayBe .number → Fault options (.index base subscript span)
        ⟨.operand .integer "[]" subscript.ty, subscript.start⟩
  | arithmetic {op : BinaryOp} {left right e : ResolvedExpr} (span : Span) :
      op ∈ Family.arithmetic.operators → e ∈ [left, right] → ¬ e.ty.MayBe .number →
        Fault options (.binary op left right span) ⟨.operand .number op.token e.ty, e.start⟩
  | shift {op : BinaryOp} {left right e : ResolvedExpr} (span : Span) :
      op ∈ Family.shift.operators → e ∈ [left, right] → ¬ e.ty.MayBe .number →
        Fault options (.binary op left right span) ⟨.operand .integer op.token e.ty, e.start⟩
  | logical {op : BinaryOp} {left right e : ResolvedExpr} (span : Span) :
      op ∈ Family.logical.operators → e ∈ [left, right] → ¬ e.ty.MayBe .boolean →
        Fault options (.binary op left right span) ⟨.operand .boolean op.token e.ty, e.start⟩
  /-- A left operand with an order says what the right one has to be. -/
  | ordered {op : BinaryOp} {r : Requirement} {left right : ResolvedExpr} (span : Span) :
      op ∈ Family.relational.operators →
        (left.ty, r) ∈ [(.character, .character), (.string, .string), (.number, .number)] →
        ¬ right.ty.MayBe left.ty →
          Fault options (.binary op left right span) ⟨.operand r op.token right.ty, right.start⟩
  | unordered {op : BinaryOp} {left : ResolvedExpr} (right : ResolvedExpr) (span : Span) :
      op ∈ Family.relational.operators → options.strictRelational = true →
        (left.ty = .boolean ∨ ∃ t, left.ty = .array t) →
          Fault options (.binary op left right span) ⟨.unordered op.token left.ty, left.start⟩
  | incomparable {op : BinaryOp} {left right : ResolvedExpr} (span : Span) :
      op ∈ Family.equality.operators → left.ty ≠ .any → right.ty ≠ .any →
        ¬ (left.ty = right.ty ∧ left.ty.isPrimitive = true) →
          Fault options (.binary op left right span)
            ⟨.incomparable op.token left.ty right.ty, span.start⟩
  | negate {e : ResolvedExpr} (span : Span) : ¬ e.ty.MayBe .number →
      Fault options (.unary .negate e span) ⟨.operand .number "-" e.ty, e.start⟩
  | not {e : ResolvedExpr} (span : Span) : ¬ e.ty.MayBe .boolean →
      Fault options (.unary .not e span) ⟨.operand .boolean "!" e.ty, e.start⟩
  | length {e : ResolvedExpr} (span : Span) : (¬ ∃ t, Indexes e.ty t) →
      Fault options (.unary .length e span) ⟨.operand .sequence "#" e.ty, e.start⟩
  | notWritable {target : ResolvedExpr} (value : ResolvedExpr) (span : Span) :
      target.isWritable = false →
        Fault options (.assign target value span) ⟨.notWritable, target.start⟩
  | assigned {target value : ResolvedExpr} (span : Span) :
      ¬ value.ty.Consistent target.ty → Fault options (.assign target value span)
        ⟨.mismatch .assignment target.ty value.ty, value.start⟩

/-- A diagnostic that the step deserves, if the names for which `taken` holds
are bound in the scope of its point. -/
inductive Step.Fault (options : Options) (taken : String → Bool) :
    Step (Option Binding) (Option Ty) → Diagnostic → Prop where
  | node {e : ResolvedExpr} {d : Diagnostic} :
      e.Fault options d → Fault options taken (.node e) d
  /-- A type name that stands for no type. -/
  | unknownType {d : ResolvedDeclaration} {text : String} :
      d.type? = some ⟨text, none⟩ →
        Fault options taken (.typeName d) ⟨.unknownType text, d.span.start⟩
  | untyped {d : ResolvedDeclaration} : d.type? = none → d.init? = none →
      Fault options taken (.agreement d) ⟨.untyped d.name, d.span.start⟩
  | initialization {d : ResolvedDeclaration} {r : TypeRef (Option Ty)} {e : ResolvedExpr} :
      d.type? = some r → d.init? = some e → ¬ e.ty.Consistent r.ty →
        Fault options taken (.agreement d) ⟨.mismatch .initialization r.ty e.ty, e.start⟩
  | redeclared {d : ResolvedDeclaration} : taken d.name = true →
      Fault options taken (.entry d) ⟨.redeclared d.name, d.span.start⟩

/-! ## Single checks -/

theorem mem_complain {ok : Bool} {cause : Cause} {position : Position} {d : Diagnostic} :
    d ∈ complain ok cause position ↔ ok = false ∧ d = ⟨cause, position⟩ := by
  cases ok <;> simp [complain]

theorem admits_sequence_iff {t : Ty} :
    Requirement.sequence.admits t = true ↔ ∃ u, Indexes t u := by
  constructor
  · intro h
    cases t with
    | array t => exact ⟨t, .array t⟩
    | string => exact ⟨.character, .string⟩
    | any => exact ⟨.any, .unknown⟩
    | number | character | boolean => cases h
  · rintro ⟨u, hu⟩
    cases hu <;> rfl

namespace Expr

variable {options : Options} {d : Diagnostic}

theorem mem_unmet {r : Requirement} {expected : Ty} (h : r.sole? = some expected)
    {operator : String} {e : ResolvedExpr} :
    d ∈ unmet r operator e ↔
      ¬ e.ty.MayBe expected ∧ d = ⟨.operand r operator e.ty, e.start⟩ := by
  rw [unmet, mem_complain, ← Bool.not_eq_true, admits_iff_mayBe h]

theorem mem_unmet_sequence {operator : String} {e : ResolvedExpr} :
    d ∈ unmet .sequence operator e ↔
      (¬ ∃ t, Indexes e.ty t) ∧ d = ⟨.operand .sequence operator e.ty, e.start⟩ := by
  rw [unmet, mem_complain, ← Bool.not_eq_true, admits_sequence_iff]

theorem mem_misplaced {site : Site} {expected : Ty} {e : ResolvedExpr} :
    d ∈ misplaced site expected e ↔
      ¬ e.ty.Consistent expected ∧ d = ⟨.mismatch site expected e.ty, e.start⟩ := by
  rw [misplaced, mem_complain, ← Bool.not_eq_true, Ty.assignable_iff_consistent]

/-- Two operands of which the same is asked. -/
theorem mem_unmet_append {r : Requirement} {expected : Ty} (h : r.sole? = some expected)
    {operator : String} {left right : ResolvedExpr} :
    d ∈ unmet r operator left ++ unmet r operator right ↔
      ∃ e ∈ [left, right],
        ¬ e.ty.MayBe expected ∧ d = ⟨.operand r operator e.ty, e.start⟩ := by
  rw [List.mem_append, mem_unmet h, mem_unmet h]
  simp

/-! ## Nodes -/

theorem mem_blameRelational {operator : String} {left right : ResolvedExpr} :
    d ∈ blameRelational options operator left right ↔
      (∃ r, (left.ty, r) ∈ [(Ty.character, Requirement.character), (.string, .string),
          (.number, .number)] ∧ ¬ right.ty.MayBe left.ty ∧
        d = ⟨.operand r operator right.ty, right.start⟩) ∨
      (options.strictRelational = true ∧ (left.ty = .boolean ∨ ∃ t, left.ty = .array t) ∧
        d = ⟨.unordered operator left.ty, left.start⟩) := by
  unfold blameRelational
  generalize left.ty = t
  cases t with
  | number => simp [mem_unmet (r := .number) rfl]
  | character => simp [mem_unmet (r := .character) rfl]
  | string => simp [mem_unmet (r := .string) rfl]
  | any => simp
  | boolean => simp [mem_complain]
  | array t => simp [mem_complain]

theorem mem_incomparable {operator : String} {left right : ResolvedExpr} {position : Position} :
    d ∈ complain (equatable left.ty right.ty) (.incomparable operator left.ty right.ty) position ↔
      left.ty ≠ .any ∧ right.ty ≠ .any ∧ ¬ (left.ty = right.ty ∧ left.ty.isPrimitive = true) ∧
        d = ⟨.incomparable operator left.ty right.ty, position⟩ := by
  rw [mem_complain, ← Bool.not_eq_true, equatable_iff, not_or, not_or, and_assoc, and_assoc]

/-- The rule of a binary operator, fault by fault. -/
theorem mem_blameBinary {op : BinaryOp} {left right : ResolvedExpr} {span : Span} :
    d ∈ blameBinary options op left right span.start ↔
      Fault options (.binary op left right span) d := by
  constructor
  · intro h
    unfold blameBinary at h
    cases hf : op.family with
    | arithmetic =>
        rw [hf] at h
        obtain ⟨e, he, hty, rfl⟩ := (mem_unmet_append rfl).mp h
        exact .arithmetic span (mem_operators.mpr hf) he hty
    | shift =>
        rw [hf] at h
        obtain ⟨e, he, hty, rfl⟩ := (mem_unmet_append rfl).mp h
        exact .shift span (mem_operators.mpr hf) he hty
    | logical =>
        rw [hf] at h
        obtain ⟨e, he, hty, rfl⟩ := (mem_unmet_append rfl).mp h
        exact .logical span (mem_operators.mpr hf) he hty
    | relational =>
        rw [hf] at h
        rcases mem_blameRelational.mp h with ⟨r, hleft, hright, rfl⟩ | ⟨hstrict, hleft, rfl⟩
        · exact .ordered span (mem_operators.mpr hf) hleft hright
        · exact .unordered right span (mem_operators.mpr hf) hstrict hleft
    | equality =>
        rw [hf] at h
        obtain ⟨hleft, hright, hdiffer, rfl⟩ := mem_incomparable.mp h
        exact .incomparable span (mem_operators.mpr hf) hleft hright hdiffer
  · intro h
    unfold blameBinary
    cases h with
    | arithmetic _ hop he hty =>
        rw [mem_operators.mp hop]
        exact (mem_unmet_append rfl).mpr ⟨_, he, hty, rfl⟩
    | shift _ hop he hty =>
        rw [mem_operators.mp hop]
        exact (mem_unmet_append rfl).mpr ⟨_, he, hty, rfl⟩
    | logical _ hop he hty =>
        rw [mem_operators.mp hop]
        exact (mem_unmet_append rfl).mpr ⟨_, he, hty, rfl⟩
    | ordered _ hop hleft hright =>
        rw [mem_operators.mp hop]
        exact mem_blameRelational.mpr (.inl ⟨_, hleft, hright, rfl⟩)
    | unordered _ _ hop hstrict hleft =>
        rw [mem_operators.mp hop]
        exact mem_blameRelational.mpr (.inr ⟨hstrict, hleft, rfl⟩)
    | incomparable _ hop hleft hright hdiffer =>
        rw [mem_operators.mp hop]
        exact mem_incomparable.mpr ⟨hleft, hright, hdiffer, rfl⟩

/-- A node is blamed for its faults. -/
theorem mem_blame_iff {e : ResolvedExpr} : d ∈ e.blame options ↔ e.Fault options d := by
  constructor
  · intro h
    cases e with
    | number | character | string | boolean => cases h
    | array elements span =>
        cases elements with
        | nil => cases h
        | cons first rest =>
            obtain ⟨e, he, hd⟩ := List.mem_flatMap.mp h
            obtain ⟨hty, rfl⟩ := mem_misplaced.mp hd
            exact .element span he hty
    | ref name target span =>
        obtain ⟨hnone, rfl⟩ := mem_complain.mp h
        cases target with
        | none => exact .undeclared name span
        | some => cases hnone
    | index base subscript span =>
        rcases List.mem_append.mp h with h | h
        · obtain ⟨hty, rfl⟩ := mem_unmet_sequence.mp h
          exact .base subscript span hty
        · obtain ⟨hty, rfl⟩ := (mem_unmet rfl).mp h
          exact .subscript base span hty
    | binary => exact mem_blameBinary.mp h
    | unary op operand span =>
        cases op with
        | negate =>
            obtain ⟨hty, rfl⟩ := (mem_unmet rfl).mp h
            exact .negate span hty
        | not =>
            obtain ⟨hty, rfl⟩ := (mem_unmet rfl).mp h
            exact .not span hty
        | length =>
            obtain ⟨hty, rfl⟩ := mem_unmet_sequence.mp h
            exact .length span hty
    | assign target value span =>
        rcases List.mem_append.mp h with h | h
        · obtain ⟨hwritable, rfl⟩ := mem_complain.mp h
          exact .notWritable value span hwritable
        · obtain ⟨hty, rfl⟩ := mem_misplaced.mp h
          exact .assigned span hty
  · intro h
    cases h with
    | undeclared => exact mem_complain.mpr ⟨rfl, rfl⟩
    | element _ he hty => exact List.mem_flatMap.mpr ⟨_, he, mem_misplaced.mpr ⟨hty, rfl⟩⟩
    | base _ _ hty => exact List.mem_append_left _ (mem_unmet_sequence.mpr ⟨hty, rfl⟩)
    | subscript _ _ hty => exact List.mem_append_right _ ((mem_unmet rfl).mpr ⟨hty, rfl⟩)
    | arithmetic span hop he hty => exact mem_blameBinary.mpr (.arithmetic span hop he hty)
    | shift span hop he hty => exact mem_blameBinary.mpr (.shift span hop he hty)
    | logical span hop he hty => exact mem_blameBinary.mpr (.logical span hop he hty)
    | ordered span hop hl hr => exact mem_blameBinary.mpr (.ordered span hop hl hr)
    | unordered r span hop hs hl => exact mem_blameBinary.mpr (.unordered r span hop hs hl)
    | incomparable span hop hl hr hd => exact mem_blameBinary.mpr (.incomparable span hop hl hr hd)
    | negate _ hty | not _ hty => exact (mem_unmet rfl).mpr ⟨hty, rfl⟩
    | length _ hty => exact mem_unmet_sequence.mpr ⟨hty, rfl⟩
    | notWritable _ _ hwritable =>
        exact List.mem_append_left _ (mem_complain.mpr ⟨hwritable, rfl⟩)
    | assigned _ hty => exact List.mem_append_right _ (mem_misplaced.mpr ⟨hty, rfl⟩)

end Expr

/-! ## Steps -/

namespace Step

variable {options : Options} {taken : String → Bool} {d : Diagnostic}

theorem mem_blameType {d : ResolvedDeclaration} {x : Diagnostic} :
    x ∈ d.blameType ↔ ∃ text, d.type? = some ⟨text, none⟩ ∧
      x = ⟨.unknownType text, d.span.start⟩ := by
  obtain ⟨name, type?, init?, span⟩ := d
  cases type? with
  | none => simp [Declaration.blameType]
  | some r =>
      obtain ⟨text, target⟩ := r
      cases target <;> simp [Declaration.blameType, complain]

/-- A step is blamed for its faults. -/
theorem mem_faults_iff {s : Step (Option Binding) (Option Ty)} :
    d ∈ s.faults options taken ↔ s.Fault options taken d := by
  constructor
  · intro h
    cases s with
    | node e => exact .node (Expr.mem_blame_iff.mp h)
    | typeName decl =>
        obtain ⟨text, htype, rfl⟩ := mem_blameType.mp h
        exact .unknownType htype
    | agreement decl =>
        obtain ⟨name, type?, init?, span⟩ := decl
        cases type? with
        | none =>
            cases init? with
            | none =>
                obtain rfl := List.mem_singleton.mp h
                exact .untyped rfl rfl
            | some => cases h
        | some r =>
            cases init? with
            | none => cases h
            | some e =>
                obtain ⟨hty, rfl⟩ := Expr.mem_misplaced.mp h
                exact .initialization rfl rfl hty
    | entry decl =>
        obtain ⟨htaken, rfl⟩ := mem_complain.mp h
        exact .redeclared (by simpa using htaken)
  · intro h
    cases h with
    | node h => exact Expr.mem_blame_iff.mpr h
    | unknownType htype => exact mem_blameType.mpr ⟨_, htype, rfl⟩
    | untyped htype hinit =>
        rw [faults, Declaration.blame, htype, hinit]
        exact List.mem_singleton_self _
    | initialization htype hinit hty =>
        rw [faults, Declaration.blame, htype, hinit]
        exact Expr.mem_misplaced.mpr ⟨hty, rfl⟩
    | redeclared htaken => exact mem_complain.mpr ⟨by simpa using htaken, rfl⟩

end Step

/-! ## Faults of names -/

def Diagnostic.isUndeclared (d : Diagnostic) : Bool :=
  match d.cause with
  | .undeclared _ => true
  | _ => false

def Diagnostic.isRedeclared (d : Diagnostic) : Bool :=
  match d.cause with
  | .redeclared _ => true
  | _ => false

namespace Step

/-- What is said of a reference whose name means nothing. -/
def undeclared : Step (Option Binding) (Option Ty) → List Diagnostic
  | node (.ref name none span) => [⟨.undeclared name, span.start⟩]
  | _ => []

/-- What is said of a declaration whose name is taken. -/
def redeclared (taken : String → Bool) : Step (Option Binding) (Option Ty) → List Diagnostic
  | entry d => if taken d.name then [⟨.redeclared d.name, d.span.start⟩] else []
  | _ => []

section

variable {options : Options} {taken : String → Bool} {s : Step (Option Binding) (Option Ty)}
  {d : Diagnostic}

/-- Only a reference is blamed for a name that means nothing. -/
theorem Fault.exists_ref (h : s.Fault options taken d) (hd : d.isUndeclared = true) :
    ∃ name span, s = Step.node (.ref name none span) := by
  cases h with
  | node h =>
      cases h with
      | undeclared name span => exact ⟨name, span, rfl⟩
      | element | base | subscript | arithmetic | shift | logical | ordered | unordered
      | incomparable | negate | not | length | notWritable | assigned => cases hd
  | unknownType | untyped | initialization | redeclared => cases hd

/-- Only a declaration is blamed for a name that is taken. -/
theorem Fault.exists_entry (h : s.Fault options taken d) (hd : d.isRedeclared = true) :
    ∃ c, s = Step.entry c := by
  cases h with
  | @redeclared c => exact ⟨c, rfl⟩
  | unknownType | untyped | initialization => cases hd
  | node h => cases h <;> cases hd

theorem filter_isUndeclared_faults (s : Step (Option Binding) (Option Ty)) :
    (s.faults options taken).filter Diagnostic.isUndeclared = s.undeclared := by
  by_cases h : ∃ name span, s = node (.ref name none span)
  · obtain ⟨name, span, rfl⟩ := h
    rfl
  · have hnil : s.undeclared = [] := by
      unfold undeclared
      split
      · exact absurd ⟨_, _, rfl⟩ h
      · rfl
    rw [hnil, List.filter_eq_nil_iff]
    intro d hd hundeclared
    exact h ((mem_faults_iff.mp hd).exists_ref hundeclared)

theorem filter_isRedeclared_faults (s : Step (Option Binding) (Option Ty)) :
    (s.faults options taken).filter Diagnostic.isRedeclared = s.redeclared taken := by
  cases s with
  | entry c =>
      cases h : taken c.name <;>
        simp [faults, redeclared, complain, h, Diagnostic.isRedeclared]
  | typeName | node | agreement =>
      refine List.filter_eq_nil_iff.mpr ?_
      intro d hd hredeclared
      obtain ⟨c, hc⟩ := (mem_faults_iff.mp hd).exists_entry hredeclared
      cases hc

end

end Step

/-! ## Programs -/

/-- **Types first, checks afterwards.** The names of a program can be looked up
without reporting anything, and this gives the tree that the checker leaves:
a reference has what its name means at its point, and a type name what it means
in front of the program. The log is then read off that tree alone, step by step
in the order of the walk, which comes to each node once, and each step adds the
diagnostics that it deserves. -/
theorem log_eq_faults (options : Options) (env : Env) (body : List SourceStmt) :
    (checkProgram options env body).tree = Stmt.resolveAll env body ∧
    ((Stmt.walk (checkProgram options env body).tree).filterMap fun q => q.2.node?) =
      Stmt.nodesAll (checkProgram options env body).tree ∧
    (∀ p name target span,
      (p, Step.node (.ref name target span)) ∈ Stmt.walk (checkProgram options env body).tree →
        target = (p.env env).binding? name) ∧
    (∀ p d r, (p, Step.typeName d) ∈ Stmt.walk (checkProgram options env body).tree →
      d.type? = some r → r.target = env.type? r.name) ∧
    (checkProgram options env body).log.toList =
      (Stmt.walk (checkProgram options env body).tree).flatMap (fun q =>
        q.2.faults options (q.1.isTaken env)) ∧
    ∀ (taken : String → Bool) (s : Step (Option Binding) (Option Ty)) (d : Diagnostic),
      d ∈ s.faults options taken ↔ s.Fault options taken d := by
  have htree : (checkProgram options env body).tree = Stmt.resolveAll env body := by
    rw [checkProgram_eq]
  refine ⟨htree, Stmt.nodes_walk _, ?_, ?_, log_checkProgram options env body, ?_⟩
  · intro p name target span h
    rw [htree] at h
    exact Stmt.target_of_mem_walk h
  · intro p d r h hr
    rw [htree] at h
    exact Stmt.type?_of_mem_walk h hr
  · intro taken s d
    exact Step.mem_faults_iff

/-- A program with something wrong in each of its three statements. -/
def faultyProgram : List SourceStmt :=
  let byte (n : Nat) : Span := .within "main" n (n + 1)
  [.declaration ⟨"_a", some ⟨"thing", ()⟩,
      some (.array [.number (byte 1), .string "s" (byte 2)] (byte 1)), byte 0⟩,
    .declaration ⟨"_a", none, some (.unary .negate (.boolean true (byte 5)) (byte 4)), byte 3⟩,
    .block [.expression (.assign (.ref "_a" () (byte 6))
      (.binary .less (.number (byte 7)) (.ref "b" () (byte 8)) (byte 7)) (byte 6))] (byte 6)]

/-- Its log, read off the tree that is left. -/
theorem log_eq_faults_faulty :
    (checkProgram {} .empty faultyProgram).log.toList =
      [⟨.unknownType "thing", 0, "main"⟩, ⟨.mismatch .element .number .string, 2, "main"⟩,
        ⟨.operand .number "-" .boolean, 5, "main"⟩, ⟨.redeclared "_a", 3, "main"⟩,
        ⟨.undeclared "b", 8, "main"⟩, ⟨.notWritable, 6, "main"⟩] := by
  obtain ⟨-, -, -, -, hlog, -⟩ := log_eq_faults {} .empty faultyProgram
  rw [hlog]
  decide +kernel

end Gradual
