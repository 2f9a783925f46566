import Gradual.Proofs.Faults

/-!
# Strict order comparisons

The one option of the checker is read at one place, the order comparisons whose
left operand has no order. It decides whether they are reported, and nothing
else hangs on it: names are looked up and types are found without it.

At a single node the strict checker says what the permissive one says and then
what is `unordered` about it (`Expr.blame_strict`). The permissive checker never
says that, so the two parts of a strict log can be told apart (`Adds`).
-/

namespace Gradual

/-- Order comparisons are not checked if their left operand has no order. -/
def Options.permissive : Options :=
  { strictRelational := false }

/-- They are reported. -/
def Options.strict : Options :=
  { strictRelational := true }

/-! ## Diagnostics about missing orders -/

def Diagnostic.isUnordered (d : Diagnostic) : Bool :=
  match d.cause with
  | .unordered _ _ => true
  | _ => false

/-- What is said of an order comparison whose left operand is a boolean or an
array. -/
def Expr.unordered : ResolvedExpr → List Diagnostic
  | binary op left _ _ =>
      if op.family = .relational ∧ (left.ty = .boolean ∨ left.ty.isArray = true) then
        [⟨.unordered op.token left.ty, left.start⟩]
      else []
  | number _ | character _ _ | string _ _ | boolean _ _ | array _ _ | ref _ _ _ | index _ _ _
  | unary _ _ _ | assign _ _ _ => []

def Step.unordered (s : Step (Option Binding) (Option Ty)) : List Diagnostic :=
  s.node?.elim [] Expr.unordered

/-- The log `strict` is `lax` with `extra` put in somewhere, in their orders,
and `extra` is all that it says about missing orders. -/
structure Adds (lax strict extra : List Diagnostic) : Prop where
  notMem : ∀ d ∈ lax, d.isUnordered = false
  filter_not : strict.filter (!·.isUnordered) = lax
  filter : strict.filter (·.isUnordered) = extra

theorem Adds.append_right {lax extra : List Diagnostic}
    (hlax : ∀ d ∈ lax, d.isUnordered = false) (hextra : ∀ d ∈ extra, d.isUnordered = true) :
    Adds lax (lax ++ extra) extra where
  notMem := hlax
  filter_not := by
    have hkeep : lax.filter (!·.isUnordered) = lax := by
      refine List.filter_eq_self.mpr ?_
      intro d hd
      rw [hlax d hd]
      rfl
    have hdrop : extra.filter (!·.isUnordered) = [] := by
      refine List.filter_eq_nil_iff.mpr ?_
      intro d hd
      rw [hextra d hd]
      exact Bool.false_ne_true
    rw [List.filter_append, hkeep, hdrop, List.append_nil]
  filter := by
    have hdrop : lax.filter (·.isUnordered) = [] := by
      refine List.filter_eq_nil_iff.mpr ?_
      intro d hd
      rw [hlax d hd]
      exact Bool.false_ne_true
    rw [List.filter_append, hdrop, List.filter_eq_self.mpr hextra, List.nil_append]

/-- Nothing is added to a log that does not hang on the options. -/
theorem Adds.refl {ds : List Diagnostic} (h : ∀ d ∈ ds, d.isUnordered = false) :
    Adds ds ds [] := by
  have hadds : Adds ds (ds ++ []) [] := .append_right h (List.forall_mem_nil _)
  rwa [List.append_nil] at hadds

theorem Adds.append {lax strict extra lax' strict' extra' : List Diagnostic}
    (h : Adds lax strict extra) (h' : Adds lax' strict' extra') :
    Adds (lax ++ lax') (strict ++ strict') (extra ++ extra') where
  notMem := by
    intro d hd
    rcases List.mem_append.mp hd with hd | hd
    · exact h.notMem d hd
    · exact h'.notMem d hd
  filter_not := by rw [List.filter_append, h.filter_not, h'.filter_not]
  filter := by rw [List.filter_append, h.filter, h'.filter]

theorem Adds.flatMap {α : Type} {lax strict extra : α → List Diagnostic} (l : List α)
    (h : ∀ a, Adds (lax a) (strict a) (extra a)) :
    Adds (l.flatMap lax) (l.flatMap strict) (l.flatMap extra) := by
  induction l with
  | nil => exact Adds.refl (List.forall_mem_nil _)
  | cons a l ih =>
      rw [List.flatMap_cons, List.flatMap_cons, List.flatMap_cons]
      exact (h a).append ih

/-! ## Nodes and steps -/

namespace Expr

theorem isUnordered_of_mem_unordered {e : ResolvedExpr} {d : Diagnostic} (h : d ∈ e.unordered) :
    d.isUnordered = true := by
  cases e with
  | binary op left right span =>
      rw [unordered] at h
      split at h
      · obtain rfl := List.mem_singleton.mp h
        rfl
      · cases h
  | number | character | string | boolean | array | ref | index | unary | assign => cases h

/-- Only strict options make a missing order a fault. -/
theorem Fault.isUnordered {e : ResolvedExpr} {d : Diagnostic} (h : e.Fault .permissive d) :
    d.isUnordered = false := by
  cases h with
  | unordered _ _ _ hstrict => cases hstrict
  | undeclared | element | base | subscript | arithmetic | shift | logical | ordered
  | incomparable | negate | not | length | notWritable | assigned => rfl

/-- The left operand has an order or is not known, or there is something to say
under strict options only. -/
theorem blameRelational_strict (op : BinaryOp) (left right : ResolvedExpr) (span : Span)
    (hop : op.family = .relational) :
    blameRelational .strict op.token left right =
      blameRelational .permissive op.token left right ++ (binary op left right span).unordered := by
  rw [blameRelational, blameRelational, unordered]
  generalize left.ty = t
  cases t with
  | number | character | string | any => simp [Ty.isArray]
  | boolean => simp [hop, complain, Options.strict, Options.permissive]
  | array => simp [hop, complain, Options.strict, Options.permissive, Ty.isArray]

/-- At one node the strict checker says the same and then what is unordered. -/
theorem blame_strict (e : ResolvedExpr) :
    e.blame .strict = e.blame .permissive ++ e.unordered := by
  cases e with
  | number | character | string | boolean | ref | index | unary | assign =>
      exact (List.append_nil _).symm
  | array elements span =>
      cases elements with
      | nil => rfl
      | cons => exact (List.append_nil _).symm
  | binary op left right span =>
      cases hop : op.family with
      | arithmetic | shift | logical | equality =>
          simp [blame, blameBinary, unordered, hop]
      | relational =>
          have hrelational := blameRelational_strict op left right span hop
          simpa only [blame, blameBinary, hop] using hrelational

theorem blame_adds (e : ResolvedExpr) :
    Adds (e.blame .permissive) (e.blame .strict) e.unordered := by
  rw [blame_strict]
  refine .append_right ?_ ?_
  · intro d hd
    exact (mem_blame_iff.mp hd).isUnordered
  · intro d hd
    exact isUnordered_of_mem_unordered hd

theorem violations_adds (e : ResolvedExpr) :
    Adds (e.violations .permissive) (e.violations .strict) (e.nodes.flatMap unordered) :=
  Adds.flatMap e.nodes blame_adds

end Expr

/-- Steps that look at no node do not look at the options either. -/
theorem Step.faults_adds (taken : String → Bool) (s : Step (Option Binding) (Option Ty)) :
    Adds (s.faults .permissive taken) (s.faults .strict taken) s.unordered := by
  cases s with
  | node e => exact e.blame_adds
  | typeName | agreement | entry =>
      refine Adds.refl ?_
      intro d hd
      cases Step.mem_faults_iff.mp hd <;> rfl

namespace Stmt

theorem flatMap_unordered_walk (ss : List ResolvedStmt) :
    (walk ss).flatMap (fun q => q.2.unordered) = (nodesAll ss).flatMap Expr.unordered := by
  rw [← nodes_walk]
  induction walk ss with
  | nil => rfl
  | cons q l ih =>
      rw [List.flatMap_cons, List.filterMap_cons, ih, Step.unordered]
      cases q.2.node? <;> rfl

theorem violationsAll_adds (env : Env) (ss : List ResolvedStmt) :
    Adds (violationsAll .permissive env ss) (violationsAll .strict env ss)
      ((nodesAll ss).flatMap Expr.unordered) := by
  rw [violationsAll_eq_walk, violationsAll_eq_walk, ← flatMap_unordered_walk]
  exact Adds.flatMap (walk ss) fun q => q.2.faults_adds (q.1.isTaken env)

end Stmt

/-! ## Runs -/

/-- **Strictness adds reports of missing orders and changes nothing else.** A
strict run and a permissive run over an expression, a program or a block leave
the same tree, which is what was checked, with names looked up, hence the same
types, writability and bindings; and they leave the same environment. The
permissive run reports no missing order, its log is the strict one without such
reports, and these are one for each order comparison in it that has a boolean or
an array on the left, with that type and where the left operand begins. -/
theorem strict_adds_unordered (env : Env) :
    (∀ e : SourceExpr,
      (checkExpr .strict env e).tree.erase = e ∧
      (checkExpr .strict env e).tree = (checkExpr .permissive env e).tree ∧
      (checkExpr .strict env e).env = (checkExpr .permissive env e).env ∧
      Adds (checkExpr .permissive env e).log.toList (checkExpr .strict env e).log.toList
        ((checkExpr .strict env e).tree.nodes.flatMap Expr.unordered)) ∧
    (∀ body : List SourceStmt,
      Stmt.eraseAll (checkProgram .strict env body).tree = body ∧
      (checkProgram .strict env body).tree = (checkProgram .permissive env body).tree ∧
      (checkProgram .strict env body).env = (checkProgram .permissive env body).env ∧
      Adds (checkProgram .permissive env body).log.toList
        (checkProgram .strict env body).log.toList
        ((Stmt.nodesAll (checkProgram .strict env body).tree).flatMap Expr.unordered)) ∧
    ∀ (log : Log) (body : List SourceStmt),
      Stmt.eraseAll (checkBlock .strict env log body).tree = body ∧
      (checkBlock .strict env log body).tree = (checkBlock .permissive env log body).tree ∧
      (checkBlock .strict env log body).env = (checkBlock .permissive env log body).env ∧
      ∃ lax strict,
        (checkBlock .permissive env log body).log.toList = log.toList ++ lax ∧
        (checkBlock .strict env log body).log.toList = log.toList ++ strict ∧
        Adds lax strict
          ((Stmt.nodesAll (checkBlock .strict env log body).tree).flatMap Expr.unordered) := by
  refine ⟨?_, ?_, ?_⟩
  · intro e
    refine ⟨erase_tree_checkExpr .strict env e, ?_⟩
    rw [checkExpr_eq, checkExpr_eq]
    exact ⟨rfl, rfl, (e.resolve env).violations_adds⟩
  · intro body
    refine ⟨eraseAll_tree_checkProgram .strict env body, ?_⟩
    rw [checkProgram_eq, checkProgram_eq]
    exact ⟨rfl, rfl, Stmt.violationsAll_adds env (Stmt.resolveAll env body)⟩
  · intro log body
    refine ⟨eraseAll_tree_checkBlock .strict env log body, ?_⟩
    rw [checkBlock_eq, checkBlock_eq]
    exact ⟨rfl, rfl, _, _, Array.toList_append, Array.toList_append,
      Stmt.violationsAll_adds env.push (Stmt.resolveAll env.push body)⟩

/-- Of an array, a boolean, a string and an unknown name on the left of `<` the
first two are reported, each time where they begin. -/
example :
    let byte (n : Nat) : Span := .within "main" n (n + 1)
    let less (left : SourceExpr) : SourceStmt :=
      .expression (.binary .less left (.number (byte 9)) (byte 0))
    let lefts : List SourceExpr :=
      [.array [] (byte 1), .boolean true (byte 2), .string "" (byte 3), .ref "x" () (byte 4)]
    (checkProgram .strict .empty (lefts.map less)).log.toList =
      [⟨.unordered "<" (.array .any), 1, "main"⟩, ⟨.unordered "<" .boolean, 2, "main"⟩,
        ⟨.operand .string "<" .number, 9, "main"⟩, ⟨.undeclared "x", 4, "main"⟩] := by
  decide +kernel

end Gradual
