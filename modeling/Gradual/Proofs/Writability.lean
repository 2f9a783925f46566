import Gradual.Proofs.Faults

/-!
# What can be written to

Only a variable can be written to, or what it contains at some depth
(`Expr.Chain`). Whether it is a constant hangs on its name, and not on where it
was declared: in a program that begins with nothing a reference is bound to a
declaration of its own name (`Stmt.constant_of_mem_nodesAll`).
-/

namespace Gradual

theorem Ty.isArray_or_isAny_iff {t : Ty} :
    (t.isArray || t.isAny) = true ↔ t.isArray = true ∨ t = .any := by
  cases t <;> simp [isArray, isAny]

namespace Expr

/-! ## Chains of subscripts -/

/-- The expression is `name[i₁]…[iₙ]` with `n` subscripts or none, and its
reference carries `target`. The list has what is indexed, from the whole to the
reference. -/
inductive Chain (name : String) (target : Option Binding) :
    ResolvedExpr → List ResolvedExpr → Prop where
  | ref (span : Span) : Chain name target (.ref name target span) []
  | index {base : ResolvedExpr} {bases : List ResolvedExpr} (subscript : ResolvedExpr)
      (span : Span) : Chain name target base bases →
        Chain name target (.index base subscript span) (base :: bases)

/-- A chain is over one name. -/
theorem Chain.name_eq {name name' : String} {target target' : Option Binding} {e : ResolvedExpr}
    {bases bases' : List ResolvedExpr} (h : Chain name target e bases)
    (h' : Chain name' target' e bases') : name = name' := by
  induction h generalizing bases' with
  | ref span =>
      cases h'
      rfl
  | index subscript span _ ih =>
      cases h' with
      | index _ _ hbase => exact ih hbase

theorem Chain.exists_ref {name : String} {target : Option Binding} {e : ResolvedExpr}
    {bases : List ResolvedExpr} (h : Chain name target e bases) :
    ∃ span, Expr.ref name target span ∈ e.nodes := by
  induction h with
  | ref span => exact ⟨span, self_mem_nodes _⟩
  | index subscript span _ ih =>
      obtain ⟨rootSpan, hroot⟩ := ih
      exact ⟨rootSpan, List.mem_append_left _ (List.mem_append_left _ hroot)⟩

theorem Chain.isWritable_iff {name : String} {target : Option Binding} {e : ResolvedExpr}
    {bases : List ResolvedExpr} (h : Chain name target e bases) :
    e.isWritable = true ↔ (Binding.ofTarget target).constant = false ∧
      ∀ base ∈ bases, base.ty.isArray = true ∨ base.ty = .any := by
  induction h with
  | ref span => simp [isWritable]
  | index subscript span _ ih =>
      rw [isWritable, Bool.and_eq_true, Ty.isArray_or_isAny_iff, ih, List.forall_mem_cons]
      exact and_left_comm

/-- Nothing but a chain can be written to. -/
theorem exists_chain {e : ResolvedExpr} (h : e.isWritable = true) :
    ∃ name target bases, Chain name target e bases := by
  induction e using Expr.induct with
  | ref name target span => exact ⟨name, target, [], .ref span⟩
  | index base subscript span ih _ =>
      rw [isWritable, Bool.and_eq_true] at h
      obtain ⟨name, target, bases, hchain⟩ := ih h.2
      exact ⟨name, target, base :: bases, .index subscript span hchain⟩
  | number | character | string | boolean | array | binary | unary | assign => cases h

theorem Chain.target_eq {env : Env} {name : String} {target : Option Binding} {e : SourceExpr}
    {bases : List ResolvedExpr} (h : Chain name target (e.resolve env) bases) :
    target = env.binding? name := by
  obtain ⟨span, hroot⟩ := h.exists_ref
  exact target_eq_of_mem_nodes hroot

theorem isWritable_resolve_iff (env : Env) (e : SourceExpr) :
    (e.resolve env).isWritable = true ↔
      ∃ name bases, Chain name (env.binding? name) (e.resolve env) bases ∧
        (Binding.ofTarget (env.binding? name)).constant = false ∧
        ∀ base ∈ bases, base.ty.isArray = true ∨ base.ty = .any := by
  constructor
  · intro h
    obtain ⟨name, target, bases, hchain⟩ := exists_chain h
    obtain rfl := hchain.target_eq
    exact ⟨name, bases, hchain, hchain.isWritable_iff.mp h⟩
  · rintro ⟨name, bases, hchain, h⟩
    exact hchain.isWritable_iff.mpr h

/-! ## Refusals -/

/-- What is said of an assignment to something that cannot be written to. -/
def refused : ResolvedExpr → List Diagnostic
  | assign target _ _ => complain target.isWritable .notWritable target.start
  | _ => []

end Expr

def Diagnostic.isNotWritable (d : Diagnostic) : Bool :=
  match d.cause with
  | .notWritable => true
  | _ => false

namespace Step

variable {options : Options} {taken : String → Bool} {s : Step (Option Binding) (Option Ty)}
  {d : Diagnostic}

theorem Fault.exists_assign (h : s.Fault options taken d) (hd : d.isNotWritable = true) :
    ∃ target value span, s = Step.node (.assign target value span) := by
  cases h with
  | node h =>
      cases h with
      | @notWritable target value span => exact ⟨target, value, span, rfl⟩
      | undeclared | element | base | subscript | arithmetic | shift | logical | ordered
      | unordered | incomparable | negate | not | length | assigned => cases hd
  | unknownType | untyped | initialization | redeclared => cases hd

theorem filter_isNotWritable_faults (s : Step (Option Binding) (Option Ty)) :
    (s.faults options taken).filter Diagnostic.isNotWritable =
      s.node?.elim [] Expr.refused := by
  by_cases h : ∃ target value span, s = node (.assign target value span)
  · obtain ⟨target, value, span, rfl⟩ := h
    have hvalue : (Expr.misplaced .assignment target.ty value).filter
        Diagnostic.isNotWritable = [] := by
      rw [List.filter_eq_nil_iff]
      intro d hd
      obtain ⟨-, rfl⟩ := mem_complain.mp hd
      exact Bool.false_ne_true
    have htarget : (complain target.isWritable .notWritable target.start).filter
        Diagnostic.isNotWritable = complain target.isWritable .notWritable target.start := by
      cases target.isWritable <;> rfl
    rw [faults, Expr.blame, List.filter_append, hvalue, htarget, List.append_nil]
    rfl
  · have hnone : s.node?.elim [] Expr.refused = [] := by
      cases s with
      | typeName | agreement | entry => rfl
      | node e =>
          cases e with
          | assign target value span => exact absurd ⟨target, value, span, rfl⟩ h
          | number | character | string | boolean | array | ref | index | binary | unary => rfl
    rw [hnone, List.filter_eq_nil_iff]
    intro d hd hrefused
    exact h ((mem_faults_iff.mp hd).exists_assign hrefused)

end Step

namespace Stmt

variable {options : Options} {body : List SourceStmt}

/-- The refusals in a log are those of the assignments, in the order of the walk. -/
theorem filter_isNotWritable_violationsAll (options : Options) (env : Env)
    (ss : List ResolvedStmt) :
    (violationsAll options env ss).filter Diagnostic.isNotWritable =
      (nodesAll ss).flatMap Expr.refused := by
  rw [filter_violationsAll options (fun _ => Step.filter_isNotWritable_faults) env ss,
    ← nodes_walk, List.filterMap_eq_flatMap_toList, List.flatMap_assoc]
  refine List.flatMap_congr fun q _ => ?_
  cases q.2.node? <;> simp

/-- Nothing is wrong with the nodes of statements that nothing is wrong with. -/
theorem blame_eq_nil_of_mem {env : Env} {ss : List ResolvedStmt} {n : ResolvedExpr}
    (h : violationsAll options env ss = []) (hn : n ∈ nodesAll ss) : n.blame options = [] := by
  obtain ⟨p, hp⟩ := exists_mem_walk hn
  rw [violationsAll_eq_walk, List.flatMap_eq_nil_iff] at h
  exact h _ hp

/-! ## Constants -/

/-- In a program that begins with nothing a variable is a constant exactly if its
name says so. -/
theorem constant_of_mem_nodesAll {name : String} {b : Binding} {span : Span}
    (h : .ref name (some b) span ∈ nodesAll (resolveAll .empty body)) :
    b.constant = (name.toList.head? == some '_') := by
  obtain ⟨p, hp⟩ := exists_mem_walk h
  have htarget := target_of_mem_walk hp
  have hempty : Env.empty.binding? name = none := rfl
  rw [Point.binding?_env rfl, hempty, Option.or_none] at htarget
  obtain ⟨d, hd, rfl⟩ := Option.map_eq_some_iff.mp htarget.symm
  rw [← Point.name_of_inForce? hd]
  rfl

theorem exists_ref_of_assign {ss : List ResolvedStmt} {target value : ResolvedExpr} {span : Span}
    (h : .assign target value span ∈ nodesAll ss) {name : String} {root : Option Binding}
    {bases : List ResolvedExpr} (hchain : Expr.Chain name root target bases) :
    ∃ span, .ref name root span ∈ nodesAll ss := by
  obtain ⟨rootSpan, hroot⟩ := hchain.exists_ref
  have htarget : target ∈ (Expr.assign target value span).nodes :=
    Expr.mem_nodes_of_mem_parts (List.mem_cons_self ..)
  exact ⟨rootSpan, mem_nodesAll_trans (Expr.mem_nodes_trans hroot htarget) ss h⟩

theorem isWritable_of_constant_name {target value : ResolvedExpr} {span : Span}
    (h : .assign target value span ∈ nodesAll (resolveAll .empty body)) {name : String}
    {b : Binding} {bases : List ResolvedExpr} (hchain : Expr.Chain name (some b) target bases)
    (hname : name.toList.head? = some '_') : target.isWritable = false := by
  obtain ⟨rootSpan, hroot⟩ := exists_ref_of_assign h hchain
  have hconstant : b.constant = true := by
    rw [constant_of_mem_nodesAll hroot, hname]
    rfl
  rw [← Bool.not_eq_true, hchain.isWritable_iff]
  rintro ⟨hvariable, -⟩
  exact Bool.false_ne_true (hvariable.symm.trans hconstant)

/-- Where nothing is wrong, all that is assigned to is a chain over a variable that
is declared and is no constant, and no string is indexed in it. -/
theorem exists_chain_of_assign
    (hfine : violationsAll options .empty (resolveAll .empty body) = [])
    {target value : ResolvedExpr} {span : Span}
    (h : .assign target value span ∈ nodesAll (resolveAll .empty body)) :
    ∃ name b bases, Expr.Chain name (some b) target bases ∧
      name.toList.head? ≠ some '_' ∧ ∀ base ∈ bases, base.ty ≠ .string := by
  have hassign := blame_eq_nil_of_mem hfine h
  rw [Expr.blame, List.append_eq_nil_iff, complain_eq_nil] at hassign
  obtain ⟨name, root, bases, hchain⟩ := Expr.exists_chain hassign.1
  obtain ⟨hvariable, hbases⟩ := hchain.isWritable_iff.mp hassign.1
  obtain ⟨rootSpan, hroot⟩ := exists_ref_of_assign h hchain
  have hdeclared := blame_eq_nil_of_mem hfine hroot
  rw [Expr.blame, complain_eq_nil] at hdeclared
  obtain ⟨b, rfl⟩ := Option.isSome_iff_exists.mp hdeclared
  refine ⟨name, b, bases, hchain, ?_, ?_⟩
  · intro hname
    have hconstant := constant_of_mem_nodesAll hroot
    rw [hname] at hconstant
    exact Bool.false_ne_true (hvariable.symm.trans hconstant)
  · intro base hbase hstring
    rcases hbases base hbase with harray | hany
    · rw [hstring] at harray
      cases harray
    · rw [hstring] at hany
      cases hany

end Stmt

/-! ## Programs -/

/-- **Constants are protected.** An expression with its names looked up can be
written to exactly if it is a chain of subscripts over a variable that is no
constant, and all that is indexed in it is an array or of unknown type; a name that is
not declared counts as a variable. The log of a program has one refusal for each
assignment in it to anything else. So in a program that begins with nothing every
assignment to a constant or to a part of one is refused. And if nothing is reported at
all, then whatever is assigned to is a chain over a declared variable whose name does
not begin with an underscore, and no string is indexed in it. -/
theorem constants_are_protected (options : Options) :
    (∀ env e, let tree := (checkExpr options env e).tree
      tree.erase = e ∧
      (∀ name target span, .ref name target span ∈ tree.nodes → target = env.binding? name) ∧
      (tree.isWritable = true ↔
        ∃ name bases, Expr.Chain name (env.binding? name) tree bases ∧
          (Binding.ofTarget (env.binding? name)).constant = false ∧
          ∀ base ∈ bases, base.ty.isArray = true ∨ base.ty = .any)) ∧
    (∀ env body, let run := checkProgram options env body
      Stmt.eraseAll run.tree = body ∧
      (∀ p name target span, (p, Step.node (.ref name target span)) ∈ Stmt.walk run.tree →
        target = (p.env env).binding? name) ∧
      run.log.toList.filter Diagnostic.isNotWritable =
        (Stmt.nodesAll run.tree).flatMap Expr.refused) ∧
    ∀ body, let run := checkProgram options .empty body
      Stmt.eraseAll run.tree = body ∧
      (∀ target value span, .assign target value span ∈ Stmt.nodesAll run.tree →
        ∀ name b bases, Expr.Chain name (some b) target bases →
          name.toList.head? = some '_' → ⟨.notWritable, target.start⟩ ∈ run.log) ∧
      (run.log = #[] →
        ∀ target value span, .assign target value span ∈ Stmt.nodesAll run.tree →
          ∃ name b bases, Expr.Chain name (some b) target bases ∧
            name.toList.head? ≠ some '_' ∧ ∀ base ∈ bases, base.ty ≠ .string) := by
  have hrefusals : ∀ env body, let run := checkProgram options env body
      run.log.toList.filter Diagnostic.isNotWritable =
        (Stmt.nodesAll run.tree).flatMap Expr.refused := by
    intro env body run
    rw [show run = _ from checkProgram_eq options env body]
    exact Stmt.filter_isNotWritable_violationsAll options env _
  refine ⟨?_, ?_, ?_⟩
  · intro env e tree
    refine ⟨erase_tree_checkExpr options env e, ?_⟩
    rw [show tree = e.resolve env from congrArg Outcome.tree (checkExpr_eq options env e)]
    exact ⟨fun _ _ _ => Expr.target_eq_of_mem_nodes, Expr.isWritable_resolve_iff env e⟩
  · intro env body run
    refine ⟨eraseAll_tree_checkProgram options env body, ?_, hrefusals env body⟩
    rw [show run = _ from checkProgram_eq options env body]
    exact fun p name target span => Stmt.target_of_mem_walk
  · intro body run
    have hrun : run = _ := checkProgram_eq options .empty body
    have htree : run.tree = Stmt.resolveAll .empty body := by rw [hrun]
    refine ⟨eraseAll_tree_checkProgram options .empty body, ?_, ?_⟩
    · intro target value span h name b bases hchain hname
      have hwritable : target.isWritable = false := by
        rw [htree] at h
        exact Stmt.isWritable_of_constant_name h hchain hname
      have hrefused : ⟨.notWritable, target.start⟩ ∈ (Expr.assign target value span).refused := by
        rw [Expr.refused, hwritable]
        exact List.mem_singleton_self _
      have hmem := List.mem_flatMap.mpr ⟨_, h, hrefused⟩
      rw [← hrefusals .empty body, List.mem_filter] at hmem
      exact Array.mem_def.mpr hmem.1
    · intro hlog target value span h
      have hfine : Stmt.violationsAll options .empty (Stmt.resolveAll .empty body) = [] := by
        have hlist := congrArg Array.toList hlog
        rwa [hrun] at hlist
      rw [htree] at h
      exact Stmt.exists_chain_of_assign hfine h

/-- Rows of numbers as a variable and as a constant. -/
def gridVariables : Env :=
  let grid (name : String) (constant : Bool) : Binding := ⟨name, .array (.array .number), constant⟩
  { inner := (({} : Scope).bind (grid "rows" false)).bind (grid "_rows" true) }

/-- `name[…][…]` at an offset. -/
def cellOf {ρ : Type} (name : String) (target : ρ) (n : Nat) : Expr ρ :=
  let byte (n : Nat) : Span := .within "main" n (n + 1)
  .index (.index (.ref name target (byte n)) (.number (byte (n + 1))) (byte n))
    (.number (byte (n + 2))) (byte n)

def assignedCells (name : String) : List SourceStmt :=
  let byte (n : Nat) : Span := .within "main" n (n + 1)
  let grid (name : String) (n : Nat) : SourceStmt :=
    .declaration ⟨name, some ⟨"[][]number", ()⟩, none, byte n⟩
  [grid name 0, grid "rows" 1,
    .block [.expression (.assign (cellOf "rows" () 2)
      (.assign (cellOf name () 5) (.number (byte 8)) (byte 5)) (byte 2))] (byte 2)]

/-- A cell of a variable and of a name that nothing declares can be written to, and a
cell of a constant cannot. Of two assignments, one inside of the other, the inner one
is refused if its variable is a constant, and otherwise nothing is. -/
theorem constants_are_protected_cells :
    let cellTree (name : String) : ResolvedExpr :=
      (checkExpr {} gridVariables (cellOf name () 0)).tree
    let byte (n : Nat) : Span := .within "main" n (n + 1)
    let cell (name : String) (constant : Bool) : ResolvedExpr :=
      cellOf name (some ⟨name, .array (.array .number), constant⟩) 5
    let refused := checkProgram {} .empty (assignedCells "_rows")
    let fine := checkProgram {} .empty (assignedCells "columns")
    ((cellTree "rows").isWritable = true ∧ (cellTree "lost").isWritable = true ∧
      (cellTree "_rows").isWritable = false) ∧
    (.assign (cell "_rows" true) (.number (byte 8)) (byte 5) ∈ Stmt.nodesAll refused.tree ∧
      ⟨.notWritable, 5, "main"⟩ ∈ refused.log) ∧
    fine.log = #[] ∧
    .assign (cell "columns" false) (.number (byte 8)) (byte 5) ∈ Stmt.nodesAll fine.tree ∧
    ∃ name b bases, Expr.Chain name (some b) (cell "columns" false) bases ∧
      name.toList.head? ≠ some '_' ∧ ∀ base ∈ bases, base.ty ≠ .string := by
  intro cellTree byte cell refused fine
  obtain ⟨hexpr, -, hprogram⟩ := constants_are_protected {}
  have hwritable := fun name => (hexpr gridVariables (cellOf name () 0)).2.2
  have hchain : ∀ name (target : Option Binding) n,
      Expr.Chain name target (cellOf name target n) _ :=
    fun name target n => .index _ _ (.index _ _ (.ref _))
  have hconstant : (cellTree "_rows").isWritable = false := by
    rw [← Bool.not_eq_true, hwritable "_rows"]
    rintro ⟨name, bases, hcell, hvariable, -⟩
    obtain rfl := hcell.name_eq (hchain "_rows" _ 0)
    cases hvariable
  have hrefused : .assign (cell "_rows" true) (.number (byte 8)) (byte 5) ∈
      Stmt.nodesAll refused.tree := List.mem_of_getElem? (i := 11) rfl
  have hassign : .assign (cell "columns" false) (.number (byte 8)) (byte 5) ∈
      Stmt.nodesAll fine.tree := List.mem_of_getElem? (i := 11) rfl
  have hfine : fine.log = #[] := by decide +kernel
  refine ⟨⟨?_, ?_, hconstant⟩, ⟨hrefused, ?_⟩, hfine, hassign, ?_⟩
  · exact (hwritable "rows").mpr ⟨"rows", _, hchain "rows" _ 0, rfl, by decide⟩
  · exact (hwritable "lost").mpr ⟨"lost", _, hchain "lost" _ 0, rfl, by decide⟩
  · exact (hprogram (assignedCells "_rows")).2.1 _ _ _ hrefused _ _ _ (hchain "_rows" _ 5) rfl
  · exact (hprogram (assignedCells "columns")).2.2 hfine _ _ _ hassign

end Gradual
