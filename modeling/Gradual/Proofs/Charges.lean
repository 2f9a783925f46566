import Gradual.Proofs.Expr.Charges
import Gradual.Proofs.Faults
import Mathlib.Data.Prod.Basic

/-!
# No part of a program is blamed twice

The charges of `Gradual.Proofs.Expr.Charges`, carried through programs. A node of a
program is told by the number of its statement, in the order of the walk and with
blocks left aside, and by its address in the expression of that statement.

The check of an initial value against the type of its declaration comes on top. It is
charged to the whole initial value, which no node above can charge and which passes
the check if it was charged for its name. What is left of the log is about
declarations, and each of these is blamed for two things at most: for its type, which
is unknown or not given, and for its name.
-/

namespace Gradual

/-! ## Diagnostics about declarations -/

/-- The diagnostic is about the type name or the name of a declaration. -/
def Diagnostic.isOfDeclaration (d : Diagnostic) : Bool :=
  match d.cause with
  | .unknownType _ | .untyped _ | .redeclared _ => true
  | _ => false

namespace Declaration

/-- What is wrong with a declaration that says neither a type nor a value. -/
def untyped (d : ResolvedDeclaration) : List Diagnostic :=
  match d.type?, d.init? with
  | none, none => [⟨.untyped d.name, d.span.start⟩]
  | _, _ => []

/-- What is wrong with an initial value as a whole. -/
def mismatch (d : ResolvedDeclaration) : List Diagnostic :=
  match d.type?, d.init? with
  | some r, some e => e.misplaced .initialization r.ty
  | _, _ => []

theorem blame_eq_append (d : ResolvedDeclaration) : d.blame = d.untyped ++ d.mismatch := by
  obtain ⟨name, type?, init?, span⟩ := d
  cases type? <;> cases init? <;> rfl

theorem mem_untyped {d : ResolvedDeclaration} {x : Diagnostic} :
    x ∈ d.untyped ↔
      d.type? = none ∧ d.init? = none ∧ x = ⟨.untyped d.name, d.span.start⟩ := by
  obtain ⟨name, type?, init?, span⟩ := d
  cases type? <;> cases init? <;> simp [untyped]

theorem mem_mismatch {d : ResolvedDeclaration} {x : Diagnostic} :
    x ∈ d.mismatch ↔
      ∃ r e, d.type? = some r ∧ d.init? = some e ∧ x ∈ e.misplaced .initialization r.ty := by
  obtain ⟨name, type?, init?, span⟩ := d
  cases type? <;> cases init? <;> simp [mismatch]

theorem length_mismatch_le (d : ResolvedDeclaration) : d.mismatch.length ≤ 1 := by
  unfold mismatch
  split
  · exact Expr.length_complain_le ..
  · exact Nat.zero_le _

end Declaration

namespace Step

/-- What a step has to say of the nodes of an expression. -/
def ofExpression (options : Options) : Step (Option Binding) (Option Ty) → List Diagnostic
  | node e => e.blame options
  | agreement d => d.mismatch
  | typeName _ | entry _ => []

/-- What a step has to say of a declaration. -/
def ofDeclaration (taken : String → Bool) : Step (Option Binding) (Option Ty) → List Diagnostic
  | node _ => []
  | typeName d => d.blameType
  | agreement d => d.untyped
  | entry d => complain (!taken d.name) (.redeclared d.name) d.span.start

variable {options : Options} {taken : String → Bool} {s : Step (Option Binding) (Option Ty)}
  {d : Diagnostic}

theorem faults_eq_append (options : Options) (taken : String → Bool)
    (s : Step (Option Binding) (Option Ty)) :
    s.faults options taken = s.ofDeclaration taken ++ s.ofExpression options := by
  cases s with
  | node => rfl
  | typeName | entry => exact (List.append_nil _).symm
  | agreement d => exact d.blame_eq_append

theorem isOfDeclaration_of_mem_ofExpression (h : d ∈ s.ofExpression options) :
    d.isOfDeclaration = false := by
  cases s with
  | node e =>
      have hfault : e.Fault options d := Expr.mem_blame_iff.mp h
      cases hfault <;> rfl
  | agreement c =>
      obtain ⟨r, e, -, -, h⟩ := Declaration.mem_mismatch.mp h
      obtain ⟨-, rfl⟩ := Expr.mem_misplaced.mp h
      rfl
  | typeName | entry => cases h

theorem isOfDeclaration_of_mem_ofDeclaration (h : d ∈ s.ofDeclaration taken) :
    d.isOfDeclaration = true := by
  cases s with
  | node => cases h
  | typeName c =>
      obtain ⟨text, -, rfl⟩ := mem_blameType.mp h
      rfl
  | agreement c =>
      obtain ⟨-, -, rfl⟩ := Declaration.mem_untyped.mp h
      rfl
  | entry c =>
      obtain ⟨-, rfl⟩ := mem_complain.mp h
      rfl

theorem filter_not_isOfDeclaration_faults (options : Options) (taken : String → Bool)
    (s : Step (Option Binding) (Option Ty)) :
    (s.faults options taken).filter (!·.isOfDeclaration) = s.ofExpression options := by
  rw [faults_eq_append, List.filter_append, List.filter_eq_nil_iff.mpr, List.nil_append,
    List.filter_eq_self]
  · intro d hd
    rw [isOfDeclaration_of_mem_ofExpression hd, Bool.not_false]
  · intro d hd
    simp [isOfDeclaration_of_mem_ofDeclaration hd]

theorem filter_isOfDeclaration_faults (options : Options) (taken : String → Bool)
    (s : Step (Option Binding) (Option Ty)) :
    (s.faults options taken).filter Diagnostic.isOfDeclaration = s.ofDeclaration taken := by
  rw [faults_eq_append, List.filter_append, List.filter_eq_self.mpr, List.filter_eq_nil_iff.mpr,
    List.append_nil]
  · intro d hd
    simp [isOfDeclaration_of_mem_ofExpression hd]
  · intro d hd
    exact isOfDeclaration_of_mem_ofDeclaration hd

end Step

/-! ## What a diagnostic is about -/

/-- The diagnostic says something of this node, and, but for a failed test for equality, where
it begins. -/
def Diagnostic.IsAbout (d : Diagnostic) (n : ResolvedExpr) : Prop :=
  match d.cause with
  | .operand _ _ found | .unordered _ found | .mismatch _ _ found =>
      found = n.ty ∧ d.position = n.start
  | .incomparable _ left _ => left = n.ty
  | .notWritable => n.isWritable = false ∧ d.position = n.start
  | .undeclared name => ∃ span, n = .ref name none span ∧ d.position = n.start
  | .untyped _ | .unknownType _ | .redeclared _ => False

namespace Expr

variable {options : Options} {d : Diagnostic}

theorem isAbout_of_mem_unmet {r : Requirement} {operator : String} {e : ResolvedExpr}
    (h : d ∈ unmet r operator e) : d.IsAbout e := by
  obtain ⟨-, rfl⟩ := mem_complain.mp h
  exact ⟨rfl, rfl⟩

theorem isAbout_of_mem_misplaced {site : Site} {expected : Ty} {e : ResolvedExpr}
    (h : d ∈ misplaced site expected e) : d.IsAbout e := by
  obtain ⟨-, rfl⟩ := mem_complain.mp h
  exact ⟨rfl, rfl⟩

theorem isAbout_of_mem_blameLeft {op : BinaryOp} {left right : ResolvedExpr}
    {position : Position} (h : d ∈ blameLeft options op left right position) :
    d.IsAbout left := by
  unfold blameLeft at h
  split at h
  · exact isAbout_of_mem_unmet h
  · exact isAbout_of_mem_unmet h
  · exact isAbout_of_mem_unmet h
  · split at h
    · exact isAbout_of_mem_unmet h
    · cases h
    · cases h
    · cases h
    · obtain ⟨-, rfl⟩ := mem_complain.mp h
      exact ⟨rfl, rfl⟩
    · obtain ⟨-, rfl⟩ := mem_complain.mp h
      exact ⟨rfl, rfl⟩
  · obtain ⟨-, rfl⟩ := mem_complain.mp h
    rfl

theorem isAbout_of_mem_blameRight {op : BinaryOp} {left right : ResolvedExpr}
    (h : d ∈ blameRight op left right) : d.IsAbout right := by
  unfold blameRight at h
  split at h
  · exact isAbout_of_mem_unmet h
  · exact isAbout_of_mem_unmet h
  · exact isAbout_of_mem_unmet h
  · split at h
    · exact isAbout_of_mem_unmet h
    · exact isAbout_of_mem_unmet h
    · exact isAbout_of_mem_unmet h
    · cases h
    · cases h
    · cases h
  · cases h

/-- What a node has to say of a part is about that part. -/
theorem isAbout_of_mem_blamePart {e p : ResolvedExpr} {i : Nat}
    (h : d ∈ e.blamePart options i p) : d.IsAbout p := by
  unfold blamePart at h
  split at h
  · exact isAbout_of_mem_misplaced h
  · exact isAbout_of_mem_unmet h
  · exact isAbout_of_mem_unmet h
  · exact isAbout_of_mem_blameLeft h
  · exact isAbout_of_mem_blameRight h
  · exact isAbout_of_mem_unmet h
  · obtain ⟨hwritable, rfl⟩ := mem_complain.mp h
    exact ⟨hwritable, rfl⟩
  · exact isAbout_of_mem_misplaced h
  · cases h

theorem Charged.isAbout {e : ResolvedExpr} {a : Address} (h : e.Charged options a d) :
    ∃ n, e.nodeAt? a = some n ∧ d.IsAbout n := by
  cases h with
  | name hname => exact ⟨_, hname, _, rfl, rfl⟩
  | part hwhole hp hd => exact ⟨_, nodeAt?_part hwhole hp, isAbout_of_mem_blamePart hd⟩

end Expr

/-! ## Charges of statements -/

namespace Stmt

variable {options : Options}

/-- The expression that stands in a statement, blocks left aside. -/
def expr? {ρ τ : Type} : Stmt ρ τ → Option (Expr ρ)
  | declaration d => d.init?
  | expression e => some e
  | block _ _ => none

/-- The diagnostic is about the node at the address in the expression of the statement, or
about an initial value as a whole. -/
inductive Charged (options : Options) : ResolvedStmt → Address → Diagnostic → Prop where
  | inside {s : ResolvedStmt} {e : ResolvedExpr} {a : Address} {d : Diagnostic} :
      s.expr? = some e → e.Charged options a d → Charged options s a d
  | initial {d : ResolvedDeclaration} {r : TypeRef (Option Ty)} {e : ResolvedExpr}
      {x : Diagnostic} :
      d.type? = some r → d.init? = some e → x ∈ e.misplaced .initialization r.ty →
        Charged options (declaration d) [] x

theorem Charged.isAbout {s : ResolvedStmt} {a : Address} {d : Diagnostic}
    (h : s.Charged options a d) :
    ∃ e n, s.expr? = some e ∧ e.nodeAt? a = some n ∧ d.IsAbout n := by
  cases h with
  | inside he hcharged =>
      obtain ⟨n, hn, habout⟩ := hcharged.isAbout
      exact ⟨_, n, he, hn, habout⟩
  | initial _ hinit hx => exact ⟨_, _, hinit, rfl, Expr.isAbout_of_mem_misplaced hx⟩

/-- What is wrong with the expression of a statement, with the addresses that it is charged
to. -/
def charges (options : Options) : ResolvedStmt → List (Address × Diagnostic)
  | declaration d => d.init?.elim [] (·.charges options) ++ d.mismatch.map ([], ·)
  | expression e => e.charges options
  | block _ _ => []

theorem map_snd_charges (options : Options) (s : ResolvedStmt) :
    (s.charges options).map Prod.snd = s.steps.flatMap (Step.ofExpression options) := by
  have hnodes : ∀ e : ResolvedExpr,
      (e.nodes.map Step.node).flatMap (Step.ofExpression options) = e.violations options := by
    intro e
    rw [List.flatMap_map]
    rfl
  cases s with
  | block => rfl
  | expression e => rw [charges, steps, hnodes, Expr.map_snd_charges]
  | declaration d =>
      obtain ⟨name, type?, init?, span⟩ := d
      cases init? with
      | none => simp [charges, steps, Step.ofExpression, Function.comp_def]
      | some e =>
          simp [charges, steps, Step.ofExpression, Function.comp_def, hnodes,
            Expr.map_snd_charges]

theorem charged_of_mem_charges {s : ResolvedStmt} {c : Address × Diagnostic}
    (h : c ∈ s.charges options) : s.Charged options c.1 c.2 := by
  cases s with
  | block => cases h
  | expression e => exact .inside rfl (Expr.charged_of_mem_charges h)
  | declaration d =>
      rcases List.mem_append.mp h with h | h
      · cases hinit : d.init? with
        | none =>
            rw [hinit] at h
            cases h
        | some e =>
            rw [hinit] at h
            exact .inside hinit (Expr.charged_of_mem_charges h)
      · obtain ⟨x, hx, rfl⟩ := List.mem_map.mp h
        obtain ⟨r, e, htype, hinit, hx⟩ := Declaration.mem_mismatch.mp hx
        exact .initial htype hinit hx

/-- An initial value that is charged for its name agrees with any type. -/
theorem mismatch_eq_nil_of_ref {d : ResolvedDeclaration} {name : String} {span : Span}
    (h : d.init? = some (.ref name none span)) : d.mismatch = [] := by
  rw [List.eq_nil_iff_forall_not_mem]
  intro x hx
  obtain ⟨r, e, -, hinit, hx⟩ := Declaration.mem_mismatch.mp hx
  obtain rfl := Option.some.inj (hinit.symm.trans h)
  rw [Expr.misplaced_unknown] at hx
  cases hx

theorem nodup_charges (options : Options) (s : ResolvedStmt) :
    ((s.charges options).map Prod.fst).Nodup := by
  cases s with
  | block => exact List.nodup_nil
  | expression e => exact e.nodup_charges options
  | declaration d =>
      rw [charges, List.map_append]
      refine List.nodup_append.mpr ⟨?_, ?_, ?_⟩
      · cases d.init? with
        | none => exact List.nodup_nil
        | some e => exact e.nodup_charges options
      · rw [List.map_map]
        exact Expr.nodup_map_of_length_le_one d.length_mismatch_le _
      · rintro a ha b hb rfl
        rw [List.map_map] at hb
        obtain ⟨x, hx, rfl⟩ := List.mem_map.mp hb
        obtain ⟨r, e, -, hinit, -⟩ := Declaration.mem_mismatch.mp hx
        rw [hinit] at ha
        obtain ⟨⟨_, y⟩, hy, rfl⟩ := List.mem_map.mp ha
        obtain ⟨name, span, rfl⟩ := (Expr.charged_of_mem_charges hy).eq_ref
        rw [mismatch_eq_nil_of_ref hinit] at hx
        cases hx

/-! ### How many there are -/

theorem length_charges_le (options : Options) (s : ResolvedStmt) :
    (s.charges options).length ≤ (s.steps.filterMap Step.node?).length := by
  have hlength : ∀ e : ResolvedExpr, (e.charges options).length = (e.violations options).length :=
    fun e => by rw [← Expr.map_snd_charges, List.length_map]
  have hnodes : ∀ e : ResolvedExpr,
      ((e.nodes.map Step.node : List (Step _ (Option Ty))).filterMap Step.node?) = e.nodes := by
    intro e
    simp [List.filterMap_map, Function.comp_def, Step.node?]
  cases s with
  | block => exact Nat.zero_le _
  | expression e =>
      rw [charges, steps, hnodes, hlength]
      exact e.length_violations_le options
  | declaration d =>
      cases hinit : d.init? with
      | none =>
          have hnone : d.mismatch = [] := by simp [Declaration.mismatch, hinit]
          simp [charges, hinit, hnone]
      | some e =>
          have hsteps : (declaration d).steps.filterMap Step.node? = e.nodes := by
            simp [steps, hinit, List.filterMap_cons, List.filterMap_append, hnodes, Step.node?]
          rw [charges, hsteps, List.length_append, List.length_map, hinit, Option.elim_some,
            hlength]
          by_cases href : ∃ name span, e = .ref name none span
          · obtain ⟨name, span, rfl⟩ := href
            rw [mismatch_eq_nil_of_ref hinit]
            exact Expr.length_violations_le options _
          · simp only [not_exists] at href
            have hlt := Expr.length_violations_lt options href
            have hone := d.length_mismatch_le
            omega

theorem length_ofDeclaration_le (taken : String → Bool) (s : ResolvedStmt) :
    (s.steps.flatMap (Step.ofDeclaration taken)).length ≤ 2 * s.declarations.length := by
  have hnodes : ∀ e : ResolvedExpr,
      (e.nodes.map Step.node).flatMap (Step.ofDeclaration taken) = [] := by
    intro e
    rw [List.flatMap_map, List.flatMap_eq_nil_iff]
    exact fun _ _ => rfl
  cases s with
  | block => exact Nat.zero_le _
  | expression e =>
      rw [steps, hnodes]
      exact Nat.zero_le _
  | declaration d =>
      have hentry := Expr.length_complain_le (!taken d.name) (.redeclared d.name) d.span.start
      -- A declaration with a type name is not asked for a type.
      have htype : d.blameType.length + d.untyped.length ≤ 1 := by
        obtain ⟨name, type?, init?, span⟩ := d
        cases type? with
        | none => cases init? <;> simp [Declaration.blameType, Declaration.untyped]
        | some r =>
            have hlookup := Expr.length_complain_le r.target.isSome (.unknownType r.name) span.start
            simpa [Declaration.blameType, Declaration.untyped] using hlookup
      have hinit : (d.init?.elim [] fun e => e.nodes.map Step.node).flatMap
          (Step.ofDeclaration taken) = [] := by
        cases d.init? with
        | none => rfl
        | some e => exact hnodes e
      rw [steps, List.flatMap_cons, List.flatMap_append, hinit, List.nil_append,
        List.flatMap_cons, List.flatMap_singleton, List.length_append, List.length_append,
        declarations, List.length_singleton]
      simp only [Step.ofDeclaration]
      omega

/-! ## Charges of programs -/

/-- The diagnostics of a program that are about its expressions, each with the number of the
statement and the address of the node that it is charged to. -/
def chargesAll (options : Options) (body : List ResolvedStmt) :
    List ((Nat × Address) × Diagnostic) :=
  (points body).zipIdx.flatMap fun q =>
    (q.1.stmt.charges options).map fun c => ((q.2, c.1), c.2)

theorem map_snd_chargesAll (options : Options) (env : Env) (body : List ResolvedStmt) :
    (chargesAll options body).map Prod.snd =
      (violationsAll options env body).filter (!·.isOfDeclaration) := by
  have hfilter := filter_violationsAll options
    (fun taken s => Step.filter_not_isOfDeclaration_faults options taken s) env body
  rw [hfilter, flatMap_walk]
  conv_rhs => rw [← List.zipIdx_map_fst 0 (points body), List.flatMap_map]
  rw [chargesAll, List.map_flatMap]
  refine List.flatMap_congr fun q _ => ?_
  rw [List.map_map, ← map_snd_charges]
  rfl

theorem nodup_chargesAll (options : Options) (body : List ResolvedStmt) :
    ((chargesAll options body).map Prod.fst).Nodup := by
  have hkeys : ∀ q : Point (Option Binding) (Option Ty) × Nat,
      ((q.1.stmt.charges options).map fun c => ((q.2, c.1), c.2)).map Prod.fst =
        ((q.1.stmt.charges options).map Prod.fst).map (q.2, ·) := by
    intro q
    rw [List.map_map, List.map_map]
    rfl
  rw [chargesAll, List.map_flatMap]
  refine nodup_flatMap_zipIdx ?_ ?_
  · intro q _
    rw [hkeys]
    exact (nodup_charges options q.1.stmt).map (Prod.mk_right_injective q.2)
  · intro p q b hp hq
    rw [hkeys] at hp hq
    obtain ⟨_, -, rfl⟩ := List.mem_map.mp hp
    obtain ⟨_, -, hb⟩ := List.mem_map.mp hq
    exact (Prod.mk.inj hb).1.symm

theorem exists_point_of_mem_chargesAll {body : List ResolvedStmt}
    {c : (Nat × Address) × Diagnostic} (h : c ∈ chargesAll options body) :
    ∃ p, (points body)[c.1.1]? = some p ∧ p.stmt.Charged options c.1.2 c.2 := by
  obtain ⟨⟨p, k⟩, hp, h⟩ := List.mem_flatMap.mp h
  obtain ⟨x, hx, rfl⟩ := List.mem_map.mp h
  exact ⟨p, List.mk_mem_zipIdx_iff_getElem?.mp hp, charged_of_mem_charges hx⟩

theorem length_flatMap_le {α β γ : Type} {f : α → List β} {g : α → List γ} {k : Nat}
    (h : ∀ a, (f a).length ≤ k * (g a).length) (l : List α) :
    (l.flatMap f).length ≤ k * (l.flatMap g).length := by
  induction l with
  | nil => exact Nat.zero_le _
  | cons a rest ih =>
      rw [List.flatMap_cons, List.flatMap_cons, List.length_append, List.length_append,
        Nat.mul_add]
      exact Nat.add_le_add (h a) ih

mutual

theorem declarations_pointsIn {ρ τ : Type} (around : List (List (Stmt ρ τ)))
    (before : List (Stmt ρ τ)) : ∀ s : Stmt ρ τ,
      (pointsIn around before s).flatMap (fun p => p.stmt.declarations) = s.declarations
  | declaration _ | expression _ => rfl
  | block body _ => declarations_pointsInAll (before :: around) [] body

/-- Every declaration stands at a point. -/
theorem declarations_pointsInAll {ρ τ : Type} (around : List (List (Stmt ρ τ)))
    (before : List (Stmt ρ τ)) : ∀ ss : List (Stmt ρ τ),
      (pointsInAll around before ss).flatMap (fun p => p.stmt.declarations) = declarationsAll ss
  | [] => rfl
  | s :: rest => by
      rw [pointsInAll, declarationsAll, List.flatMap_append, declarations_pointsIn around before s,
        declarations_pointsInAll around (before ++ [s]) rest]

end

/-- One diagnostic for each node, and two for each declaration. -/
theorem length_violationsAll_le (options : Options) (env : Env) (body : List ResolvedStmt) :
    (violationsAll options env body).length ≤
      (nodesAll body).length + 2 * (declarationsAll body).length := by
  have hexpressions : ((violationsAll options env body).filter (!·.isOfDeclaration)).length ≤
      1 * (nodesAll body).length := by
    rw [filter_violationsAll options
      (fun taken s => Step.filter_not_isOfDeclaration_faults options taken s), flatMap_walk,
      ← nodes_pointsInAll [] [] body]
    refine length_flatMap_le (fun p => ?_) (points body)
    rw [Nat.one_mul, ← map_snd_charges, List.length_map]
    exact length_charges_le options p.stmt
  have hdeclarations : ((violationsAll options env body).filter
      Diagnostic.isOfDeclaration).length ≤ 2 * (declarationsAll body).length := by
    rw [filter_violationsAll options
      (fun taken s => Step.filter_isOfDeclaration_faults options taken s), flatMap_walk,
      ← declarations_pointsInAll [] [] body]
    exact length_flatMap_le (fun p => length_ofDeclaration_le (p.isTaken env) p.stmt) (points body)
  rw [List.length_eq_length_filter_add Diagnostic.isOfDeclaration]
  omega

theorem length_nodesAll_resolveAll (env : Env) (body : List SourceStmt) :
    (nodesAll (resolveAll env body)).length = (nodesAll body).length := by
  rw [← map_erase_nodesAll_resolveAll env body, List.length_map]

theorem length_declarationsAll_resolveAll (env : Env) (body : List SourceStmt) :
    (declarationsAll (resolveAll env body)).length = (declarationsAll body).length := by
  have herase := declarationsAll_eraseAll (resolveAll env body)
  rw [eraseAll_resolveAll] at herase
  rw [herase, List.length_map]

end Stmt

/-! ## Runs -/

/-- As many diagnostics as nodes are there only for a single name that means nothing. -/
theorem Expr.length_violations_resolve (options : Options) (env : Env) (e : SourceExpr) :
    ((e.resolve env).violations options).length ≤ e.nodes.length ∧
      (((e.resolve env).violations options).length = e.nodes.length ↔
        ∃ name span, e = .ref name () span ∧ env.binding? name = none) := by
  have hnodes : (e.resolve env).nodes.length = e.nodes.length := by
    rw [nodes_resolve, List.length_map]
  rw [← hnodes]
  refine ⟨length_violations_le options _, ?_, ?_⟩
  · intro hall
    by_cases href : ∃ name span, e.resolve env = .ref name none span
    · obtain ⟨name, span, href⟩ := href
      have he : e = .ref name () span := by rw [← e.erase_resolve env, href, erase]
      exact ⟨name, span, he, (target_eq_of_resolve href.symm).symm⟩
    · simp only [not_exists] at href
      have hlt := length_violations_lt options href
      omega
  · rintro ⟨name, span, rfl, hnone⟩
    rw [resolve, violations_ref, hnone]
    rfl

/-- **No part of a program is blamed twice.** A check gives back what it was given, with
names looked up. What the check of an expression puts behind the log can be charged to
nodes of the expression, each diagnostic to the node that it is about, and no node is
charged twice. So there are at most as many as there are nodes, and
as many only for a single name that means nothing. In a program and in a block the same is
true of all diagnostics but those about the types and the names of declarations, and of
these there are two at most for each declaration. -/
theorem no_node_is_blamed_twice (options : Options) (env : Env) (log : Log) :
    (∀ e : SourceExpr, let run := (e.check options env).run log
      run.1.erase = e ∧
      ∃ charges : List (Address × Diagnostic),
        run.2 = log ++ (charges.map Prod.snd).toArray ∧
        (charges.map Prod.fst).Nodup ∧
        (∀ c ∈ charges, run.1.Charged options c.1 c.2 ∧
          ∃ n, run.1.nodeAt? c.1 = some n ∧ c.2.IsAbout n) ∧
        charges.length ≤ e.nodes.length ∧
        (charges.length = e.nodes.length ↔
          ∃ name span, e = .ref name () span ∧ env.binding? name = none)) ∧
    ∀ body : List SourceStmt,
      ∀ run ∈ [(#[], checkProgram options env body), (log, checkBlock options env log body)],
        Stmt.eraseAll run.2.tree = body ∧
        ∃ (added : List Diagnostic) (charges : List ((Nat × Address) × Diagnostic)),
          run.2.log = run.1 ++ added.toArray ∧
          charges.map Prod.snd = added.filter (!·.isOfDeclaration) ∧
          (charges.map Prod.fst).Nodup ∧
          (∀ c ∈ charges, ∃ p, (Stmt.points run.2.tree)[c.1.1]? = some p ∧
            p.stmt.Charged options c.1.2 c.2 ∧
            ∃ e n, p.stmt.expr? = some e ∧ e.nodeAt? c.1.2 = some n ∧ c.2.IsAbout n) ∧
          added.length ≤ (Stmt.nodesAll body).length + 2 * (Stmt.declarationsAll body).length := by
  constructor
  · intro e run
    have hrun : run = _ := e.check_writes options env log
    have hlength : ((e.resolve env).charges options).length =
        ((e.resolve env).violations options).length := by
      rw [← Expr.map_snd_charges, List.length_map]
    rw [hrun]
    refine ⟨e.erase_resolve env, (e.resolve env).charges options, ?_,
      Expr.nodup_charges options _, ?_, ?_⟩
    · rw [Expr.map_snd_charges]
    · intro c hc
      have hcharged := Expr.charged_of_mem_charges hc
      exact ⟨hcharged, hcharged.isAbout⟩
    · rw [hlength]
      exact Expr.length_violations_resolve options env e
  · intro body run hmem
    -- A program and a block differ in the environment that the statements begin in.
    have hrun : ∃ start, run.2.tree = Stmt.resolveAll start body ∧
        run.2.log = run.1 ++ (Stmt.violationsAll options start run.2.tree).toArray := by
      rcases List.mem_pair.mp hmem with rfl | rfl
      · exact ⟨env, by rw [checkProgram_eq], by rw [checkProgram_eq, Array.empty_append]⟩
      · exact ⟨env.push, by rw [checkBlock_eq], by rw [checkBlock_eq]⟩
    obtain ⟨start, htree, hlog⟩ := hrun
    have herase : Stmt.eraseAll run.2.tree = body := by
      rw [htree, Stmt.eraseAll_resolveAll]
    refine ⟨herase, _, Stmt.chargesAll options run.2.tree, hlog,
      Stmt.map_snd_chargesAll options start run.2.tree,
      Stmt.nodup_chargesAll options run.2.tree, ?_, ?_⟩
    · intro c hc
      obtain ⟨p, hp, hcharged⟩ := Stmt.exists_point_of_mem_chargesAll hc
      exact ⟨p, hp, hcharged, hcharged.isAbout⟩
    · have hle := Stmt.length_violationsAll_le options start run.2.tree
      rwa [htree, Stmt.length_nodesAll_resolveAll,
        Stmt.length_declarationsAll_resolveAll, ← htree] at hle

/-- A declaration of a type and an initial value with two names that mean nothing, and a
second one of the same name, behind a log that holds something already. The names are
charged for themselves and nothing else is. -/
theorem no_node_is_blamed_twice_lost :
    let byte (n : Nat) : Span := .within "main" n (n + 1)
    let lost (n : Nat) : SourceExpr := .ref "lost" () (byte n)
    let cell : SourceExpr := .index (lost 1) (lost 2) (byte 1)
    let body : List SourceStmt := [.declaration ⟨"t", some ⟨"thing", ()⟩, some cell, byte 0⟩,
      .block [.declaration ⟨"t", none, some (.unary .not (.number (byte 5)) (byte 4)), byte 3⟩]
        (byte 3),
      .declaration ⟨"t", none, none, byte 6⟩]
    let earlier : Log := #[⟨.notWritable, 9, "main"⟩]
    let run := checkBlock {} .empty earlier body
    (∃ charges : List (Address × Diagnostic), charges.length = 1 ∧
      (((lost 1).check {} .empty).run earlier).2 = earlier ++ (charges.map Prod.snd).toArray) ∧
    (earlier, run) ∈ [(#[], checkProgram {} .empty body), (earlier, run)] ∧
    run.log = earlier ++ #[⟨.unknownType "thing", 0, "main"⟩, ⟨.undeclared "lost", 1, "main"⟩,
      ⟨.undeclared "lost", 2, "main"⟩, ⟨.operand .boolean "!" .number, 5, "main"⟩,
      ⟨.untyped "t", 6, "main"⟩, ⟨.redeclared "t", 6, "main"⟩] ∧
    ∃ charges : List ((Nat × Address) × Diagnostic), (charges.map Prod.fst).Nodup ∧
      charges.map Prod.snd = [⟨.undeclared "lost", 1, "main"⟩, ⟨.undeclared "lost", 2, "main"⟩,
        ⟨.operand .boolean "!" .number, 5, "main"⟩] := by
  intro byte lost cell body earlier run
  obtain ⟨hexpression, hprogram⟩ := no_node_is_blamed_twice {} .empty earlier
  obtain ⟨-, charges, hadded, -, -, -, hall⟩ := hexpression (lost 1)
  have hblock : (earlier, run) ∈ [(#[], checkProgram {} .empty body), (earlier, run)] :=
    List.mem_cons_of_mem _ (List.mem_singleton_self _)
  have hlog : run.log = earlier ++ #[⟨.unknownType "thing", 0, "main"⟩,
      ⟨.undeclared "lost", 1, "main"⟩, ⟨.undeclared "lost", 2, "main"⟩,
      ⟨.operand .boolean "!" .number, 5, "main"⟩, ⟨.untyped "t", 6, "main"⟩,
      ⟨.redeclared "t", 6, "main"⟩] := by
    decide +kernel
  obtain ⟨-, added, charged, hbehind, hcharged, hnodup, -, -⟩ := hprogram body _ hblock
  obtain rfl := congrArg Array.toList (Array.append_inj_right (hbehind.symm.trans hlog) rfl)
  exact ⟨⟨charges, hall.mpr ⟨"lost", byte 1, rfl, rfl⟩, hadded⟩, hblock, hlog, charged,
    hnodup, hcharged⟩

end Gradual
