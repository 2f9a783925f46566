import Gradual.Proofs.Stmt.Agreement

/-!
# Independent statements

Two statements in a row may change places if neither of them declares a name
that stands in the other one. Each of them comes out as it did
(`Stmt.Independent.checkStmt_behind`). What stands behind them does as well, for
the two orders leave environments that agree on all names, though their scopes
need not be the same lists (`Stmt.agreeOn_leave_leave`).
-/

namespace Gradual

variable {ρ τ : Type}

namespace Stmt

/-! ## Independence -/

/-- The name stands in the statement, at any depth: a variable is referred to by
it, or declared. -/
def Mentions (x : String) (s : Stmt ρ τ) : Prop :=
  (∃ target span, Expr.ref x target span ∈ s.nodes) ∨ ∃ d ∈ s.declarations, d.name = x

/-- Neither statement is the declaration of a name that the other one mentions. -/
structure Independent (s₁ s₂ : Stmt ρ τ) : Prop where
  left : ∀ d, s₁ = declaration d → ¬ s₂.Mentions d.name
  right : ∀ d, s₂ = declaration d → ¬ s₁.Mentions d.name

theorem Independent.symm {s₁ s₂ : Stmt ρ τ} (h : Independent s₁ s₂) : Independent s₂ s₁ :=
  ⟨h.right, h.left⟩

/-- Blocks and expressions are independent of each other, whatever is in them. -/
theorem Independent.of_no_declaration {s₁ s₂ : Stmt ρ τ} (h₁ : ∀ d, s₁ ≠ declaration d)
    (h₂ : ∀ d, s₂ ≠ declaration d) : Independent s₁ s₂ :=
  ⟨fun d hd => absurd hd (h₁ d), fun d hd => absurd hd (h₂ d)⟩

theorem mentions_declaration (d : Declaration ρ τ) : (declaration d).Mentions d.name :=
  Or.inr ⟨d, List.mem_singleton_self d, rfl⟩

theorem within_allBut {x : String} {s : Stmt ρ τ} (h : ¬ s.Mentions x) :
    s.Within (.allBut x) where
  declared := by
    rintro d rfl rfl
    exact h (mentions_declaration d)
  used := by
    rintro name target span hmem rfl
    exact h (Or.inl ⟨target, span, hmem⟩)
  types := fun _ _ _ _ => trivial

section

variable {s₁ s₂ : SourceStmt}

/-- The first statement changes nothing that the second one asks for. -/
theorem Independent.exists_agreeOn (h : Independent s₁ s₂) (env : Env) :
    ∃ v, s₂.Within v ∧ env.AgreeOn v ((s₁.resolve env).leave env) := by
  cases s₁ with
  | expression | block => exact ⟨.all, s₂.within_all, .refl .all env⟩
  | declaration d =>
      -- Whether the declaration is refused or not, it concerns its own name only.
      refine ⟨.allBut d.name, within_allBut (h.left d rfl), ?_⟩
      exact env.agreeOn_enter (d.resolve env).binding

theorem Independent.resolve_leave (h : Independent s₁ s₂) (env : Env) :
    s₂.resolve ((s₁.resolve env).leave env) = s₂.resolve env := by
  obtain ⟨v, hwithin, hagree⟩ := h.exists_agreeOn env
  exact (resolve_congr hagree s₂ hwithin).symm

/-- Behind a statement that it is independent of, a statement comes out as in
front of it. -/
theorem Independent.checkStmt_behind (h : Independent s₁ s₂) (options : Options) (env : Env)
    (log : Log) :
    (checkStmt options (checkStmt options env log s₁).env log s₂).tree =
      (checkStmt options env log s₂).tree ∧
    (checkStmt options (checkStmt options env log s₁).env log s₂).log =
      (checkStmt options env log s₂).log := by
  obtain ⟨v, hwithin, hagree⟩ := h.exists_agreeOn env
  obtain ⟨htree, hlog, -⟩ := checkStmt_congr options log hagree hwithin
  rw [checkStmt_eq options env log s₁]
  exact ⟨htree.symm, hlog.symm⟩

/-- Of two independent statements at most one declares a name. -/
theorem Independent.declares?_eq_none (h : Independent s₁ s₂) (env : Env) (name : String) :
    (s₁.resolve env).declares? name = none ∨ (s₂.resolve env).declares? name = none := by
  cases s₁ with
  | expression | block => exact Or.inl rfl
  | declaration d₁ =>
      cases s₂ with
      | expression | block => exact Or.inr rfl
      | declaration d₂ =>
          by_cases hname : d₁.name = name
          · have hother : d₂.name ≠ name := by
              intro hsame
              have hd := mentions_declaration d₂
              rw [hsame, ← hname] at hd
              exact h.left d₁ rfl hd
            exact Or.inr (if_neg hother)
          · exact Or.inl (if_neg hname)

end

/-- Insertions of different names commute, as far as answers go. -/
theorem agreeOn_leave_leave (env : Env) {t₁ t₂ : ResolvedStmt}
    (h : ∀ name, t₁.declares? name = none ∨ t₂.declares? name = none) :
    (t₂.leave (t₁.leave env)).AgreeOn .all (t₁.leave (t₂.leave env)) := by
  have hinner : ∀ name, (t₂.leave (t₁.leave env)).inner.binding? name =
      (t₁.leave (t₂.leave env)).inner.binding? name := by
    intro name
    rw [inner_leave_binding?, inner_leave_binding?, inner_leave_binding?, inner_leave_binding?]
    rcases h name with hnone | hnone <;>
      rw [hnone, Option.map_none, Option.or_none, Option.or_none]
  refine ⟨fun name _ => hinner name, ?_, ?_⟩
  · intro name _
    rw [Env.binding?_eq_or, Env.binding?_eq_or (t₁.leave _), hinner, outer_leave, outer_leave,
      outer_leave, outer_leave]
  · intro text _
    exact (type?_leaveAll env [t₁, t₂] text).trans (type?_leaveAll env [t₂, t₁] text).symm

theorem Independent.agreeOn_behind {s₁ s₂ : SourceStmt} (h : Independent s₁ s₂)
    (options : Options) (env : Env) (log : Log) :
    (checkStmt options (checkStmt options env log s₁).env log s₂).env.AgreeOn .all
      (checkStmt options (checkStmt options env log s₂).env log s₁).env := by
  simp only [checkStmt_eq]
  rw [h.resolve_leave env, h.symm.resolve_leave env]
  exact agreeOn_leave_leave env (h.declares?_eq_none env)

end Stmt

/-! ## Runs -/

theorem checkProgram_pair (options : Options) (env : Env) (P : List SourceStmt)
    (s₁ s₂ : SourceStmt) (Q : List SourceStmt) :
    checkProgram options env (P ++ [s₁, s₂] ++ Q) =
      let front := checkProgram options env P
      let first := checkStmt options front.env #[] s₁
      let second := checkStmt options first.env #[] s₂
      let back := checkProgram options second.env Q
      ⟨front.tree ++ [first.tree, second.tree] ++ back.tree,
        front.log ++ first.log ++ second.log ++ back.log, back.env⟩ := by
  simp only [List.append_assoc, List.cons_append, List.nil_append, checkProgram_append,
    checkProgram_cons, Array.append_assoc]

/-- **Independent statements commute.** If they change places, all statements
keep their trees, their diagnostics change places in the log, and the environment
behind the program gives the same answers. Blocks and expressions are independent
of each other, and without one of them the rest of a program comes out as it
did. -/
theorem independent_statements_commute (options : Options) (env : Env) :
    (∀ (P : List SourceStmt) (s₁ s₂ : SourceStmt) (Q : List SourceStmt),
      Stmt.Independent s₁ s₂ →
      let front := checkProgram options env P
      let first := checkStmt options front.env #[] s₁
      let second := checkStmt options front.env #[] s₂
      let back := checkProgram options (checkStmt options first.env #[] s₂).env Q
      let run := checkProgram options env (P ++ [s₁, s₂] ++ Q)
      let swapped := checkProgram options env (P ++ [s₂, s₁] ++ Q)
      run.tree = front.tree ++ [first.tree, second.tree] ++ back.tree ∧
      swapped.tree = front.tree ++ [second.tree, first.tree] ++ back.tree ∧
      run.log = front.log ++ first.log ++ second.log ++ back.log ∧
      swapped.log = front.log ++ second.log ++ first.log ++ back.log ∧
      (∀ name, run.env.binding? name = swapped.env.binding? name) ∧
      ∀ text, run.env.type? text = swapped.env.type? text) ∧
    (∀ s₁ s₂ : SourceStmt, (∀ d, s₁ ≠ .declaration d) → (∀ d, s₂ ≠ .declaration d) →
      Stmt.Independent s₁ s₂) ∧
    ∀ (P : List SourceStmt) (s : SourceStmt) (Q : List SourceStmt),
      (∀ d, s ≠ .declaration d) →
      let front := checkProgram options env P
      let own := checkStmt options front.env #[] s
      let back := checkProgram options front.env Q
      checkProgram options env (P ++ [s] ++ Q) =
        ⟨front.tree ++ [own.tree] ++ back.tree, front.log ++ own.log ++ back.log, back.env⟩ ∧
      checkProgram options env (P ++ Q) =
        ⟨front.tree ++ back.tree, front.log ++ back.log, back.env⟩ := by
  refine ⟨?_, fun _ _ => .of_no_declaration, ?_⟩
  · intro P s₁ s₂ Q h
    simp only [checkProgram_pair]
    generalize checkProgram options env P = front
    obtain ⟨htree₂, hlog₂⟩ := h.checkStmt_behind options front.env #[]
    obtain ⟨htree₁, hlog₁⟩ := h.symm.checkStmt_behind options front.env #[]
    -- The two orders leave different scopes, but no statement behind can see it.
    have hbehind := h.agreeOn_behind options front.env #[]
    obtain ⟨htree, hlog, henv⟩ :=
      checkProgram_congr options hbehind (fun s (_ : s ∈ Q) => s.within_all)
    rw [htree₂, hlog₂, htree₁, hlog₁, ← htree, ← hlog]
    refine ⟨rfl, rfl, rfl, rfl, ?_, ?_⟩
    · intro name
      exact henv.binding? name trivial
    · intro text
      exact henv.type? text trivial
  · intro P s Q hs
    have hleave : ∀ env, (checkStmt options env #[] s).env = env := by
      intro env
      rw [checkStmt_eq]
      cases s with
      | declaration d => exact absurd rfl (hs d)
      | expression | block => rfl
    refine ⟨?_, checkProgram_append options env P Q⟩
    simp only [List.append_assoc, checkProgram_append, checkProgram_cons, List.cons_append,
      List.nil_append, Array.append_assoc, hleave]

def sumRow : SourceStmt :=
  let byte (n : Nat) : Span := .within "main" n (n + 1)
  .declaration ⟨"x", none,
    some (.binary .plus (.ref "k" () (byte 1)) (.ref "lost" () (byte 2)) (byte 1)), byte 0⟩

def negationRow : SourceStmt :=
  let byte (n : Nat) : Span := .within "main" n (n + 1)
  .declaration ⟨"y", none, some (.unary .not (.ref "k" () (byte 4)) (byte 4)), byte 3⟩

/-- The rows are wrong and change places, and behind them `x` is declared again
from both. A block that has both rows in it goes without a trace. -/
theorem independent_statements_commute_rows :
    let byte (n : Nat) : Span := .within "main" n (n + 1)
    let P : List SourceStmt := [.declaration ⟨"k", none, some (.number (byte 9)), byte 9⟩]
    let Q : List SourceStmt := [.declaration ⟨"x", none,
      some (.binary .and (.ref "x" () (byte 6)) (.ref "y" () (byte 7)) (byte 6)), byte 5⟩]
    let inside : SourceStmt := .block [sumRow, negationRow] (byte 8)
    Stmt.Independent sumRow negationRow ∧
    (checkProgram {} .empty (P ++ [sumRow, negationRow] ++ Q)).log.toList =
      [⟨.undeclared "lost", 2, "main"⟩, ⟨.operand .boolean "!" .number, 4, "main"⟩,
        ⟨.operand .boolean "&&" .number, 6, "main"⟩, ⟨.redeclared "x", 5, "main"⟩] ∧
    (checkProgram {} .empty (P ++ [negationRow, sumRow] ++ Q)).log.toList =
      [⟨.operand .boolean "!" .number, 4, "main"⟩, ⟨.undeclared "lost", 2, "main"⟩,
        ⟨.operand .boolean "&&" .number, 6, "main"⟩, ⟨.redeclared "x", 5, "main"⟩] ∧
    (∀ d, inside ≠ .declaration d) ∧
    (checkProgram {} .empty (P ++ [inside] ++ Q)).log.toList =
      [⟨.undeclared "lost", 2, "main"⟩, ⟨.operand .boolean "!" .number, 4, "main"⟩,
        ⟨.undeclared "x", 6, "main"⟩, ⟨.undeclared "y", 7, "main"⟩] ∧
    (checkProgram {} .empty (P ++ Q)).log.toList =
      [⟨.undeclared "x", 6, "main"⟩, ⟨.undeclared "y", 7, "main"⟩] := by
  intro byte P Q inside
  have hindependent : Stmt.Independent sumRow negationRow := by
    constructor
    · rintro d ⟨⟩
      simp [negationRow, Stmt.Mentions, Stmt.nodes, Stmt.declarations, Expr.nodes]
    · rintro d ⟨⟩
      simp [sumRow, Stmt.Mentions, Stmt.nodes, Stmt.declarations, Expr.nodes]
  have hinside : ∀ d, inside ≠ .declaration d := by
    intro d hd
    change Stmt.block _ _ = Stmt.declaration d at hd
    cases hd
  obtain ⟨hcommute, -, hremove⟩ := independent_statements_commute {} .empty
  obtain ⟨-, -, hrun, hswapped, -⟩ := hcommute P sumRow negationRow Q hindependent
  obtain ⟨hwith, hwithout⟩ := hremove P inside Q hinside
  refine ⟨hindependent, ?_, ?_, hinside, ?_, ?_⟩
  · rw [hrun]
    decide +kernel
  · rw [hswapped]
    decide +kernel
  · rw [hwith]
    decide +kernel
  · rw [hwithout]
    decide +kernel

end Gradual
