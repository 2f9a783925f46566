import Gradual.Proofs.Scopes
import Gradual.Proofs.Stmt.Agreement

/-!
# Entry points

A program declares into the innermost scope that it finds; blocks and bodies of
subroutines open a scope above it. The two stacks of scopes are not alike, but
they answer alike as long as only names that were free are declared
(`Env.agreeOn_push`).
-/

namespace Gradual

/-- All names, of which the free ones may be declared. -/
def Vocabulary.free (env : Env) : Vocabulary :=
  { Vocabulary.all with declared := fun name => env.inner.binding? name = none }

/-- A new scope on top changes no answer about free names. -/
theorem Env.agreeOn_push (env : Env) : env.AgreeOn (.free env) env.push where
  inner := by
    intro name hname
    -- The new scope has no name at all, and the one under it does not have this one.
    have hnew : env.push.inner.binding? name = none := rfl
    rw [hnew]
    exact hname
  binding? := by
    intro name _
    rw [binding?_push]
  type? := by
    intro text _
    rw [type?_push]

theorem Stmt.within_free {env : Env} {s : SourceStmt}
    (h : ∀ d, s = declaration d → env.inner.binding? d.name = none) : s.Within (.free env) :=
  ⟨h, fun _ _ _ _ => trivial, fun _ _ _ _ => trivial⟩

section

variable {env : Env} {body : List SourceStmt}

theorem firstDeclaration?_eq_none_of_free
    (hfree : ∀ d, Stmt.declaration d ∈ body → env.inner.binding? d.name = none) {name : String}
    (htaken : env.inner.binding? name ≠ none) :
    Stmt.firstDeclaration? name (Stmt.resolveAll env body) = none := by
  have hnone : Stmt.firstDeclaration? name body = none := by
    rw [Option.eq_none_iff_forall_ne_some]
    intro d hd
    have hnew := hfree d (Stmt.mem_of_firstDeclaration? hd)
    rw [Stmt.name_of_firstDeclaration? hd] at hnew
    exact htaken hnew
  have hresolved := Stmt.isSome_firstDeclaration?_resolveAll env name body
  rw [hnone, Option.isSome_none, Option.isSome_eq_false_iff, Option.isNone_iff_eq_none]
    at hresolved
  exact hresolved

theorem inner_binding?_of_free
    (hfree : ∀ d, Stmt.declaration d ∈ body → env.inner.binding? d.name = none) (name : String) :
    (Stmt.leaveAll env (Stmt.resolveAll env body)).inner.binding? name =
      ((Stmt.firstDeclaration? name (Stmt.resolveAll env body)).map Declaration.binding).or
        (env.inner.binding? name) := by
  rw [Stmt.inner_leaveAll_binding?]
  by_cases htaken : env.inner.binding? name = none
  · rw [htaken, Option.none_or, Option.or_none]
  · rw [firstDeclaration?_eq_none_of_free hfree htaken, Option.map_none, Option.none_or,
      Option.or_none]

/-- A block of free names comes out as the program of the same statements. -/
theorem checkBlock_of_free (options : Options)
    (hfree : ∀ d, Stmt.declaration d ∈ body → env.inner.binding? d.name = none) :
    checkBlock options env #[] body = { checkProgram options env body with env := env } := by
  have hwithin : ∀ s ∈ body, s.Within (.free env) := by
    intro s hs
    apply Stmt.within_free
    rintro d rfl
    exact hfree d hs
  have htree := Stmt.resolveAll_congr env.agreeOn_push body hwithin
  have hlog := Stmt.violationsAll_congr options env.agreeOn_push hwithin
  rw [checkBlock_eq, checkProgram_eq, ← htree, ← hlog, Array.empty_append]

end

/-- **Programs, blocks and bodies of subroutines are checked alike** if the names
that are declared by the statements themselves are free in the innermost scope;
further outside they may be taken. All three give the statements back with the
same types and meanings, and the same diagnostics. Behind the block and the body
the environment is what it was, and behind the program it has the first
declaration of each name in addition. -/
theorem entry_points_agree (options : Options) {env : Env} {body : List SourceStmt}
    (hfree : ∀ d, Stmt.declaration d ∈ body → env.inner.binding? d.name = none) :
    let program := checkProgram options env body
    Stmt.eraseAll program.tree = body ∧
    checkBlock options env #[] body = ⟨program.tree, program.log, env⟩ ∧
    (∀ (name : String) (returns? : Option Ty),
      Subroutine.check options env ⟨name, returns?, body⟩ = ⟨program.tree, program.log, env⟩) ∧
    program.env.outer = env.outer ∧
    program.env.inner.aliases = env.inner.aliases ∧
    ∀ name, program.env.inner.binding? name =
      ((Stmt.firstDeclaration? name program.tree).map Declaration.binding).or
        (env.inner.binding? name) := by
  intro program
  have hblock : checkBlock options env #[] body = ⟨program.tree, program.log, env⟩ :=
    checkBlock_of_free options hfree
  have hprogram : program = _ := checkProgram_eq options env body
  refine ⟨eraseAll_tree_checkProgram options env body, hblock, ?_, ?_, ?_, ?_⟩
  · intro name returns?
    rw [Subroutine.check]
    exact hblock
  · rw [hprogram]
    exact Stmt.outer_leaveAll env _
  · rw [hprogram]
    exact Stmt.aliases_leaveAll env _
  · intro name
    rw [hprogram]
    exact inner_binding?_of_free hfree name

/-- A number `n` in the innermost scope, and outside of it a boolean `x`. -/
def nestedNames : Env :=
  ⟨({} : Scope).bind ⟨"n", .number, false⟩, [({} : Scope).bind ⟨"x", .boolean, false⟩]⟩

def shadowingBody : List SourceStmt :=
  let byte (n : Nat) : Span := .within "main" n (n + 1)
  let sum (n : Nat) : SourceExpr :=
    .binary .plus (.ref "n" () (byte n)) (.ref "x" () (byte (n + 1))) (byte n)
  [.declaration ⟨"x", some ⟨"string", ()⟩, some (.ref "x" () (byte 1)), byte 0⟩,
    .block [.declaration ⟨"n", none, some (sum 3), byte 2⟩,
      .expression (.unary .not (.ref "n" () (byte 6)) (byte 5))] (byte 2),
    .declaration ⟨"x", none, some (sum 8), byte 7⟩]

/-- The variable outside gives way to the first declaration, and the second one
is refused by all entry points. -/
theorem entry_points_agree_shadowing :
    (∀ d, Stmt.declaration d ∈ shadowingBody → nestedNames.inner.binding? d.name = none) ∧
    (Subroutine.check {} nestedNames ⟨"main", none, shadowingBody⟩).log.toList =
      [⟨.mismatch .initialization .string .boolean, 1, "main"⟩,
        ⟨.operand .number "+" .string, 4, "main"⟩, ⟨.operand .boolean "!" .number, 6, "main"⟩,
        ⟨.operand .number "+" .string, 9, "main"⟩, ⟨.redeclared "x", 7, "main"⟩] ∧
    (checkProgram {} nestedNames shadowingBody).env.binding? "x" = some ⟨"x", .string, false⟩ ∧
    (Subroutine.check {} nestedNames ⟨"main", none, shadowingBody⟩).env.binding? "x" =
      some ⟨"x", .boolean, false⟩ := by
  have hfree : ∀ d, Stmt.declaration d ∈ shadowingBody →
      nestedNames.inner.binding? d.name = none := by
    intro d hd
    simp only [shadowingBody, List.mem_cons, List.not_mem_nil, or_false] at hd
    rcases hd with hd | hd | hd
    · obtain rfl := Stmt.declaration.inj hd
      rfl
    · cases hd
    · obtain rfl := Stmt.declaration.inj hd
      rfl
  obtain ⟨-, -, hsubroutine, -⟩ := entry_points_agree {} hfree
  refine ⟨hfree, ?_, ?_, ?_⟩
  · rw [hsubroutine]
    decide +kernel
  · decide +kernel
  · rw [hsubroutine]
    rfl

/-- A name that is not free is refused by the program only. -/
example :
    let body : List SourceStmt := [.declaration ⟨"n", some ⟨"string", ()⟩, none, .nowhere⟩]
    (checkProgram {} nestedNames body).log = #[⟨.redeclared "n", .nowhere⟩] ∧
    (checkBlock {} nestedNames #[] body).log = #[] := by
  decide +kernel

end Gradual
