import Gradual.Proofs.Aliases

/-!
# What a block can see

A block and an expression ask the environment around them for the names that stand in
them, and get one answer for each. Nothing else comes through: not how many scopes there
are, nor in which of them a name was declared, nor what it shadows, nor any other name.

The scope of a block is new, so no name is taken in it before its own statements begin,
and the kind of question that does depend on the innermost scope is never asked of the
environment outside (`Vocabulary.mentioned`). An environment may then be replaced by
one with a single scope, in which each name has the meaning that could be seen
(`Env.merged`).
-/

namespace Gradual

variable {ρ τ : Type}

/-! ## The names in a block -/

/-- The names that stand in the statements of a block. Which of them are declared is no
question to the environment around. -/
def Vocabulary.mentioned (body : List (Stmt ρ τ)) : Vocabulary where
  declared _ := False
  used name := ∃ target span, Expr.ref name target span ∈ Stmt.nodesAll body
  types text := ∃ d ∈ Stmt.declarationsAll body, ∃ r, d.type? = some r ∧ r.name = text

theorem Stmt.within_mentioned {body : List (Stmt ρ τ)} {s : Stmt ρ τ} (hs : s ∈ body) :
    s.Within (Vocabulary.mentioned body).inside where
  declared _ _ := trivial
  used name target span hmem := by
    refine ⟨target, span, ?_⟩
    rw [nodesAll_eq_flatMap]
    exact List.mem_flatMap.mpr ⟨s, hs, hmem⟩
  types d hd r hr := by
    refine ⟨d, ?_, r, hr, rfl⟩
    rw [declarationsAll_eq_flatMap]
    exact List.mem_flatMap.mpr ⟨s, hs, hd⟩

/-! ## Runs -/

section

variable {env env' : Env} (options : Options)

/-- Environments that agree on the names in a block get the same from it, and are left as
they were. -/
theorem checkBlock_congr (log : Log) {body : List SourceStmt}
    (h : env.AgreeOn (.mentioned body) env') :
    checkBlock options env' log body = { checkBlock options env log body with env := env' } := by
  have hwithin : ∀ s ∈ body, s.Within (Vocabulary.mentioned body).inside :=
    fun _ => Stmt.within_mentioned
  rw [checkBlock_eq, checkBlock_eq, ← Stmt.resolveAll_congr h.push body hwithin,
    ← Stmt.violationsAll_congr options h.push hwithin]

theorem checkExpr_congr {e : SourceExpr}
    (h : ∀ name target span, Expr.ref name target span ∈ e.nodes →
      env.binding? name = env'.binding? name) :
    checkExpr options env' e = { checkExpr options env e with env := env' } := by
  have hresolve : e.resolve env = e.resolve env' :=
    e.resolve_congr fun name span hmem => h name () span hmem
  rw [checkExpr_eq, checkExpr_eq, hresolve]

end

/-! ## One scope in place of many -/

namespace Env

/-- Declares variables one after the other. A name that is taken stays as it is. -/
def enterAll (env : Env) (bindings : List Binding) : Env :=
  bindings.foldl enter env

/-- Gives words to types, the last pair first. -/
def declareTypes (env : Env) (aliases : List (String × Ty)) : Env :=
  aliases.foldr (fun q env => env.declareType q.1 q.2) env

/-- The environment with one scope that has what can be seen in this one. -/
def merged (env : Env) : Env :=
  (empty.enterAll (env.scopes.flatMap Scope.bindings)).declareTypes
    (env.scopes.flatMap Scope.aliases)

theorem inner_enterAll_binding? (env : Env) (bindings : List Binding) (name : String) :
    (env.enterAll bindings).inner.binding? name =
      (env.inner.binding? name).or (bindings.find? (·.name == name)) := by
  induction bindings generalizing env with
  | nil => exact (Option.or_none ..).symm
  | cons b rest ih =>
      have hcons : env.enterAll (b :: rest) = (env.enter b).enterAll rest := rfl
      rw [hcons, ih, inner_enter_binding?, Option.or_assoc]
      by_cases hname : b.name = name
      · simp [hname]
      · simp [hname]

theorem outer_enterAll (env : Env) (bindings : List Binding) :
    (env.enterAll bindings).outer = env.outer := by
  induction bindings generalizing env with
  | nil => rfl
  | cons b rest ih =>
      have hcons : env.enterAll (b :: rest) = (env.enter b).enterAll rest := rfl
      rw [hcons, ih, outer_enter]

theorem word?_enterAll (env : Env) (bindings : List Binding) (word : String) :
    (env.enterAll bindings).word? word = env.word? word := by
  induction bindings generalizing env with
  | nil => rfl
  | cons b rest ih =>
      have hcons : env.enterAll (b :: rest) = (env.enter b).enterAll rest := rfl
      rw [hcons, ih, enter]
      split <;> rfl

theorem word?_declareTypes (env : Env) (aliases : List (String × Ty)) (word : String) :
    (env.declareTypes aliases).word? word = (aliases.lookup word).or (env.word? word) := by
  induction aliases with
  | nil => rfl
  | cons q rest ih =>
      have hcons : env.declareTypes (q :: rest) = (env.declareTypes rest).declareType q.1 q.2 := rfl
      rw [hcons, word?_declareType, ih, List.lookup_cons]
      by_cases hword : word = q.1
      · simp [hword]
      · have hother : (word == q.1) = false := beq_eq_false_iff_ne.mpr hword
        simp [hword, hother]

theorem binding?_declareTypes (env : Env) (aliases : List (String × Ty)) (name : String) :
    (env.declareTypes aliases).binding? name = env.binding? name := by
  induction aliases with
  | nil => rfl
  | cons q rest ih => exact ih

theorem binding?_merged (env : Env) (name : String) :
    env.merged.binding? name = env.binding? name := by
  have hall : (env.scopes.flatMap Scope.bindings).find? (·.name == name) = env.binding? name :=
    List.find?_flatMap
  rw [merged, binding?_declareTypes, binding?_eq_or, inner_enterAll_binding?, outer_enterAll, hall]
  exact Option.or_none ..

theorem lookup_flatMap_aliases (scopes : List Scope) (word : String) :
    (scopes.flatMap Scope.aliases).lookup word = scopes.findSome? (·.alias? word) := by
  induction scopes with
  | nil => rfl
  | cons s rest ih =>
      rw [List.flatMap_cons, List.lookup_append, ih, List.findSome?_cons, Scope.alias?]
      cases s.aliases.lookup word <;> rfl

theorem type?_merged (env : Env) (text : String) : env.merged.type? text = env.type? text := by
  have hword : ∀ word, env.merged.word? word = env.word? word := by
    intro word
    rw [merged, word?_declareTypes, word?_enterAll, lookup_flatMap_aliases]
    unfold word?
    cases env.scopes.findSome? (·.alias? word) <;> rfl
  rw [type?, type?, hword]

end Env

/-- **Only the names in a block matter.** Let two environments give the same answer for each
variable that a block refers to, and for each type name that stands in it. Then the block
gets the same tree in both, hence the same types and meanings, and the same diagnostics in
the same order, and it leaves each of them as it was. For an expression its variables are
enough. So all scopes may be replaced by one with the visible names in it, and variables
and aliases may be declared whose names do not stand in the block. -/
theorem only_mentioned_names_matter (options : Options) (env env' : Env) (log : Log) :
    (∀ body : List SourceStmt,
      (∀ name target span, Expr.ref name target span ∈ Stmt.nodesAll body →
        env.binding? name = env'.binding? name) →
      (∀ d ∈ Stmt.declarationsAll body, ∀ r, d.type? = some r →
        env.type? r.name = env'.type? r.name) →
      checkBlock options env' log body =
        { checkBlock options env log body with env := env' }) ∧
    (∀ e : SourceExpr,
      (∀ name target span, Expr.ref name target span ∈ e.nodes →
        env.binding? name = env'.binding? name) →
      checkExpr options env' e = { checkExpr options env e with env := env' }) ∧
    (∀ body : List SourceStmt, checkBlock options env.merged log body =
      { checkBlock options env log body with env := env.merged }) ∧
    (∀ (body : List SourceStmt) (binding : Binding) (position : Position),
      env.declare binding position = .ok env' →
      (∀ target span, Expr.ref binding.name target span ∉ Stmt.nodesAll body) →
      checkBlock options env' log body =
        { checkBlock options env log body with env := env' }) ∧
    ∀ (body : List SourceStmt) (word : String) (t : Ty),
      (∀ d ∈ Stmt.declarationsAll body, ∀ r, d.type? = some r →
        (TypeName.parse r.name).element ≠ word) →
      checkBlock options (env.declareType word t) log body =
        { checkBlock options env log body with env := env.declareType word t } := by
  have hblock : ∀ (other : Env) (body : List SourceStmt),
      (∀ name target span, Expr.ref name target span ∈ Stmt.nodesAll body →
        env.binding? name = other.binding? name) →
      (∀ d ∈ Stmt.declarationsAll body, ∀ r, d.type? = some r →
        env.type? r.name = other.type? r.name) →
      checkBlock options other log body =
        { checkBlock options env log body with env := other } := by
    intro other body hvariables htypes
    refine checkBlock_congr options log ⟨fun _ => False.elim, ?_, ?_⟩
    · rintro name ⟨target, span, hmem⟩
      exact hvariables name target span hmem
    · rintro text ⟨d, hd, r, hr, rfl⟩
      exact htypes d hd r hr
  refine ⟨hblock env', fun e => checkExpr_congr options, ?_, ?_, ?_⟩
  · intro body
    exact hblock _ body (fun name _ _ _ => (env.binding?_merged name).symm)
      (fun _ _ r _ => (env.type?_merged r.name).symm)
  · intro body binding position hdeclare hfree
    refine hblock env' body ?_ (fun _ _ r _ => (Env.type?_of_declare hdeclare r.name).symm)
    intro name target span hmem
    have hother : name ≠ binding.name := by
      rintro rfl
      exact hfree target span hmem
    rw [Env.binding?_of_declare hdeclare, if_neg hother]
  · intro body word t hfree
    refine hblock _ body (fun name _ _ _ => (env.binding?_declareType word t name).symm) ?_
    intro d hd r hr
    rw [Env.type?_declareType, if_neg (hfree d hd r hr)]

/-- Rows that are read and written in a block inside. -/
def rowBlock : List SourceStmt :=
  let byte (n : Nat) : Span := .within "main" n (n + 1)
  let cell : SourceExpr := .index (.ref "rows" () (byte 2)) (.ref "k" () (byte 3)) (byte 2)
  [.declaration ⟨"rows", some ⟨"[]row", ()⟩, some (.array [.ref "k" () (byte 1)] (byte 0)), byte 0⟩,
    .block [.declaration ⟨"k", none, some cell, byte 4⟩,
      .expression (.assign (.ref "k" () (byte 5)) (.number (byte 6)) (byte 5))] (byte 4)]

/-- A single scope, and three of them with other names in them, two of which are hidden.
Then a variable and an alias `z`, which the block does not have. -/
theorem only_mentioned_names_matter_hidden :
    let k : Binding := ⟨"k", .number, false⟩
    let z : Binding := ⟨"z", .any, false⟩
    let env : Env := (Env.empty.enter k).declareType "row" (.array .string)
    let outside : Env := (Env.empty.enter ⟨"k", .boolean, true⟩).declareType "row" .character
    let env' : Env := ((outside.push.declareType "row" (.array .string)).enter k).push.enter z
    (∀ name target span, Expr.ref name target span ∈ Stmt.nodesAll rowBlock →
      env.binding? name = env'.binding? name) ∧
    (∀ d ∈ Stmt.declarationsAll rowBlock, ∀ r, d.type? = some r →
      env.type? r.name = env'.type? r.name) ∧
    (checkBlock {} env' #[] rowBlock).log.toList =
      [⟨.mismatch .initialization (.array (.array .string)) (.array .number), 0, "main"⟩,
        ⟨.mismatch .assignment (.array .string) .number, 6, "main"⟩] ∧
    env.declare z .nowhere = .ok (env.enter z) ∧
    (∀ target span, Expr.ref z.name target span ∉ Stmt.nodesAll rowBlock) ∧
    (∀ d ∈ Stmt.declarationsAll rowBlock, ∀ r, d.type? = some r →
      (TypeName.parse r.name).element ≠ "z") ∧
    (checkBlock {} (env.enter z) #[] rowBlock).log = (checkBlock {} env #[] rowBlock).log ∧
    (checkBlock {} (env.declareType "z" .any) #[] rowBlock).log =
      (checkBlock {} env #[] rowBlock).log := by
  intro k z env outside env'
  have hnames : ∀ name target span, Expr.ref name target span ∈ Stmt.nodesAll rowBlock →
      name = "rows" ∨ name = "k" := by
    intro name target span hmem
    simp only [rowBlock, Stmt.nodesAll, Stmt.nodes, Expr.nodes, Expr.nodesAll, Option.elim_some,
      List.append_nil, List.nil_append, List.cons_append, List.mem_cons, List.not_mem_nil,
      Expr.ref.injEq, reduceCtorEq, or_false, false_or] at hmem
    rcases hmem with ⟨rfl, -⟩ | ⟨rfl, -⟩ | ⟨rfl, -⟩ | ⟨rfl, -⟩ <;> simp
  have hwritten : ∀ d ∈ Stmt.declarationsAll rowBlock, ∀ r, d.type? = some r →
      r.name = "[]row" := by
    intro d hd r hr
    simp only [rowBlock, Stmt.declarationsAll, Stmt.declarations, List.append_nil,
      List.cons_append, List.nil_append, List.mem_cons, List.not_mem_nil, or_false] at hd
    rcases hd with rfl | rfl
    · obtain rfl := Option.some.inj hr
      rfl
    · cases hr
  have hvariables : ∀ name target span, Expr.ref name target span ∈ Stmt.nodesAll rowBlock →
      env.binding? name = env'.binding? name := by
    intro name target span hmem
    rcases hnames name target span hmem with rfl | rfl <;> rfl
  have htypes : ∀ d ∈ Stmt.declarationsAll rowBlock, ∀ r, d.type? = some r →
      env.type? r.name = env'.type? r.name := by
    intro d hd r hr
    rw [hwritten d hd r hr]
    decide +kernel
  have hdeclare : env.declare z .nowhere = .ok (env.enter z) := rfl
  have hvariable : ∀ target span, Expr.ref z.name target span ∉ Stmt.nodesAll rowBlock := by
    intro target span hmem
    rcases hnames _ target span hmem with hz | hz <;> exact absurd hz (by decide)
  have halias : ∀ d ∈ Stmt.declarationsAll rowBlock, ∀ r, d.type? = some r →
      (TypeName.parse r.name).element ≠ "z" := by
    intro d hd r hr
    rw [hwritten d hd r hr]
    decide +kernel
  obtain ⟨hsame, -⟩ := only_mentioned_names_matter {} env env' #[]
  obtain ⟨-, -, -, hwith, hgiven⟩ := only_mentioned_names_matter {} env (env.enter z) #[]
  refine ⟨hvariables, htypes, ?_, hdeclare, hvariable, halias, ?_, ?_⟩
  · rw [hsame rowBlock hvariables htypes]
    decide +kernel
  · rw [hwith rowBlock z .nowhere hdeclare hvariable]
  · rw [hgiven rowBlock "z" .any halias]

end Gradual
