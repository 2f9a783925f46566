import Gradual.Proofs.Stmt.Sites

/-!
# Type systems for programs

Declarations, blocks and scopes obey the same rules whatever the types are. A
`TypeSystem` says which expressions have which types and when two types agree.
`Declares`, `Accepts` and `AcceptsAll` extend it to declarations, statements
and blocks: names are declared before they are used, and once in a scope.

A checker that `Follows` a type system on expressions follows it on programs
(`Follows.acceptsAll_iff`): it reports nothing exactly if the program is
accepted, and leaves the environment that the rules give.
-/

namespace Gradual

/-- The types of expressions, and when one may stand for another. -/
structure TypeSystem where
  /-- The types of the system. -/
  Carrier : Type
  /-- The types of the system are types of the language. -/
  toTy : Carrier → Ty
  HasType : Env → SourceExpr → Carrier → Prop
  Agrees : Carrier → Carrier → Prop

namespace TypeSystem

/-! ## Rules for statements -/

/-- The declaration gives its variable the type. -/
inductive Declares (S : TypeSystem) (env : Env) : SourceDeclaration → S.Carrier → Prop where
  | written {name text : String} {t : S.Carrier} (span : Span) :
      env.type? text = some (S.toTy t) → Declares S env ⟨name, some ⟨text, ()⟩, none, span⟩ t
  | inferred {name : String} {e : SourceExpr} {t : S.Carrier} (span : Span) :
      S.HasType env e t → Declares S env ⟨name, none, some e, span⟩ t
  | both {name text : String} {e : SourceExpr} {t u : S.Carrier} (span : Span) :
      env.type? text = some (S.toTy t) → S.HasType env e u → S.Agrees u t →
        Declares S env ⟨name, some ⟨text, ()⟩, some e, span⟩ t

mutual

/-- The statement is well typed, and the last environment is in force behind
it. -/
inductive Accepts (S : TypeSystem) : Env → SourceStmt → Env → Prop where
  | declaration {env : Env} {d : SourceDeclaration} {t : S.Carrier} :
      S.Declares env d t → env.inner.binding? d.name = none →
        Accepts S env (.declaration d)
          { env with inner := env.inner.bind ⟨d.name, S.toTy t, d.isConstant⟩ }
  | expression {env : Env} {e : SourceExpr} {t : S.Carrier} :
      S.HasType env e t → Accepts S env (.expression e) env
  | block {env env' : Env} {body : List SourceStmt} (span : Span) :
      AcceptsAll S env.push body env' → Accepts S env (.block body span) env

/-- The statements are well typed, each in the environment that the statement
in front of it leaves. -/
inductive AcceptsAll (S : TypeSystem) : Env → List SourceStmt → Env → Prop where
  | nil (env : Env) : AcceptsAll S env [] env
  | cons {env env' env'' : Env} {s : SourceStmt} {rest : List SourceStmt} :
      Accepts S env s env' → AcceptsAll S env' rest env'' →
        AcceptsAll S env (s :: rest) env''

end

/-! ## Following a type system -/

/-- The checker agrees with the type system on expressions, as long as the
environment is `Good` and the nodes of the resolved expressions are `Fine`. -/
structure Follows (S : TypeSystem) (options : Options) (Good : Env → Prop)
    (Fine : ResolvedExpr → Prop) : Prop where
  hasType_iff : ∀ {env : Env} {e : SourceExpr} {t : S.Carrier}, Good env →
    (∀ n ∈ (e.resolve env).nodes, Fine n) → (S.HasType env e t ↔
      (e.resolve env).violations options = [] ∧ (e.resolve env).ty = S.toTy t)
  ty_covered : ∀ {env : Env} {e : SourceExpr}, Good env →
    (∀ n ∈ (e.resolve env).nodes, Fine n) → (e.resolve env).violations options = [] →
      ∃ t, (e.resolve env).ty = S.toTy t
  type?_covered : ∀ {env : Env} {text : String} {t : Ty}, Good env →
    env.type? text = some t → ∃ u, t = S.toTy u
  agrees_iff : ∀ {t u : S.Carrier},
    S.Agrees t u ↔ (S.toTy t).assignable (S.toTy u) = true
  good_push : ∀ env : Env, Good env → Good env.push
  good_bind : ∀ {env : Env}, Good env → ∀ (name : String) (t : S.Carrier) (constant : Bool),
    Good { env with inner := env.inner.bind ⟨name, S.toTy t, constant⟩ }

namespace Follows

variable {S : TypeSystem} {options : Options} {Good : Env → Prop} {Fine : ResolvedExpr → Prop}

/-- A declaration that nothing is wrong with has a type of the system. -/
theorem declares_covered (F : S.Follows options Good Fine) {env : Env} (henv : Good env)
    (d : SourceDeclaration) (hfine : ∀ n ∈ (Stmt.declaration (d.resolve env)).nodes, Fine n)
    (h : (d.resolve env).violations options = []) : ∃ t, (d.resolve env).ty = S.toTy t := by
  refine Declaration.ty_mem (F.type?_covered henv) ?_ h
  intro e he hviolations
  refine F.ty_covered henv ?_ hviolations
  simpa [Stmt.nodes, Declaration.resolve, he] using hfine

theorem declares_iff (F : S.Follows options Good Fine) {env : Env} (henv : Good env)
    (d : SourceDeclaration) (hfine : ∀ n ∈ (Stmt.declaration (d.resolve env)).nodes, Fine n)
    (t : S.Carrier) : S.Declares env d t ↔
      (d.resolve env).violations options = [] ∧ (d.resolve env).ty = S.toTy t := by
  constructor
  · intro h
    cases h with
    | written span htype =>
        refine ⟨Declaration.violations_written_eq_nil.mpr ?_, TypeRef.ty_resolve htype⟩
        rw [htype]
        rfl
    | inferred span he =>
        obtain ⟨hinit, hty⟩ := (F.hasType_iff henv hfine).mp he
        exact ⟨Declaration.violations_inferred_eq_nil.mpr hinit, hty⟩
    | both span htype he hagrees =>
        obtain ⟨hinit, hty⟩ := (F.hasType_iff henv hfine).mp he
        refine ⟨Declaration.violations_both_eq_nil.mpr ⟨?_, hinit, ?_⟩, TypeRef.ty_resolve htype⟩
        · rw [htype]
          rfl
        · rw [hty, TypeRef.ty_resolve htype]
          exact F.agrees_iff.mp hagrees
  · rintro ⟨h, hty⟩
    -- A type name that stands for a type stands for the declared one.
    have hwritten : ∀ {r : TypeRef Unit}, (env.type? r.name).isSome = true →
        (r.resolve env).ty = S.toTy t → env.type? r.name = some (S.toTy t) := by
      intro r hknown hr
      obtain ⟨u, hu⟩ := Option.isSome_iff_exists.mp hknown
      rw [hu, ← hr]
      exact congrArg some (TypeRef.ty_resolve hu).symm
    obtain ⟨name, type?, init?, span⟩ := d
    cases type? with
    | some r =>
        cases init? with
        | none => exact .written span (hwritten (Declaration.violations_written_eq_nil.mp h) hty)
        | some e =>
            obtain ⟨hknown, hinit, hagrees⟩ := Declaration.violations_both_eq_nil.mp h
            obtain ⟨u, hu⟩ := F.ty_covered henv hfine hinit
            have hr : (r.resolve env).ty = S.toTy t := hty
            rw [hu, hr] at hagrees
            exact .both span (hwritten hknown hr)
              ((F.hasType_iff henv hfine).mpr ⟨hinit, hu⟩) (F.agrees_iff.mpr hagrees)
    | none =>
        cases init? with
        | none => exact absurd h Declaration.violations_untyped_ne_nil
        | some e =>
            have hinit := Declaration.violations_inferred_eq_nil.mp h
            exact .inferred span ((F.hasType_iff henv hfine).mpr ⟨hinit, hty⟩)

/-- What an accepted statement leaves is what the checker leaves. -/
theorem leave_declaration (F : S.Follows options Good Fine) {env : Env} (henv : Good env)
    (d : SourceDeclaration) (hfine : ∀ n ∈ (Stmt.declaration (d.resolve env)).nodes, Fine n)
    (hnew : env.inner.binding? d.name = none) {t : S.Carrier} (h : S.Declares env d t) :
    (Stmt.declaration (d.resolve env)).leave env =
      { env with inner := env.inner.bind ⟨d.name, S.toTy t, d.isConstant⟩ } := by
  obtain ⟨-, hty⟩ := (F.declares_iff henv d hfine t).mp h
  rw [← hty]
  exact Env.enter_of_new hnew

theorem good_leave (F : S.Follows options Good Fine) {env : Env} (henv : Good env)
    (s : SourceStmt) (hfine : ∀ n ∈ (s.resolve env).nodes, Fine n)
    (h : (s.resolve env).violations options env = []) : Good ((s.resolve env).leave env) := by
  cases s with
  | expression | block => exact henv
  | declaration d =>
      obtain ⟨hd, hnew⟩ := Stmt.violations_declaration_eq_nil.mp h
      obtain ⟨t, ht⟩ := F.declares_covered henv d hfine hd
      have hdeclares := (F.declares_iff henv d hfine t).mpr ⟨hd, ht⟩
      rw [Stmt.resolve, F.leave_declaration henv d hfine hnew hdeclares]
      exact F.good_bind henv d.name t d.isConstant

mutual

/-- The checker accepts the statements that the type system accepts. -/
theorem accepts_iff (F : S.Follows options Good Fine) {env env' : Env} (henv : Good env) :
    ∀ s : SourceStmt, (∀ n ∈ (s.resolve env).nodes, Fine n) → (S.Accepts env s env' ↔
      (s.resolve env).violations options env = [] ∧ (s.resolve env).leave env = env')
  | .declaration d, hfine => by
      constructor
      · intro h
        cases h with
        | declaration hd hnew =>
            refine ⟨?_, F.leave_declaration henv d hfine hnew hd⟩
            obtain ⟨hviolations, -⟩ := (F.declares_iff henv d hfine _).mp hd
            exact Stmt.violations_declaration_eq_nil.mpr ⟨hviolations, hnew⟩
      · rintro ⟨h, rfl⟩
        obtain ⟨hd, hnew⟩ := Stmt.violations_declaration_eq_nil.mp h
        obtain ⟨t, ht⟩ := F.declares_covered henv d hfine hd
        have hdeclares := (F.declares_iff henv d hfine t).mpr ⟨hd, ht⟩
        rw [Stmt.resolve, F.leave_declaration henv d hfine hnew hdeclares]
        exact .declaration hdeclares hnew
  | .expression e, hfine => by
      constructor
      · intro h
        cases h with
        | expression he => exact ⟨((F.hasType_iff henv hfine).mp he).1, rfl⟩
      · rintro ⟨h, rfl⟩
        obtain ⟨t, ht⟩ := F.ty_covered henv hfine h
        exact .expression ((F.hasType_iff henv hfine).mpr ⟨h, ht⟩)
  | .block body span, hfine => by
      have hpush := F.good_push env henv
      constructor
      · intro h
        cases h with
        | block _ hall => exact ⟨((acceptsAll_iff F hpush body hfine).mp hall).1, rfl⟩
      · rintro ⟨h, rfl⟩
        exact .block span ((acceptsAll_iff F hpush body hfine).mpr ⟨h, rfl⟩)

theorem acceptsAll_iff (F : S.Follows options Good Fine) {env env' : Env}
    (henv : Good env) : ∀ ss : List SourceStmt,
    (∀ n ∈ Stmt.nodesAll (Stmt.resolveAll env ss), Fine n) → (S.AcceptsAll env ss env' ↔
      Stmt.violationsAll options env (Stmt.resolveAll env ss) = [] ∧
        Stmt.leaveAll env (Stmt.resolveAll env ss) = env')
  | [], _ => by
      constructor
      · intro h
        cases h
        exact ⟨rfl, rfl⟩
      · rintro ⟨-, rfl⟩
        exact .nil env
  | s :: rest, hfine => by
      obtain ⟨hs, hrest⟩ := List.forall_mem_append.mp hfine
      rw [Stmt.resolveAll, Stmt.violationsAll, Stmt.leaveAll_cons, List.append_eq_nil_iff]
      constructor
      · intro h
        cases h with
        | cons hfirst hall =>
            obtain ⟨hviolations, rfl⟩ := (accepts_iff F henv s hs).mp hfirst
            have hgood := F.good_leave henv s hs hviolations
            obtain ⟨hothers, hleave⟩ := (acceptsAll_iff F hgood rest hrest).mp hall
            exact ⟨⟨hviolations, hothers⟩, hleave⟩
      · rintro ⟨⟨hviolations, hothers⟩, hleave⟩
        have hgood := F.good_leave henv s hs hviolations
        exact .cons ((accepts_iff F henv s hs).mpr ⟨hviolations, rfl⟩)
          ((acceptsAll_iff F hgood rest hrest).mpr ⟨hothers, hleave⟩)

end

/-! ### Every node has its type -/

theorem sites_accepted (F : S.Follows options Good Fine) {env : Env} (henv : Good env)
    (ss : List SourceStmt) (hfine : ∀ n ∈ Stmt.nodesAll (Stmt.resolveAll env ss), Fine n)
    (h : Stmt.violationsAll options env (Stmt.resolveAll env ss) = []) :
    ∀ p ∈ Stmt.sitesAll env (Stmt.resolveAll env ss),
      Stmt.AcceptedSite options Good Fine p := by
  refine Stmt.sitesAll_accepted F.good_push ?_ henv ss hfine h
  intro p hp
  cases hp with
  | expression hgood => exact hgood
  | @declaration env d hgood hq hd hnew =>
      exact F.good_leave hgood (.declaration d) hq
        (Stmt.violations_declaration_eq_nil.mpr ⟨hd, hnew⟩)

/-- In an accepted program every node has the type that is read off it, and no
other, in the environment that it stands in. -/
theorem scopedNodes_typed (F : S.Follows options Good Fine) {env : Env} (henv : Good env)
    (ss : List SourceStmt) (hfine : ∀ n ∈ Stmt.nodesAll (Stmt.resolveAll env ss), Fine n)
    (h : Stmt.violationsAll options env (Stmt.resolveAll env ss) = []) :
    ∀ p ∈ Stmt.scopedNodes env (Stmt.resolveAll env ss),
      (∃ t, p.2.ty = S.toTy t) ∧ ∀ t, S.HasType p.1 p.2.erase t ↔ p.2.ty = S.toTy t := by
  intro p hp
  obtain ⟨site, hsite, hp⟩ := List.mem_flatMap.mp hp
  obtain ⟨n, hn, rfl⟩ := List.mem_map.mp hp
  obtain ⟨hgood, e, rfl, hq, hviolations⟩ := (F.sites_accepted henv ss hfine h site hsite).node hn
  refine ⟨F.ty_covered hgood hq hviolations, ?_⟩
  intro t
  rw [Expr.erase_resolve, F.hasType_iff hgood hq]
  exact and_iff_right hviolations

/-- In an accepted program every declaration gives its variable the type that is
read off it, and no other, in the environment in front of it. -/
theorem scopedDeclarations_typed (F : S.Follows options Good Fine) {env : Env}
    (henv : Good env) (ss : List SourceStmt)
    (hfine : ∀ n ∈ Stmt.nodesAll (Stmt.resolveAll env ss), Fine n)
    (h : Stmt.violationsAll options env (Stmt.resolveAll env ss) = []) :
    ∀ p ∈ Stmt.scopedDeclarations env (Stmt.resolveAll env ss),
      (∃ t, p.2.ty = S.toTy t) ∧ ∀ t, S.Declares p.1 p.2.erase t ↔ p.2.ty = S.toTy t := by
  intro p hp
  obtain ⟨site, hsite, hp⟩ := List.mem_flatMap.mp hp
  obtain ⟨d, hd, rfl⟩ := List.mem_map.mp hp
  obtain ⟨hgood, d, rfl, hq, hviolations⟩ :=
    (F.sites_accepted henv ss hfine h site hsite).declared hd
  refine ⟨F.declares_covered hgood d hq hviolations, ?_⟩
  intro t
  rw [Declaration.erase_resolve, F.declares_iff hgood d hq]
  exact and_iff_right hviolations

end Follows

end TypeSystem

end Gradual
