import Gradual.Proofs.Stmt.Sites

/-!
# Where wildcards come from

A lookup that fails gives a wildcard and a diagnostic. A program about which
nothing is reported can still have wildcards: the literal `[]` has the type
`[]<arbitrary>`, and what is read out of it is not known.

That is the only way. `Keeps K Q` lists what a set of types has to be closed
under, so that all types in an accepted program are in it
(`Stmt.typesAll_mem`); `Q` is what is asked of the nodes. The types that are
no wildcard are closed under all of it but indexing, and the types without a
wildcard at any depth under all of it but the empty literal.
-/

namespace Gradual

namespace Ty

/-- The wildcard is nowhere in the type. -/
def isPlain : Ty → Bool
  | any => false
  | array t => t.isPlain
  | number | character | string | boolean => true

theorem isPlain_of_isPrimitive {t : Ty} (h : t.isPrimitive = true) : t.isPlain = true := by
  cases t with
  | number | character | string | boolean => rfl
  | any | array => cases h

theorem isPrimitive_of_builtin? {word : String} {t : Ty} (h : builtin? word = some t) :
    t.isPrimitive = true := by
  have hmem := List.mem_of_find?_eq_some h
  simp only [List.mem_cons, List.not_mem_nil, or_false] at hmem
  rcases hmem with rfl | rfl | rfl | rfl <;> rfl

end Ty

/-! ## Closed sets of types -/

/-- The types that come up belong to `K` one after the other, as long as `Q` is
true of the nodes that they come up at. -/
structure Keeps (K : Ty → Prop) (Q : ResolvedExpr → Prop) : Prop where
  primitive : ∀ {t : Ty}, t.isPrimitive = true → K t
  array : ∀ {t : Ty}, K t → K (.array t)
  emptyArray : ∀ {span : Span}, Q (.array [] span) → K (.array .any)
  element : ∀ {base subscript : ResolvedExpr} {span : Span} {t : Ty},
    Q (.index base subscript span) → base.ty = .array t → K (.array t) → K t
  ne_any : ∀ {t : Ty}, K t → t ≠ .any

namespace Keeps

variable {K : Ty → Prop} {Q : ResolvedExpr → Prop}

theorem nest (hk : Keeps K Q) {t : Ty} (ht : K t) (n : Nat) : K (Ty.nest n t) := by
  induction n with
  | zero => exact ht
  | succ n ih => exact hk.array ih

end Keeps

/-! ## Environments -/

section

variable {K : Ty → Prop} {Q : ResolvedExpr → Prop}

namespace Scope

/-- Every variable of the scope has a type in `K`, and every word that the scope
gives a meaning stands for one. -/
def Holds (K : Ty → Prop) (s : Scope) : Prop :=
  (∀ name binding, s.binding? name = some binding → K binding.ty) ∧
    ∀ word t, s.alias? word = some t → K t

theorem holds_empty : Holds K {} :=
  ⟨nofun, nofun⟩

theorem Holds.bind {s : Scope} (hs : s.Holds K) {binding : Binding} (hb : K binding.ty) :
    (s.bind binding).Holds K := by
  refine ⟨?_, hs.2⟩
  intro name found hfound
  rw [binding?_bind] at hfound
  by_cases hname : name = binding.name
  · rw [if_pos hname] at hfound
    obtain rfl := Option.some.inj hfound
    exact hb
  · rw [if_neg hname] at hfound
    exact hs.1 name found hfound

theorem Holds.setAlias {s : Scope} (hs : s.Holds K) (word : String) {t : Ty} (ht : K t) :
    (s.setAlias word t).Holds K := by
  refine ⟨hs.1, ?_⟩
  intro w found hfound
  rw [alias?_setAlias] at hfound
  by_cases hw : w = word
  · rw [if_pos hw] at hfound
    obtain rfl := Option.some.inj hfound
    exact ht
  · rw [if_neg hw] at hfound
    exact hs.2 w found hfound

end Scope

namespace Env

/-- `K` holds of the types in every scope. -/
def Holds (K : Ty → Prop) (env : Env) : Prop :=
  ∀ s ∈ env.scopes, s.Holds K

theorem holds_empty : Env.empty.Holds K := by
  intro s hs
  obtain rfl := List.mem_singleton.mp hs
  exact Scope.holds_empty

variable {env : Env}

theorem Holds.inner (henv : env.Holds K) : env.inner.Holds K :=
  henv env.inner (List.mem_cons_self ..)

theorem Holds.push (henv : env.Holds K) : env.push.Holds K := by
  intro s hs
  rcases List.mem_cons.mp hs with rfl | hs
  · exact Scope.holds_empty
  · exact henv s hs

/-- Another innermost scope. -/
theorem Holds.replace (henv : env.Holds K) {s : Scope} (hs : s.Holds K) :
    Holds K { env with inner := s } := by
  intro s' hs'
  rcases List.mem_cons.mp hs' with rfl | hs'
  · exact hs
  · exact henv s' (List.mem_cons_of_mem _ hs')

theorem Holds.bind (henv : env.Holds K) {binding : Binding} (hb : K binding.ty) :
    Holds K { env with inner := env.inner.bind binding } :=
  henv.replace (henv.inner.bind hb)

theorem Holds.declareType (henv : env.Holds K) (word : String) {t : Ty} (ht : K t) :
    (env.declareType word t).Holds K :=
  henv.replace (henv.inner.setAlias word ht)

theorem Holds.binding? (henv : env.Holds K) {name : String} {binding : Binding}
    (h : env.binding? name = some binding) : K binding.ty := by
  obtain ⟨s, hs, hfound⟩ := List.exists_of_findSome?_eq_some h
  exact (henv s hs).1 name binding hfound

theorem Holds.word? (hk : Keeps K Q) (henv : env.Holds K) {word : String} {t : Ty}
    (h : env.word? word = some t) : K t := by
  rw [Env.word?, Option.orElse_eq_orElse, Option.orElse_eq_or, Option.or_eq_some_iff] at h
  rcases h with h | ⟨-, h⟩
  · obtain ⟨s, hs, hfound⟩ := List.exists_of_findSome?_eq_some h
    exact (henv s hs).2 word t hfound
  · exact hk.primitive (Ty.isPrimitive_of_builtin? h)

/-- A type name stands for a word's meaning, or arrays of it. -/
theorem Holds.type? (hk : Keeps K Q) (henv : env.Holds K) {text : String} {t : Ty}
    (h : env.type? text = some t) : K t := by
  obtain ⟨u, hu, rfl⟩ := Option.map_eq_some_iff.mp h
  exact hk.nest (henv.word? hk hu) _

/-- No scope has a variable or a type name with a wildcard in its type. -/
abbrev Plain (env : Env) : Prop :=
  env.Holds fun t => t.isPlain = true

end Env

end

/-! ## Expressions -/

theorem Family.isPrimitive_result (f : Family) : f.result.isPrimitive = true := by
  cases f <;> rfl

theorem UnaryOp.isPrimitive_result (op : UnaryOp) : op.result.isPrimitive = true := by
  cases op <;> rfl

namespace Expr

variable {K : Ty → Prop} {Q : ResolvedExpr → Prop} {options : Options} {env : Env}

/-- What is found at an index of a type in `K`. -/
theorem Passes.item_mem (hk : Keeps K Q) {base subscript : ResolvedExpr} {span : Span}
    (h : (index base subscript span).Passes options Q) (hbase : K base.ty) :
    K base.ty.item := by
  have hsequence : Requirement.sequence.admits base.ty = true := by
    have hviolations := h.2
    rw [violations_index, blame] at hviolations
    simp only [List.append_eq_nil_iff] at hviolations
    exact complain_eq_nil.mp hviolations.2.2.1
  have hknown := hk.ne_any hbase
  have helement := fun t => hk.element (t := t) h.self
  generalize base.ty = t at hsequence hknown helement hbase ⊢
  -- Arrays, strings and wildcards can be indexed, and `K` has no wildcard.
  cases t with
  | array t => exact helement t rfl hbase
  | string => exact hk.primitive rfl
  | any => exact absurd rfl hknown
  | number | character | boolean => cases hsequence

/-- The type of an accepted expression is in `K`. -/
theorem Passes.ty_mem (hk : Keeps K Q) (henv : env.Holds K) : ∀ e : SourceExpr,
    (e.resolve env).Passes options Q → K (e.resolve env).ty
  | .number _, _ | .character _ _, _ | .string _ _, _ | .boolean _ _, _ => hk.primitive rfl
  | .array [] span, h => hk.emptyArray h.self
  | .array (first :: rest) span, h => by
      have hfirst : first.resolve env ∈ (resolve env (.array (first :: rest) span)).nodes := by
        simp [resolve, resolveAll, nodes, nodesAll, self_mem_nodes]
      exact hk.array (Passes.ty_mem hk henv first (h.of_mem hfirst))
  | .ref name _ span, h => by
      obtain ⟨binding, hbinding⟩ := exists_binding h.2
      simp only [resolve, ty, hbinding, Binding.ofTarget, Option.getD_some]
      exact henv.binding? hbinding
  | .index base subscript span, h => by
      have hbase : base.resolve env ∈ (resolve env (.index base subscript span)).nodes := by
        simp [resolve, nodes, self_mem_nodes]
      exact h.item_mem hk (Passes.ty_mem hk henv base (h.of_mem hbase))
  | .binary op _ _ _, _ => hk.primitive op.family.isPrimitive_result
  | .unary op _ _, _ => hk.primitive op.isPrimitive_result
  | .assign target value span, h => by
      have htarget : target.resolve env ∈ (resolve env (.assign target value span)).nodes := by
        simp [resolve, nodes, self_mem_nodes]
      exact Passes.ty_mem hk henv target (h.of_mem htarget)

end Expr

/-! ## Programs -/

namespace Stmt

variable {K : Ty → Prop} {Q : ResolvedExpr → Prop} {options : Options} {env : Env}

/-- The types of all nodes and of all declared variables. -/
def typesAll (ss : List ResolvedStmt) : List Ty :=
  (nodesAll ss).map Expr.ty ++ (declarationsAll ss).map Declaration.ty

theorem declaration_ty_mem (hk : Keeps K Q) (henv : env.Holds K) {d : SourceDeclaration}
    (hq : ∀ n ∈ (declaration (d.resolve env)).nodes, Q n)
    (h : (d.resolve env).violations options = []) : K (d.resolve env).ty := by
  refine Declaration.ty_mem (henv.type? hk) ?_ h
  intro e he hviolations
  refine Expr.Passes.ty_mem hk henv e ⟨?_, hviolations⟩
  simpa [nodes, Declaration.resolve, he] using hq

/-- An accepted declaration binds its name to a type in `K`. -/
theorem holds_leave (hk : Keeps K Q) (p : Env × ResolvedStmt)
    (hp : AcceptedSite options (Env.Holds K) Q p) : (p.2.leave p.1).Holds K := by
  cases hp with
  | expression henv => exact henv
  | @declaration env d henv hq hd hnew =>
      have hty := declaration_ty_mem hk henv hq hd
      have hleave : env.enter (d.resolve env).binding =
          { env with inner := env.inner.bind (d.resolve env).binding } := Env.enter_of_new hnew
      show (env.enter (d.resolve env).binding).Holds K
      rw [hleave]
      exact henv.bind hty

/-- All types in an accepted program are in `K`. -/
theorem typesAll_mem (hk : Keeps K Q) (henv : env.Holds K) (ss : List SourceStmt)
    (hq : ∀ n ∈ nodesAll (resolveAll env ss), Q n)
    (h : violationsAll options env (resolveAll env ss) = []) :
    ∀ t ∈ typesAll (resolveAll env ss), K t := by
  have hpush : ∀ env : Env, env.Holds K → env.push.Holds K := fun _ henv => henv.push
  have hsites := sitesAll_accepted hpush (holds_leave hk) henv ss hq h
  rw [typesAll, ← nodes_sitesAll env, ← declarations_sitesAll env]
  intro t ht
  rcases List.mem_append.mp ht with ht | ht
  · obtain ⟨n, hn, rfl⟩ := List.mem_map.mp ht
    obtain ⟨site, hsite, hn⟩ := List.mem_flatMap.mp hn
    obtain ⟨hgood, e, rfl, he⟩ := (hsites site hsite).node hn
    exact Expr.Passes.ty_mem hk hgood e he
  · obtain ⟨d, hd, rfl⟩ := List.mem_map.mp ht
    obtain ⟨site, hsite, hd⟩ := List.mem_flatMap.mp hd
    obtain ⟨hgood, d, rfl, hnodes, hviolations⟩ := (hsites site hsite).declared hd
    exact declaration_ty_mem hk hgood hnodes hviolations

end Stmt

/-! ## Silent wildcards -/

/-- The node is an index into an array whose elements are not known. -/
def Expr.readsUnknown : ResolvedExpr → Bool
  | index base _ _ => base.ty == .array .any
  | _ => false

/-- The node is the literal `[]`. -/
def Expr.isEmptyArray {ρ : Type} : Expr ρ → Bool
  | array [] _ => true
  | _ => false

theorem Expr.isEmptyArray_erase {ρ : Type} (e : Expr ρ) :
    e.erase.isEmptyArray = e.isEmptyArray := by
  cases e with
  | array elements => cases elements <;> rfl
  | number | character | string | boolean | ref | index | binary | unary | assign => rfl

/-- The source has an empty literal where the resolved tree has one. -/
theorem Expr.forall_isEmptyArray (env : Env) (e : SourceExpr) :
    (∀ n ∈ (e.resolve env).nodes, n.isEmptyArray = false) ↔
      ∀ n ∈ e.nodes, n.isEmptyArray = false := by
  rw [← e.map_erase_nodes_resolve env]
  simp [isEmptyArray_erase]

theorem Stmt.forall_isEmptyArray (env : Env) (ss : List SourceStmt) :
    (∀ n ∈ nodesAll (resolveAll env ss), n.isEmptyArray = false) ↔
      ∀ n ∈ nodesAll ss, n.isEmptyArray = false := by
  rw [← map_erase_nodesAll_resolveAll env ss]
  simp [Expr.isEmptyArray_erase]

theorem keeps_ne_any : Keeps (· ≠ .any) (fun n => n.readsUnknown = false) where
  primitive := by
    rintro t h rfl
    cases h
  array := by
    intro t _ h
    cases h
  emptyArray := by
    intro span _ h
    cases h
  element := by
    rintro base subscript span t h hbase - rfl
    simp [Expr.readsUnknown, hbase] at h
  ne_any := id

theorem keeps_isPlain : Keeps (fun t => t.isPlain = true) (fun n => n.isEmptyArray = false) where
  primitive := Ty.isPlain_of_isPrimitive
  array := id
  emptyArray := by
    intro span h
    cases h
  element := fun _ _ h => h
  ne_any := by
    rintro t h rfl
    cases h

theorem Expr.ty_of_readsUnknown {n : ResolvedExpr} (h : n.readsUnknown = true) : n.ty = .any := by
  cases n with
  | index base subscript span =>
      have hbase : base.ty = .array .any := eq_of_beq h
      rw [ty, hbase]
      rfl
  | number | character | string | boolean | array | ref | binary | unary | assign => cases h

theorem Expr.isPlain_ty_of_isEmptyArray {n : ResolvedExpr} (h : n.isEmptyArray = true) :
    n.ty.isPlain = false := by
  cases n with
  | array elements =>
      cases elements with
      | nil => rfl
      | cons => cases h
  | number | character | string | boolean | ref | index | binary | unary | assign => cases h

namespace Stmt

variable {options : Options} {env : Env} {body : List SourceStmt}

theorem ty_mem_typesAll {ss : List ResolvedStmt} {n : ResolvedExpr} (hn : n ∈ nodesAll ss) :
    n.ty ∈ typesAll ss :=
  List.mem_append_left _ (List.mem_map_of_mem hn)

/-- Without a read of an unknown element, accepted programs have no node and no
variable that is a wildcard. -/
theorem any_notMem_typesAll (henv : env.Holds (· ≠ .any))
    (h : violationsAll options env (resolveAll env body) = [])
    (hreads : ∀ n ∈ nodesAll (resolveAll env body), n.readsUnknown = false) :
    .any ∉ typesAll (resolveAll env body) := by
  intro hany
  exact typesAll_mem keeps_ne_any henv body hreads h .any hany rfl

/-- Without an empty literal, accepted programs have no wildcard at any depth of
a type. -/
theorem isPlain_of_mem_typesAll (henv : env.Plain)
    (h : violationsAll options env (resolveAll env body) = [])
    (hbody : ∀ n ∈ nodesAll body, n.isEmptyArray = false) :
    ∀ t ∈ typesAll (resolveAll env body), t.isPlain = true :=
  typesAll_mem keeps_isPlain henv body ((forall_isEmptyArray env body).mpr hbody) h

end Stmt

/-- **A silent wildcard was read out of an array of unknown elements.** In a
program that nothing is reported about, with its names looked up, some node or
declared variable has the wildcard type exactly if some node reads an element
that is not known; and the wildcard is in some type, at any depth, exactly if the
program has an empty literal. -/
theorem wildcard_iff_readsUnknown (options : Options) (body : List SourceStmt)
    (h : (checkProgram options .empty body).log = #[]) :
    Stmt.eraseAll (checkProgram options .empty body).tree = body ∧
    (.any ∈ Stmt.typesAll (checkProgram options .empty body).tree ↔
      ∃ n ∈ Stmt.nodesAll (checkProgram options .empty body).tree, n.readsUnknown = true) ∧
    ((∃ t ∈ Stmt.typesAll (checkProgram options .empty body).tree, t.isPlain = false) ↔
      ∃ n ∈ Stmt.nodesAll body, n.isEmptyArray = true) := by
  refine ⟨eraseAll_tree_checkProgram options .empty body, ?_⟩
  rw [checkProgram_eq] at h ⊢
  have hnone : Stmt.violationsAll options .empty (Stmt.resolveAll .empty body) = [] := by
    simpa using h
  refine ⟨⟨?_, ?_⟩, ?_, ?_⟩
  · intro hany
    by_contra hreads
    apply Stmt.any_notMem_typesAll Env.holds_empty hnone ?_ hany
    simpa using hreads
  · rintro ⟨n, hn, hreads⟩
    rw [← Expr.ty_of_readsUnknown hreads]
    exact Stmt.ty_mem_typesAll hn
  · rintro ⟨t, ht, hplain⟩
    by_contra hempty
    have hall := Stmt.isPlain_of_mem_typesAll Env.holds_empty hnone (by simpa using hempty) t ht
    rw [hplain] at hall
    cases hall
  · rintro ⟨n, hn, hempty⟩
    by_contra hplain
    -- The literal itself is the node with a wildcard in its type.
    have hnodes : ∀ m ∈ Stmt.nodesAll (Stmt.resolveAll .empty body), m.isEmptyArray = false := by
      intro m hm
      by_contra hm'
      apply hplain
      refine ⟨m.ty, Stmt.ty_mem_typesAll hm, ?_⟩
      exact Expr.isPlain_ty_of_isEmptyArray (by simpa using hm')
    rw [(Stmt.forall_isEmptyArray .empty body).mp hnodes n hn] at hempty
    cases hempty

/-- `let x = [][0]` -/
def elementOfEmpty : List SourceStmt :=
  [.declaration ⟨"x", none,
    some (.index (.array [] .nowhere) (.number .nowhere) .nowhere), .nowhere⟩]

theorem wildcard_iff_readsUnknown_elementOfEmpty :
    (checkProgram {} .empty elementOfEmpty).log = #[] ∧
    (∃ n ∈ Stmt.nodesAll (checkProgram {} .empty elementOfEmpty).tree, n.readsUnknown = true) ∧
    (∃ n ∈ Stmt.nodesAll elementOfEmpty, n.isEmptyArray = true) := by
  have hlog : (checkProgram {} .empty elementOfEmpty).log = #[] := by decide +kernel
  obtain ⟨-, hreads, hempty⟩ := wildcard_iff_readsUnknown {} elementOfEmpty hlog
  exact ⟨hlog, hreads.mp (by decide +kernel), hempty.mp (by decide +kernel)⟩

/-- A program that nothing is reported about can have a wildcard in it. -/
theorem silent_wildcard : ¬ ∀ (options : Options) (body : List SourceStmt),
    (checkProgram options .empty body).log = #[] →
      .any ∉ Stmt.typesAll (checkProgram options .empty body).tree := by
  intro h
  have hlog : (checkProgram {} .empty elementOfEmpty).log = #[] := by decide +kernel
  have hany : .any ∈ Stmt.typesAll (checkProgram {} .empty elementOfEmpty).tree := by
    decide +kernel
  exact h {} elementOfEmpty hlog hany

end Gradual
