import Gradual.Proofs.TypeNames
import Gradual.Proofs.Typing

/-!
# Writing inferred types down

A declaration that says no type takes the one of its initial value. Its author
may as well write that type: the type name is read back as the type
(`Env.ReadsNames`), the initial value agrees with it, and the variable has the
type that it had. Only a type with a wildcard in it has no name that could be
written.

The program with the types written is described by its resolved form
(`Stmt.writeTypesAll`), and the main step is that this form is what the checker
makes of the program (`Stmt.resolveAll_eraseAll_writeTypesAll`).
-/

namespace Gradual

/-! ## Declarations -/

namespace Declaration

/-- The declaration with the type of its initial value written down. Only a
chosen declaration is changed, one that says a value and no type, and only if
the type has no wildcard in it. -/
def writeType (chosen : Bool) (d : ResolvedDeclaration) : ResolvedDeclaration :=
  match d.type?, d.init? with
  | none, some e =>
      if chosen && e.ty.isPlain then { d with type? := some ⟨e.ty.name, some e.ty⟩ } else d
  | none, none | some _, _ => d

/-- All that writing a type can do to a declaration. -/
theorem writeType_cases (chosen : Bool) (d : ResolvedDeclaration) :
    d.writeType chosen = d ∨
      ∃ name e span, d = ⟨name, none, some e, span⟩ ∧ e.ty.isPlain = true ∧
        d.writeType chosen = ⟨name, some ⟨e.ty.name, some e.ty⟩, some e, span⟩ := by
  obtain ⟨name, type?, init?, span⟩ := d
  cases type? with
  | some r => exact Or.inl rfl
  | none =>
      cases init? with
      | none => exact Or.inl rfl
      | some e =>
          by_cases h : (chosen && e.ty.isPlain) = true
          · have hplain : e.ty.isPlain = true := (Bool.and_eq_true_iff.mp h).2
            exact Or.inr ⟨name, e, span, rfl, hplain, if_pos h⟩
          · exact Or.inl (if_neg h)

variable {options : Options} (chosen : Bool) (d : ResolvedDeclaration)

theorem init?_writeType : (d.writeType chosen).init? = d.init? := by
  rcases d.writeType_cases chosen with h | ⟨name, e, span, rfl, -, h⟩ <;> rw [h]

theorem name_writeType : (d.writeType chosen).name = d.name := by
  rcases d.writeType_cases chosen with h | ⟨name, e, span, rfl, -, h⟩ <;> rw [h]

theorem span_writeType : (d.writeType chosen).span = d.span := by
  rcases d.writeType_cases chosen with h | ⟨name, e, span, rfl, -, h⟩ <;> rw [h]

/-- The variable is the one that it was. -/
theorem binding_writeType : (d.writeType chosen).binding = d.binding := by
  rcases d.writeType_cases chosen with h | ⟨name, e, span, rfl, -, h⟩
  · rw [h]
  · rw [h]
    rfl

/-- The type name is known, and a value agrees with its own type. -/
theorem violations_writeType :
    (d.writeType chosen).violations options = d.violations options := by
  rcases d.writeType_cases chosen with h | ⟨name, e, span, rfl, -, h⟩
  · rw [h]
  · have hagrees : e.misplaced .initialization e.ty = [] := by
      rw [Expr.misplaced, Ty.assignable_refl, complain_true]
    have hwritten : (⟨name, some ⟨e.ty.name, some e.ty⟩, some e, span⟩ :
        ResolvedDeclaration).violations options =
          e.violations options ++ e.misplaced .initialization e.ty := rfl
    have hinferred : (⟨name, none, some e, span⟩ : ResolvedDeclaration).violations options =
        e.violations options ++ [] := rfl
    rw [h, hwritten, hagrees, hinferred]

end Declaration

/-- The checker finds the type that was written. -/
theorem Declaration.resolve_erase_writeType {env : Env} (henv : env.ReadsNames) (chosen : Bool)
    (d : SourceDeclaration) :
    ((d.resolve env).writeType chosen).erase.resolve env = (d.resolve env).writeType chosen := by
  rcases (d.resolve env).writeType_cases chosen with h | ⟨name, e, span, hd, hplain, h⟩
  · rw [h, d.erase_resolve env]
  · have hsource : d = ⟨name, none, some e.erase, span⟩ := by
      rw [← d.erase_resolve env, hd]
      rfl
    have hvalue : e.erase.resolve env = e := by
      rw [hsource] at hd
      exact Option.some.inj (Declaration.mk.inj hd).2.2.1
    have hwritten : TypeRef.resolve env ⟨e.ty.name, ()⟩ = ⟨e.ty.name, some e.ty⟩ := by
      rw [TypeRef.resolve, henv e.ty hplain]
    rw [h]
    simp only [erase, resolve, Option.map_some, hvalue, hwritten]

/-! ## Programs -/

namespace Stmt

mutual

/-- The statement with the types of some declarations written down, those whose
numbers are chosen. They are counted in the order of the walk. -/
def writeTypes (chosen : Nat → Bool) : ResolvedStmt → ResolvedStmt
  | declaration d => declaration (d.writeType (chosen 0))
  | expression e => expression e
  | block body span => block (writeTypesAll chosen body) span

def writeTypesAll (chosen : Nat → Bool) : List ResolvedStmt → List ResolvedStmt
  | [] => []
  | s :: rest =>
      writeTypes chosen s :: writeTypesAll (fun i => chosen (i + s.declarations.length)) rest

end

mutual

theorem declarations_writeTypes (chosen : Nat → Bool) : ∀ s : ResolvedStmt,
    (s.writeTypes chosen).declarations =
      s.declarations.mapIdx fun i d => d.writeType (chosen i)
  | declaration _ | expression _ => rfl
  | block body _ => declarationsAll_writeTypesAll chosen body

/-- Each declaration is changed or not as its number is chosen or not. -/
theorem declarationsAll_writeTypesAll (chosen : Nat → Bool) : ∀ ss : List ResolvedStmt,
    declarationsAll (writeTypesAll chosen ss) =
      (declarationsAll ss).mapIdx fun i d => d.writeType (chosen i)
  | [] => rfl
  | s :: rest => by
      rw [writeTypesAll, declarationsAll, declarationsAll, List.mapIdx_append,
        declarations_writeTypes chosen s, declarationsAll_writeTypesAll _ rest]

end

/-- In the program as it is written, the same declarations are changed. -/
theorem declarationsAll_eraseAll_writeTypesAll (chosen : Nat → Bool) (ss : List ResolvedStmt) :
    declarationsAll (eraseAll (writeTypesAll chosen ss)) =
      (declarationsAll ss).mapIdx fun i d => (d.writeType (chosen i)).erase := by
  rw [declarationsAll_eraseAll, declarationsAll_writeTypesAll]
  apply List.ext_getElem?
  intro i
  rw [List.getElem?_map, List.getElem?_mapIdx, List.getElem?_mapIdx, Option.map_map]
  rfl

/-- All variables are what they were. -/
theorem map_binding_writeTypesAll (chosen : Nat → Bool) (ss : List ResolvedStmt) :
    (declarationsAll (writeTypesAll chosen ss)).map Declaration.binding =
      (declarationsAll ss).map Declaration.binding := by
  rw [declarationsAll_writeTypesAll]
  apply List.ext_getElem?
  intro i
  rw [List.getElem?_map, List.getElem?_mapIdx, List.getElem?_map, Option.map_map]
  apply Option.map_congr
  intro d _
  exact d.binding_writeType (chosen i)

mutual

theorem nodes_writeTypes (chosen : Nat → Bool) : ∀ s : ResolvedStmt,
    (s.writeTypes chosen).nodes = s.nodes
  | declaration d => by rw [writeTypes, nodes, nodes, d.init?_writeType]
  | expression _ => rfl
  | block body _ => nodesAll_writeTypesAll chosen body

/-- No node is changed. -/
theorem nodesAll_writeTypesAll (chosen : Nat → Bool) : ∀ ss : List ResolvedStmt,
    nodesAll (writeTypesAll chosen ss) = nodesAll ss
  | [] => rfl
  | s :: rest => by
      rw [writeTypesAll, nodesAll, nodesAll, nodes_writeTypes chosen s,
        nodesAll_writeTypesAll _ rest]

end

/-- The statement behind sees no difference. -/
theorem leave_writeTypes (chosen : Nat → Bool) (env : Env) (s : ResolvedStmt) :
    (s.writeTypes chosen).leave env = s.leave env := by
  cases s with
  | expression | block => rfl
  | declaration d => rw [writeTypes, leave, leave, d.binding_writeType]

theorem leaveAll_writeTypesAll (chosen : Nat → Bool) (env : Env) (ss : List ResolvedStmt) :
    leaveAll env (writeTypesAll chosen ss) = leaveAll env ss := by
  induction ss generalizing chosen env with
  | nil => rfl
  | cons s rest ih => rw [writeTypesAll, leaveAll_cons, leaveAll_cons, leave_writeTypes, ih]

mutual

theorem violations_writeTypes (options : Options) (chosen : Nat → Bool) (env : Env) :
    ∀ s : ResolvedStmt, (s.writeTypes chosen).violations options env = s.violations options env
  | declaration d => by
      rw [writeTypes, violations, violations, d.violations_writeType, d.name_writeType,
        d.span_writeType]
  | expression _ => rfl
  | block body _ => violationsAll_writeTypesAll options chosen env.push body

/-- Whatever is wrong with a program stays wrong with it, and no more is. -/
theorem violationsAll_writeTypesAll (options : Options) (chosen : Nat → Bool) (env : Env) :
    ∀ ss : List ResolvedStmt,
      violationsAll options env (writeTypesAll chosen ss) = violationsAll options env ss
  | [] => rfl
  | s :: rest => by
      rw [writeTypesAll, violationsAll, violationsAll, leave_writeTypes,
        violations_writeTypes options chosen env s,
        violationsAll_writeTypesAll options _ (s.leave env) rest]

end

mutual

theorem resolve_erase_writeTypes {env : Env} (henv : env.ReadsNames) (chosen : Nat → Bool) :
    ∀ s : SourceStmt,
      ((s.resolve env).writeTypes chosen).erase.resolve env = (s.resolve env).writeTypes chosen
  | declaration d => by
      rw [resolve, writeTypes, erase, resolve, d.resolve_erase_writeType henv]
  | expression e => by rw [resolve, writeTypes, erase, resolve, e.erase_resolve env]
  | block body span => by
      rw [resolve, writeTypes, erase, resolve,
        resolveAll_eraseAll_writeTypesAll henv.push chosen body]

/-- The checker gets to the form with the types in it. -/
theorem resolveAll_eraseAll_writeTypesAll {env : Env} (henv : env.ReadsNames)
    (chosen : Nat → Bool) : ∀ ss : List SourceStmt,
      resolveAll env (eraseAll (writeTypesAll chosen (resolveAll env ss))) =
        writeTypesAll chosen (resolveAll env ss)
  | [] => rfl
  | s :: rest => by
      have hleave : ((s.resolve env).writeTypes chosen).leave env = (s.resolve env).leave env :=
        leave_writeTypes chosen env _
      have hrest := resolveAll_eraseAll_writeTypesAll (henv.leave (s.resolve env))
        (fun i => chosen (i + (s.resolve env).declarations.length)) rest
      rw [resolveAll, writeTypesAll, eraseAll, resolveAll,
        resolve_erase_writeTypes henv chosen s, hleave, hrest]

end

end Stmt

/-- **Inferred types can be written down.** In an environment where no alias
takes a word that is built in, let any of the declarations of a program that say
a value and no type be given the name of the type that was found, as long as
there is no wildcard in it. The program is the same but for these type names,
and it is checked with the same diagnostics, the same nodes, hence the same
types and meanings, the same variables, and the same environment behind it,
whatever else may be wrong with it. -/
theorem inferred_types_can_be_written (options : Options) {env : Env}
    (henv : env.KeepsBuiltins) (body : List SourceStmt) (chosen : Nat → Bool) :
    let inferred := checkProgram options env body
    let source := Stmt.eraseAll (Stmt.writeTypesAll chosen inferred.tree)
    let written := checkProgram options env source
    Stmt.eraseAll inferred.tree = body ∧
    Stmt.declarationsAll source = (Stmt.declarationsAll inferred.tree).mapIdx (fun i d =>
      (d.writeType (chosen i)).erase) ∧
    written.tree = Stmt.writeTypesAll chosen inferred.tree ∧
    written.log = inferred.log ∧
    Stmt.nodesAll written.tree = Stmt.nodesAll inferred.tree ∧
    (Stmt.declarationsAll written.tree).map Declaration.binding =
      (Stmt.declarationsAll inferred.tree).map Declaration.binding ∧
    written.env = inferred.env := by
  intro inferred source written
  have hinferred : inferred = _ := checkProgram_eq options env body
  have htree : inferred.tree = Stmt.resolveAll env body := by rw [hinferred]
  have hwritten : written = _ := checkProgram_eq options env source
  have hresolve : Stmt.resolveAll env source = Stmt.writeTypesAll chosen inferred.tree := by
    have h := Stmt.resolveAll_eraseAll_writeTypesAll henv.readsNames chosen body
    rwa [← htree] at h
  rw [hresolve] at hwritten
  have hnew : written.tree = Stmt.writeTypesAll chosen inferred.tree := by rw [hwritten]
  refine ⟨eraseAll_tree_checkProgram options env body, ?_, hnew, ?_, ?_, ?_, ?_⟩
  · exact Stmt.declarationsAll_eraseAll_writeTypesAll chosen inferred.tree
  · rw [hwritten, Stmt.violationsAll_writeTypesAll, htree, hinferred]
  · rw [hnew, Stmt.nodesAll_writeTypesAll]
  · rw [hnew, Stmt.map_binding_writeTypesAll]
  · rw [hwritten, Stmt.leaveAll_writeTypesAll, htree, hinferred]

/-- An environment in which `grid` is a name for rows of rows. -/
def gridNames : Env :=
  Env.empty.declareType "grid" (.array (.array .number))

/-- Variables that get their types from rows, from an operator on something
wrong, and from the empty row, the last but one under a name that is taken. -/
def inferredRows : List SourceStmt :=
  let byte (n : Nat) : Span := .within "main" n (n + 1)
  [.declaration ⟨"g", some ⟨"grid", ()⟩, none, byte 0⟩,
    .declaration ⟨"rows", none, some (.array [.ref "g" () (byte 2)] (byte 2)), byte 1⟩,
    .block [.declaration ⟨"rows", none,
      some (.index (.ref "rows" () (byte 4)) (.string "0" (byte 5)) (byte 4)), byte 3⟩] (byte 3),
    .declaration ⟨"g", none, some (.unary .not (.ref "rows" () (byte 7)) (byte 7)), byte 6⟩,
    .declaration ⟨"none", none, some (.array [] (byte 9)), byte 8⟩]

/-- Of the five declarations three can be given a type name, at any depth of the
type, and the diagnostics stay. -/
theorem inferred_types_can_be_written_rows :
    let written := Stmt.eraseAll
      (Stmt.writeTypesAll (fun _ => true) (checkProgram {} gridNames inferredRows).tree)
    gridNames.KeepsBuiltins ∧
    ((Stmt.declarationsAll written).map fun d => d.type?.map (·.name)) =
      [some "grid", some "[][][]number", some "[][]number", some "boolean", none] ∧
    (checkProgram {} gridNames written).log.toList =
      [⟨.operand .integer "[]" .string, 5, "main"⟩,
        ⟨.operand .boolean "!" (.array (.array (.array .number))), 7, "main"⟩,
        ⟨.redeclared "g", 6, "main"⟩] := by
  intro written
  have henv : gridNames.KeepsBuiltins := by decide
  obtain ⟨-, hsource, -, hlog, -⟩ :=
    inferred_types_can_be_written {} henv inferredRows fun _ => true
  refine ⟨henv, ?_, ?_⟩
  · rw [hsource]
    decide +kernel
  · rw [hlog]
    decide +kernel

end Gradual
