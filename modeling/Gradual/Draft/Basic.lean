import Gradual.View

/-!
# Drafts

A tree while it is being checked. Every node has a cell for its type, and a reference has one more
for the variable that it means. All cells are empty at first, and whoever reads an empty one gets
an error that says which node was asked too early.
-/

namespace Gradual

/-! ## Expressions -/

/-- An expression whose nodes have cells. -/
inductive Draft where
  | number (span : Span) (cell : Option Ty)
  | character (value : Char) (span : Span) (cell : Option Ty)
  | string (value : String) (span : Span) (cell : Option Ty)
  | boolean (value : Bool) (span : Span) (cell : Option Ty)
  | array (elements : List Draft) (span : Span) (cell : Option Ty)
  | ref (name : String) (target : Option Binding) (span : Span) (cell : Option Ty)
  | index (base subscript : Draft) (span : Span) (cell : Option Ty)
  | binary (op : BinaryOp) (left right : Draft) (span : Span) (cell : Option Ty)
  | unary (op : UnaryOp) (operand : Draft) (span : Span) (cell : Option Ty)
  | assign (target value : Draft) (span : Span) (cell : Option Ty)
  deriving Repr

namespace Draft

def span : Draft → Span
  | number span _ | character _ span _ | string _ span _ | boolean _ span _ | array _ span _
  | ref _ _ span _ | index _ _ span _ | binary _ _ _ span _ | unary _ _ span _
  | assign _ _ span _ => span

def cell : Draft → Option Ty
  | number _ cell | character _ _ cell | string _ _ cell | boolean _ _ cell | array _ _ cell
  | ref _ _ _ cell | index _ _ _ cell | binary _ _ _ _ cell | unary _ _ _ cell
  | assign _ _ _ cell => cell

def start (d : Draft) : Position :=
  d.span.start

/-! ### Reading -/

/-- The type of the node, if it is known by now. -/
def ty (d : Draft) : Except EarlyRead Ty :=
  match d.cell with
  | some t => .ok t
  | none => .error ⟨d.start⟩

/-- Whether the expression can be written to. A variable that was not looked up cannot. For an
index expression the type of what is indexed has to be known. -/
def isWritable : Draft → Except EarlyRead Bool
  | ref _ target _ _ => .ok (target.any (!·.constant))
  | index base _ _ _ => do
      let t ← base.ty
      if t.isArray || t.isAny then base.isWritable else return false
  | _ => .ok false

/-! ### Before and after -/

mutual

/-- The expression as it is built, with all cells empty. -/
def fresh : SourceExpr → Draft
  | .number span => number span none
  | .character value span => character value span none
  | .string value span => string value span none
  | .boolean value span => boolean value span none
  | .array elements span => array (freshAll elements) span none
  | .ref name _ span => ref name none span none
  | .index base subscript span => index (fresh base) (fresh subscript) span none
  | .binary op left right span => binary op (fresh left) (fresh right) span none
  | .unary op operand span => unary op (fresh operand) span none
  | .assign target value span => assign (fresh target) (fresh value) span none

def freshAll : List SourceExpr → List Draft
  | [] => []
  | e :: rest => fresh e :: freshAll rest

end

mutual

/-- The expression with the type of every node in its cell. -/
def finished : ResolvedExpr → Draft
  | .number span => number span (some .number)
  | .character value span => character value span (some .character)
  | .string value span => string value span (some .string)
  | .boolean value span => boolean value span (some .boolean)
  | .array elements span =>
      array (finishedAll elements) span (some (Expr.ty (.array elements span)))
  | .ref name target span =>
      ref name (some (.ofTarget target)) span (some (Binding.ofTarget target).ty)
  | .index base subscript span =>
      index (finished base) (finished subscript) span (some base.ty.item)
  | .binary op left right span =>
      binary op (finished left) (finished right) span (some op.family.result)
  | .unary op operand span => unary op (finished operand) span (some op.result)
  | .assign target value span => assign (finished target) (finished value) span (some target.ty)

def finishedAll : List ResolvedExpr → List Draft
  | [] => []
  | e :: rest => finished e :: finishedAll rest

end

mutual

/-- The expression with all cells emptied. -/
def clear : Draft → Draft
  | number span _ => number span none
  | character value span _ => character value span none
  | string value span _ => string value span none
  | boolean value span _ => boolean value span none
  | array elements span _ => array (clearAll elements) span none
  | ref name _ span _ => ref name none span none
  | index base subscript span _ => index base.clear subscript.clear span none
  | binary op left right span _ => binary op left.clear right.clear span none
  | unary op operand span _ => unary op operand.clear span none
  | assign target value span _ => assign target.clear value.clear span none

def clearAll : List Draft → List Draft
  | [] => []
  | d :: rest => d.clear :: clearAll rest

end

@[simp] theorem span_fresh (e : SourceExpr) : (fresh e).span = e.span := by
  cases e <;> rfl

@[simp] theorem cell_fresh (e : SourceExpr) : (fresh e).cell = none := by
  cases e <;> rfl

@[simp] theorem span_finished (e : ResolvedExpr) : (finished e).span = e.span := by
  cases e <;> rfl

@[simp] theorem cell_finished (e : ResolvedExpr) : (finished e).cell = some e.ty := by
  cases e <;> rfl

@[simp] theorem start_finished (e : ResolvedExpr) : (finished e).start = e.start := by
  simp [start, Expr.start]

/-! ### Nodes -/

mutual

/-- The nodes of an expression, the parts in front of the whole. -/
def nodes : Draft → List Draft
  | number span cell => [number span cell]
  | character value span cell => [character value span cell]
  | string value span cell => [string value span cell]
  | boolean value span cell => [boolean value span cell]
  | array elements span cell => nodesAll elements ++ [array elements span cell]
  | ref name target span cell => [ref name target span cell]
  | index base subscript span cell =>
      base.nodes ++ subscript.nodes ++ [index base subscript span cell]
  | binary op left right span cell =>
      left.nodes ++ right.nodes ++ [binary op left right span cell]
  | unary op operand span cell => operand.nodes ++ [unary op operand span cell]
  | assign target value span cell =>
      target.nodes ++ value.nodes ++ [assign target value span cell]

def nodesAll : List Draft → List Draft
  | [] => []
  | d :: rest => d.nodes ++ nodesAll rest

end

end Draft

/-! ## Declarations -/

/-- A declaration with a cell for the type of its variable. -/
structure DeclarationDraft where
  name : String
  typeName? : Option String
  init? : Option Draft
  span : Span
  cell : Option Ty
  deriving Repr

namespace DeclarationDraft

/-- A name that begins with an underscore names a constant. -/
def isConstant (d : DeclarationDraft) : Bool :=
  d.name.toList.head? == some '_'

/-- The type of the variable, if it is known by now. -/
def ty (d : DeclarationDraft) : Except EarlyRead Ty :=
  match d.cell with
  | some t => .ok t
  | none => .error ⟨d.span.start⟩

/-- What code behind the declaration sees. -/
def binding (d : DeclarationDraft) : Except EarlyRead Binding :=
  return ⟨d.name, ← d.ty, d.isConstant⟩

def fresh (d : SourceDeclaration) : DeclarationDraft :=
  ⟨d.name, d.type?.map (·.name), d.init?.map .fresh, d.span, none⟩

def finished (d : ResolvedDeclaration) : DeclarationDraft :=
  ⟨d.name, d.type?.map (·.name), d.init?.map .finished, d.span, some d.ty⟩

def clear (d : DeclarationDraft) : DeclarationDraft :=
  { d with init? := d.init?.map (·.clear), cell := none }

end DeclarationDraft

/-! ## Statements -/

/-- A statement whose expressions and declarations have cells. -/
inductive StmtDraft where
  | declaration (d : DeclarationDraft)
  | expression (e : Draft)
  | block (body : List StmtDraft) (span : Span)
  deriving Repr

namespace StmtDraft

mutual

def fresh : SourceStmt → StmtDraft
  | .declaration d => declaration (.fresh d)
  | .expression e => expression (.fresh e)
  | .block body span => block (freshAll body) span

def freshAll : List SourceStmt → List StmtDraft
  | [] => []
  | s :: rest => fresh s :: freshAll rest

end

mutual

def finished : ResolvedStmt → StmtDraft
  | .declaration d => declaration (.finished d)
  | .expression e => expression (.finished e)
  | .block body span => block (finishedAll body) span

def finishedAll : List ResolvedStmt → List StmtDraft
  | [] => []
  | s :: rest => finished s :: finishedAll rest

end

mutual

def clear : StmtDraft → StmtDraft
  | declaration d => declaration d.clear
  | expression e => expression e.clear
  | block body span => block (clearAll body) span

def clearAll : List StmtDraft → List StmtDraft
  | [] => []
  | s :: rest => s.clear :: clearAll rest

end

mutual

/-- The nodes of all expressions in a statement, in the order of the walk. -/
def nodes : StmtDraft → List Draft
  | declaration d => d.init?.elim [] Draft.nodes
  | expression e => e.nodes
  | block body _ => nodesAll body

def nodesAll : List StmtDraft → List Draft
  | [] => []
  | s :: rest => s.nodes ++ nodesAll rest

end

mutual

/-- The declarations in a statement at any depth, in the order of the walk. -/
def declarations : StmtDraft → List DeclarationDraft
  | declaration d => [d]
  | expression _ => []
  | block body _ => declarationsAll body

def declarationsAll : List StmtDraft → List DeclarationDraft
  | [] => []
  | s :: rest => s.declarations ++ declarationsAll rest

end

end StmtDraft

end Gradual
