import Gradual.Diagnostic.Log
import Gradual.TypeName

/-!
# Environments

An environment is a stack of scopes, and the outermost one is always there. In one scope a variable
is bound once and stays bound, while a type name may be given again and the last meaning counts.
The two kinds of names never meet.
-/

namespace Gradual

/-! ## Scopes -/

structure Binding where
  name : String
  ty : Ty
  constant : Bool
  deriving DecidableEq, Repr

/-- What stands in for a variable that was never declared. It has the wildcard type and can be
written to, so that no use of it is blamed again. -/
def Binding.unknown : Binding := ⟨"<arbitrary>", .any, false⟩

/-- The names that one block introduces, the latest in front. -/
structure Scope where
  bindings : List Binding := []
  aliases : List (String × Ty) := []
  deriving DecidableEq, Repr

namespace Scope

def binding? (s : Scope) (name : String) : Option Binding :=
  s.bindings.find? (·.name == name)

def alias? (s : Scope) (word : String) : Option Ty :=
  s.aliases.lookup word

def bind (s : Scope) (binding : Binding) : Scope :=
  { s with bindings := binding :: s.bindings }

def setAlias (s : Scope) (word : String) (t : Ty) : Scope :=
  { s with aliases := (word, t) :: s.aliases }

theorem binding?_bind (s : Scope) (binding : Binding) (name : String) :
    (s.bind binding).binding? name =
      if name = binding.name then some binding else s.binding? name := by
  by_cases h : name = binding.name
  · simp [bind, binding?, h]
  · simp [bind, binding?, h, Ne.symm h]

theorem alias?_setAlias (s : Scope) (word : String) (t : Ty) (w : String) :
    (s.setAlias word t).alias? w = if w = word then some t else s.alias? w := by
  by_cases h : w = word
  · simp [setAlias, alias?, h]
  · have hw : (w == word) = false := beq_eq_false_iff_ne.mpr h
    simp [setAlias, alias?, List.lookup_cons, h, hw]

@[simp] theorem binding?_setAlias (s : Scope) (word : String) (t : Ty) (name : String) :
    (s.setAlias word t).binding? name = s.binding? name := rfl

end Scope

/-! ## Environments -/

structure Env where
  inner : Scope := {}
  /-- The scopes around the innermost one, from the inside outwards. -/
  outer : List Scope := []
  deriving DecidableEq, Repr

namespace Env

def empty : Env := {}

def scopes (env : Env) : List Scope :=
  env.inner :: env.outer

def depth (env : Env) : Nat :=
  env.scopes.length

def push (env : Env) : Env :=
  ⟨{}, env.scopes⟩

/-- Closes the innermost scope. The outermost one stays open. -/
def pop (env : Env) : Env :=
  match env.outer with
  | [] => env
  | scope :: rest => ⟨scope, rest⟩

theorem depth_pos (env : Env) : 0 < env.depth := by
  simp [depth, scopes]

/-! ## Looking names up -/

/-- The innermost binding of a variable. -/
def binding? (env : Env) (name : String) : Option Binding :=
  env.scopes.findSome? (·.binding? name)

/-- The innermost meaning of a word as a type, and the built-in one if no scope gives it any. -/
def word? (env : Env) (word : String) : Option Ty :=
  env.scopes.findSome? (·.alias? word) <|> Ty.builtin? word

def type? (env : Env) (text : String) : Option Ty :=
  let name := TypeName.parse text
  (env.word? name.element).map (Ty.nest name.rank)

@[simp] theorem binding?_push (env : Env) (name : String) :
    env.push.binding? name = env.binding? name := rfl

@[simp] theorem type?_push (env : Env) (text : String) :
    env.push.type? text = env.type? text := rfl

def resolveVariable (env : Env) (name : String) (position : Position) :
    CheckM (Option Binding) :=
  match env.binding? name with
  | some binding => return some binding
  | none => do
      report (.undeclared name) position
      return none

def resolveType (env : Env) (text : String) (position : Position) : CheckM (Option Ty) :=
  match env.type? text with
  | some t => return some t
  | none => do
      report (.unknownType text) position
      return none

/-! ## Declaring names -/

/-- Binds a variable in the innermost scope, unless its name is bound there already. -/
def declare (env : Env) (binding : Binding) (position : Position) : Except Diagnostic Env :=
  if (env.inner.binding? binding.name).isSome then
    .error ⟨.redeclared binding.name, position⟩
  else
    .ok { env with inner := env.inner.bind binding }

/-- Lets a word stand for a type in the innermost scope, over any meaning that it has. -/
def declareType (env : Env) (word : String) (t : Ty) : Env :=
  { env with inner := env.inner.setAlias word t }

theorem eq_of_declare {env env' : Env} {binding : Binding} {position : Position}
    (h : env.declare binding position = .ok env') :
    env' = { env with inner := env.inner.bind binding } := by
  unfold declare at h
  split at h
  · contradiction
  · exact (Except.ok.inj h).symm

/-- A declaration that is accepted changes the meaning of its own name alone. -/
theorem binding?_of_declare {env env' : Env} {binding : Binding} {position : Position}
    (h : env.declare binding position = .ok env') (name : String) :
    env'.binding? name = if name = binding.name then some binding else env.binding? name := by
  obtain rfl := eq_of_declare h
  by_cases hn : name = binding.name
  · simp [binding?, scopes, Scope.binding?_bind, hn]
  · simp [binding?, scopes, List.findSome?_cons, Scope.binding?_bind, hn]

theorem type?_of_declare {env env' : Env} {binding : Binding} {position : Position}
    (h : env.declare binding position = .ok env') (text : String) :
    env'.type? text = env.type? text := by
  obtain rfl := eq_of_declare h
  rfl

/-- Naming a type changes the meaning of that word alone. -/
theorem word?_declareType (env : Env) (word : String) (t : Ty) (w : String) :
    (env.declareType word t).word? w = if w = word then some t else env.word? w := by
  by_cases h : w = word
  · simp [word?, scopes, declareType, Scope.alias?_setAlias, h]
  · simp [word?, scopes, declareType, List.findSome?_cons, Scope.alias?_setAlias, h]

@[simp] theorem binding?_declareType (env : Env) (word : String) (t : Ty) (name : String) :
    (env.declareType word t).binding? name = env.binding? name := rfl

end Env

end Gradual
