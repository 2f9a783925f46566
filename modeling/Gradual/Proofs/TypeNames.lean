import Gradual.Proofs.Stmt.Points
import Gradual.Proofs.Wildcard

/-!
# Type names that are read back

The name that a type is printed with stands for the type, as long as no alias
takes one of the words that are built in (`Env.KeepsBuiltins.readsNames`).
-/

namespace Gradual

/-! ## Brackets -/

namespace TypeName

theorem brackets_append (text : String) :
    brackets ("[]" ++ text).toList =
      ((brackets text.toList).1 + 1, (brackets text.toList).2) := by
  have hlist : ("[]" ++ text).toList = '[' :: ']' :: text.toList := String.toList_append
  rw [hlist, brackets_pair]

/-- A pair of brackets in front makes one level more of the same. -/
theorem parse_brackets (text : String) :
    parse ("[]" ++ text) = ⟨(parse text).rank + 1, (parse text).element⟩ := by
  unfold parse
  rw [brackets_append]

end TypeName

namespace Ty

theorem isWord_name {t : Ty} (h : t.isPrimitive = true) : TypeName.IsWord t.name := by
  cases t with
  | number | character | string | boolean => decide
  | any | array => cases h

theorem builtin?_name {t : Ty} (h : t.isPrimitive = true) : builtin? t.name = some t := by
  cases t with
  | number | character | string | boolean => rfl
  | any | array => cases h

end Ty

/-! ## Environments -/

namespace Env

/-- No scope gives another meaning to a word that is built in. -/
def KeepsBuiltins (env : Env) : Prop :=
  ∀ s ∈ env.scopes, ∀ word ∈ ["number", "char", "string", "boolean"], s.alias? word = none

instance (env : Env) : Decidable env.KeepsBuiltins :=
  inferInstanceAs (Decidable (∀ s ∈ env.scopes, ∀ word ∈ _, s.alias? word = none))

/-- A type without wildcards is read back from its name. -/
def ReadsNames (env : Env) : Prop :=
  ∀ t : Ty, t.isPlain = true → env.type? t.name = some t

theorem type?_brackets (env : Env) (text : String) :
    env.type? ("[]" ++ text) = (env.type? text).map Ty.array := by
  simp only [type?, TypeName.parse_brackets, Option.map_map]
  rfl

/-- A word stands for what it means. -/
theorem type?_of_isWord {env : Env} {text : String} (h : TypeName.IsWord text) :
    env.type? text = env.word? text := by
  rw [type?, TypeName.parse_of_isWord h]
  exact Option.map_id_apply

variable {env : Env}

theorem KeepsBuiltins.word?_name (henv : env.KeepsBuiltins) {t : Ty} (h : t.isPrimitive = true) :
    env.word? t.name = some t := by
  have hword : t.name ∈ ["number", "char", "string", "boolean"] := by
    cases t with
    | number | character | string | boolean => decide
    | any | array => cases h
  have hnone : env.scopes.findSome? (·.alias? t.name) = none := by
    rw [List.findSome?_eq_none_iff]
    intro s hs
    exact henv s hs t.name hword
  rw [word?, hnone, Ty.builtin?_name h]
  rfl

/-- **Names of types are read back** where the words that are built in have
their meaning. -/
theorem KeepsBuiltins.readsNames (henv : env.KeepsBuiltins) : env.ReadsNames := by
  intro t h
  induction t with
  | array t ih =>
      rw [Ty.name, type?_brackets, ih h]
      rfl
  | number | character | string | boolean =>
      rw [type?_of_isWord (Ty.isWord_name rfl), henv.word?_name rfl]
  | any => cases h

theorem ReadsNames.leave (henv : env.ReadsNames) (s : ResolvedStmt) :
    (s.leave env).ReadsNames := by
  intro t h
  have hsame : (s.leave env).type? t.name = env.type? t.name :=
    Stmt.type?_leaveAll env [s] t.name
  rw [hsame]
  exact henv t h

theorem ReadsNames.push (henv : env.ReadsNames) : env.push.ReadsNames :=
  henv

end Env

end Gradual
