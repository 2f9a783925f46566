import Gradual.Proofs.TypeNameReading

/-!
# Printed types

A type is printed without blanks, and may be written with blanks around it and behind
each pair of brackets (`TypeName.spaced`). These are not seen when brackets are counted
(`TypeName.brackets_spread_name`). The wildcard has no word of its own, so a type around
it is printed in a form that stands for nothing until an alias is given to it.
-/

namespace Gradual

/-! ## Blanks inside a type name -/

namespace TypeName

/-- The text with `gaps n` put behind the pair of brackets number `n`. -/
def spread (gaps : Nat → List Char) : List Char → List Char
  | [] => []
  | [c] => [c]
  | c :: d :: rest =>
      if c = '[' ∧ d = ']' then '[' :: ']' :: (gaps 0 ++ spread (fun n => gaps (n + 1)) rest)
      else c :: spread gaps (d :: rest)

/-- A type name with gaps behind its pairs of brackets. -/
def spaced (gaps : Nat → String) (text : String) : String :=
  String.ofList (spread (fun n => (gaps n).toList) text.toList)

variable {gaps : Nat → List Char}

theorem spread_pair (gaps : Nat → List Char) (rest : List Char) :
    spread gaps ('[' :: ']' :: rest) =
      '[' :: ']' :: (gaps 0 ++ spread (fun n => gaps (n + 1)) rest) := by
  simp [spread]

/-- Without brackets there is no place for a gap. -/
theorem spread_of_notMem {cs : List Char} (h : '[' ∉ cs) : spread gaps cs = cs := by
  induction gaps, cs using spread.induct with
  | case1 | case2 => rfl
  | case3 gaps c d rest hpair => exact absurd (hpair.1 ▸ List.mem_cons_self) h
  | case4 gaps c d rest hpair ih =>
      rw [spread, if_neg hpair, ih fun hmem => h (List.mem_cons_of_mem c hmem)]

theorem spread_empty (cs : List Char) : spread (fun _ => []) cs = cs := by
  generalize hgaps : (fun _ => [] : Nat → List Char) = gaps
  induction gaps, cs using spread.induct with
  | case1 | case2 => rfl
  | case3 gaps c d rest hpair ih =>
      subst hgaps
      obtain ⟨rfl, rfl⟩ := hpair
      rw [spread_pair, ih rfl, List.nil_append]
  | case4 gaps c d rest hpair ih => rw [spread, if_neg hpair, ih hgaps]

/-- With nothing in the gaps the text stays as it is. -/
theorem spaced_empty (text : String) : spaced (fun _ => "") text = text := by
  have hspread : spread (fun _ => "".toList) text.toList = text.toList := spread_empty text.toList
  rw [spaced, hspread, String.ofList_toList]

/-- Gaps are not seen when the brackets of a printed type are counted. -/
theorem brackets_spread_name (hgaps : ∀ n, ∀ c ∈ gaps n, Text.isBlank c = true) (t : Ty) :
    brackets (spread gaps t.name.toList) = brackets t.name.toList := by
  induction t generalizing gaps with
  | array t ih =>
      have hname : (Ty.array t).name.toList = '[' :: ']' :: t.name.toList := String.toList_append
      rw [hname, spread_pair, brackets_pair, brackets_pair, brackets_blanks_append (hgaps 0),
        ih fun n => hgaps (n + 1)]
  | number | character | string | boolean | any => rw [spread_of_notMem (by decide)]

end TypeName

/-! ## Printed types in an environment -/

theorem Ty.name_injective : Function.Injective Ty.name := by
  intro t u h
  have hread : some t = some u := by
    rw [← ofName?_name t, ← ofName?_name u, h]
  exact Option.some.inj hread

namespace Env

variable {env : Env}

/-- A printed type means the same with blanks behind its pairs of brackets. -/
theorem type?_spaced_name (env : Env) {gaps : Nat → String}
    (hgaps : ∀ n, ∀ c ∈ (gaps n).toList, Text.isBlank c = true) (t : Ty) :
    env.type? (TypeName.spaced gaps t.name) = env.type? t.name := by
  have hparse : TypeName.parse (TypeName.spaced gaps t.name) = TypeName.parse t.name := by
    rw [TypeName.parse, TypeName.spaced, String.toList_ofList,
      TypeName.brackets_spread_name hgaps]
    rfl
  rw [type?, hparse]
  rfl

theorem type?_name_eq_none_iff {t : Ty} (h : t.isPlain = false) :
    env.type? t.name = none ↔ ∀ s ∈ env.scopes, s.alias? "<arbitrary>" = none := by
  induction t with
  | array t ih => rw [Ty.name, type?_brackets, Option.map_eq_none_iff, ih h]
  | any =>
      have hword : env.type? "<arbitrary>" = env.scopes.findSome? (·.alias? "<arbitrary>") := by
        rw [type?_of_isWord (by decide), word?, show Ty.builtin? "<arbitrary>" = none from rfl]
        simp
      rw [Ty.name, hword, List.findSome?_eq_none_iff]
  | number | character | string | boolean => cases h

end Env

/-- **Printed types are read back.** No two types are printed alike. Where no alias
takes a word that is built in, the printed form of a type without wildcards stands for
it, with blanks or without. So a type that was found by any type name is found by its
printed form again. The printed form of a type with a wildcard stands for nothing, unless
there is an alias of the form of the wildcard itself. -/
theorem printed_types_are_read_back :
    Function.Injective Ty.name ∧
    (∀ env : Env, env.KeepsBuiltins →
      (∀ t : Ty, t.isPlain = true → ∀ (gaps : Nat → String) (before after : String),
        (∀ n, ∀ c ∈ (gaps n).toList, Text.isBlank c = true) →
        (∀ c ∈ before.toList, Text.isBlank c = true) →
        (∀ c ∈ after.toList, Text.isBlank c = true) →
          env.type? (before ++ TypeName.spaced gaps t.name ++ after) = some t) ∧
      (∀ (text : String) (t : Ty), env.type? text = some t → t.isPlain = true →
        env.type? t.name = some t)) ∧
    ∀ (env : Env) (t : Ty), t.isPlain = false →
      (env.type? t.name = none ↔ ∀ s ∈ env.scopes, s.alias? "<arbitrary>" = none) := by
  refine ⟨Ty.name_injective, ?_, fun env t => Env.type?_name_eq_none_iff⟩
  intro env henv
  have hspaced : ∀ t : Ty, t.isPlain = true → ∀ (gaps : Nat → String) (before after : String),
      (∀ n, ∀ c ∈ (gaps n).toList, Text.isBlank c = true) →
      (∀ c ∈ before.toList, Text.isBlank c = true) →
      (∀ c ∈ after.toList, Text.isBlank c = true) →
        env.type? (before ++ TypeName.spaced gaps t.name ++ after) = some t := by
    intro t ht gaps before after hgaps hbefore hafter
    rw [env.type?_blanks hbefore hafter, env.type?_spaced_name hgaps, henv.readsNames t ht]
  refine ⟨hspaced, ?_⟩
  intro text t _ ht
  have hbare := hspaced t ht (fun _ => "") "" "" (by simp) (by simp) (by simp)
  rwa [TypeName.spaced_empty, String.append_empty, String.empty_append] at hbare

/-- An environment in which a word of an outer scope stands for an array type. -/
def tableWords : Env :=
  (Env.empty.declareType "row" (.array .number)).push

/-- The blanks are of several scripts, and the wildcard has no alias here. -/
theorem printed_types_are_read_back_rows :
    tableWords.KeepsBuiltins ∧
    tableWords.type? " [] row" = some (.array (.array .number)) ∧
    (Ty.array (.array .number)).isPlain = true ∧
    tableWords.type? "[][]number" = some (.array (.array .number)) ∧
    tableWords.type? ("\t" ++ TypeName.spaced (fun _ => "\u2003 ") "[][]number" ++ "\u3000") =
      some (.array (.array .number)) ∧
    (Ty.array .any).isPlain = false ∧ tableWords.type? "[]<arbitrary>" = none := by
  have henv : tableWords.KeepsBuiltins := by decide
  have hfound : tableWords.type? " [] row" = some (.array (.array .number)) := by decide +kernel
  have hname : (Ty.array (.array .number)).name = "[][]number" := by decide
  obtain ⟨-, hread, hwildcard⟩ := printed_types_are_read_back
  obtain ⟨hspaced, hagain⟩ := hread tableWords henv
  have hprinted := hagain " [] row" (.array (.array .number)) hfound rfl
  have hset := hspaced (.array (.array .number)) rfl (fun _ => "\u2003 ") "\t" "\u3000"
    (fun _ => List.all_eq_true.mp (by decide +kernel))
    (List.all_eq_true.mp (by decide +kernel)) (List.all_eq_true.mp (by decide +kernel))
  rw [hname] at hprinted hset
  exact ⟨henv, hfound, rfl, hprinted, hset, rfl,
    (hwildcard tableWords (.array .any) rfl).mpr (by decide)⟩

end Gradual
