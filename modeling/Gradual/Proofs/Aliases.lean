import Gradual.Proofs.Stmt.Agreement
import Gradual.Proofs.TypeNameReading

/-!
# Aliases of types

An alias is kept under its name as it is given, while a type name is taken apart
before its word is looked up (`TypeName.isWord_element`). So an alias is found by the
type names with this very word in them, at any number of levels, and a name that is
no word can be given to a type, but nothing ever asks for it.
-/

namespace Gradual

/-! ## Type names and their spellings -/

namespace TypeName

/-- What stands behind the brackets begins neither with a blank nor with brackets. -/
theorem brackets_rest (cs : List Char) :
    (∀ c ∈ (brackets cs).2.head?, Text.isBlank c = false) ∧ ¬ ['[', ']'] <+: (brackets cs).2 := by
  induction cs using brackets_induct with
  | blank c rest hc ih => rwa [brackets_blank hc]
  | pair rest ih => rwa [brackets_pair]
  | bare cs hfirst hbare =>
      rw [brackets_of_bare hfirst hbare]
      exact ⟨hfirst, hbare⟩

/-- What is looked up is always a word. -/
theorem isWord_element (text : String) : IsWord (parse text).element := by
  obtain ⟨hfirst, hbare⟩ := brackets_rest text.toList
  generalize hrest : (brackets text.toList).2 = rest at hfirst hbare
  have helement : (parse text).element.toList = Text.trim rest := by
    rw [parse, hrest, String.toList_ofList, Text.trim, Text.dropWhile_of_first hfirst]
  obtain ⟨after, -, hsplit⟩ := Text.exists_trimEnd_append rest
  have hfront : Text.trim rest <+: rest := by
    rw [Text.trim, Text.dropWhile_of_first hfirst]
    exact ⟨after, hsplit.symm⟩
  rw [IsWord, helement]
  exact ⟨fun _ => Text.not_isBlank_of_head?_trim, fun _ => Text.not_isBlank_of_getLast?_trim,
    fun hpair => hbare (hpair.trans hfront)⟩

/-- The text is the word of the type name behind as many levels as its rank says,
with blanks at both ends. -/
def Spells (text : String) (name : TypeName) : Prop :=
  IsWord name.element ∧ ∃ (before after : List Char) (ls : List (List Char)),
    (∀ c ∈ before, Text.isBlank c = true) ∧ (∀ c ∈ after, Text.isBlank c = true) ∧
    (∀ l ∈ ls, l ∈ level.matches') ∧ ls.length = name.rank ∧
    text.toList = before ++ (ls.flatten ++ (name.element.toList ++ after))

theorem parse_of_spells {text : String} {name : TypeName} (h : Spells text name) :
    parse text = name := by
  obtain ⟨hword, before, after, ls, hbefore, hafter, hls, hlength, htext⟩ := h
  obtain ⟨hrank, hrest⟩ := brackets_append_blanks hafter name.element.toList
  have hlast : Text.trimEnd name.element.toList = name.element.toList :=
    Text.trimEnd_of_last hword.2.1
  rw [brackets_of_isWord hword] at hrank hrest
  rw [parse, htext, brackets_blanks_append hbefore, brackets_levels_append hls, hrank, hrest,
    hlength, hlast, String.ofList_toList, Nat.add_zero]

theorem spells_parse (text : String) : Spells text (parse text) := by
  obtain ⟨ls, hls, hlength, hsplit⟩ := exists_levels text.toList
  obtain ⟨after, hafter, hrest⟩ := Text.exists_trimEnd_append (brackets text.toList).2
  have helement : (parse text).element.toList = Text.trimEnd (brackets text.toList).2 :=
    String.toList_ofList
  refine ⟨isWord_element text, text.toList.takeWhile Text.isBlank, after, ls,
    List.all_eq_true.mp List.all_takeWhile, hafter, hls, hlength, ?_⟩
  rw [helement, ← hrest, ← hsplit, List.takeWhile_append_dropWhile]

/-- Every text spells one type name. -/
theorem spells_iff {text : String} {name : TypeName} : Spells text name ↔ name = parse text := by
  constructor
  · intro h
    exact (parse_of_spells h).symm
  · rintro rfl
    exact spells_parse text

end TypeName

/-! ## Looking type names up behind an alias -/

namespace Env

theorem type?_declareType (env : Env) (word : String) (t : Ty) (text : String) :
    (env.declareType word t).type? text =
      if (TypeName.parse text).element = word then some (Ty.nest (TypeName.parse text).rank t)
      else env.type? text := by
  have hword := env.word?_declareType word t (TypeName.parse text).element
  rw [type?, type?, hword]
  split <;> rfl

/-- Expressions have no type names in them, and see nothing of an alias. -/
theorem checkExpr_declareType (options : Options) (env : Env) (word : String) (t : Ty)
    (e : SourceExpr) :
    checkExpr options (env.declareType word t) e =
      { checkExpr options env e with env := env.declareType word t } := by
  have hresolve : e.resolve (env.declareType word t) = e.resolve env :=
    e.resolve_congr fun name _ _ => binding?_declareType env word t name
  rw [checkExpr_eq, checkExpr_eq, hresolve]

end Env

/-- **An alias changes the answers for its own word.** A type name is a word behind
some levels, in one way only. Behind the declaration of an alias the type names with
its word stand for arrays of its type, whatever the word meant before, built in or
not, and all others stand for what they stood for. A name that is no word is given to
the type without any effect. Variables and expressions have the types that they had. -/
theorem aliases_change_their_own_word (env : Env) (word : String) (t : Ty) :
    (∀ text, ∃! name, TypeName.Spells text name) ∧
    (∀ text name, TypeName.Spells text name →
      (env.declareType word t).type? text =
        if name.element = word then some (Ty.nest name.rank t) else env.type? text) ∧
    (TypeName.IsWord word → (env.declareType word t).type? word = some t) ∧
    (¬ TypeName.IsWord word → ∀ text, (env.declareType word t).type? text = env.type? text) ∧
    (∀ name, (env.declareType word t).binding? name = env.binding? name) ∧
    ∀ (options : Options) (e : SourceExpr), checkExpr options (env.declareType word t) e =
      { checkExpr options env e with env := env.declareType word t } := by
  refine ⟨?_, ?_, ?_, ?_, Env.binding?_declareType env word t,
    fun options => Env.checkExpr_declareType options env word t⟩
  · intro text
    exact ⟨TypeName.parse text, TypeName.spells_parse text, fun _ => TypeName.spells_iff.mp⟩
  · rintro text name hspells
    obtain rfl := TypeName.spells_iff.mp hspells
    exact env.type?_declareType word t text
  · intro hword
    rw [Env.type?_declareType, TypeName.parse_of_isWord hword, if_pos rfl, Ty.nest_zero]
  · intro hdead text
    have hother : (TypeName.parse text).element ≠ word := by
      rintro rfl
      exact hdead (TypeName.isWord_element text)
    rw [Env.type?_declareType, if_neg hother]

/-- A word that is built in and one that an outer scope has get new meanings, and a
name that begins with brackets has the one that it had. -/
theorem aliases_change_their_own_word_rows :
    let env : Env := (Env.empty.declareType "row" .string).push
    TypeName.Spells " [] []\u2003number\t" ⟨2, "number"⟩ ∧
    (env.declareType "number" .boolean).type? " [] []\u2003number\t" =
      some (.array (.array .boolean)) ∧
    TypeName.Spells "[]row" ⟨1, "row"⟩ ∧
    (env.declareType "number" .boolean).type? "[]row" = some (.array .string) ∧
    TypeName.IsWord "row" ∧ (env.declareType "row" .boolean).type? "row" = some .boolean ∧
    ¬ TypeName.IsWord "[]row" ∧
    (env.declareType "[]row" .boolean).type? "[]row" = some (.array .string) := by
  intro env
  have hnumber : TypeName.Spells " [] []\u2003number\t" ⟨2, "number"⟩ :=
    TypeName.spells_iff.mpr (by decide +kernel)
  have hrow : TypeName.Spells "[]row" ⟨1, "row"⟩ := TypeName.spells_iff.mpr (by decide +kernel)
  have hword : TypeName.IsWord "row" := by decide +kernel
  have hdead : ¬ TypeName.IsWord "[]row" := by decide +kernel
  have hfound : env.type? "[]row" = some (.array .string) := by decide +kernel
  obtain ⟨-, hread, -⟩ := aliases_change_their_own_word env "number" .boolean
  obtain ⟨-, -, hnew, -⟩ := aliases_change_their_own_word env "row" .boolean
  obtain ⟨-, -, -, hsame, -⟩ := aliases_change_their_own_word env "[]row" .boolean
  refine ⟨hnumber, ?_, hrow, ?_, hword, hnew hword, hdead, ?_⟩
  · rw [hread _ _ hnumber]
    rfl
  · rw [hread _ _ hrow, hfound]
    rfl
  · rw [hsame hdead, hfound]

end Gradual
