import Gradual.Text.Blank

/-!
# Type names

A program names a type by a word with a pair of brackets in front for each array level. Blanks may
stand around the whole, and behind each pair of brackets. What is left after the brackets is taken
as it is, also when nothing is left.
-/

namespace Gradual

structure TypeName where
  rank : Nat
  element : String
  deriving DecidableEq, Repr

namespace TypeName

/-- Counts the pairs of brackets that a text starts with, and gives the rest. Blanks before, between
and behind them are skipped. -/
def brackets : List Char → Nat × List Char
  | [] => (0, [])
  | [c] => if Text.isBlank c then (0, []) else (0, [c])
  | c :: d :: rest =>
      if Text.isBlank c then brackets (d :: rest)
      else if c = '[' ∧ d = ']' then ((brackets rest).1 + 1, (brackets rest).2)
      else (0, c :: d :: rest)

@[simp] theorem brackets_pair (rest : List Char) :
    brackets ('[' :: ']' :: rest) = ((brackets rest).1 + 1, (brackets rest).2) := rfl

theorem brackets_blank {c : Char} (h : Text.isBlank c = true) (rest : List Char) :
    brackets (c :: rest) = brackets rest := by
  cases rest <;> simp [brackets, h]

/-- Where neither a blank nor a pair of brackets stands in front, nothing is taken away. -/
theorem brackets_of_bare {cs : List Char} (hfirst : ∀ c ∈ cs.head?, Text.isBlank c = false)
    (hbare : ¬ ['[', ']'] <+: cs) : brackets cs = (0, cs) := by
  match cs with
  | [] => rfl
  | [c] =>
      have hc : Text.isBlank c = false := hfirst c rfl
      simp [brackets, hc]
  | c :: d :: rest =>
      have hc : Text.isBlank c = false := hfirst c rfl
      have hpair : ¬ (c = '[' ∧ d = ']') := by
        rintro ⟨rfl, rfl⟩
        exact hbare ⟨rest, rfl⟩
      simp [brackets, hc, hpair]

/-- A text begins with a blank, with a pair of brackets, or with neither. -/
theorem brackets_induct {motive : List Char → Prop}
    (blank : ∀ c rest, Text.isBlank c = true → motive rest → motive (c :: rest))
    (pair : ∀ rest, motive rest → motive ('[' :: ']' :: rest))
    (bare : ∀ cs, (∀ c ∈ cs.head?, Text.isBlank c = false) → ¬ ['[', ']'] <+: cs → motive cs)
    (cs : List Char) : motive cs := by
  have hnil : motive [] := bare [] (by simp) (by simp)
  induction cs using brackets.induct with
  | case1 => exact hnil
  | case2 c hc => exact blank c [] hc hnil
  | case3 c hc => exact bare [c] (by simpa using hc) (by simp)
  | case4 c d rest hc ih => exact blank c (d :: rest) hc ih
  | case5 c d rest hc hpair ih =>
      obtain ⟨rfl, rfl⟩ := hpair
      exact pair rest ih
  | case6 c d rest hc hpair =>
      refine bare (c :: d :: rest) (by simpa using hc) ?_
      rw [List.cons_prefix_cons, List.cons_prefix_cons]
      rintro ⟨rfl, rfl, -⟩
      exact hpair ⟨rfl, rfl⟩

def parse (text : String) : TypeName :=
  let split := brackets text.toList
  ⟨split.1, String.ofList (Text.trimEnd split.2)⟩

/-- A text that is a word as it stands: there is no blank at its ends, and it
does not begin with brackets. -/
def IsWord (text : String) : Prop :=
  (∀ c ∈ text.toList.head?, Text.isBlank c = false) ∧
  (∀ c ∈ text.toList.getLast?, Text.isBlank c = false) ∧ ¬ ['[', ']'] <+: text.toList

instance (text : String) : Decidable (IsWord text) :=
  decidable_of_iff
    (text.toList.head?.all (!Text.isBlank ·) ∧ text.toList.getLast?.all (!Text.isBlank ·) ∧
      ¬ ['[', ']'] <+: text.toList)
    (by simp [IsWord, Option.all_eq_true])

theorem brackets_of_isWord {text : String} (h : IsWord text) :
    brackets text.toList = (0, text.toList) :=
  brackets_of_bare h.1 h.2.2

/-- A word names itself. -/
theorem parse_of_isWord {text : String} (h : IsWord text) : parse text = ⟨0, text⟩ := by
  have hlast : Text.trimEnd text.toList = text.toList := Text.trimEnd_of_last h.2.1
  rw [parse, brackets_of_isWord h, hlast, String.ofList_toList]

end TypeName

end Gradual
