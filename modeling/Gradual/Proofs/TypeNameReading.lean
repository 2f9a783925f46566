import Mathlib.Computability.RegularExpressions
import Gradual.Proofs.TypeNames

/-!
# Reading type names

There are three ways to read a type name. The environment takes it apart in one
go, brackets and blanks from left to right, and trims what is left
(`Env.type?`). One can also go down level by level, and trim the text and take
one pair of brackets away each time (`Env.readLevels`). And one can trim the text
once, match a pattern against its beginning, count the brackets in the match and
wrap what the rest means as often (`Env.readPattern`).

The three agree on every text. What carries the proof is that brackets come off
alike from the front of a text and from the front of its trimmed form: blanks in
front are skipped, and blanks at the end get into the rest, where they are trimmed
(`TypeName.parse_trim`).
-/

namespace Gradual

/-! ## Blanks around a type name -/

namespace TypeName

theorem brackets_blanks_append {before : List Char} (h : ∀ c ∈ before, Text.isBlank c = true)
    (cs : List Char) : brackets (before ++ cs) = brackets cs := by
  induction before with
  | nil => rfl
  | cons c before ih =>
      obtain ⟨hc, hbefore⟩ := List.forall_mem_cons.mp h
      rw [List.cons_append, brackets_blank hc, ih hbefore]

/-- Blanks behind a text get into the rest, and go when that is trimmed. -/
theorem brackets_append_blanks {after : List Char} (h : ∀ c ∈ after, Text.isBlank c = true)
    (cs : List Char) :
    (brackets (cs ++ after)).1 = (brackets cs).1 ∧
      Text.trimEnd (brackets (cs ++ after)).2 = Text.trimEnd (brackets cs).2 := by
  induction cs using brackets_induct with
  | blank c rest hc ih => rwa [List.cons_append, brackets_blank hc, brackets_blank hc]
  | pair rest ih =>
      rw [List.cons_append, List.cons_append, brackets_pair, brackets_pair]
      exact ⟨congrArg (· + 1) ih.1, ih.2⟩
  | bare cs hfirst hbare =>
      rw [brackets_of_bare hfirst hbare]
      cases cs with
      | nil =>
          have hblank := brackets_blanks_append h []
          rw [List.append_nil] at hblank
          rw [List.nil_append, hblank]
          exact ⟨rfl, rfl⟩
      | cons c cs =>
          -- A bracket is no blank, so no pair is completed by what comes behind.
          have hstill : ¬ ['[', ']'] <+: c :: (cs ++ after) := by
            intro hpair
            obtain ⟨rfl, hclose⟩ := List.cons_prefix_cons.mp hpair
            cases cs with
            | nil =>
                have hblank : Text.isBlank ']' = true := h ']' (hclose.subset (by simp))
                exact absurd hblank (by decide)
            | cons d rest =>
                obtain ⟨rfl, -⟩ := List.cons_prefix_cons.mp hclose
                exact hbare ⟨rest, rfl⟩
          have hsame : brackets (c :: (cs ++ after)) = (0, c :: (cs ++ after)) :=
            brackets_of_bare hfirst hstill
          rw [List.cons_append, hsame]
          exact ⟨rfl, Text.trimEnd_append h (c :: cs)⟩

theorem parse_trim (cs : List Char) :
    parse (String.ofList (Text.trim cs)) = parse (String.ofList cs) := by
  obtain ⟨before, after, hbefore, hafter, heq⟩ := Text.exists_trim cs
  obtain ⟨hrank, helement⟩ := brackets_append_blanks hafter (Text.trim cs)
  simp only [parse, String.toList_ofList]
  rw [congrArg brackets heq, brackets_blanks_append hbefore, hrank, helement]

end TypeName

namespace Env

/-- Blanks at the ends of a type name make no difference. -/
theorem type?_blanks (env : Env) {before after : String}
    (hbefore : ∀ c ∈ before.toList, Text.isBlank c = true)
    (hafter : ∀ c ∈ after.toList, Text.isBlank c = true) (text : String) :
    env.type? (before ++ text ++ after) = env.type? text := by
  obtain ⟨hrank, helement⟩ := TypeName.brackets_append_blanks hafter text.toList
  have hparse : TypeName.parse (before ++ text ++ after) = TypeName.parse text := by
    rw [TypeName.parse, String.toList_append, String.toList_append, List.append_assoc,
      TypeName.brackets_blanks_append hbefore, hrank, helement]
    rfl
  rw [type?, hparse]
  rfl

theorem type?_trim (env : Env) (cs : List Char) :
    env.type? (String.ofList (Text.trim cs)) = env.type? (String.ofList cs) := by
  rw [type?, type?, TypeName.parse_trim]

/-! ## Level by level -/

/-- Reads a trimmed text. With a pair of brackets in front it is an array of what
stands behind them, read the same way. Everything else is a word. -/
def readLevels (env : Env) (cs : List Char) : Option Ty :=
  match _h : Text.trim cs with
  | '[' :: ']' :: rest => (env.readLevels rest).map .array
  | word => env.word? (String.ofList word)
termination_by cs.length
decreasing_by
  have hlength := Text.length_trim_le cs
  rw [_h, List.length_cons, List.length_cons] at hlength
  omega

theorem readLevels_of_pair {env : Env} {cs rest : List Char}
    (h : Text.trim cs = '[' :: ']' :: rest) :
    env.readLevels cs = (env.readLevels rest).map .array := by
  rw [readLevels]
  split
  · rename_i rest' h'
    rw [h] at h'
    cases h'
    rfl
  · rename_i hbare
    exact absurd h (hbare rest)

theorem readLevels_of_word {env : Env} {cs : List Char} (h : ¬ ['[', ']'] <+: Text.trim cs) :
    env.readLevels cs = env.word? (String.ofList (Text.trim cs)) := by
  rw [readLevels]
  split
  · rename_i rest h'
    exact absurd ⟨rest, h'.symm⟩ h
  · rfl

theorem type?_eq_readLevels (env : Env) (cs : List Char) :
    env.type? (String.ofList cs) = env.readLevels cs := by
  induction cs using readLevels.induct with
  | case1 cs rest h ih =>
      have hlevel : String.ofList (Text.trim cs) = "[]" ++ String.ofList rest := by
        rw [h, ← String.toList_inj, String.toList_append]
        simp
      rw [readLevels_of_pair h, ← type?_trim, hlevel, type?_brackets, ih]
  | case2 cs hbare =>
      have hpair : ¬ ['[', ']'] <+: Text.trim cs := by
        rintro ⟨rest, hrest⟩
        exact hbare rest hrest.symm
      have hword : TypeName.IsWord (String.ofList (Text.trim cs)) := by
        rw [TypeName.IsWord, String.toList_ofList]
        exact ⟨fun _ => Text.not_isBlank_of_head?_trim, fun _ =>
          Text.not_isBlank_of_getLast?_trim, hpair⟩
      rw [readLevels_of_word hpair, ← type?_trim, type?_of_isWord hword]

end Env

/-! ## By a pattern -/

namespace TypeName

open RegularExpression

/-- All characters that are blank. -/
def blanks : List Char :=
  ((List.range 0x3001).map Char.ofNat).filter Text.isBlank

theorem mem_blanks {c : Char} : c ∈ blanks ↔ Text.isBlank c = true := by
  rw [blanks, List.mem_filter, and_iff_right_iff_imp]
  intro hc
  refine List.mem_map.mpr ⟨c.toNat, List.mem_range.mpr ?_, Char.ofNat_toNat c⟩
  simp only [Text.isBlank, Bool.or_eq_true, Bool.and_eq_true, decide_eq_true_eq, beq_iff_eq] at hc
  omega

/-- A pair of brackets and the blanks behind it. -/
def level : RegularExpression Char :=
  char '[' * char ']' * (blanks.map char).sum.star

/-- What may stand in front of the word of a type name: one level or more. -/
def levels : RegularExpression Char :=
  level * level.star

/-- The longest beginning of a text that matches a pattern. -/
def longestMatch? (pattern : RegularExpression Char) (cs : List Char) : Option (List Char) :=
  cs.inits.reverse.find? pattern.rmatch

/-- How many pairs of brackets there are in a text. -/
def pairs : List Char → Nat
  | [] => 0
  | [_] => 0
  | c :: d :: rest => if c = '[' ∧ d = ']' then pairs rest + 1 else pairs (d :: rest)

theorem mem_matches'_char {w : List Char} {c : Char} : w ∈ (char c).matches' ↔ w = [c] :=
  Iff.rfl

theorem mem_matches'_sum_char {w : List Char} (cs : List Char) :
    w ∈ (cs.map char).sum.matches' ↔ ∃ c ∈ cs, w = [c] := by
  induction cs with
  | nil => simp
  | cons c cs ih =>
      rw [List.map_cons, List.sum_cons, matches'_add, Language.mem_add, ih, mem_matches'_char]
      simp

theorem mem_matches'_star_sum_char {w : List Char} (cs : List Char) :
    w ∈ (cs.map char).sum.star.matches' ↔ ∀ c ∈ w, c ∈ cs := by
  rw [matches'_star, Language.mem_kstar]
  constructor
  · rintro ⟨ws, rfl, hws⟩ c hc
    obtain ⟨v, hv, hcv⟩ := List.mem_flatten.mp hc
    obtain ⟨d, hd, rfl⟩ := (mem_matches'_sum_char cs).mp (hws v hv)
    rwa [List.mem_singleton.mp hcv]
  · intro hw
    refine ⟨w.map ([·]), (List.flatMap_singleton' w).symm, ?_⟩
    intro v hv
    obtain ⟨c, hc, rfl⟩ := List.mem_map.mp hv
    exact (mem_matches'_sum_char cs).mpr ⟨c, hw c hc, rfl⟩

theorem mem_level {w : List Char} :
    w ∈ level.matches' ↔ ∃ after, (∀ c ∈ after, Text.isBlank c = true) ∧
      w = '[' :: ']' :: after := by
  simp only [level, matches'_mul, Language.mem_mul, mem_matches'_char,
    mem_matches'_star_sum_char, mem_blanks]
  constructor
  · rintro ⟨_, ⟨_, rfl, _, rfl, rfl⟩, after, hafter, rfl⟩
    exact ⟨after, hafter, rfl⟩
  · rintro ⟨after, hafter, rfl⟩
    exact ⟨_, ⟨_, rfl, _, rfl, rfl⟩, after, hafter, rfl⟩

theorem mem_levels {w : List Char} :
    w ∈ levels.matches' ↔ ∃ ls ≠ [], (∀ l ∈ ls, l ∈ level.matches') ∧ w = ls.flatten := by
  simp only [levels, matches'_mul, matches'_star, Language.mem_mul, Language.mem_kstar]
  constructor
  · rintro ⟨l, hl, _, ⟨ls, rfl, hls⟩, rfl⟩
    exact ⟨l :: ls, List.cons_ne_nil l ls, List.forall_mem_cons.mpr ⟨hl, hls⟩, rfl⟩
  · rintro ⟨ls, hne, hls, rfl⟩
    cases ls with
    | nil => exact absurd rfl hne
    | cons l ls =>
        obtain ⟨hl, hls⟩ := List.forall_mem_cons.mp hls
        exact ⟨l, hl, _, ⟨ls, rfl, hls⟩, rfl⟩

/-! ### What the brackets of a type name are -/

/-- Levels that stand in front of a text are taken away and counted. -/
theorem brackets_levels_append {ls : List (List Char)} (h : ∀ l ∈ ls, l ∈ level.matches')
    (cs : List Char) :
    brackets (ls.flatten ++ cs) = (ls.length + (brackets cs).1, (brackets cs).2) := by
  induction ls with
  | nil => rw [List.flatten_nil, List.nil_append, List.length_nil, Nat.zero_add]
  | cons l ls ih =>
      obtain ⟨hl, hls⟩ := List.forall_mem_cons.mp h
      obtain ⟨after, hafter, rfl⟩ := mem_level.mp hl
      rw [List.flatten_cons, List.append_assoc, List.cons_append, List.cons_append, brackets_pair,
        brackets_blanks_append hafter, ih hls, List.length_cons, Nat.add_right_comm]

theorem pairs_pair (cs : List Char) : pairs ('[' :: ']' :: cs) = pairs cs + 1 :=
  rfl

theorem pairs_blanks_append {after : List Char} (h : ∀ c ∈ after, Text.isBlank c = true)
    (cs : List Char) : pairs (after ++ cs) = pairs cs := by
  induction after with
  | nil => rfl
  | cons c after ih =>
      obtain ⟨hc, hafter⟩ := List.forall_mem_cons.mp h
      have hopen : c ≠ '[' := by
        rintro rfl
        exact absurd hc (by decide)
      have hskip : ∀ ds, pairs (c :: ds) = pairs ds := by
        intro ds
        cases ds <;> simp [pairs, hopen]
      rw [List.cons_append, hskip, ih hafter]

theorem pairs_levels {ls : List (List Char)} (h : ∀ l ∈ ls, l ∈ level.matches') :
    pairs ls.flatten = ls.length := by
  induction ls with
  | nil => rfl
  | cons l ls ih =>
      obtain ⟨hl, hls⟩ := List.forall_mem_cons.mp h
      obtain ⟨after, hafter, rfl⟩ := mem_level.mp hl
      rw [List.flatten_cons, List.cons_append, List.cons_append, pairs_pair,
        pairs_blanks_append hafter, ih hls, List.length_cons]

/-- What is taken away in front of a text is levels, behind the blanks in front. -/
theorem exists_levels (cs : List Char) :
    ∃ ls : List (List Char), (∀ l ∈ ls, l ∈ level.matches') ∧ ls.length = (brackets cs).1 ∧
      cs.dropWhile Text.isBlank = ls.flatten ++ (brackets cs).2 := by
  induction cs using brackets_induct with
  | blank c rest hc ih => rwa [brackets_blank hc, List.dropWhile_cons_of_pos hc]
  | pair rest ih =>
      obtain ⟨ls, hls, hlength, hrest⟩ := ih
      have hlevel : '[' :: ']' :: rest.takeWhile Text.isBlank ∈ level.matches' :=
        mem_level.mpr ⟨_, List.all_eq_true.mp List.all_takeWhile, rfl⟩
      refine ⟨_ :: ls, List.forall_mem_cons.mpr ⟨hlevel, hls⟩, ?_, ?_⟩
      · rw [List.length_cons, hlength, brackets_pair]
      · rw [List.flatten_cons, brackets_pair, List.append_assoc, ← hrest, List.cons_append,
          List.cons_append, List.takeWhile_append_dropWhile]
        rfl
  | bare cs hfirst hbare =>
      refine ⟨[], by simp, by rw [brackets_of_bare hfirst hbare]; rfl, ?_⟩
      rw [brackets_of_bare hfirst hbare, Text.dropWhile_of_first hfirst]
      rfl

theorem length_brackets_le (cs : List Char) : (brackets cs).2.length ≤ cs.length := by
  obtain ⟨ls, -, -, hrest⟩ := exists_levels cs
  have hlength := congrArg List.length hrest
  rw [List.length_append] at hlength
  have hdrop := (List.dropWhile_suffix Text.isBlank (l := cs)).length_le
  omega

/-! ### The longest match -/

theorem longestMatch?_eq_none {pattern : RegularExpression Char} {cs : List Char}
    (h : ∀ w, w <+: cs → w ∉ pattern.matches') : longestMatch? pattern cs = none := by
  rw [longestMatch?, List.find?_eq_none]
  intro w hw
  rw [List.mem_reverse, List.mem_inits] at hw
  rw [rmatch_iff_matches']
  exact h w hw

theorem longestMatch?_eq_some {pattern : RegularExpression Char} {cs w : List Char}
    (hfront : w <+: cs) (hw : w ∈ pattern.matches')
    (hlongest : ∀ v, v <+: cs → v ∈ pattern.matches' → v.length ≤ w.length) :
    longestMatch? pattern cs = some w := by
  have hmatch : pattern.rmatch w = true := (rmatch_iff_matches' pattern w).mpr hw
  induction cs using List.reverseRecOn with
  | nil =>
      obtain rfl := List.prefix_nil.mp hfront
      exact List.find?_cons_of_pos hmatch
  | append_singleton cs c ih =>
      have hinits : (cs ++ [c]).inits.reverse = (cs ++ [c]) :: cs.inits.reverse := by
        simp [List.inits_append]
      rw [longestMatch?, hinits]
      rcases List.prefix_concat_iff.mp hfront with rfl | hfront
      · exact List.find?_cons_of_pos hmatch
      · have hwhole : ¬ pattern.rmatch (cs ++ [c]) = true := by
          rw [rmatch_iff_matches']
          intro hmem
          have hle := hlongest _ (List.prefix_refl _) hmem
          have hlt := hfront.length_le
          rw [List.length_append, List.length_singleton] at hle
          omega
        rw [List.find?_cons_of_neg hwhole]
        exact ih hfront fun v hv => hlongest v (hv.trans (List.prefix_append cs [c]))

/-- A text that begins with no blank is levels and a rest, of which the levels are
what the pattern matches. -/
theorem longestMatch?_levels {cs : List Char} (hfirst : ∀ c ∈ cs.head?, Text.isBlank c = false) :
    (longestMatch? levels cs = none ∧ brackets cs = (0, cs)) ∨
      ∃ found, longestMatch? levels cs = some found ∧ cs = found ++ (brackets cs).2 ∧
        pairs found = (brackets cs).1 := by
  obtain ⟨ls, hls, hlength, hsplit⟩ := exists_levels cs
  rw [Text.dropWhile_of_first hfirst] at hsplit
  by_cases hne : ls = []
  · left
    subst hne
    refine ⟨longestMatch?_eq_none ?_, Prod.ext hlength.symm hsplit.symm⟩
    rintro w ⟨rest, rfl⟩ hw
    obtain ⟨ls, hne, hls, rfl⟩ := mem_levels.mp hw
    rw [brackets_levels_append hls] at hlength
    have hzero : ls.length + (brackets rest).1 = 0 := hlength.symm
    exact hne (List.length_eq_zero_iff.mp (Nat.add_eq_zero_iff.mp hzero).1)
  · right
    refine ⟨ls.flatten, ?_, hsplit, by rw [pairs_levels hls, hlength]⟩
    refine longestMatch?_eq_some ⟨_, hsplit.symm⟩ (mem_levels.mpr ⟨ls, hne, hls, rfl⟩) ?_
    rintro w ⟨rest, rfl⟩ hw
    obtain ⟨ls', -, hls', rfl⟩ := mem_levels.mp hw
    -- What is left behind all levels is left behind these as well.
    have hsame : (brackets (ls'.flatten ++ rest)).2 = (brackets rest).2 := by
      rw [brackets_levels_append hls']
    have htotal := congrArg List.length hsplit
    rw [hsame, List.length_append, List.length_append] at htotal
    have hrest := length_brackets_le rest
    omega

end TypeName

namespace Env

/-- Matches a pattern against the trimmed text. A text that begins with levels is
an array of what the rest means, with a level for each pair of brackets in the
match. -/
def readPattern (env : Env) (cs : List Char) : Option Ty :=
  let name := Text.trim cs
  match TypeName.longestMatch? TypeName.levels name with
  | some found =>
      (env.word? (String.ofList (name.drop found.length))).map (Ty.nest (TypeName.pairs found))
  | none => env.word? (String.ofList name)

theorem type?_eq_readPattern (env : Env) (cs : List Char) :
    env.type? (String.ofList cs) = env.readPattern cs := by
  have hfirst : ∀ c ∈ (Text.trim cs).head?, Text.isBlank c = false := fun _ =>
    Text.not_isBlank_of_head?_trim
  have hlast : ∀ c ∈ (Text.trim cs).getLast?, Text.isBlank c = false := fun _ =>
    Text.not_isBlank_of_getLast?_trim
  rw [← type?_trim, readPattern, type?, TypeName.parse, String.toList_ofList]
  rcases TypeName.longestMatch?_levels hfirst with
    ⟨hnone, hbrackets⟩ | ⟨found, hsome, hsplit, hpairs⟩
  · simp only [hnone, hbrackets, Text.trimEnd_of_last hlast]
    exact Option.map_id_apply
  · have hdrop : (Text.trim cs).drop found.length = (TypeName.brackets (Text.trim cs)).2 := by
      conv_lhs => rw [hsplit, List.drop_left]
    have hrest : Text.trimEnd (TypeName.brackets (Text.trim cs)).2 =
        (TypeName.brackets (Text.trim cs)).2 := by
      refine Text.trimEnd_of_last fun c hc => hlast c ?_
      rw [hsplit, List.getLast?_append, Option.mem_def.mp hc]
      rfl
    simp only [hsome, hdrop, hrest, hpairs]

end Env

/-! ## Type names of a program -/

/-- Looking up a type name that a program writes. -/
theorem TypeRef.run_check (env : Env) (position : Position) (text : String) (log : Log) :
    (TypeRef.check env position ⟨text, ()⟩).run log =
      (⟨text, env.type? text⟩, if (env.type? text).isSome then log
        else log.push ⟨.unknownType text, position⟩) := by
  rw [check, Env.resolveType]
  cases env.type? text <;> rfl

/-- **Type names are read level by level.** What a type name stands for is what is
found when it is trimmed and taken apart one pair of brackets at a time, down to a
word, and also what is found when a pattern is matched against its beginning and the
brackets in the match are counted. So a pair of brackets in front makes an array of
the same, and blanks at the ends make no difference. A program that writes a type
name gets this type, and nothing is reported; where there is none it gets the
wildcard, and the name is reported as it is written, once. -/
theorem type_names_are_read_level_by_level (env : Env) (text : String) :
    env.type? text = env.readLevels text.toList ∧
    env.type? text = env.readPattern text.toList ∧
    env.type? ("[]" ++ text) = (env.type? text).map .array ∧
    (∀ before after : String, (∀ c ∈ before.toList, Text.isBlank c = true) →
      (∀ c ∈ after.toList, Text.isBlank c = true) →
        env.type? (before ++ text ++ after) = env.type? text) ∧
    ∀ position log, let result := (TypeRef.check env position ⟨text, ()⟩).run log
      result.1.ty = (env.type? text).getD .any ∧
      result.2 = if (env.type? text).isSome then log
        else log.push ⟨.unknownType text, position⟩ := by
  refine ⟨?_, ?_, ?_, ?_, ?_⟩
  · rw [← Env.type?_eq_readLevels, String.ofList_toList]
  · rw [← Env.type?_eq_readPattern, String.ofList_toList]
  · exact Env.type?_brackets env text
  · intro before after hbefore hafter
    exact Env.type?_blanks env hbefore hafter text
  · intro position log result
    rw [show result = _ from TypeRef.run_check env position text log]
    exact ⟨rfl, rfl⟩

/-- An environment where the word without letters stands for a type. -/
def emptyWord : Env :=
  Env.empty.declareType "" .boolean

/-- Blanks of several scripts around two levels, with nothing behind them. -/
theorem type_names_are_read_level_by_level_blanks :
    (∀ c ∈ "\u3000\t".toList, Text.isBlank c = true) ∧
    (∀ c ∈ "\u2029 ".toList, Text.isBlank c = true) ∧
    emptyWord.type? ("\u3000\t" ++ "[]\u00a0[]" ++ "\u2029 ") =
      some (.array (.array .boolean)) := by
  have hbefore : ∀ c ∈ "\u3000\t".toList, Text.isBlank c = true :=
    List.all_eq_true.mp (by decide +kernel)
  have hafter : ∀ c ∈ "\u2029 ".toList, Text.isBlank c = true :=
    List.all_eq_true.mp (by decide +kernel)
  obtain ⟨-, -, -, hblanks, -⟩ :=
    type_names_are_read_level_by_level emptyWord "[]\u00a0[]"
  refine ⟨hbefore, hafter, ?_⟩
  rw [hblanks _ _ hbefore hafter]
  decide +kernel

/-- Only brackets that close at once count, and a bracket that is left over belongs to
the word. -/
example :
    (Env.empty.declareType "]" .string).type? "[] []]" = some (.array (.array .string)) ∧
    Env.empty.type? "[ ]number" = none := by
  decide +kernel

end Gradual
