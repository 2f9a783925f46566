/-!
# Blanks

The characters that separate words in any script: the Unicode property White_Space.
-/

namespace Gradual.Text

/-- The property White_Space. It has twenty-five members. -/
def isBlank (c : Char) : Bool :=
  let n := c.toNat
  (0x9 ≤ n && n ≤ 0xD) || n == 0x20 || n == 0x85 || n == 0xA0 || n == 0x1680
    || (0x2000 ≤ n && n ≤ 0x200A) || n == 0x2028 || n == 0x2029 || n == 0x202F || n == 0x205F
    || n == 0x3000

def trimEnd (cs : List Char) : List Char :=
  (cs.reverse.dropWhile isBlank).reverse

theorem dropWhile_of_first {cs : List Char} (h : ∀ c ∈ cs.head?, isBlank c = false) :
    cs.dropWhile isBlank = cs := by
  cases cs with
  | nil => rfl
  | cons c cs => exact List.dropWhile_cons_of_neg (Bool.eq_false_iff.mp (h c rfl))

theorem trimEnd_of_last {cs : List Char} (h : ∀ c ∈ cs.getLast?, isBlank c = false) :
    trimEnd cs = cs := by
  rw [← List.head?_reverse] at h
  rw [trimEnd, dropWhile_of_first h, List.reverse_reverse]

/-! ## Trimming -/

def trim (cs : List Char) : List Char :=
  trimEnd (cs.dropWhile isBlank)

theorem trimEnd_append {after : List Char} (h : ∀ c ∈ after, isBlank c = true)
    (cs : List Char) : trimEnd (cs ++ after) = trimEnd cs := by
  have hreverse : ∀ c ∈ after.reverse, isBlank c = true := fun c hc =>
    h c (List.mem_reverse.mp hc)
  rw [trimEnd, List.reverse_append, List.dropWhile_append_of_pos hreverse, trimEnd]

theorem exists_trimEnd_append (cs : List Char) :
    ∃ after, (∀ c ∈ after, isBlank c = true) ∧ cs = trimEnd cs ++ after := by
  refine ⟨(cs.reverse.takeWhile isBlank).reverse, ?_, ?_⟩
  · intro c hc
    exact List.all_eq_true.mp List.all_takeWhile c (List.mem_reverse.mp hc)
  · rw [trimEnd, ← List.reverse_append, List.takeWhile_append_dropWhile, List.reverse_reverse]

/-- A text is what is left of it when it is trimmed, with blanks at both ends. -/
theorem exists_trim (cs : List Char) :
    ∃ before after, (∀ c ∈ before, isBlank c = true) ∧ (∀ c ∈ after, isBlank c = true) ∧
      cs = before ++ (trim cs ++ after) := by
  obtain ⟨after, hafter, heq⟩ := exists_trimEnd_append (cs.dropWhile isBlank)
  refine ⟨cs.takeWhile isBlank, after, List.all_eq_true.mp List.all_takeWhile, hafter, ?_⟩
  rw [trim, ← heq, List.takeWhile_append_dropWhile]

theorem length_trim_le (cs : List Char) : (trim cs).length ≤ cs.length := by
  obtain ⟨before, after, -, -, heq⟩ := exists_trim cs
  have hlength := congrArg List.length heq
  simp only [List.length_append] at hlength
  omega

theorem not_isBlank_of_getLast?_trim {cs : List Char} {c : Char}
    (h : c ∈ (trim cs).getLast?) : isBlank c = false := by
  rw [trim, trimEnd, List.getLast?_reverse] at h
  have hfirst := List.head?_dropWhile_not isBlank (cs.dropWhile isBlank).reverse
  rw [Option.mem_def.mp h] at hfirst
  exact hfirst

theorem not_isBlank_of_head?_trim {cs : List Char} {c : Char}
    (h : c ∈ (trim cs).head?) : isBlank c = false := by
  obtain ⟨after, -, heq⟩ := exists_trimEnd_append (cs.dropWhile isBlank)
  have hhead : (cs.dropWhile isBlank).head? = some c := by
    rw [heq, List.head?_append, ← trim, Option.mem_def.mp h]
    rfl
  have hfirst := List.head?_dropWhile_not isBlank cs
  rw [hhead] at hfirst
  exact hfirst

end Gradual.Text
