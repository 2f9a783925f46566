import Mathlib.Data.List.DropRight
import Gradual.Proofs.Lines

/-!
# The caret

A diagnostic is drawn with its source line and a caret below it. The caret stands
under the character that was reported: bytes are turned into characters, the spaces
that indent the line are gone from the line and from the way to the caret, and what
stands in front of both is as wide as the number of the line.

The last three lines of a drawing are described from the reported character and the
text on both sides of it (`Text.Mark`), in characters and without a search. The search
finds the same line (`Text.Mark.locate_eq`), and the bytes that it gives as the offset
in the line are as many characters as stand in front of the mark
(`Text.charsWithin_append`).
-/

namespace Gradual

namespace Text

/-- The bytes of the beginning of a text hold the characters of this beginning. -/
theorem charsWithin_append (cs ds : List Char) :
    charsWithin (byteLength cs) (cs ++ ds) = some cs.length := by
  induction cs with
  | nil => rw [byteLength_nil, charsWithin, List.length_nil]
  | cons c cs ih =>
      obtain ⟨bytes, hbytes⟩ : ∃ bytes, byteLength (c :: cs) = bytes + 1 := by
        have hpos := c.utf8Size_pos
        rw [byteLength_cons]
        exact ⟨c.utf8Size + byteLength cs - 1, by omega⟩
      have hrest : bytes + 1 - c.utf8Size = byteLength cs := by
        rw [byteLength_cons] at hbytes
        omega
      have hfits : c.utf8Size ≤ bytes + 1 := by
        rw [byteLength_cons] at hbytes
        omega
      rw [hbytes, List.cons_append, charsWithin, if_pos hfits, hrest, ih, List.length_cons]
      rfl

theorem newline_notMem_toString (n : Nat) : '\n' ∉ (toString n).toList := by
  rw [Nat.toString_eq_repr, Nat.toList_repr]
  intro h
  have hdigit : '\n'.isDigit = true := Nat.isDigit_of_mem_toDigits (by decide) (by decide) h
  exact absurd hdigit (by decide)

/-! ## A marked character -/

/-- A text with a mark on one of its characters. -/
structure Mark where
  before : List Char
  char : Char
  behind : List Char

namespace Mark

/-- The text without the mark. -/
def text (m : Mark) : String :=
  String.ofList (m.before ++ m.char :: m.behind)

/-- How many bytes stand in front of the marked character. -/
def offset (m : Mark) : Nat :=
  (String.ofList m.before).utf8ByteSize

/-- What stands in front of the marked character in its line. -/
def head (m : Mark) : List Char :=
  m.before.rtakeWhile (· ≠ '\n')

/-- The line of the marked character, without the newline that ends it. -/
def line (m : Mark) : List Char :=
  m.head ++ (m.char :: m.behind).takeWhile (· ≠ '\n')

/-- The number of this line, counted from one. -/
def number (m : Mark) : Nat :=
  1 + m.before.count '\n'

/-- The lines above, each with its newline. -/
def above (m : Mark) : List Char :=
  m.before.rdropWhile (· ≠ '\n')

/-- The newline that ends the line, if there is one. -/
def ending (m : Mark) : List Char :=
  ((m.char :: m.behind).dropWhile (· ≠ '\n')).take 1

/-- What follows the line. -/
def below (m : Mark) : List Char :=
  ((m.char :: m.behind).dropWhile (· ≠ '\n')).drop 1

theorem above_append_head (m : Mark) : m.above ++ m.head = m.before :=
  List.rdropWhile_append_rtakeWhile

theorem newline_notMem_head (m : Mark) : '\n' ∉ m.head := by
  intro h
  simpa using List.mem_rtakeWhile_imp h

theorem newline_notMem_line (m : Mark) : '\n' ∉ m.line := by
  rw [line, List.mem_append]
  rintro (h | h)
  · exact m.newline_notMem_head h
  · simpa using List.mem_takeWhile_imp h

theorem ended_above (m : Mark) : Ended m.above := by
  by_cases hne : m.above = []
  · exact Or.inl hne
  · have hlast : ¬ decide (m.above.getLast hne ≠ '\n') = true :=
      List.rdropWhile_last_not (· ≠ '\n') m.before hne
    refine Or.inr ?_
    rw [List.getLast?_eq_some_getLast hne]
    simpa using hlast

/-- The line ends where the text does, or with a newline. -/
theorem ending_cases (m : Mark) : (m.ending = [] ∧ m.below = []) ∨ m.ending = ['\n'] := by
  rw [ending, below]
  have hfirst := List.head?_dropWhile_not (· ≠ '\n') (m.char :: m.behind)
  cases hrest : (m.char :: m.behind).dropWhile (· ≠ '\n') with
  | nil => exact Or.inl ⟨rfl, rfl⟩
  | cons c rest =>
      rw [hrest] at hfirst
      refine Or.inr ?_
      simpa using hfirst

/-- What is left of the line at the mark begins with the marked character. -/
theorem exists_line_append_ending (m : Mark) :
    ∃ rest, m.line ++ m.ending = m.head ++ m.char :: rest := by
  by_cases hchar : m.char = '\n'
  · exact ⟨[], by simp [line, ending, hchar]⟩
  · exact ⟨m.behind.takeWhile (· ≠ '\n') ++ m.ending, by simp [line, hchar]⟩

theorem toList_text (m : Mark) :
    m.text.toList = m.above ++ (m.line ++ m.ending) ++ m.below := by
  have hrest : m.char :: m.behind =
      (m.char :: m.behind).takeWhile (· ≠ '\n') ++ (m.ending ++ m.below) := by
    rw [ending, below, List.take_append_drop, List.takeWhile_append_dropWhile]
  rw [text, String.toList_ofList, ← m.above_append_head, hrest, line]
  simp only [List.append_assoc]

/-- The line of the mark is a line of the text. -/
theorem isLine (m : Mark) : IsLine m.above (m.line ++ m.ending) m.below := by
  refine ⟨m.ended_above, ?_, ?_⟩
  · intro h
    rcases m.ending_cases with ⟨hending, -⟩ | hending
    · rw [hending, List.append_nil] at h
      exact m.newline_notMem_line (List.dropLast_subset _ h)
    · rw [hending, List.dropLast_concat] at h
      exact m.newline_notMem_line h
  · rcases m.ending_cases with ⟨-, hbelow⟩ | hending
    · exact Or.inl hbelow
    · exact Or.inr (by rw [hending, List.getLast?_concat])

/-- The search finds the line of the mark. -/
theorem locate_eq (m : Mark) : locate m.text m.offset =
    .ok ⟨m.number, String.ofList (m.line ++ m.ending), byteLength m.head⟩ := by
  have hlt : byteLength m.head < byteLength (m.line ++ m.ending) := by
    obtain ⟨rest, hline⟩ := m.exists_line_append_ending
    have hpos := m.char.utf8Size_pos
    rw [hline, byteLength_append, byteLength_cons]
    omega
  have hoffset : byteLength m.above + byteLength m.head = m.offset := by
    rw [← byteLength_append, m.above_append_head, offset, byteLength_ofList]
  have hnumber : 1 + m.above.count '\n' = m.number := by
    rw [number, ← m.above_append_head, List.count_append,
      List.count_eq_zero.mpr m.newline_notMem_head, Nat.add_zero]
  have hplace := m.isLine.placeIn_eq 1 hlt
  rw [hoffset, hnumber, ← m.toList_text] at hplace
  rw [locate, hplace]

/-- In one text there is one mark at an offset. -/
theorem eq_of_offset_eq {m m' : Mark} (htext : m'.text = m.text) (hoffset : m'.offset = m.offset) :
    m' = m := by
  obtain ⟨before, c, behind⟩ := m
  obtain ⟨before', c', behind'⟩ := m'
  have hlist : before' ++ c' :: behind' = before ++ c :: behind := String.ofList_injective htext
  have hbytes : byteLength before' = byteLength before := by
    rw [byteLength_ofList, byteLength_ofList]
    exact hoffset
  have hchars := charsWithin_append before (c :: behind)
  rw [← hlist, ← hbytes, charsWithin_append, Option.some.injEq] at hchars
  obtain ⟨rfl, hrest⟩ := List.append_inj hlist hchars
  cases hrest
  rfl

/-- Every offset at the beginning of a character marks this character. -/
theorem exists_of_isValid {source : String} {offset : Nat}
    (hboundary : (⟨offset⟩ : String.Pos.Raw).IsValid source)
    (hlt : offset < source.utf8ByteSize) :
    ∃ m : Mark, m.text = source ∧ m.offset = offset := by
  obtain ⟨front, back, rfl, hfront⟩ := String.Pos.Raw.isValid_iff_exists_append.mp hboundary
  have hsize : offset = front.utf8ByteSize := congrArg String.Pos.Raw.byteIdx hfront
  cases hback : back.toList with
  | nil =>
      rw [String.utf8ByteSize_append, ← byteLength_toList back, hback, byteLength_nil] at hlt
      omega
  | cons c rest =>
      refine ⟨⟨front.toList, c, rest⟩, ?_, ?_⟩
      · rw [text, ← hback, ← String.toList_append, String.ofList_toList]
      · rw [Mark.offset, String.ofList_toList, hsize]

/-! ## The picture of a mark -/

/-- How many characters stand in front of the mark in its line. -/
def column (m : Mark) : Nat :=
  m.head.length

/-- How many spaces the line of the mark begins with. -/
def spaces (m : Mark) : Nat :=
  (m.line.takeWhile (· = ' ')).length

/-- A bar with as much space in front of it as the number of the line takes. -/
def bar (m : Mark) : String :=
  copies ((toString m.number).length + 1) ' ' ++ "|"

/-- The number of the line and the line, without the spaces in front and the blanks
at the end. -/
def code (m : Mark) : String :=
  toString m.number ++ " | " ++ String.ofList (trimEnd (m.line.drop m.spaces))

/-- The caret, with a dash for each character in front of the mark. The spaces that
the line has lost get none. -/
def caret (m : Mark) : String :=
  m.bar ++ " " ++ copies (m.column - m.spaces) '-' ++ "^"

theorem indent_line (m : Mark) : indent (m.line ++ m.ending) = m.spaces := by
  rw [indent, spaces]
  rcases m.ending_cases with ⟨hending, -⟩ | hending
  · rw [hending, List.append_nil]
  · rw [hending, List.takeWhile_append]
    split
    · rename_i hall
      simp [hall]
    · rfl

theorem shown_line (m : Mark) :
    shown (m.line ++ m.ending) = trimEnd (m.line.drop m.spaces) := by
  have hblank : ∀ c ∈ m.ending, isBlank c = true := by
    intro c hc
    rcases m.ending_cases with ⟨hending, -⟩ | hending
    · rw [hending] at hc
      cases hc
    · rw [hending, List.mem_singleton] at hc
      rw [hc]
      rfl
  have hspaces : m.spaces ≤ m.line.length := (List.takeWhile_prefix _).length_le
  rw [shown, indent_line, List.drop_append_of_le_length hspaces, trimEnd_append hblank]

theorem column_line (m : Mark) : Gradual.column (m.line ++ m.ending) (byteLength m.head) =
    m.column := by
  obtain ⟨rest, hline⟩ := m.exists_line_append_ending
  rw [Gradual.column, hline, charsWithin_append]
  rfl

/-- A diagnostic at a mark is drawn as the picture of the mark. -/
theorem render_eq {m : Mark} {d : Diagnostic} (hoffset : d.position.offset = m.offset)
    (file : String) :
    d.render file m.text = .ok (d.cause.heading ++ "\n" ++ "-> " ++ file ++ "\n" ++ m.bar ++ "\n"
      ++ m.code ++ "\n" ++ m.caret) := by
  have hrender : d.render file m.text = .ok (d.cause.draw file
      ⟨m.number, String.ofList (m.line ++ m.ending), byteLength m.head⟩) := by
    rw [Diagnostic.render, hoffset, m.locate_eq]
    rfl
  rw [hrender, Cause.draw]
  simp only [String.toList_ofList, shown_line, indent_line, column_line, bar, code, caret,
    String.append_assoc]

/-! ## What stands in the picture -/

theorem toList_bar (m : Mark) :
    m.bar.toList = List.replicate ((toString m.number).length + 1) ' ' ++ ['|'] := by
  rw [bar, copies, String.toList_append, String.toList_ofList]
  rfl

theorem toList_code (m : Mark) :
    m.code.toList =
      (toString m.number).toList ++ ' ' :: '|' :: ' ' :: trimEnd (m.line.drop m.spaces) := by
  simp [code, -Nat.toString_eq_repr]

theorem toList_caret (m : Mark) :
    m.caret.toList =
      m.bar.toList ++ ' ' :: (List.replicate (m.column - m.spaces) '-' ++ ['^']) := by
  simp [caret, copies]

theorem newline_notMem_shown (m : Mark) : '\n' ∉ trimEnd (m.line.drop m.spaces) := by
  intro h
  obtain ⟨after, -, hsplit⟩ := exists_trimEnd_append (m.line.drop m.spaces)
  have hdrop : '\n' ∈ m.line.drop m.spaces := by
    rw [hsplit]
    exact List.mem_append_left after h
  exact m.newline_notMem_line (List.mem_of_mem_drop hdrop)

/-- Each of the three is one line. -/
theorem newline_notMem_picture (m : Mark) : ∀ l ∈ [m.bar, m.code, m.caret], '\n' ∉ l.toList := by
  have hbar : '\n' ∉ m.bar.toList := by simp [toList_bar]
  have hcode : '\n' ∉ m.code.toList := by
    simp [toList_code, newline_notMem_toString, newline_notMem_shown, -Nat.toString_eq_repr]
  have hcaret : '\n' ∉ m.caret.toList := by simp [toList_caret, hbar]
  simpa using ⟨hbar, hcode, hcaret⟩

/-- The bars of the three stand in one column. -/
theorem bar_column (m : Mark) : ∀ l ∈ [m.bar, m.code, m.caret],
    l.toList[(toString m.number).length + 1]? = some '|' := by
  have hbar : m.bar.toList[(toString m.number).length + 1]? = some '|' := by
    rw [toList_bar, List.getElem?_append_right (by simp)]
    simp
  have hcode : m.code.toList[(toString m.number).length + 1]? = some '|' := by
    have hlength : (toString m.number).toList.length = (toString m.number).length :=
      String.length_toList
    rw [toList_code, List.getElem?_append_right (by omega), hlength, Nat.add_sub_cancel_left]
    rfl
  have hcaret : m.caret.toList[(toString m.number).length + 1]? = some '|' := by
    rw [toList_caret, List.getElem?_append_left (by simp [toList_bar]), hbar]
  simpa using ⟨hbar, hcode, hcaret⟩

/-- A mark on a character of the line is met as far behind the beginning of the line as
its column says. -/
theorem getElem?_line {m : Mark} (h : m.line.drop m.column ≠ []) :
    m.line[m.column]? = some m.char := by
  have hdrop : m.line.drop m.column = (m.char :: m.behind).takeWhile (· ≠ '\n') := by
    rw [line, column, List.drop_left]
  have hchar : m.char ≠ '\n' := by
    intro hnewline
    rw [hdrop] at h
    exact h (by simp [hnewline])
  rw [← List.head?_drop, hdrop]
  simp [hchar]

/-- The caret stands under the marked character, if the line still has it. -/
theorem getElem?_code {m : Mark} (hspaces : m.spaces ≤ m.column)
    (hshown : ∃ c ∈ m.line.drop m.column, isBlank c = false) :
    m.code.toList[m.caret.length - 1]? = some m.char := by
  obtain ⟨after, hafter, hsplit⟩ := exists_trimEnd_append (m.line.drop m.spaces)
  obtain ⟨c, hc, hblank⟩ := hshown
  have hdrop : m.line.drop m.column =
      (trimEnd (m.line.drop m.spaces) ++ after).drop (m.column - m.spaces) := by
    rw [← hsplit, List.drop_drop, Nat.add_sub_of_le hspaces]
  have hlt : m.column - m.spaces < (trimEnd (m.line.drop m.spaces)).length := by
    refine Nat.lt_of_not_le fun hge => ?_
    rw [hdrop, List.drop_append, List.drop_eq_nil_of_le hge, List.nil_append] at hc
    rw [hafter c (List.mem_of_mem_drop hc)] at hblank
    cases hblank
  have hkept : (trimEnd (m.line.drop m.spaces) ++ after)[m.column - m.spaces]? =
      (trimEnd (m.line.drop m.spaces))[m.column - m.spaces]? := List.getElem?_append_left hlt
  have hchar : (trimEnd (m.line.drop m.spaces))[m.column - m.spaces]? = some m.char := by
    rw [← hkept, ← hsplit, List.getElem?_drop, Nat.add_sub_of_le hspaces]
    exact getElem?_line (List.ne_nil_of_mem hc)
  have hlength : m.caret.length - 1 =
      (toString m.number).toList.length + (m.column - m.spaces + 1 + 1 + 1) := by
    rw [← String.length_toList, toList_caret, toList_bar, String.length_toList]
    simp only [List.length_append, List.length_cons, List.length_nil, List.length_replicate]
    omega
  rw [hlength, toList_code, List.getElem?_append_right (Nat.le_add_right _ _),
    Nat.add_sub_cancel_left, List.getElem?_cons_succ, List.getElem?_cons_succ,
    List.getElem?_cons_succ, hchar]

end Mark

end Text

/-- **The caret stands under the reported character.** A diagnostic at the beginning of
a character of the source is drawn, and its drawing ends with three lines: a bar; the
number of the line that the character is in and this line, without the spaces in front
and the blanks at the end; and a bar, a dash for each character in front of the reported
one except for these spaces, and the caret, with nothing behind it. The bars of the three
stand in one column, whatever the width of the number. If the character is neither one of
the spaces nor one of the blanks that the line has lost, it stands right above the caret. -/
theorem caret_stands_under_character (d : Diagnostic) (file source : String)
    (hboundary : (⟨d.position.offset⟩ : String.Pos.Raw).IsValid source)
    (hlt : d.position.offset < source.utf8ByteSize) :
    ∃ m : Text.Mark,
      (∀ m' : Text.Mark, m'.text = source ∧ m'.offset = d.position.offset ↔ m' = m) ∧
      (∃ front, d.render file source =
        .ok (front ++ "\n" ++ m.bar ++ "\n" ++ m.code ++ "\n" ++ m.caret)) ∧
      (∀ l ∈ [m.bar, m.code, m.caret], '\n' ∉ l.toList) ∧
      (∀ l ∈ [m.bar, m.code, m.caret],
        l.toList[(toString m.number).length + 1]? = some '|') ∧
      (m.spaces ≤ m.column → (∃ c ∈ m.line.drop m.column, Text.isBlank c = false) →
        m.code.toList[m.caret.length - 1]? = some m.char) := by
  obtain ⟨m, rfl, hoffset⟩ := Text.Mark.exists_of_isValid hboundary hlt
  refine ⟨m, ?_, ⟨_, Text.Mark.render_eq hoffset.symm file⟩, m.newline_notMem_picture,
    m.bar_column, Text.Mark.getElem?_code⟩
  intro m'
  constructor
  · rintro ⟨htext, hoffset'⟩
    exact Text.Mark.eq_of_offset_eq htext (hoffset'.trans hoffset.symm)
  · rintro rfl
    exact ⟨rfl, hoffset⟩

/-- A character behind others that take several bytes, in an indented line with blanks at
its end. -/
theorem caret_stands_under_character_accents :
    let source := "a;\n  é\tö = x; \r\n"
    let d : Diagnostic := ⟨.notWritable, ⟨8, "main"⟩⟩
    let m : Text.Mark := ⟨"a;\n  é\t".toList, 'ö', " = x; \r\n".toList⟩
    (⟨8⟩ : String.Pos.Raw).IsValid source ∧ 8 < source.utf8ByteSize ∧
    (∃ front, d.render "main" source =
      .ok (front ++ "\n" ++ "  |" ++ "\n" ++ "2 | é\tö = x;" ++ "\n" ++ "  | --^")) ∧
    m.spaces ≤ m.column ∧ (∃ c ∈ m.line.drop m.column, Text.isBlank c = false) ∧
    "2 | é\tö = x;".toList["  | --^".length - 1]? = some 'ö' := by
  intro source d m
  have hboundary : (⟨8⟩ : String.Pos.Raw).IsValid source :=
    String.Pos.Raw.isValid_iff_exists_append.mpr ⟨"a;\n  é\t", "ö = x; \r\n", by decide, by decide⟩
  have hlt : 8 < source.utf8ByteSize := by decide
  obtain ⟨m', hmark, hrender, -, -, habove⟩ :=
    caret_stands_under_character d "main" source hboundary hlt
  have hm : m = m' := (hmark m).mp ⟨by decide, by decide⟩
  subst hm
  have hbar : m.bar = "  |" := by decide
  have hcode : m.code = "2 | é\tö = x;" := by decide +kernel
  have hcaret : m.caret = "  | --^" := by decide +kernel
  have hspaces : m.spaces ≤ m.column := by decide
  have hshown : ∃ c ∈ m.line.drop m.column, Text.isBlank c = false :=
    ⟨'ö', by decide +kernel, by decide⟩
  have hchar := habove hspaces hshown
  rw [hcode, hcaret] at hchar
  rw [hbar, hcode, hcaret] at hrender
  exact ⟨hboundary, hlt, hrender, hspaces, hshown, hchar⟩

end Gradual
