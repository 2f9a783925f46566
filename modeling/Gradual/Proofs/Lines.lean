import Gradual.Diagnostic.Render

/-!
# Finding the line of an offset

A text is empty, or a last line that never ends, or a line up to its newline with
a text behind it. Splitting into lines and walking over them follow this shape
(`Text.lines_induct`), and all that is said of them is proved along it.

Where an offset falls is described without any walk (`Text.Place.IsAt`), and the
search gives the one place of which this is true (`Text.locate_eq_ok_iff`).
-/

namespace Gradual

namespace Text

/-! ## The shape of a text -/

theorem lines_induct {motive : List Char → Prop} (nil : motive [])
    (last : ∀ body, body ≠ [] → '\n' ∉ body → motive body)
    (line : ∀ body rest, '\n' ∉ body → motive rest → motive (body ++ '\n' :: rest))
    (cs : List Char) : motive cs := by
  by_cases h : '\n' ∈ cs
  · obtain ⟨body, rest, rfl, hbody⟩ := List.eq_append_cons_of_mem h
    exact line body rest hbody (lines_induct nil last line rest)
  · by_cases hne : cs = []
    · rwa [hne]
    · exact last cs hne h
termination_by cs.length
decreasing_by
  subst_vars
  rw [List.length_append, List.length_cons]
  omega

theorem lines_newline (cs : List Char) : lines ('\n' :: cs) = ['\n'] :: lines cs := by
  rw [lines_cons]
  cases lines cs <;> rfl

theorem lines_append_newline {body : List Char} (h : '\n' ∉ body) (rest : List Char) :
    lines (body ++ '\n' :: rest) = (body ++ ['\n']) :: lines rest := by
  induction body with
  | nil => exact lines_newline rest
  | cons c body ih =>
      obtain ⟨hc, hbody⟩ := not_or.mp (mt List.mem_cons.mpr h)
      rw [List.cons_append, lines_cons, ih hbody, prependToLines, if_neg (Ne.symm hc)]
      rfl

theorem lines_of_notMem {body : List Char} (hne : body ≠ []) (h : '\n' ∉ body) :
    lines body = [body] := by
  induction body with
  | nil => exact absurd rfl hne
  | cons c body ih =>
      obtain ⟨hc, hbody⟩ := not_or.mp (mt List.mem_cons.mpr h)
      by_cases hlast : body = []
      · subst hlast
        rfl
      · rw [lines_cons, ih hlast hbody, prependToLines, if_neg (Ne.symm hc)]

/-! ## A line among its neighbours -/

/-- The last line of the text has ended, or there is none. -/
def Ended (cs : List Char) : Prop :=
  cs = [] ∨ cs.getLast? = some '\n'

theorem ended_append_newline (body rest : List Char) :
    Ended (body ++ '\n' :: rest) ↔ Ended rest := by
  cases rest with
  | nil => simp [Ended]
  | cons c rest => simp [Ended, List.getLast?_cons]

/-- `line` is a line of the text that it stands in between `before` and `after`: it
begins the text or follows a newline, and goes to the next newline or to the end. -/
structure IsLine (before line after : List Char) : Prop where
  begins : Ended before
  newline_last : '\n' ∉ line.dropLast
  ends : after = [] ∨ line.getLast? = some '\n'

/-- A line of which something is left holds a newline as its last character, or is
the last line and holds none. -/
theorem IsLine.cases {before line after : List Char} (h : IsLine before line after)
    (hne : line ≠ []) :
    (∃ body, '\n' ∉ body ∧ line = body ++ ['\n']) ∨ ('\n' ∉ line ∧ after = []) := by
  obtain ⟨body, c, rfl⟩ : ∃ body c, line = body ++ [c] :=
    ⟨line.dropLast, line.getLast hne, (List.dropLast_concat_getLast hne).symm⟩
  have hbody : '\n' ∉ body := by simpa using h.newline_last
  by_cases hc : c = '\n'
  · exact Or.inl ⟨body, hbody, by rw [hc]⟩
  · refine Or.inr ⟨by simp [hbody, Ne.symm hc], h.ends.resolve_right ?_⟩
    simpa using hc

/-- The line that a text begins with is the first one it is split into. -/
theorem IsLine.lines_append {line after : List Char} (h : IsLine [] line after) (hne : line ≠ []) :
    ∃ rest, lines (line ++ after) = line :: rest := by
  rcases h.cases hne with ⟨body, hbody, rfl⟩ | ⟨hline, rfl⟩
  · refine ⟨lines after, ?_⟩
    rw [List.append_assoc, List.singleton_append, lines_append_newline hbody]
  · exact ⟨[], by rw [List.append_nil, lines_of_notMem hne hline]⟩

/-! ## The walk -/

theorem isLine_first {body : List Char} (h : '\n' ∉ body) (rest : List Char) :
    IsLine [] (body ++ ['\n']) rest :=
  ⟨Or.inl rfl, by simpa using h, Or.inr (by simp)⟩

theorem IsLine.behind {before line after : List Char} (h : IsLine before line after)
    (body : List Char) : IsLine (body ++ '\n' :: before) line after :=
  ⟨(ended_append_newline body before).mpr h.begins, h.newline_last, h.ends⟩

/-- Where the walk stops, a line of the text stands, the offset is met inside it, and
its number has gone up by one with each newline in front of it. -/
theorem exists_isLine_of_placeIn {cs : List Char} {number offset : Nat} {place : Place}
    (h : placeIn number offset (lines cs) = some place) :
    ∃ before after, IsLine before place.line.toList after ∧
      cs = before ++ place.line.toList ++ after ∧ byteLength before + place.offset = offset ∧
      place.offset < byteLength place.line.toList ∧
      place.number = number + before.count '\n' := by
  induction cs using lines_induct generalizing number offset with
  | nil => cases h
  | last body hne hbody =>
      rw [lines_of_notMem hne hbody, placeIn] at h
      split at h
      · rename_i hlt
        cases h
        refine ⟨[], [], ⟨Or.inl rfl, ?_, Or.inl rfl⟩, ?_⟩
        · rw [String.toList_ofList]
          exact fun hmem => hbody (List.dropLast_subset body hmem)
        · simpa using hlt
      · cases h
  | line body rest hbody ih =>
      rw [lines_append_newline hbody, placeIn] at h
      split at h
      · rename_i hlt
        cases h
        refine ⟨[], rest, ?_, ?_⟩
        · rw [String.toList_ofList]
          exact isLine_first hbody rest
        · simpa using hlt
      · rename_i hge
        obtain ⟨before, after, hline, rfl, hoffset, hlt, hnumber⟩ := ih h
        refine ⟨body ++ '\n' :: before, after, hline.behind body, by simp, ?_, hlt, ?_⟩
        · rw [byteLength_append, byteLength_cons] at *
          simp only [byteLength_nil] at *
          omega
        · rw [List.count_append, List.count_eq_zero.mpr hbody, List.count_cons_self, hnumber]
          omega

/-- In a text in which a line stands, the walk stops there for each offset in it. -/
theorem IsLine.placeIn_eq {before line after : List Char} (h : IsLine before line after)
    (number : Nat) {offset : Nat} (hlt : offset < byteLength line) :
    placeIn number (byteLength before + offset) (lines (before ++ line ++ after)) =
      some ⟨number + before.count '\n', String.ofList line, offset⟩ := by
  induction before using lines_induct generalizing number with
  | nil =>
      have hne : line ≠ [] := by
        rintro rfl
        exact absurd hlt (Nat.not_lt_zero offset)
      obtain ⟨rest, hlines⟩ := h.lines_append hne
      rw [List.nil_append, hlines, placeIn, byteLength_nil, Nat.zero_add, if_pos hlt]
      rfl
  | last body hne hbody =>
      -- What stands in front of a line ends with a newline.
      have hmem : '\n' ∈ body := List.mem_of_getLast? (h.begins.resolve_left hne)
      exact absurd hmem hbody
  | line body before hbody ih =>
      have hbefore : Ended before := (ended_append_newline body before).mp h.begins
      have hskip : byteLength (body ++ '\n' :: before) + offset =
          byteLength (body ++ ['\n']) + (byteLength before + offset) := by
        simp only [byteLength_append, byteLength_cons, byteLength_nil]
        omega
      have hnumber : number + (body ++ '\n' :: before).count '\n' =
          number + 1 + before.count '\n' := by
        rw [List.count_append, List.count_eq_zero.mpr hbody, List.count_cons_self]
        omega
      have hlines : lines (body ++ '\n' :: before ++ line ++ after) =
          (body ++ ['\n']) :: lines (before ++ line ++ after) := by
        rw [← lines_append_newline hbody]
        simp
      rw [hlines, hskip, hnumber, placeIn, if_neg (by omega), Nat.add_sub_cancel_left]
      exact ih ⟨hbefore, h.newline_last, h.ends⟩ (number + 1)

/-! ## Places -/

/-- The place is the one of an offset in a source, with `before` in front of its line
and `after` behind it. -/
structure Place.IsAt (place : Place) (source : String) (offset : Nat) (before after : String) :
    Prop where
  source_eq : source = before ++ place.line ++ after
  offset_eq : before.utf8ByteSize + place.offset = offset
  offset_lt : place.offset < place.line.utf8ByteSize
  begins : before = "" ∨ before.toList.getLast? = some '\n'
  newline_last : '\n' ∉ place.line.toList.dropLast
  ends : after = "" ∨ place.line.toList.getLast? = some '\n'
  number_eq : place.number = 1 + before.toList.count '\n'

theorem locate_eq_ok_iff {source : String} {offset : Nat} {place : Place} :
    locate source offset = .ok place ↔ ∃ before after, place.IsAt source offset before after := by
  constructor
  · intro h
    have hplace : placeIn 1 offset (lines source.toList) = some place := by
      unfold locate at h
      split at h
      · rename_i hsome
        rw [hsome, Except.ok.inj h]
      · cases h
    obtain ⟨before, after, hline, hsource, hoffset, hlt, hnumber⟩ :=
      exists_isLine_of_placeIn hplace
    refine ⟨String.ofList before, String.ofList after, ?_, ?_, ?_, ?_, hline.newline_last, ?_, ?_⟩
    · rw [← String.toList_inj, hsource]
      simp
    · rwa [← byteLength_ofList]
    · rwa [← byteLength_toList]
    · simpa [Ended] using hline.begins
    · simpa using hline.ends
    · rw [String.toList_ofList, hnumber]
  · rintro ⟨before, after, h⟩
    have hline : IsLine before.toList place.line.toList after.toList := by
      refine ⟨?_, h.newline_last, ?_⟩
      · simpa [Ended] using h.begins
      · simpa using h.ends
    have hlt : place.offset < byteLength place.line.toList := by
      rw [byteLength_toList]
      exact h.offset_lt
    have hplace := hline.placeIn_eq 1 hlt
    have hsource : source.toList = before.toList ++ place.line.toList ++ after.toList := by
      rw [h.source_eq, String.toList_append, String.toList_append]
    rw [byteLength_toList, h.offset_eq, ← hsource, ← h.number_eq, String.ofList_toList] at hplace
    rw [locate, hplace]

theorem isSome_walk_iff (source : String) (offset : Nat) :
    (placeIn 1 offset (lines source.toList)).isSome = true ↔ offset < source.utf8ByteSize := by
  rw [isSome_placeIn, flatten_lines, byteLength_toList]

theorem locate_eq_error_iff {source : String} {offset : Nat} {e : OutOfRange} :
    locate source offset = .error e ↔
      source.utf8ByteSize ≤ offset ∧ e = ⟨offset, source.utf8ByteSize⟩ := by
  have hbytes : byteLength source.toList = source.utf8ByteSize := byteLength_toList source
  have hwalk := isSome_walk_iff source offset
  rw [locate, hbytes]
  cases hplace : placeIn 1 offset (lines source.toList) with
  | some place =>
      have hlt : offset < source.utf8ByteSize := hwalk.mp (by rw [hplace]; rfl)
      constructor
      · intro h
        cases h
      · rintro ⟨hge, -⟩
        exact absurd hlt (Nat.not_lt_of_le hge)
  | none =>
      have hge : source.utf8ByteSize ≤ offset := by
        refine Nat.le_of_not_lt fun hlt => ?_
        have hsome := hwalk.mpr hlt
        rw [hplace] at hsome
        cases hsome
      exact ⟨fun h => ⟨hge, (Except.error.inj h).symm⟩, fun h => congrArg Except.error h.2.symm⟩

end Text

/-! ## Drawings -/

theorem Diagnostic.render_eq_error_iff (d : Diagnostic) (file source : String)
    (e : Text.OutOfRange) :
    d.render file source = .error e ↔ Text.locate source d.position.offset = .error e := by
  unfold render
  cases Text.locate source d.position.offset with
  | ok place => exact ⟨nofun, nofun⟩
  | error e' =>
      exact ⟨fun h => congrArg Except.error (Except.error.inj h),
        fun h => congrArg Except.error (Except.error.inj h)⟩

/-- **Every offset has one place.** An offset that is not below the length of the
source in bytes is refused, with this length, and so is the drawing of a diagnostic
there. Every other offset, inside a character as well, has the one place that
describes how the source is made up around it, and the walk over the lines never runs
past the last one. -/
theorem every_offset_has_one_place (source : String) (offset : Nat) :
    (source.utf8ByteSize ≤ offset →
      Text.locate source offset = .error ⟨offset, source.utf8ByteSize⟩) ∧
    (offset < source.utf8ByteSize → ∃ place before after,
      Text.locate source offset = .ok place ∧ place.IsAt source offset before after) ∧
    (∀ place before after, place.IsAt source offset before after →
      Text.locate source offset = .ok place) ∧
    ((Text.placeIn 1 offset (Text.lines source.toList)).isSome = true ↔
      offset < source.utf8ByteSize) ∧
    ∀ (d : Diagnostic) (file : String), d.position.offset = offset →
      (source.utf8ByteSize ≤ offset →
        d.render file source = .error ⟨offset, source.utf8ByteSize⟩) ∧
      ((∃ e, d.render file source = .error e) ↔ source.utf8ByteSize ≤ offset) := by
  refine ⟨?_, ?_, ?_, Text.isSome_walk_iff source offset, ?_⟩
  · intro hge
    exact Text.locate_eq_error_iff.mpr ⟨hge, rfl⟩
  · intro hlt
    obtain ⟨place, hplace⟩ := Text.exists_locate_eq_ok hlt
    obtain ⟨before, after, hat⟩ := Text.locate_eq_ok_iff.mp hplace
    exact ⟨place, before, after, hplace, hat⟩
  · intro place before after hat
    exact Text.locate_eq_ok_iff.mpr ⟨before, after, hat⟩
  · rintro d file rfl
    have hrender : ∀ e, d.render file source = .error e ↔
        source.utf8ByteSize ≤ d.position.offset ∧
          e = ⟨d.position.offset, source.utf8ByteSize⟩ := fun e =>
      (d.render_eq_error_iff file source e).trans Text.locate_eq_error_iff
    refine ⟨fun hge => (hrender _).mpr ⟨hge, rfl⟩, ?_⟩
    constructor
    · rintro ⟨e, he⟩
      exact ((hrender e).mp he).1
    · intro hge
      exact ⟨_, (hrender _).mpr ⟨hge, rfl⟩⟩

/-- The second byte of a character that takes two, in front of a line without
characters, and an offset one behind the last byte. -/
theorem every_offset_has_one_place_inside :
    let source := "a\né\n\nlast"
    let place : Text.Place := ⟨2, "é\n", 1⟩
    let d : Diagnostic := ⟨.notWritable, ⟨10, "main"⟩⟩
    place.IsAt source 3 "a\n" "\nlast" ∧ Text.locate source 3 = .ok place ∧
    source.utf8ByteSize ≤ 10 ∧ Text.locate source 10 = .error ⟨10, 10⟩ ∧
    d.render "main" source = .error ⟨10, 10⟩ := by
  intro source place d
  have hat : place.IsAt source 3 "a\n" "\nlast" :=
    ⟨by decide, by decide, by decide, by decide, by decide, by decide, by decide⟩
  have hend : source.utf8ByteSize ≤ 10 := by decide
  obtain ⟨-, -, hplace, -, -⟩ := every_offset_has_one_place source 3
  obtain ⟨hbehind, -, -, -, hrender⟩ := every_offset_has_one_place source 10
  obtain ⟨hdrawn, -⟩ := hrender d "main" rfl
  exact ⟨hat, hplace place _ _ hat, hend, hbehind hend, hdrawn hend⟩

end Gradual
