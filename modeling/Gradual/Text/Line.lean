/-!
# Lines of a text

A line keeps the newline that ends it, so the lines of a text put together are the text again, and
every byte offset below its length falls in exactly one of them.
-/

namespace Gradual.Text

/-! ## Splitting -/

/-- Puts a character in front of a text already split. A newline ends the line that it stands in. -/
def prependToLines (c : Char) : List (List Char) → List (List Char)
  | [] => [[c]]
  | line :: rest => if c = '\n' then [c] :: line :: rest else (c :: line) :: rest

/-- The lines of a text, each with the newline that ends it. No line is empty. -/
def lines (cs : List Char) : List (List Char) :=
  cs.foldr prependToLines []

@[simp] theorem lines_cons (c : Char) (cs : List Char) :
    lines (c :: cs) = prependToLines c (lines cs) := rfl

theorem flatten_prependToLines (c : Char) (ls : List (List Char)) :
    (prependToLines c ls).flatten = c :: ls.flatten := by
  cases ls with
  | nil => rfl
  | cons line rest => by_cases h : c = '\n' <;> simp [prependToLines, h]

/-- Splitting loses nothing. -/
theorem flatten_lines (cs : List Char) : (lines cs).flatten = cs := by
  induction cs with
  | nil => rfl
  | cons c cs ih => rw [lines_cons, flatten_prependToLines, ih]

/-! ## Measuring in bytes -/

def byteLength (cs : List Char) : Nat :=
  cs.foldr (fun c bytes => c.utf8Size + bytes) 0

@[simp] theorem byteLength_nil : byteLength [] = 0 := rfl

@[simp] theorem byteLength_cons (c : Char) (cs : List Char) :
    byteLength (c :: cs) = c.utf8Size + byteLength cs := rfl

@[simp] theorem byteLength_append (cs ds : List Char) :
    byteLength (cs ++ ds) = byteLength cs + byteLength ds := by
  induction cs with
  | nil => simp
  | cons c cs ih => simp [ih, Nat.add_assoc]

theorem byteLength_ofList (cs : List Char) : byteLength cs = (String.ofList cs).utf8ByteSize := by
  induction cs with
  | nil => simp
  | cons c cs ih =>
      have h : String.ofList (c :: cs) = String.singleton c ++ String.ofList cs := by
        rw [String.singleton_eq_ofList, ← String.ofList_append]
        rfl
      rw [byteLength_cons, ih, h, String.utf8ByteSize_append, String.utf8ByteSize_singleton]

theorem byteLength_toList (s : String) : byteLength s.toList = s.utf8ByteSize := by
  rw [byteLength_ofList, String.ofList_toList]

/-- How many characters the first `bytes` bytes hold, if they end with a whole character. -/
def charsWithin : Nat → List Char → Option Nat
  | 0, _ => some 0
  | _ + 1, [] => none
  | bytes + 1, c :: cs =>
      if c.utf8Size ≤ bytes + 1 then (charsWithin (bytes + 1 - c.utf8Size) cs).map (· + 1) else none

/-! ## Finding the line of an offset -/

/-- Where an offset falls: the number of the line counted from one, the line with its newline, and
the bytes of the line in front of the offset. -/
structure Place where
  number : Nat
  line : String
  offset : Nat
  deriving DecidableEq, Repr

structure OutOfRange where
  offset : Nat
  length : Nat
  deriving DecidableEq, Repr

def OutOfRange.message (e : OutOfRange) : String :=
  "position " ++ toString e.offset ++ " exceeds source length " ++ toString e.length

/-- Walks over lines, the first of which has the given number, until the offset is used up. -/
def placeIn (number offset : Nat) : List (List Char) → Option Place
  | [] => none
  | line :: rest =>
      if offset < byteLength line then some ⟨number, String.ofList line, offset⟩
      else placeIn (number + 1) (offset - byteLength line) rest

def locate (source : String) (offset : Nat) : Except OutOfRange Place :=
  match placeIn 1 offset (lines source.toList) with
  | some place => .ok place
  | none => .error ⟨offset, byteLength source.toList⟩

/-- The walk stops in a line exactly if the offset is not behind the last byte. -/
theorem isSome_placeIn (number offset : Nat) (ls : List (List Char)) :
    (placeIn number offset ls).isSome = true ↔ offset < byteLength ls.flatten := by
  induction ls generalizing number offset with
  | nil => simp [placeIn]
  | cons line rest ih =>
      rw [placeIn, List.flatten_cons, byteLength_append]
      split
      · simp only [Option.isSome_some, true_iff]
        omega
      · rw [ih]
        omega

/-- Every offset below the length of a text has a place in it. -/
theorem exists_locate_eq_ok {source : String} {offset : Nat} (h : offset < source.utf8ByteSize) :
    ∃ place, locate source offset = .ok place := by
  have hbytes : offset < byteLength (lines source.toList).flatten := by
    rw [flatten_lines, byteLength_toList]
    exact h
  obtain ⟨place, hplace⟩ := Option.isSome_iff_exists.mp ((isSome_placeIn 1 offset _).mpr hbytes)
  refine ⟨place, ?_⟩
  rw [locate, hplace]

end Gradual.Text
