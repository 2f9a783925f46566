import Gradual.Diagnostic.Wording
import Gradual.Text.Blank
import Gradual.Text.Line

/-!
# Diagnostics drawn under their source

The line of a diagnostic is shown without the spaces that indent it and without the blanks at its
end, and the caret under it moves left by as much as the line does.
-/

namespace Gradual

def copies (n : Nat) (c : Char) : String :=
  String.ofList (List.replicate n c)

/-- Blanks other than spaces do not indent. -/
def indent (line : List Char) : Nat :=
  (line.takeWhile (· = ' ')).length

def shown (line : List Char) : List Char :=
  Text.trimEnd (line.drop (indent line))

/-- Inside a character that takes several bytes, bytes are counted instead of characters. -/
def column (line : List Char) (offset : Nat) : Nat :=
  (Text.charsWithin offset line).getD offset

def Cause.heading (c : Cause) : String :=
  match c.tip? with
  | some tip => "Error: " ++ c.name ++ " (" ++ tip ++ ")"
  | none => "Error: " ++ c.name

/-- The bars of the last three lines stand in one column whatever the width of the number. -/
def Cause.draw (c : Cause) (file : String) (place : Text.Place) : String :=
  let number := toString place.number
  let line := place.line.toList
  let margin := copies (number.length + 1) ' ' ++ "|"
  c.heading ++ "\n"
    ++ "-> " ++ file ++ "\n"
    ++ margin ++ "\n"
    ++ number ++ " | " ++ String.ofList (shown line) ++ "\n"
    ++ margin ++ " " ++ copies (column line place.offset - indent line) '-' ++ "^"

def Diagnostic.render (d : Diagnostic) (file source : String) : Except Text.OutOfRange String := do
  let place ← Text.locate source d.position.offset
  return d.cause.draw file place

end Gradual
