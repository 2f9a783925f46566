/-!
# Positions

Offsets count the bytes of a source text in its UTF-8 form, and start at zero.
-/

namespace Gradual

structure Position where
  offset : Nat
  file : String
  deriving DecidableEq, Repr, Inhabited

/-- The position of what was never read from a file. -/
def Position.nowhere : Position := ⟨0, "<null>"⟩

structure Span where
  start : Position
  stop : Position
  deriving DecidableEq, Repr, Inhabited

def Span.within (file : String) (start stop : Nat) : Span :=
  ⟨⟨start, file⟩, ⟨stop, file⟩⟩

def Span.nowhere : Span := ⟨.nowhere, .nowhere⟩

end Gradual
